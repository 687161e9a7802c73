import TubMonitor.Proofs.FileTree.Guides

/-!
# The directory that holds an entry

A walk to a name goes through the directory that holds it, and so does a walk to the directory
itself.
-/

namespace TubMonitor
namespace FileTree

/-!
## The last name of a path
-/

theorem cut_ne_nil (row : List UInt8) : cut row ≠ [] := by
  cases row with
  | nil => simp [cut]
  | cons b rest =>
      rw [cut]
      split
      · simp
      · split <;> simp

theorem cut_plain {row : List UInt8} (h : slash ∉ row) : cut row = [row] := by
  induction row with
  | nil => rfl
  | cons b rest ih =>
      rw [List.mem_cons, not_or] at h
      rw [cut, if_neg (Ne.symm h.1), ih h.2]

theorem cut_append (row rest : List UInt8) :
    cut (row ++ slash :: rest) = cut row ++ cut rest := by
  induction row with
  | nil => simp [cut]
  | cons b row ih =>
      rw [List.cons_append, cut, cut, ih]
      split
      · rfl
      · cases hRow : cut row with
        | nil => exact absurd hRow (cut_ne_nil row)
        | cons name names => rfl

theorem not_isAbsolute {name : OsText} (h : slash ∉ name.bytes) : ¬ isAbsolute name = true := by
  intro hAbsolute
  exact h (List.mem_of_mem_head? (eq_of_beq hAbsolute))

theorem components_append_plain (row : List UInt8) {name : OsText} (h : slash ∉ name.bytes) :
    components ⟨row ++ slash :: name.bytes⟩ = components ⟨row⟩ ++ [name] := by
  simp [components, cut_append, cut_plain h]

/-- A single name comes after the names of a path that ends with a name. -/
theorem components_join {base name : OsText}
    (hBase : ¬ (base.isEmpty ∨ base.bytes.getLast? = some slash)) (h : slash ∉ name.bytes) :
    components (join base name) = components base ++ [name] := by
  rw [join, if_neg (not_isAbsolute h), if_neg hBase]
  have hBytes : base ++ (("/" : String) : OsText) ++ name =
      ⟨base.bytes ++ slash :: name.bytes⟩ := by
    show OsText.mk ((base.bytes ++ [slash]) ++ name.bytes) = _
    rw [List.append_assoc, List.singleton_append]
  rw [hBytes]
  exact components_append_plain base.bytes h

theorem components_beside (base : OsText) :
    exists above, forall name : OsText, slash ∉ name.bytes ->
      components (join base name) = above ++ [name] := by
  by_cases hEnds : base.isEmpty ∨ base.bytes.getLast? = some slash
  · rcases hEnds with hEmpty | hLast
    · have hNothing : base.bytes = [] := by simpa [OsText.isEmpty] using hEmpty
      refine ⟨[], fun name h => ?_⟩
      rw [join, if_neg (not_isAbsolute h), if_pos (Or.inl hEmpty)]
      show components ⟨base.bytes ++ name.bytes⟩ = _
      simp [components, hNothing, cut_plain h]
    · rcases List.getLast?_eq_some_iff.mp hLast with ⟨row, hRow⟩
      refine ⟨components ⟨row⟩, fun name h => ?_⟩
      rw [join, if_neg (not_isAbsolute h), if_pos (Or.inr hLast)]
      show components ⟨base.bytes ++ name.bytes⟩ = _
      rw [hRow, List.append_assoc, List.singleton_append]
      exact components_append_plain row h
  · exact ⟨components base, fun name h => components_join hEnds h⟩

theorem not_ends_join (base : OsText) {name : OsText} (hName : name.bytes ≠ [])
    (h : slash ∉ name.bytes) :
    ¬ ((join base name).isEmpty ∨ (join base name).bytes.getLast? = some slash) := by
  have hEnd : exists front, (join base name).bytes = front ++ name.bytes := by
    unfold join
    rw [if_neg (not_isAbsolute h)]
    split
    · exact ⟨base.bytes, rfl⟩
    · exact ⟨(base ++ (("/" : String) : OsText)).bytes, rfl⟩
  rcases hEnd with ⟨front, hFront⟩
  rintro (hEmpty | hLast)
  · have hNothing : (join base name).bytes = [] := by simpa [OsText.isEmpty] using hEmpty
    rw [hFront] at hNothing
    exact hName (List.append_eq_nil_iff.mp hNothing).2
  · rw [hFront, List.getLast?_append, Option.or_eq_some_iff] at hLast
    rcases hLast with hLast | ⟨hNone, _⟩
    · exact h (List.mem_of_getLast? hLast)
    · exact hName (List.getLast?_eq_none_iff.mp hNone)

/-!
## The way to the directory
-/

/-- On the way to an entry lies the directory that holds it. -/
theorem trail_parent {t : FileTree} {followLast : Bool} {links : Nat} {place found : Place}
    {names above : List OsText} {name : OsText} (hNames : names = above ++ [name])
    (hFiller : isFiller name = false) (hUp : name ≠ "..")
    (h : Trail t followLast links place names found) :
    exists holder, Trail t true links place above holder ∧ t.isDirectory holder = true ∧
      (followLast = false -> found = name :: holder) := by
  induction h generalizing above with
  | done => simp at hNames
  | @stay links place found first rest hDirectory hFirst hRest ih =>
      cases above with
      | nil =>
          cases hNames
          rw [hFiller] at hFirst
          cases hFirst
      | cons other above =>
          rw [List.cons_append, List.cons.injEq] at hNames
          rcases ih hNames.2 with ⟨holder, hTrail, hHolder⟩
          exact ⟨holder, hNames.1 ▸ .stay hDirectory hFirst hTrail, hHolder⟩
  | @up links place found rest hDirectory hRest ih =>
      cases above with
      | nil => exact absurd (List.cons.inj hNames).1.symm hUp
      | cons other above =>
          rw [List.cons_append, List.cons.injEq] at hNames
          rcases ih hNames.2 with ⟨holder, hTrail, hHolder⟩
          exact ⟨holder, hNames.1 ▸ .up hDirectory hTrail, hHolder⟩
  | @free links place first hDirectory hName hNone =>
      cases above with
      | nil =>
          cases hNames
          exact ⟨place, .done, hDirectory, fun _ => rfl⟩
      | cons other above => simp at hNames
  | @stop links place first target hDirectory hName hLink hLast =>
      cases above with
      | nil =>
          cases hNames
          exact ⟨place, .done, hDirectory, fun _ => rfl⟩
      | cons other above => simp at hNames
  | @follow links place found first target rest hDirectory hName hLink hLast hRest ih =>
      cases above with
      | nil =>
          cases hNames
          have hFollows : followLast = true := hLast rfl
          exact ⟨place, .done, hDirectory, fun hNot => by rw [hFollows] at hNot; cases hNot⟩
      | cons other above =>
          rw [List.cons_append, List.cons.injEq] at hNames
          have hBehind : components target ++ rest = (components target ++ above) ++ [name] := by
            rw [hNames.2, List.append_assoc]
          rcases ih hBehind with ⟨holder, hTrail, hHolder⟩
          exact ⟨holder, hNames.1 ▸ .follow hDirectory hName hLink (fun _ => rfl) hTrail, hHolder⟩
  | @enter links place found first rest node hDirectory hName hNode hNotLink hRest ih =>
      cases above with
      | nil =>
          cases hNames
          cases hRest
          exact ⟨place, .done, hDirectory, fun _ => rfl⟩
      | cons other above =>
          rw [List.cons_append, List.cons.injEq] at hNames
          rcases ih hNames.2 with ⟨holder, hTrail, hHolder⟩
          exact ⟨holder, hNames.1 ▸ .enter hDirectory hName hNode hNotLink hTrail, hHolder⟩

theorem checkedComponents_ok {path : OsText} {names : List OsText}
    (h : checkedComponents path = .ok names) :
    names = components path ∧ checked (components path) = .ok (components path) := by
  unfold checkedComponents at h
  split at h
  · cases h
  · cases checked_ok h
    exact ⟨rfl, h⟩

theorem parentNames_eq {path name : OsText} {above : List OsText}
    (hPath : components path = above ++ [name]) (hFiller : isFiller name = false) :
    parentNames path = trimmed above := by
  rw [parentNames, hPath, trimmed_concat above hFiller, List.dropLast_concat]

theorem leadsToDirectory_parent {t : FileTree} {path name : OsText} {above : List OsText}
    {found : Place} (hPath : components path = above ++ [name]) (hFiller : isFiller name = false)
    (hUp : name ≠ "..") (h : t.resolveEntry path = .ok found) :
    t.leadsToDirectory above = true := by
  rcases resolveEntry_ok_iff.mp h with ⟨names, hNames, hTrail⟩
  rcases checkedComponents_ok hNames with ⟨rfl, hChecked⟩
  rcases trail_parent hPath hFiller hUp hTrail with ⟨holder, hAbove, hDirectory, _⟩
  rw [hPath] at hChecked
  exact leadsToDirectory_iff.mpr ⟨checked_front hChecked, holder, hAbove, hDirectory⟩

/-- Where nothing is a link, the last two names of a walk are those of the place it ends at. -/
theorem trail_ends {t : FileTree} {links : Nat} {place found : Place} {above : List OsText}
    {outer inner : OsText} (hLinkless : forall place, t.NotLink place)
    (hOuter : isFiller outer = false ∧ outer ≠ "..")
    (hInner : isFiller inner = false ∧ inner ≠ "..")
    (h : Trail t true links place (above ++ [outer] ++ [inner]) found) :
    exists holder, found = inner :: outer :: holder := by
  have hPlace {names : List OsText} {name : OsText} {found : Place}
      (hName : isFiller name = false ∧ name ≠ "..")
      (h : Trail t true links place (names ++ [name]) found) :
      exists holder, Trail t true links place names holder ∧ found = name :: holder := by
    rcases trail_entry h with ⟨entry, hEntry, hSame⟩
    rcases trail_parent rfl hName.1 hName.2 hEntry with ⟨holder, hHolder, _, hUnder⟩
    exact ⟨holder, hHolder, (hSame (hLinkless entry)).symm.trans (hUnder rfl)⟩
  rcases hPlace hInner h with ⟨between, hBetween, rfl⟩
  rcases hPlace hOuter hBetween with ⟨holder, _, rfl⟩
  exact ⟨holder, rfl⟩

/-- An entry stands under its name in the directory that the other names lead to. -/
theorem resolveEntry_holder {t : FileTree} {path name : OsText} {above : List OsText}
    {found : Place} (hPath : components path = above ++ [name]) (hFiller : isFiller name = false)
    (hUp : name ≠ "..") (h : t.resolveEntry path = .ok found) :
    exists holder, t.walk true linkLimit [] above = .ok holder ∧ found = name :: holder := by
  rcases resolveEntry_ok_iff.mp h with ⟨names, hNames, hTrail⟩
  rw [(checkedComponents_ok hNames).1] at hTrail
  rcases trail_parent hPath hFiller hUp hTrail with ⟨holder, hAbove, _, hFound⟩
  exact ⟨holder, walk_of_trail hAbove, hFound rfl⟩

end FileTree
end TubMonitor
