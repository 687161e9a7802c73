import TubMonitor.Proofs.FileTree.Trails

/-!
# Changes that mislead no walk

Where the directories of a tree are kept, and its links with no other, every walk comes to the
end that it came to before.  So it is with files that come and go and with directories that are
made where nothing stood.
-/

namespace TubMonitor
namespace FileTree

/-- The directories of a tree are there in the other, and so are its links and no further ones. -/
structure Guides (t other : FileTree) : Prop where
  directories : forall place, t.isDirectory place = true -> other.isDirectory place = true
  links : forall place target,
    t.node? place = some (.link target) ↔ other.node? place = some (.link target)

theorem guides_self (t : FileTree) : t.Guides t :=
  ⟨fun _ h => h, fun _ _ => Iff.rfl⟩

theorem guides_trans {t between other : FileTree} (hFirst : t.Guides between)
    (hSecond : between.Guides other) : t.Guides other := by
  constructor
  · intro place hDirectory
    exact hSecond.directories place (hFirst.directories place hDirectory)
  · intro place target
    exact (hFirst.links place target).trans (hSecond.links place target)

theorem guides_notLink {t other : FileTree} (h : t.Guides other) {place : Place} :
    t.NotLink place ↔ other.NotLink place :=
  forall_congr' fun target => not_congr (h.links place target)

/-!
## The same walk
-/

theorem trail_guides {t other : FileTree} {followLast : Bool} {links : Nat} {place found : Place}
    {names : List OsText} (hGuides : t.Guides other)
    (h : Trail t followLast links place names found) :
    Trail other followLast links place names found := by
  induction h with
  | done => exact .done
  | stay hDirectory hFiller _ ih => exact .stay (hGuides.directories _ hDirectory) hFiller ih
  | up hDirectory _ ih => exact .up (hGuides.directories _ hDirectory) ih
  | @free links place name hDirectory hName hNone =>
      have hStill := hGuides.directories _ hDirectory
      have hNotLink : other.NotLink (name :: place) :=
        (guides_notLink hGuides).mp (notLink_of_none hNone)
      cases hNode : other.node? (name :: place) with
      | none => exact .free hStill hName hNode
      | some node => exact .enter hStill hName hNode hNotLink .done
  | stop hDirectory hName hLink hLast =>
      exact .stop (hGuides.directories _ hDirectory) hName ((hGuides.links _ _).mp hLink) hLast
  | follow hDirectory hName hLink hLast _ ih =>
      exact .follow (hGuides.directories _ hDirectory) hName ((hGuides.links _ _).mp hLink) hLast ih
  | @enter links place found name rest node hDirectory hName hNode hNotLink hRest ih =>
      have hStill := hGuides.directories _ hDirectory
      have hNoLink := (guides_notLink hGuides).mp hNotLink
      cases hOther : other.node? (name :: place) with
      | some kept => exact .enter hStill hName hOther hNoLink ih
      | none =>
          -- what is gone was a file, and a file is where a walk ends
          cases hRest with
          | done => exact .free hStill hName hOther
          | stay hInside | up hInside | free hInside | stop hInside | follow hInside
          | enter hInside =>
              have hInside := hGuides.directories _ hInside
              simp [isDirectory, hOther] at hInside

theorem resolve_ok_iff {t : FileTree} {path : OsText} {found : Place} :
    t.resolve path = .ok found ↔
      exists names, checkedComponents path = .ok names ∧ Trail t true linkLimit [] names found := by
  unfold resolve
  cases checkedComponents path with
  | error fault => simp [bind, Except.bind]
  | ok names => simp [bind, Except.bind, walk_ok_iff]

theorem resolveEntry_ok_iff {t : FileTree} {path : OsText} {found : Place} :
    t.resolveEntry path = .ok found ↔
      exists names, checkedComponents path = .ok names ∧ Trail t false linkLimit [] names found := by
  unfold resolveEntry
  cases checkedComponents path with
  | error fault => simp [bind, Except.bind]
  | ok names => simp [bind, Except.bind, walk_ok_iff]

theorem resolve_guides {t other : FileTree} {path : OsText} {found : Place}
    (hGuides : t.Guides other) (h : t.resolve path = .ok found) :
    other.resolve path = .ok found := by
  rcases resolve_ok_iff.mp h with ⟨names, hNames, hTrail⟩
  exact resolve_ok_iff.mpr ⟨names, hNames, trail_guides hGuides hTrail⟩

theorem resolveEntry_guides {t other : FileTree} {path : OsText} {found : Place}
    (hGuides : t.Guides other) (h : t.resolveEntry path = .ok found) :
    other.resolveEntry path = .ok found := by
  rcases resolveEntry_ok_iff.mp h with ⟨names, hNames, hTrail⟩
  exact resolveEntry_ok_iff.mpr ⟨names, hNames, trail_guides hGuides hTrail⟩

theorem trail_followed {t : FileTree} {links : Nat} {place found : Place} {names : List OsText}
    (h : Trail t false links place names found) (hNotLink : t.NotLink found) :
    Trail t true links place names found := by
  induction h with
  | done => exact .done
  | stay hDirectory hFiller _ ih => exact .stay hDirectory hFiller (ih hNotLink)
  | up hDirectory _ ih => exact .up hDirectory (ih hNotLink)
  | free hDirectory hName hNone => exact .free hDirectory hName hNone
  | stop _ _ hLink => exact absurd hLink (hNotLink _)
  | follow hDirectory hName hLink _ _ ih =>
      exact .follow hDirectory hName hLink (fun _ => rfl) (ih hNotLink)
  | enter hDirectory hName hNode hOn _ ih =>
      exact .enter hDirectory hName hNode hOn (ih hNotLink)

/-- A walk that follows its last link comes by the entry, and ends there unless that is a link. -/
theorem trail_entry {t : FileTree} {links : Nat} {place found : Place} {names : List OsText}
    (h : Trail t true links place names found) :
    exists entry, Trail t false links place names entry ∧ (t.NotLink entry -> entry = found) := by
  induction h with
  | done => exact ⟨_, .done, fun _ => rfl⟩
  | stay hDirectory hFiller _ ih =>
      rcases ih with ⟨entry, hTrail, hEntry⟩
      exact ⟨entry, .stay hDirectory hFiller hTrail, hEntry⟩
  | up hDirectory _ ih =>
      rcases ih with ⟨entry, hTrail, hEntry⟩
      exact ⟨entry, .up hDirectory hTrail, hEntry⟩
  | free hDirectory hName hNone => exact ⟨_, .free hDirectory hName hNone, fun _ => rfl⟩
  | stop _ _ _ hLast => cases hLast
  | @follow links place found name target rest hDirectory hName hLink _ _ ih =>
      cases rest with
      | nil =>
          exact ⟨_, .stop hDirectory hName hLink rfl, fun hNotLink => absurd hLink (hNotLink _)⟩
      | cons next rest =>
          rcases ih with ⟨entry, hTrail, hEntry⟩
          have hBehind : next :: rest = [] -> false = true := fun hEmpty => by cases hEmpty
          exact ⟨entry, .follow hDirectory hName hLink hBehind hTrail, hEntry⟩
  | enter hDirectory hName hNode hOn _ ih =>
      rcases ih with ⟨entry, hTrail, hEntry⟩
      exact ⟨entry, .enter hDirectory hName hNode hOn hTrail, hEntry⟩

theorem entry_of_resolve {t : FileTree} {path : OsText} {found : Place}
    (h : t.resolve path = .ok found) :
    exists entry, t.resolveEntry path = .ok entry ∧ (t.NotLink entry -> entry = found) := by
  rcases resolve_ok_iff.mp h with ⟨names, hNames, hTrail⟩
  rcases trail_entry hTrail with ⟨entry, hBefore, hEntry⟩
  exact ⟨entry, resolveEntry_ok_iff.mpr ⟨names, hNames, hBefore⟩, hEntry⟩

/-!
## Changes of one place
-/

theorem node?_erase_self (t : FileTree) {place : Place} (h : place ≠ []) :
    (t.erase place).node? place = none := by
  have hNone : (t.rows.filter fun row => row.1 != place).lookup place = none := by
    rw [List.lookup_eq_none_iff]
    intro row hMem
    exact bne_comm.trans (List.mem_filter.mp hMem).2
  simp [node?, erase, h, hNone]

theorem node?_erase_other (t : FileTree) {place other : Place} (h : other ≠ place) :
    (t.erase place).node? other = t.node? other := by
  unfold node? erase
  rw [lookup_filter_ne h]

theorem top_of_not_isDirectory {t : FileTree} {place : Place}
    (h : t.isDirectory place = false) : place ≠ [] := by
  rintro rfl
  cases h

/-- A change of one place that is neither a directory nor a link, and does not become a link. -/
theorem guides_change {t other : FileTree} {here : Place} (hFree : t.isDirectory here = false)
    (hNotLink : t.NotLink here) (hHere : other.NotLink here)
    (hElsewhere : forall place, place ≠ here -> other.node? place = t.node? place) :
    t.Guides other := by
  constructor
  · intro place hDirectory
    have hNe : place ≠ here := by
      rintro rfl
      rw [hFree] at hDirectory
      cases hDirectory
    rw [isDirectory, hElsewhere place hNe]
    exact hDirectory
  · intro place target
    by_cases hSame : place = here
    · subst hSame
      exact ⟨fun h => absurd h (hNotLink target), fun h => absurd h (hHere target)⟩
    · rw [hElsewhere place hSame]

theorem guides_put {t : FileTree} {place : Place} {node : Node}
    (hFree : t.isDirectory place = false) (hNotLink : t.NotLink place)
    (hNode : forall target, node ≠ .link target) : t.Guides (t.put place node) := by
  refine guides_change hFree hNotLink ?_ fun other hOther => node?_put_other t hOther node
  intro target hLink
  rw [node?_put_self t (top_of_not_isDirectory hFree)] at hLink
  exact hNode target (Option.some.inj hLink)

theorem guides_put_file {t : FileTree} {place : Place} (bytes : ByteArray)
    (hFree : t.isDirectory place = false) (hNotLink : t.NotLink place) :
    t.Guides (t.put place (.file bytes)) :=
  guides_put hFree hNotLink fun _ hLink => by cases hLink

theorem guides_erase {t : FileTree} {place : Place} (hFree : t.isDirectory place = false)
    (hNotLink : t.NotLink place) : t.Guides (t.erase place) := by
  have hGone := node?_erase_self t (top_of_not_isDirectory hFree)
  exact guides_change hFree hNotLink (notLink_of_none hGone) fun other hOther =>
    node?_erase_other t hOther

/-!
## Names that pass
-/

theorem checked_ok {names others : List OsText} (h : checked names = .ok others) :
    others = names := by
  unfold checked at h
  split at h
  · cases h
  · split at h
    · cases h
    · exact (Except.ok.inj h).symm

theorem span_append (front back : List OsText) :
    span (front ++ back) = span front + span back := by
  induction front with
  | nil => simp [span]
  | cons name front ih =>
      rw [List.cons_append, span, span, ih]
      omega

theorem checked_front {front back : List OsText}
    (h : checked (front ++ back) = .ok (front ++ back)) : checked front = .ok front := by
  unfold checked at h
  split at h
  · cases h
  · next hPlain =>
      split at h
      · cases h
      · next hShort =>
          rw [List.any_append, Bool.or_eq_true, not_or] at hPlain
          have hSpan := span_append front back
          have hLess : ¬ pathLimit < span front := by omega
          rw [checked, if_neg hPlain.1, if_neg hLess]

theorem trimmed_concat {name : OsText} (front : List OsText) (h : isFiller name = false) :
    trimmed (front ++ [name]) = front ++ [name] := by
  simp [trimmed, h]

/-!
## Directories that are there
-/

theorem leadsToDirectory_iff {t : FileTree} {names : List OsText} :
    t.leadsToDirectory names = true ↔ checked names = .ok names ∧
      exists place, Trail t true linkLimit [] names place ∧ t.isDirectory place = true := by
  unfold leadsToDirectory
  cases hChecked : checked names with
  | error fault => simp
  | ok others =>
      cases checked_ok hChecked
      cases hWalk : t.walk true linkLimit [] names with
      | error fault =>
          have hNot (place : Place) : ¬ Trail t true linkLimit [] names place := by
            intro hTrail
            rw [walk_of_trail hTrail] at hWalk
            cases hWalk
          simp [hWalk, Except.toOption, hNot]
      | ok place =>
          have hPlace : (t.walk true linkLimit [] names).toOption = some place := by rw [hWalk]; rfl
          dsimp only
          rw [hPlace, Option.any_some]
          constructor
          · intro h
            exact ⟨rfl, place, trail_of_walk hWalk, h⟩
          · rintro ⟨_, other, hTrail, hDirectory⟩
            rw [walk_of_trail hTrail] at hWalk
            cases hWalk
            exact hDirectory

theorem leadsToDirectory_guides {t other : FileTree} {names : List OsText}
    (hGuides : t.Guides other) (h : t.leadsToDirectory names = true) :
    other.leadsToDirectory names = true := by
  rcases leadsToDirectory_iff.mp h with ⟨hChecked, place, hTrail, hDirectory⟩
  exact leadsToDirectory_iff.mpr
    ⟨hChecked, place, trail_guides hGuides hTrail, hGuides.directories place hDirectory⟩

theorem makeDirectory_ok {t made : FileTree} {names : List OsText}
    (h : t.makeDirectory names = .ok made) :
    checked names = .ok names ∧ exists place, Trail t true linkLimit [] names place ∧
      t.node? place = none ∧ made = t.put place .directory := by
  unfold makeDirectory at h
  cases hChecked : checked names with
  | error fault => simp [hChecked, bind, Except.bind] at h
  | ok others =>
      cases checked_ok hChecked
      cases hWalk : t.walk false linkLimit [] names with
      | error fault => simp [hChecked, hWalk, bind, Except.bind] at h
      | ok place =>
          cases hNode : t.node? place with
          | some node => simp [hChecked, hWalk, hNode, bind, Except.bind] at h
          | none =>
              simp only [hChecked, hWalk, hNode, bind, Except.bind, Except.ok.injEq] at h
              have hTrail := trail_followed (trail_of_walk hWalk) (notLink_of_none hNode)
              exact ⟨rfl, place, hTrail, hNode, h.symm⟩

/-!
## Directories that are made
-/

/-- Walks are not misled, and where nothing stood there may be a directory on the way that the
names lead. -/
structure Furnishes (names : List OsText) (t other : FileTree) : Prop where
  guides : t.Guides other
  places : forall place, other.node? place = t.node? place ∨
    t.node? place = none ∧ other.node? place = some .directory ∧
      exists front, front <+: names ∧ Trail other true linkLimit [] front place

theorem furnishes_self (names : List OsText) (t : FileTree) : Furnishes names t t :=
  ⟨guides_self t, fun _ => Or.inl rfl⟩

theorem furnishes_trans {names : List OsText} {t between other : FileTree}
    (hFirst : Furnishes names t between) (hSecond : Furnishes names between other) :
    Furnishes names t other := by
  refine ⟨guides_trans hFirst.guides hSecond.guides, fun place => ?_⟩
  rcases hSecond.places place with hSame | ⟨hNone, hDirectory, hWay⟩
  · rw [hSame]
    rcases hFirst.places place with hKept | ⟨hFree, hMade, front, hFront, hTrail⟩
    · exact Or.inl hKept
    · exact Or.inr ⟨hFree, hMade, front, hFront, trail_guides hSecond.guides hTrail⟩
  · rcases hFirst.places place with hKept | ⟨_, hMade, _⟩
    · exact Or.inr ⟨hKept ▸ hNone, hDirectory, hWay⟩
    · rw [hNone] at hMade
      cases hMade

theorem ensureDirectory_ok {t made : FileTree} {front names : List OsText}
    (hFront : front <+: names) (h : t.ensureDirectory front = .ok made) :
    Furnishes names t made ∧ made.leadsToDirectory front = true := by
  unfold ensureDirectory at h
  split at h
  · next built hMade =>
      cases h
      rcases makeDirectory_ok hMade with ⟨hChecked, place, hTrail, hNone, rfl⟩
      have hFree : t.isDirectory place = false := by simp [isDirectory, hNone]
      have hGuides : t.Guides (t.put place .directory) :=
        guides_put hFree (notLink_of_none hNone) fun _ hLink => by cases hLink
      have hNode := node?_put_self t (top_of_not_isDirectory hFree) .directory
      have hThere := trail_guides hGuides hTrail
      have hDirectory : (t.put place .directory).isDirectory place = true := by
        rw [isDirectory, hNode]
        rfl
      refine ⟨⟨hGuides, fun other => ?_⟩,
        leadsToDirectory_iff.mpr ⟨hChecked, place, hThere, hDirectory⟩⟩
      by_cases hOther : other = place
      · subst hOther
        exact Or.inr ⟨hNone, hNode, front, hFront, hThere⟩
      · exact Or.inl (node?_put_other t hOther _)
  · split at h
    · next hLeads =>
        cases h
        exact ⟨furnishes_self names t, hLeads⟩
    · cases h

theorem ensureDirectory_there {t : FileTree} {names : List OsText}
    (h : t.leadsToDirectory names = true) : t.ensureDirectory names = .ok t := by
  unfold ensureDirectory
  split
  · next made hMade =>
      rcases makeDirectory_ok hMade with ⟨_, place, hTrail, hNone, _⟩
      rcases leadsToDirectory_iff.mp h with ⟨_, other, hOther, hDirectory⟩
      have hSame : place = other :=
        Except.ok.inj ((walk_of_trail hTrail).symm.trans (walk_of_trail hOther))
      rw [← hSame, isDirectory, hNone] at hDirectory
      cases hDirectory
  · rw [if_pos h]

/-- The tree that is left, by success or by failure. -/
def outcome : Except (OsError × FileTree) FileTree -> FileTree
  | .ok made => made
  | .error (_, left) => left

theorem ensureAbove_furnishes {t : FileTree} {above names : List OsText}
    (hFront : above.reverse <+: names) : Furnishes names t (outcome (t.ensureAbove above)) := by
  induction above generalizing t with
  | nil => exact furnishes_self names t
  | cons name above ih =>
      have hBefore : above.reverse <+: names := by
        rw [List.reverse_cons] at hFront
        exact (List.prefix_append _ _).trans hFront
      rw [ensureAbove]
      split
      · exact ih hBefore
      · split
        · next made hMade => exact (ensureDirectory_ok hFront hMade).1
        · split
          · have hAbove := ih (t := t) hBefore
            cases hBuilt : t.ensureAbove above with
            | error fault =>
                rw [hBuilt] at hAbove
                exact hAbove
            | ok built =>
                rw [hBuilt] at hAbove
                cases hLast : built.ensureDirectory (name :: above).reverse with
                | error fault =>
                    simp only [hLast, bind, Except.bind]
                    exact hAbove
                | ok made =>
                    simp only [hLast, bind, Except.bind]
                    exact furnishes_trans hAbove (ensureDirectory_ok hFront hLast).1
          · exact furnishes_self names t

theorem ensureAbove_leads {t made : FileTree} {above : List OsText}
    (h : t.ensureAbove above = .ok made) :
    made.leadsToDirectory (above.dropWhile isFiller).reverse = true := by
  induction above generalizing t with
  | nil => exact leadsToDirectory_iff.mpr ⟨rfl, [], .done, rfl⟩
  | cons name above ih =>
      rw [ensureAbove] at h
      split at h
      · next hFiller =>
          rw [List.dropWhile_cons_of_pos hFiller]
          exact ih h
      · next hName =>
          rw [List.dropWhile_cons_of_neg hName]
          have hLeads {before : FileTree}
              (hMade : before.ensureDirectory (name :: above).reverse = .ok made) :=
            (ensureDirectory_ok (List.prefix_refl _) hMade).2
          split at h
          · next built hMade =>
              cases h
              exact hLeads hMade
          · split at h
            · cases hBuilt : t.ensureAbove above with
              | error fault => simp [hBuilt, bind, Except.bind] at h
              | ok built =>
                  cases hLast : built.ensureDirectory (name :: above).reverse with
                  | error fault =>
                      simp only [hBuilt, hLast, bind, Except.bind] at h
                      cases h
                  | ok last =>
                      simp only [hBuilt, hLast, bind, Except.bind, Except.ok.injEq] at h
                      subst h
                      exact hLeads hLast
            · cases h

theorem ensureAbove_there {t : FileTree} {above : List OsText}
    (h : t.leadsToDirectory (above.dropWhile isFiller).reverse = true) :
    t.ensureAbove above = .ok t := by
  induction above with
  | nil => rfl
  | cons name above ih =>
      rw [ensureAbove]
      split
      · next hFiller =>
          rw [List.dropWhile_cons_of_pos hFiller] at h
          exact ih h
      · next hName =>
          rw [List.dropWhile_cons_of_neg hName] at h
          rw [ensureDirectory_there h]

theorem ensureDirectories_leads {t made : FileTree} {names : List OsText}
    (h : t.ensureDirectories names = .ok made) :
    made.leadsToDirectory (trimmed names) = true :=
  ensureAbove_leads h

theorem ensureDirectories_furnishes (t : FileTree) (names : List OsText) :
    Furnishes names t (outcome (t.ensureDirectories names)) := by
  have hAll : names.reverse.reverse <+: names :=
    (List.reverse_reverse names).symm ▸ List.prefix_refl names
  exact ensureAbove_furnishes hAll

theorem ensureDirectories_guides {t made : FileTree} {names : List OsText}
    (h : t.ensureDirectories names = .ok made) : t.Guides made := by
  have hFurnishes := ensureDirectories_furnishes t names
  rw [h] at hFurnishes
  exact hFurnishes.guides

theorem ensureDirectories_there {t : FileTree} {names : List OsText}
    (h : t.leadsToDirectory (trimmed names) = true) : t.ensureDirectories names = .ok t :=
  ensureAbove_there h

theorem ensureDirectories_again {t made other : FileTree} {names : List OsText}
    (h : t.ensureDirectories names = .ok made) (hGuides : made.Guides other) :
    other.ensureDirectories names = .ok other :=
  ensureDirectories_there (leadsToDirectory_guides hGuides (ensureDirectories_leads h))

end FileTree
end TubMonitor
