import TubMonitor.FileTree.Access

/-!
# The trail of a walk

A walk that comes to an end is told by its steps.  It looks at directories and links only, so
where those are kept and no link is added it comes to the same end again, whatever has become
of the files.
-/

namespace TubMonitor
namespace FileTree

/-- A name that leads to an entry of its directory. -/
def Proper (name : OsText) : Prop :=
  isFiller name = false ∧ name ≠ ".." ∧ name.size ≤ nameLimit

def NotLink (t : FileTree) (place : Place) : Prop :=
  forall target, t.node? place ≠ some (.link target)

theorem notLink_of_isDirectory {t : FileTree} {place : Place}
    (h : t.isDirectory place = true) : t.NotLink place := by
  intro target hLink
  simp [isDirectory, hLink, Node.isDirectory] at h

theorem notLink_of_none {t : FileTree} {place : Place} (h : t.node? place = none) :
    t.NotLink place := by
  intro target hLink
  rw [h] at hLink
  cases hLink

/-- Where the target of a link is looked for. -/
def base (place : Place) (target : OsText) : Place :=
  if isAbsolute target then [] else place

/-- The steps of a walk that has some links left to spend. -/
inductive Trail (t : FileTree) (followLast : Bool) :
    Nat -> Place -> List OsText -> Place -> Prop where
  | done {links : Nat} {place : Place} : Trail t followLast links place [] place
  | stay {links : Nat} {place found : Place} {name : OsText} {rest : List OsText}
      (hDirectory : t.isDirectory place = true) (hFiller : isFiller name = true)
      (hRest : Trail t followLast links place rest found) :
      Trail t followLast links place (name :: rest) found
  | up {links : Nat} {place found : Place} {rest : List OsText}
      (hDirectory : t.isDirectory place = true)
      (hRest : Trail t followLast links place.tail rest found) :
      Trail t followLast links place (".." :: rest) found
  | free {links : Nat} {place : Place} {name : OsText}
      (hDirectory : t.isDirectory place = true) (hName : Proper name)
      (hNone : t.node? (name :: place) = none) :
      Trail t followLast links place [name] (name :: place)
  | stop {links : Nat} {place : Place} {name target : OsText}
      (hDirectory : t.isDirectory place = true) (hName : Proper name)
      (hLink : t.node? (name :: place) = some (.link target)) (hLast : followLast = false) :
      Trail t followLast links place [name] (name :: place)
  | follow {links : Nat} {place found : Place} {name target : OsText} {rest : List OsText}
      (hDirectory : t.isDirectory place = true) (hName : Proper name)
      (hLink : t.node? (name :: place) = some (.link target))
      (hLast : rest = [] -> followLast = true)
      (hRest : Trail t followLast links (base place target) (components target ++ rest) found) :
      Trail t followLast (links + 1) place (name :: rest) found
  | enter {links : Nat} {place found : Place} {name : OsText} {rest : List OsText} {node : Node}
      (hDirectory : t.isDirectory place = true) (hName : Proper name)
      (hNode : t.node? (name :: place) = some node) (hNotLink : t.NotLink (name :: place))
      (hRest : Trail t followLast links (name :: place) rest found) :
      Trail t followLast links place (name :: rest) found

/-!
## Trails and walks
-/

theorem trail_of_walkNames {t : FileTree} {followLast : Bool} {links : Nat}
    {follow : Place -> List OsText -> Except OsError Place} {found : Place}
    (hFollow : forall place names, follow place names = .ok found ->
      exists fewer, links = fewer + 1 ∧ Trail t followLast fewer place names found)
    {place : Place} {names : List OsText}
    (h : walkNames t followLast follow place names = .ok found) :
    Trail t followLast links place names found := by
  induction names generalizing place with
  | nil =>
      cases h
      exact .done
  | cons name rest ih =>
      simp only [walkNames] at h
      split at h
      · cases h
      · next hDirectory =>
          simp only [Bool.not_eq_true', Bool.not_eq_false] at hDirectory
          split at h
          · next hFiller => exact .stay hDirectory hFiller (ih h)
          · next hFiller =>
              split at h
              · next hUp =>
                  subst hUp
                  exact .up hDirectory (ih h)
              · next hUp =>
                  split at h
                  · cases h
                  · next hShort =>
                      have hName : Proper name :=
                        ⟨by simpa using hFiller, hUp, Nat.le_of_not_lt hShort⟩
                      split at h
                      · next hNone =>
                          cases h
                          exact .free hDirectory hName hNone
                      · cases h
                      · next target hLink =>
                          split at h
                          · next hLast =>
                              rcases hFollow _ _ h with ⟨fewer, rfl, hRest⟩
                              refine .follow hDirectory hName hLink (fun _ => hLast) ?_
                              rw [List.append_nil]
                              exact hRest
                          · next hLast =>
                              cases h
                              exact .stop hDirectory hName hLink (by simpa using hLast)
                      · next target hLink =>
                          rcases hFollow _ _ h with ⟨fewer, rfl, hRest⟩
                          exact .follow hDirectory hName hLink (fun hEmpty => by cases hEmpty) hRest
                      · next others _ _ node hNode hEnd hOn =>
                          refine .enter hDirectory hName hNode ?_ (ih h)
                          intro target hLink
                          have hSame : node = .link target := by
                            rw [hNode] at hLink
                            exact Option.some.inj hLink
                          cases others with
                          | nil => exact hEnd target rfl hSame
                          | cons next others => exact hOn target next others rfl hSame

theorem trail_of_walk {t : FileTree} {followLast : Bool} {links : Nat} {place found : Place}
    {names : List OsText} (h : t.walk followLast links place names = .ok found) :
    Trail t followLast links place names found := by
  induction links generalizing place names with
  | zero => exact trail_of_walkNames (fun _ _ hFollow => by cases hFollow) h
  | succ links ih => exact trail_of_walkNames (fun _ _ hFollow => ⟨links, rfl, ih hFollow⟩) h

theorem walk_eq (t : FileTree) (followLast : Bool) (links : Nat) :
    exists follow, t.walk followLast links = walkNames t followLast follow ∧
      forall fewer, links = fewer + 1 -> follow = t.walk followLast fewer := by
  cases links with
  | zero => exact ⟨_, rfl, fun _ hSucc => by cases hSucc⟩
  | succ links => exact ⟨_, rfl, fun _ hSucc => by rw [Nat.succ.inj hSucc]⟩

theorem walk_of_trail {t : FileTree} {followLast : Bool} {links : Nat} {place found : Place}
    {names : List OsText} (h : Trail t followLast links place names found) :
    t.walk followLast links place names = .ok found := by
  induction h with
  | @done links place =>
      rcases walk_eq t followLast links with ⟨follow, hWalk, _⟩
      rw [hWalk, walkNames]
  | @stay links place found name rest hDirectory hFiller hRest ih =>
      rcases walk_eq t followLast links with ⟨follow, hWalk, _⟩
      rw [hWalk] at ih ⊢
      simp [walkNames, hDirectory, hFiller, ih]
  | @up links place found rest hDirectory hRest ih =>
      rcases walk_eq t followLast links with ⟨follow, hWalk, _⟩
      rw [hWalk] at ih ⊢
      have hFiller : isFiller ".." = false := by decide
      simp [walkNames, hDirectory, hFiller, ih]
  | @free links place name hDirectory hName hNone =>
      rcases walk_eq t followLast links with ⟨follow, hWalk, _⟩
      rw [hWalk]
      simp [walkNames, hDirectory, hName.1, hName.2.1, Nat.not_lt.mpr hName.2.2, hNone]
  | @stop links place name target hDirectory hName hLink hLast =>
      rcases walk_eq t followLast links with ⟨follow, hWalk, _⟩
      rw [hWalk]
      simp [walkNames, hDirectory, hName.1, hName.2.1, Nat.not_lt.mpr hName.2.2, hLink, hLast]
  | @follow links place found name target rest hDirectory hName hLink hLast hRest ih =>
      rcases walk_eq t followLast (links + 1) with ⟨follow, hWalk, hFollow⟩
      rw [hWalk, hFollow links rfl]
      rw [base] at ih
      cases rest with
      | nil =>
          rw [List.append_nil] at ih
          simp only [walkNames, hDirectory, hName.1, hName.2.1, Nat.not_lt.mpr hName.2.2, hLink,
            hLast rfl, if_true, if_false, Bool.not_true, Bool.false_eq_true] at ih ⊢
          exact ih
      | cons next rest =>
          simp [walkNames, hDirectory, hName.1, hName.2.1, Nat.not_lt.mpr hName.2.2, hLink, ih]
  | @enter links place found name rest node hDirectory hName hNode hNotLink hRest ih =>
      rcases walk_eq t followLast links with ⟨follow, hWalk, _⟩
      rw [hWalk] at ih ⊢
      cases node with
      | link target => exact absurd hNode (hNotLink target)
      | directory =>
          simp [walkNames, hDirectory, hName.1, hName.2.1, Nat.not_lt.mpr hName.2.2, hNode, ih]
      | file bytes =>
          simp [walkNames, hDirectory, hName.1, hName.2.1, Nat.not_lt.mpr hName.2.2, hNode, ih]

theorem walk_ok_iff {t : FileTree} {followLast : Bool} {links : Nat} {place found : Place}
    {names : List OsText} :
    t.walk followLast links place names = .ok found ↔ Trail t followLast links place names found :=
  ⟨trail_of_walk, walk_of_trail⟩

end FileTree
end TubMonitor
