import TubMonitor.OsError
import TubMonitor.OsText

/-!
# File trees

A tree is a finite table from places to nodes.  A place lists the names that lead to
it, innermost first, so a directory's entries are the places with one more name in
front of its own.  The top of the tree is the empty place; it is always a directory
and has no row.
-/

namespace TubMonitor
namespace FileTree

abbrev Place := List OsText

inductive Node where
  | directory
  | file (bytes : ByteArray)
  | link (target : OsText)

def Node.isDirectory : Node → Bool
  | .directory => true
  | _ => false

end FileTree

structure FileTree where
  rows : List (FileTree.Place × FileTree.Node)

namespace FileTree

/-!
## Single places
-/

def empty : FileTree :=
  ⟨[]⟩

def node? (t : FileTree) (place : Place) : Option Node :=
  if place = [] then some .directory else t.rows.lookup place

def put (t : FileTree) (place : Place) (node : Node) : FileTree :=
  ⟨(place, node) :: t.rows.filter fun row => row.1 != place⟩

def erase (t : FileTree) (place : Place) : FileTree :=
  ⟨t.rows.filter fun row => row.1 != place⟩

def isDirectory (t : FileTree) (place : Place) : Bool :=
  (t.node? place).any Node.isDirectory

/-!
## Whole directories
-/

def entries (t : FileTree) (place : Place) : List OsText :=
  t.rows.filterMap fun row =>
    match row.1 with
    | name :: above => if above = place then some name else none
    | [] => none

/-- The place itself goes, and all that stands below it. -/
def eraseAll (t : FileTree) (place : Place) : FileTree :=
  ⟨t.rows.filter fun row => !place.isSuffixOf row.1⟩

/-- Directories are made where the way down to a place has none. -/
def withDirectories (t : FileTree) : Place → FileTree
  | [] => t
  | name :: above =>
      let built := t.withDirectories above
      match built.node? (name :: above) with
      | some _ => built
      | none => built.put (name :: above) .directory

/-!
## What a change shows
-/

theorem lookup_filter_ne {rows : List (Place × Node)} {place other : Place}
    (h : other ≠ place) :
    (rows.filter fun row => row.1 != place).lookup other = rows.lookup other := by
  induction rows with
  | nil => rfl
  | cons row rest ih =>
      obtain ⟨here, node⟩ := row
      by_cases hHere : here = place
      · subst hHere
        have hOther : (other == here) = false := by simp [h]
        simp [ih, List.lookup_cons, hOther]
      · simp [hHere, List.lookup_cons, ih]

theorem node?_put_self (t : FileTree) {place : Place} (h : place ≠ []) (node : Node) :
    (t.put place node).node? place = some node := by
  simp [node?, put, h]

theorem node?_put_other (t : FileTree) {place other : Place} (h : other ≠ place)
    (node : Node) : (t.put place node).node? other = t.node? other := by
  unfold node? put
  by_cases hTop : other = []
  · simp [hTop]
  · have hNe : (other == place) = false := by simp [h]
    simp [hTop, List.lookup_cons, hNe, lookup_filter_ne h]

end FileTree
end TubMonitor
