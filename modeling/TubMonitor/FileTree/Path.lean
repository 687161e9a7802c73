import TubMonitor.FileTree.Basic

/-!
# Paths

A path is cut at its slashes and followed from the top of the tree, one name at a time.
`.` and the empty name stay where they are, `..` goes up, and a symbolic link is replaced
by its target, at most forty times in one walk.  The place that a walk ends at may be
free; everything before it has to exist and be a directory.
-/

namespace TubMonitor
namespace FileTree

/-!
## Names
-/

def slash : UInt8 := 47

def cut : List UInt8 → List (List UInt8)
  | [] => [[]]
  | b :: rest =>
      if b = slash then
        [] :: cut rest
      else
        match cut rest with
        | [] => [[b]]
        | name :: names => (b :: name) :: names

def components (path : OsText) : List OsText :=
  (cut path.bytes).map OsText.mk

def isAbsolute (path : OsText) : Bool :=
  path.bytes.head? == some slash

/-- A second path continues the first one; an absolute one takes its place. -/
def join (base path : OsText) : OsText :=
  if isAbsolute path then
    path
  else if base.isEmpty ∨ base.bytes.getLast? = some slash then
    base ++ path
  else
    base ++ "/" ++ path

def isFiller (name : OsText) : Bool :=
  name.isEmpty || name == "."

/-- Names that stay where they are do not count at the end of a path. -/
def trimmed (names : List OsText) : List OsText :=
  (names.reverse.dropWhile isFiller).reverse

/-- The names of the directory that holds what the path names. -/
def parentNames (path : OsText) : List OsText :=
  trimmed (trimmed (components path)).dropLast

/-!
## Limits
-/

def nameLimit : Nat := 255

/-- The end of a path counts as a byte of it. -/
def pathLimit : Nat := 4096

def linkLimit : Nat := 40

/-- The bytes of a path that is cut into these names, with the one for its end. -/
def span : List OsText → Nat
  | [] => 0
  | name :: rest => name.size + 1 + span rest

def checked (names : List OsText) : Except OsError (List OsText) :=
  if names.any fun name => name.bytes.contains 0 then
    .error .invalidPath
  else if pathLimit < span names then
    .error .nameTooLong
  else
    .ok names

def checkedComponents (path : OsText) : Except OsError (List OsText) :=
  if path.isEmpty then .error .notFound else checked (components path)

/-!
## Walking

`followLast` tells whether a link at the very end of the path is followed too.
`follow` continues a walk at a link's target; it is the same walk with one link less
to spend.
-/

def walkNames (t : FileTree) (followLast : Bool)
    (follow : Place → List OsText → Except OsError Place) :
    Place → List OsText → Except OsError Place
  | place, [] => .ok place
  | place, name :: rest =>
      if !t.isDirectory place then
        .error .notDirectory
      else if isFiller name then
        walkNames t followLast follow place rest
      else if name = ".." then
        walkNames t followLast follow place.tail rest
      else if nameLimit < name.size then
        .error .nameTooLong
      else
        match t.node? (name :: place), rest with
        | none, [] => .ok (name :: place)
        | none, _ :: _ => .error .notFound
        | some (.link target), [] =>
            if followLast then
              follow (if isAbsolute target then [] else place) (components target)
            else
              .ok (name :: place)
        | some (.link target), _ :: _ =>
            follow (if isAbsolute target then [] else place) (components target ++ rest)
        | some _, _ => walkNames t followLast follow (name :: place) rest

def walk (t : FileTree) (followLast : Bool) :
    Nat → Place → List OsText → Except OsError Place
  | 0 => walkNames t followLast fun _ _ => .error .tooManyLinks
  | links + 1 => walkNames t followLast (t.walk followLast links)

def resolve (t : FileTree) (path : OsText) : Except OsError Place := do
  t.walk true linkLimit [] (← checkedComponents path)

/-- The place of the last name itself, also where a link stands there. -/
def resolveEntry (t : FileTree) (path : OsText) : Except OsError Place := do
  t.walk false linkLimit [] (← checkedComponents path)

end FileTree
end TubMonitor
