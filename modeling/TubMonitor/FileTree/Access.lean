import TubMonitor.FileTree.Path

/-!
# Reading and changing files

Each operation follows its path through the tree.  Queries answer a value, changes
the changed tree; what fails answers the error of the system and changes nothing,
unless it says otherwise.
-/

namespace TubMonitor
namespace FileTree

/-!
## Queries
-/

def find (t : FileTree) (path : OsText) : Except OsError Node := do
  match t.node? (← t.resolve path) with
  | some node => .ok node
  | none => .error .notFound

def contains (t : FileTree) (path : OsText) : Bool :=
  (t.find path).toOption.isSome

def readBytes (t : FileTree) (path : OsText) : Except OsError ByteArray := do
  match ← t.find path with
  | .file bytes => .ok bytes
  | .directory => .error .isDirectory
  | .link _ => .error .notFound

def readText (t : FileTree) (path : OsText) : Except OsError String := do
  match String.fromUTF8? (← t.readBytes path) with
  | some text => .ok text
  | none => .error .invalidText

/-- The names in a directory, in the order of their bytes. -/
def list (t : FileTree) (path : OsText) : Except OsError (List OsText) := do
  let place ← t.resolve path
  match t.node? place with
  | some .directory => .ok ((t.entries place).mergeSort fun a b => decide (a.bytes ≤ b.bytes))
  | some _ => .error .notDirectory
  | none => .error .notFound

/-!
## Changes
-/

/-- What stood in the file is replaced; a file that is missing is made. -/
def write (t : FileTree) (path : OsText) (bytes : ByteArray) :
    Except OsError FileTree := do
  let place ← t.resolve path
  if t.isDirectory place then
    .error .isDirectory
  else
    .ok (t.put place (.file bytes))

def writeText (t : FileTree) (path : OsText) (text : String) : Except OsError FileTree :=
  t.write path text.toUTF8

/-- A file that is missing is made; one that is there is left as it is. -/
def touch (t : FileTree) (path : OsText) : Except OsError FileTree := do
  let place ← t.resolve path
  match t.node? place with
  | none => .ok (t.put place (.file ByteArray.empty))
  | some .directory => .error .isDirectory
  | some _ => .ok t

def makeDirectory (t : FileTree) (names : List OsText) : Except OsError FileTree := do
  let place ← t.walk false linkLimit [] (← checked names)
  match t.node? place with
  | some _ => .error .alreadyExists
  | none => .ok (t.put place .directory)

def leadsToDirectory (t : FileTree) (names : List OsText) : Bool :=
  match checked names with
  | .ok names => (t.walk true linkLimit [] names).toOption.any t.isDirectory
  | .error _ => false

/-- A directory that is there already is no failure. -/
def ensureDirectory (t : FileTree) (names : List OsText) : Except OsError FileTree :=
  match t.makeDirectory names with
  | .ok made => .ok made
  | .error fault => if t.leadsToDirectory names then .ok t else .error fault

/--
A directory and those above it, given innermost name first.  The ones above are
looked at only when the directory cannot be made for want of them.  What fails answers
the tree as well, for those above may have been made.
-/
def ensureAbove (t : FileTree) : List OsText → Except (OsError × FileTree) FileTree
  | [] => .ok t
  | name :: above =>
      if isFiller name then
        t.ensureAbove above
      else
        match t.ensureDirectory (name :: above).reverse with
        | .ok made => .ok made
        | .error fault =>
            if fault = .notFound then do
              let built ← t.ensureAbove above
              match built.ensureDirectory (name :: above).reverse with
              | .ok made => .ok made
              | .error other => .error (other, built)
            else
              .error (fault, t)

def ensureDirectories (t : FileTree) (names : List OsText) :
    Except (OsError × FileTree) FileTree :=
  t.ensureAbove names.reverse

/-- A file or a link takes another name, in place of the one that bore it. -/
def moveFile (t : FileTree) (source target : OsText) : Except OsError FileTree := do
  let old ← t.resolveEntry source
  let new ← t.resolveEntry target
  match t.node? old, t.node? new with
  | none, _ => .error .notFound
  | some .directory, _ => .error .isDirectory
  | some _, some .directory => .error .isDirectory
  | some node, _ => .ok ((t.erase old).put new node)

def removeFile (t : FileTree) (path : OsText) : Except OsError FileTree := do
  let place ← t.resolveEntry path
  match t.node? place with
  | none => .error .notFound
  | some .directory => .error .isDirectory
  | some _ => .ok (t.erase place)

/-- A directory goes with all that it holds. -/
def remove (t : FileTree) (path : OsText) : Except OsError FileTree := do
  let place ← t.resolveEntry path
  match t.node? place with
  | none => .error .notFound
  | some .directory => .ok (t.eraseAll place)
  | some _ => .ok (t.erase place)

end FileTree
end TubMonitor
