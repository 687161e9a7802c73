import TubMonitor.Time.StampReader

/-!
# Tables

A row is an id with cells.  The ids that a table gives out grow and are never given
out twice.  A cell holds nothing, a whole number, a double or a text; an instant is
kept as its stamp, and a value that is no number as nothing.
-/

namespace TubMonitor
namespace Store

inductive Cell where
  | null
  | integer (n : Int)
  | real (x : Float)
  | text (s : String)
deriving DecidableEq, Repr

namespace Cell

/-!
## Writing cells
-/

def ofFloat (x : Float) : Cell :=
  if x.isNaN then null else real x

def ofBool (b : Bool) : Cell :=
  integer (if b then 1 else 0)

def ofInstant (t : Time.Instant) : Cell :=
  text t.cellStamp

def ofOption (write : α → Cell) : Option α → Cell
  | none => null
  | some a => write a

/-!
## Reading cells
-/

def instant? : Cell → Option Time.Instant
  | text s => Time.Instant.read? s
  | _ => none

def natural? : Cell → Option Nat
  | integer n => if 0 ≤ n then some n.toNat else none
  | _ => none

def bool? : Cell → Option Bool
  | integer n => some (n != 0)
  | _ => none

def string? : Cell → Option String
  | text s => some s
  | _ => none

def optional? (read : Cell → Option α) : Cell → Option (Option α)
  | null => some none
  | cell => (read cell).map some

end Cell

/-!
## Rows under their ids
-/

structure Table where
  rows : List (Int × List Cell)
  lastId : Int

namespace Table

def empty : Table :=
  ⟨[], 0⟩

def insert (t : Table) (cells : List Cell) : Int × Table :=
  let id := t.lastId + 1
  (id, ⟨t.rows ++ [(id, cells)], id⟩)

def update (t : Table) (id : Int) (change : List Cell → List Cell) : Table :=
  { t with rows := t.rows.map fun row => if row.1 = id then (row.1, change row.2) else row }

def find? (t : Table) (id : Int) : Option (List Cell) :=
  t.rows.lookup id

def later (best : Option (Int × List Cell)) (row : Int × List Cell) :
    Option (Int × List Cell) :=
  match best with
  | none => some row
  | some found => if found.1 < row.1 then some row else some found

def latest? (t : Table) : Option (Int × List Cell) :=
  t.rows.foldl later none

end Table
end Store
end TubMonitor
