/-!
# Documents

A document is a JSON value.  Whole numbers that fit 64 bits, signed or unsigned, are
kept apart from the other numbers.  Two kinds of value have a place in a document
although nothing can be made of them: a number beyond the range of doubles, and a
text with half a surrogate pair.  They spoil a document only where they are used.
-/

namespace TubMonitor

inductive Json where
  | null
  | bool (b : Bool)
  | integer (n : Int)
  | real (x : Option Float)
  | text (s : Option String)
  | list (items : List Json)
  | fields (members : List (Option String × Json))

namespace Json

/-!
## Building
-/

def ofString (s : String) : Json :=
  text (some s)

def ofFloat (x : Float) : Json :=
  real (some x)

def ofOption (encode : α → Json) : Option α → Json
  | none => null
  | some a => encode a

def object (members : List (String × Json)) : Json :=
  fields (members.map fun (name, value) => (some name, value))

/-!
## Looking at a value

Each of these answers for one kind of value and refuses all others.
-/

def bool? : Json → Option Bool
  | bool b => some b
  | _ => none

def string? : Json → Option String
  | text s => s
  | _ => none

/-- A whole number from `low` to `high`. -/
def integer? (low high : Int) : Json → Option Int
  | integer n => if low ≤ n ∧ n ≤ high then some n else none
  | _ => none

def natural? (high : Nat) : Json → Option Nat
  | integer n => if 0 ≤ n ∧ n ≤ high then some n.toNat else none
  | _ => none

def float? : Json → Option Float
  | integer n => some (Float.ofInt n)
  | real x => x
  | _ => none

def optional? (decode : Json → Option α) : Json → Option (Option α)
  | null => some none
  | value => (decode value).map some

end Json

end TubMonitor
