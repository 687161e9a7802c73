import TubMonitor.Text.CaseTables

/-!
# Lower case

Each letter is mapped on its own, with two exceptions: the dotted capital I becomes
an i with a combining dot, and a capital sigma that ends a word becomes the final
form of the letter.
-/

namespace TubMonitor
namespace Text

def isCased (c : Char) : Bool :=
  inRanges casedRanges c

def isCaseIgnorable (c : Char) : Bool :=
  inRanges caseIgnorableRanges c

/-- The lower-case form of a letter that does not depend on its neighbours. -/
def lowerChar (c : Char) : Char :=
  if c.toNat < 0x80 then
    c.toLower
  else
    let inRun : Nat × Nat × Nat × Int → Bool := fun (first, last, stride, _) =>
      first ≤ c.toNat && c.toNat ≤ last && (c.toNat - first) % stride == 0
    match lowerRuns.find? inRun with
    | none => c
    | some (_, _, _, shift) => Char.ofNat ((c.toNat : Int) + shift).toNat

/-- Whether the first character that matters for case is a letter. -/
def meetsCased (row : List Char) : Bool :=
  match row.dropWhile isCaseIgnorable with
  | [] => false
  | c :: _ => isCased c

/-- Lower-cases a row; `before` holds the characters already passed, last one first. -/
def lowerFrom (before : List Char) : List Char → List Char
  | [] => []
  | c :: rest =>
      let here :=
        if c = 'Σ' then
          if meetsCased before && !meetsCased rest then ['ς'] else ['σ']
        else if c = 'İ' then
          ['i', '\u0307']
        else
          [lowerChar c]
      here ++ lowerFrom (c :: before) rest

def lower (row : List Char) : List Char :=
  lowerFrom [] row

end Text
end TubMonitor
