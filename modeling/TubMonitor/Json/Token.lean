import TubMonitor.Json.Numeral

/-!
# Tokens of a document

The text falls into punctuation, words, numbers and quoted texts, between which the
four blanks of the format may stand.  A quoted text is read in two steps: first its
pieces, each a character or one escaped 16-bit unit, then the characters that pairs of
units make up.
-/

namespace TubMonitor
namespace Json

inductive Token where
  | openList
  | closeList
  | openFields
  | closeFields
  | colon
  | comma
  | null
  | bool (b : Bool)
  | number (n : Numeral)
  | text (s : Option String)
deriving DecidableEq, Repr

def isSpace (c : Char) : Bool :=
  c == ' ' || c == '\n' || c == '\t' || c == '\r'

/-!
## Quoted texts
-/

inductive Piece where
  | char (c : Char)
  | unit (n : Nat)
deriving DecidableEq, Repr

def hexDigit? (c : Char) : Option Nat :=
  if '0' ≤ c ∧ c ≤ '9' then
    some (c.toNat - '0'.toNat)
  else if 'a' ≤ c ∧ c ≤ 'f' then
    some (c.toNat - 'a'.toNat + 10)
  else if 'A' ≤ c ∧ c ≤ 'F' then
    some (c.toNat - 'A'.toNat + 10)
  else
    none

def unit? (a b c d : Char) : Option Nat := do
  let a ← hexDigit? a
  let b ← hexDigit? b
  let c ← hexDigit? c
  let d ← hexDigit? d
  some (4096 * a + 256 * b + 16 * c + d)

def escaped? : Char → Option Char
  | '"' => some '"'
  | '\\' => some '\\'
  | '/' => some '/'
  | 'b' => some '\x08'
  | 'f' => some '\x0c'
  | 'n' => some '\n'
  | 'r' => some '\r'
  | 't' => some '\t'
  | _ => none

/-- The pieces up to the closing quote, and what follows it; no control character may stand bare. -/
def pieces? : List Char → Option (List Piece × List Char)
  | [] => none
  | '"' :: rest => some ([], rest)
  | '\\' :: 'u' :: a :: b :: c :: d :: rest => do
      let n ← unit? a b c d
      let (pieces, rest) ← pieces? rest
      some (.unit n :: pieces, rest)
  | '\\' :: mark :: rest => do
      let c ← escaped? mark
      let (pieces, rest) ← pieces? rest
      some (.char c :: pieces, rest)
  | c :: rest =>
      if c.toNat < 0x20 ∨ c = '\\' then
        none
      else do
        let (pieces, rest) ← pieces? rest
        some (.char c :: pieces, rest)

def isHighHalf (n : Nat) : Bool :=
  0xd800 ≤ n && n < 0xdc00

def isLowHalf (n : Nat) : Bool :=
  0xdc00 ≤ n && n < 0xe000

/-- Joins pairs of halves; none where a half has no partner. -/
def assemble? : List Piece → Option (List Char)
  | [] => some []
  | .char c :: rest => (assemble? rest).map (c :: ·)
  | .unit high :: .unit low :: rest =>
      if isHighHalf high then
        if isLowHalf low then
          let code := 0x10000 + 0x400 * (high - 0xd800) + (low - 0xdc00)
          (assemble? rest).map (Char.ofNat code :: ·)
        else
          none
      else if isLowHalf high then
        none
      else
        (assemble? (.unit low :: rest)).map (Char.ofNat high :: ·)
  | .unit n :: rest =>
      if isHighHalf n ∨ isLowHalf n then none else (assemble? rest).map (Char.ofNat n :: ·)

theorem pieces?_length {row rest : List Char} {pieces : List Piece}
    (h : pieces? row = some (pieces, rest)) : rest.length < row.length := by
  fun_induction pieces? row generalizing pieces rest with
  | case1 => simp at h
  | case2 tail =>
      simp at h
      simp [h.2]
  | case3 a b c d tail ih =>
      simp only [Option.bind_eq_bind, Option.bind_eq_some_iff, Prod.exists] at h
      obtain ⟨n, _, ps, r, hr, hs⟩ := h
      simp at hs
      have := ih hr
      simp only [List.length_cons, ← hs.2]
      omega
  | case4 mark tail _ ih =>
      simp only [Option.bind_eq_bind, Option.bind_eq_some_iff, Prod.exists] at h
      obtain ⟨c, _, ps, r, hr, hs⟩ := h
      simp at hs
      have := ih hr
      simp only [List.length_cons, ← hs.2]
      omega
  | case5 => simp at h
  | case6 c tail _ _ _ _ ih =>
      simp only [Option.bind_eq_bind, Option.bind_eq_some_iff, Prod.exists] at h
      obtain ⟨ps, r, hr, hs⟩ := h
      simp at hs
      have := ih hr
      simp only [List.length_cons, ← hs.2]
      omega

/-!
## All tokens
-/

def punctuation? : Char → Option Token
  | '[' => some .openList
  | ']' => some .closeList
  | '\x7b' => some .openFields
  | '\x7d' => some .closeFields
  | ':' => some .colon
  | ',' => some .comma
  | _ => none

def word? : List Char → Option (Token × List Char)
  | 'n' :: 'u' :: 'l' :: 'l' :: rest => some (.null, rest)
  | 't' :: 'r' :: 'u' :: 'e' :: rest => some (.bool true, rest)
  | 'f' :: 'a' :: 'l' :: 's' :: 'e' :: rest => some (.bool false, rest)
  | _ => none

theorem word?_length {row rest : List Char} {t : Token} (h : word? row = some (t, rest)) :
    rest.length < row.length := by
  unfold word? at h
  split at h
  · simp at h
    simp only [List.length_cons, h.2]
    omega
  · simp at h
    simp only [List.length_cons, h.2]
    omega
  · simp at h
    simp only [List.length_cons, h.2]
    omega
  · simp at h

def token? : List Char → Option (Token × List Char)
  | [] => none
  | '"' :: rest => do
      let (pieces, rest) ← pieces? rest
      some (.text ((assemble? pieces).map String.ofList), rest)
  | c :: rest =>
      match punctuation? c with
      | some t => some (t, rest)
      | none =>
          match word? (c :: rest) with
          | some (t, rest) => some (t, rest)
          | none => (numeral? (c :: rest)).map fun (n, rest) => (.number n, rest)

theorem token?_length {row rest : List Char} {t : Token} (h : token? row = some (t, rest)) :
    rest.length < row.length := by
  unfold token? at h
  split at h
  · simp at h
  · simp only [Option.bind_eq_bind, Option.bind_eq_some_iff, Prod.exists] at h
    obtain ⟨ps, r, hr, hs⟩ := h
    simp at hs
    have := pieces?_length hr
    simp only [List.length_cons, ← hs.2]
    omega
  · split at h
    · simp at h
      simp [h.2]
    · split at h
      · rename_i hw
        simp at h
        rw [← h.2]
        exact word?_length hw
      · simp only [Option.map_eq_some_iff, Prod.exists] at h
        obtain ⟨n, r, hr, hs⟩ := h
        simp at hs
        rw [← hs.2]
        exact numeral?_length hr

def tokens? (row : List Char) : Option (List Token) :=
  match row with
  | [] => some []
  | c :: rest =>
      if isSpace c then
        tokens? rest
      else
        match _h : token? (c :: rest) with
        | none => none
        | some (t, rest) => (tokens? rest).map (t :: ·)
termination_by row.length
decreasing_by
  · simp
  · exact token?_length ‹_›

end Json
end TubMonitor
