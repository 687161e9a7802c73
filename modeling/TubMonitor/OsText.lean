/-!
# Texts of the operating system

Arguments, paths and names of files are rows of bytes.  Nearly all of them are texts in
UTF-8, but nothing makes sure of that.
-/

namespace TubMonitor

structure OsText where
  bytes : List UInt8
deriving DecidableEq, Repr

namespace OsText

def ofString (text : String) : OsText :=
  ⟨text.toByteArray.data.toList⟩

instance : Coe String OsText := ⟨ofString⟩

def text? (p : OsText) : Option String :=
  String.fromUTF8? ⟨p.bytes.toArray⟩

def append (p q : OsText) : OsText :=
  ⟨p.bytes ++ q.bytes⟩

instance : Append OsText := ⟨append⟩

def isEmpty (p : OsText) : Bool :=
  p.bytes.isEmpty

def size (p : OsText) : Nat :=
  p.bytes.length

/-!
## Characters

Bytes that are no text are read as far as they go: each of the longest runs that could have
begun a character, and each byte that begins none, counts as one character that is missing.
-/

/-- A character that some bytes have begun, and the range of the next one. -/
structure Begun where
  value : Nat
  missing : Nat
  low : UInt8
  high : UInt8

/-- What the first byte of several begins.  The range rules out what has a shorter form,
surrogates and what is too large. -/
def begun? (b : UInt8) : Option Begun :=
  if 0xC2 ≤ b ∧ b ≤ 0xDF then some ⟨b.toNat - 0xC0, 1, 0x80, 0xBF⟩
  else if b = 0xE0 then some ⟨0, 2, 0xA0, 0xBF⟩
  else if b = 0xED then some ⟨13, 2, 0x80, 0x9F⟩
  else if 0xE1 ≤ b ∧ b ≤ 0xEF then some ⟨b.toNat - 0xE0, 2, 0x80, 0xBF⟩
  else if b = 0xF0 then some ⟨0, 3, 0x90, 0xBF⟩
  else if 0xF1 ≤ b ∧ b ≤ 0xF3 then some ⟨b.toNat - 0xF0, 3, 0x80, 0xBF⟩
  else if b = 0xF4 then some ⟨4, 3, 0x80, 0x8F⟩
  else none

def opening (b : UInt8) : List (Option Char) × Option Begun :=
  if b < 0x80 then
    ([some (Char.ofNat b.toNat)], none)
  else
    match begun? b with
    | some begun => ([], some begun)
    | none => ([none], none)

def extend (b : UInt8) : Option Begun → List (Option Char) × Option Begun
  | none => opening b
  | some begun =>
      if begun.low ≤ b ∧ b ≤ begun.high then
        let value := 64 * begun.value + b.toNat % 64
        if begun.missing = 1 then
          ([some (Char.ofNat value)], none)
        else
          ([], some ⟨value, begun.missing - 1, 0x80, 0xBF⟩)
      else
        let (found, next) := opening b
        (none :: found, next)

def charactersFrom : Option Begun → List UInt8 → List (Option Char)
  | begun, [] => begun.toList.map fun _ => none
  | begun, b :: rest =>
      let (found, next) := extend b begun
      found ++ charactersFrom next rest

def characters (p : OsText) : List (Option Char) :=
  match p.text? with
  | some text => text.toList.map some
  | none => charactersFrom none p.bytes

def ofCharacters (row : List (Option Char)) : String :=
  String.ofList (row.map fun c => c.getD '\uFFFD')

/-- The text where it is one; otherwise a substitute stands for each missing character. -/
def shown (p : OsText) : String :=
  ofCharacters p.characters

/-!
## Texts
-/

theorem text?_ofString (text : String) : (ofString text).text? = some text :=
  dif_pos text.isValidUTF8

theorem text?_eq_some_iff {p : OsText} {text : String} :
    p.text? = some text ↔ p = ofString text := by
  constructor
  · intro h
    unfold text? String.fromUTF8? at h
    split at h
    · cases h
      rfl
    · cases h
  · rintro rfl
    exact text?_ofString text

theorem ofString_inj {first second : String} :
    ofString first = ofString second ↔ first = second := by
  constructor
  · intro h
    have hText := text?_ofString second
    rw [← h, text?_ofString] at hText
    exact Option.some.inj hText
  · rintro rfl
    rfl

theorem bytes_ofString (text : String) :
    (ofString text).bytes = text.toList.flatMap String.utf8EncodeChar := by
  rw [ofString, ← String.utf8Encode_toList, List.utf8Encode]
  simp

theorem isEmpty_ofString {text : String} : (ofString text).isEmpty = true ↔ text = "" := by
  have hEmpty : ofString "" = ⟨[]⟩ := rfl
  rw [← ofString_inj, hEmpty, isEmpty, List.isEmpty_iff, OsText.mk.injEq]

/-- A byte of ASCII in a text is a character of its own. -/
theorem toNat_of_plain {c : Char} {b : UInt8} (h : b ∈ String.utf8EncodeChar c)
    (hPlain : b.toNat < 128) : c.toNat = b.toNat := by
  have hByte (n : Nat) : b = UInt8.ofNat n ↔ b.toNat = n % 256 := by
    rw [← UInt8.toNat_inj, UInt8.toNat_ofNat']
  show c.val.toNat = b.toNat
  simp only [String.utf8EncodeChar] at h
  split at h
  · simp only [List.mem_singleton, hByte] at h
    omega
  · split at h
    · simp only [List.mem_cons, List.not_mem_nil, or_false, hByte] at h
      omega
    · split at h
      · simp only [List.mem_cons, List.not_mem_nil, or_false, hByte] at h
        omega
      · simp only [List.mem_cons, List.not_mem_nil, or_false, hByte] at h
        omega

theorem mem_of_plain {text : String} {b : UInt8} (h : b ∈ (ofString text).bytes)
    (hPlain : b.toNat < 128) : Char.ofNat b.toNat ∈ text.toList := by
  rw [bytes_ofString, List.mem_flatMap] at h
  rcases h with ⟨c, hMem, hByte⟩
  rw [← toNat_of_plain hByte hPlain, Char.ofNat_toNat]
  exact hMem

end OsText
end TubMonitor
