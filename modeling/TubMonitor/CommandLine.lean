import TubMonitor.OsText

/-!
# Command lines

A grammar names the long options and tells which of them take a value.  Arguments are
read from left to right into a state of the grammar's own.  An option that takes a
value waits until the next option appears before the value is looked at, so of two
mistakes the later one may be reported; an unknown argument always is.
-/

namespace TubMonitor
namespace CommandLine

/-!
## Rejections
-/

inductive Cause where
  /-- The value is missing, empty or none of the allowed words. -/
  | invalidValue
  /-- The value cannot be read or is out of range. -/
  | valueValidation
  /-- The value should be a text and is none. -/
  | invalidText
  | unknownArgument
  /-- The argument was given twice. -/
  | argumentConflict
  /-- A value was attached to an option that takes none. -/
  | tooManyValues
  | helpRequest
  | versionRequest
deriving DecidableEq, Repr

structure Rejection where
  cause : Cause
  argument : Option String
deriving DecidableEq, Repr

/-!
## Grammars

`apply` takes an option with its value, empty for an option without one, and refuses
what it cannot take.
-/

structure Grammar (κ σ : Type) where
  named? : String → Option κ
  /-- The options that a single letter stands for; none of them takes a value. -/
  lettered? : Char → Option κ
  takesValue : κ → Bool
  label : κ → String
  isGiven : κ → σ → Bool
  apply : κ → OsText → σ → Except Rejection σ

structure Progress (κ σ : Type) where
  settled : σ
  /-- An option whose value has not been looked at yet. -/
  waiting : Option (κ × Option OsText)
  /-- Options have come to an end. -/
  onlyValues : Bool

variable {κ σ : Type}

def Grammar.reject (g : Grammar κ σ) (cause : Cause) (option : κ) : Rejection :=
  ⟨cause, some (g.label option)⟩

def unknown (argument : String) : Rejection :=
  ⟨.unknownArgument, some argument⟩

def Grammar.admit (g : Grammar κ σ) (option : κ) (value : OsText) (s : σ) :
    Except Rejection σ :=
  if g.isGiven option s then
    .error (g.reject .argumentConflict option)
  else
    g.apply option value s

def Grammar.settle (g : Grammar κ σ) (p : Progress κ σ) : Except Rejection σ :=
  match p.waiting with
  | none => .ok p.settled
  | some (option, none) => .error (g.reject .invalidValue option)
  | some (option, some value) => g.admit option value p.settled

/-!
## One argument
-/

def hyphen : UInt8 := 45

def equalsSign : UInt8 := 61

/-- The name of a long option and the value attached to it. -/
def splitAttached (row : List UInt8) : OsText × Option OsText :=
  match row.dropWhile (· != equalsSign) with
  | _ :: value => (⟨row.takeWhile (· != equalsSign)⟩, some ⟨value⟩)
  | [] => (⟨row⟩, none)

def Grammar.react (g : Grammar κ σ) (p : Progress κ σ) (option : κ) (value : OsText) :
    Except Rejection (Progress κ σ) := do
  let settled ← g.admit option value (← g.settle p)
  .ok { p with settled, waiting := none }

def Grammar.readLong (g : Grammar κ σ) (p : Progress κ σ) (row : List UInt8) :
    Except Rejection (Progress κ σ) :=
  let (name, attached) := splitAttached row
  match name.text?.bind g.named? with
  | none => .error (unknown ("--" ++ name.shown))
  | some option =>
      match g.takesValue option, attached with
      | false, some _ => .error (g.reject .tooManyValues option)
      | false, none => g.react p option ""
      | true, some value => g.react p option value
      | true, none =>
          match g.settle p with
          | .ok settled => .ok { p with settled, waiting := some (option, none) }
          | .error rejection => .error rejection

/-- A letter is named by itself; what is no character, with all that comes after it. -/
def Grammar.readLetters (g : Grammar κ σ) (p : Progress κ σ) :
    List (Option Char) → Except Rejection (Progress κ σ)
  | [] => .ok p
  | none :: rest => .error (unknown ("-" ++ OsText.ofCharacters (none :: rest)))
  | some letter :: rest =>
      match g.lettered? letter with
      | none => .error (unknown (String.ofList ['-', letter]))
      | some option =>
          match g.react p option "" with
          | .ok next => g.readLetters next rest
          | .error rejection => .error rejection

def Grammar.readValue (p : Progress κ σ) (argument : OsText) :
    Except Rejection (Progress κ σ) :=
  match p.onlyValues, p.waiting with
  | false, some (option, none) => .ok { p with waiting := some (option, some argument) }
  | _, _ => .error (unknown argument.shown)

def Grammar.readArgument (g : Grammar κ σ) (p : Progress κ σ) (argument : OsText) :
    Except Rejection (Progress κ σ) :=
  if p.onlyValues then
    Grammar.readValue p argument
  else
    match argument.bytes with
    | first :: second :: row =>
        if first ≠ hyphen then
          Grammar.readValue p argument
        else if second ≠ hyphen then
          g.readLetters p (OsText.characters ⟨second :: row⟩)
        else if row.isEmpty then
          .ok { p with onlyValues := true }
        else
          g.readLong p row
    | _ => Grammar.readValue p argument

/-!
## All arguments
-/

def Grammar.readAll (g : Grammar κ σ) (p : Progress κ σ) :
    List OsText → Except Rejection σ
  | [] => g.settle p
  | argument :: rest =>
      match g.readArgument p argument with
      | .ok next => g.readAll next rest
      | .error rejection => .error rejection

def Grammar.read (g : Grammar κ σ) (start : σ) (arguments : List OsText) :
    Except Rejection σ :=
  g.readAll ⟨start, none, false⟩ arguments

end CommandLine
end TubMonitor
