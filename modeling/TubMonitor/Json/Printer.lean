import TubMonitor.Json.Value
import TubMonitor.Decimal.Layout

/-!
# Writing documents

A document is written on one line without blanks, or with one item a line, each level
indented by two spaces.  Quotes, backslashes and control characters are escaped, and a
number that is not finite is written as null.
-/

namespace TubMonitor
namespace Json

/-!
## Texts and numbers
-/

def escapeChar (c : Char) : List Char :=
  if c = '"' then
    ['\\', '"']
  else if c = '\\' then
    ['\\', '\\']
  else if c = '\x08' then
    ['\\', 'b']
  else if c = '\x0c' then
    ['\\', 'f']
  else if c = '\n' then
    ['\\', 'n']
  else if c = '\r' then
    ['\\', 'r']
  else if c = '\t' then
    ['\\', 't']
  else if c.toNat < 0x20 then
    ['\\', 'u'] ++ Decimal.padded 4 (Nat.toDigits 16 c.toNat)
  else
    [c]

def textRow (s : String) : List Char :=
  ['"'] ++ s.toList.flatMap escapeChar ++ ['"']

def nullRow : List Char := ['n', 'u', 'l', 'l']

def realRow (x : Float) : List Char :=
  if x.isFinite then Decimal.document.row (Binary64.ofFloat x) else nullRow

def leafRow : Json → List Char
  | bool b => if b then ['t', 'r', 'u', 'e'] else ['f', 'a', 'l', 's', 'e']
  | integer n => Decimal.integerRow n
  | real (some x) => realRow x
  | text (some s) => textRow s
  | _ => nullRow

def nameRow (name : Option String) : List Char :=
  textRow (name.getD "")

/-!
## On one line
-/

mutual

def compactRow : Json → List Char
  | list items => ['['] ++ compactItems items ++ [']']
  | fields members => ['\x7b'] ++ compactMembers members ++ ['\x7d']
  | leaf => leafRow leaf

def compactItems : List Json → List Char
  | [] => []
  | [item] => compactRow item
  | item :: rest => compactRow item ++ [','] ++ compactItems rest

def compactMembers : List (Option String × Json) → List Char
  | [] => []
  | [(name, value)] => nameRow name ++ [':'] ++ compactRow value
  | (name, value) :: rest =>
      nameRow name ++ [':'] ++ compactRow value ++ [','] ++ compactMembers rest

end

def compact (j : Json) : String :=
  String.ofList (compactRow j)

/-!
## On several lines
-/

def newLine (depth : Nat) : List Char :=
  '\n' :: List.replicate (2 * depth) ' '

mutual

def prettyRow (depth : Nat) : Json → List Char
  | list [] => ['[', ']']
  | fields [] => ['\x7b', '\x7d']
  | list items => ['['] ++ prettyItems (depth + 1) items ++ newLine depth ++ [']']
  | fields members =>
      ['\x7b'] ++ prettyMembers (depth + 1) members ++ newLine depth ++ ['\x7d']
  | leaf => leafRow leaf

def prettyItems (depth : Nat) : List Json → List Char
  | [] => []
  | [item] => newLine depth ++ prettyRow depth item
  | item :: rest => newLine depth ++ prettyRow depth item ++ [','] ++ prettyItems depth rest

def prettyMembers (depth : Nat) : List (Option String × Json) → List Char
  | [] => []
  | [(name, value)] => newLine depth ++ nameRow name ++ [':', ' '] ++ prettyRow depth value
  | (name, value) :: rest =>
      newLine depth ++ nameRow name ++ [':', ' '] ++ prettyRow depth value ++ [','] ++
        prettyMembers depth rest

end

def pretty (j : Json) : String :=
  String.ofList (prettyRow 0 j)

end Json
end TubMonitor
