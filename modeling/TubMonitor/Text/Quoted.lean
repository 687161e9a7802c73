import TubMonitor.Text.Hidden

/-!
# Quoted text

A text in double quotes, in which quotes and backslashes are escaped, the common
controls have their letters, and every other character without a glyph of its own
is shown by its code point.
-/

namespace TubMonitor
namespace Text

def hexRow (n : Nat) : List Char :=
  Nat.toDigits 16 n

def quotedChar (c : Char) : List Char :=
  if c = '\x00' then
    ['\\', '0']
  else if c = '\t' then
    ['\\', 't']
  else if c = '\n' then
    ['\\', 'n']
  else if c = '\r' then
    ['\\', 'r']
  else if c = '"' then
    ['\\', '"']
  else if c = '\\' then
    ['\\', '\\']
  else if isHidden c then
    ['\\', 'u', '\x7b'] ++ hexRow c.toNat ++ ['\x7d']
  else
    [c]

def quoted (text : String) : String :=
  String.ofList (['"'] ++ text.toList.flatMap quotedChar ++ ['"'])

end Text
end TubMonitor
