import TubMonitor.Text.Classes

/-!
# Blanks and words

The blanks are the characters with the property White_Space.  A text falls into
words, its maximal runs without a blank, and trimming takes the blanks off both ends.
-/

namespace TubMonitor
namespace Text

def blankRanges : List (Nat × Nat) :=
  [
    (0x9, 0xd), (0x20, 0x20), (0x85, 0x85), (0xa0, 0xa0), (0x1680, 0x1680), (0x2000, 0x200a),
    (0x2028, 0x2029), (0x202f, 0x202f), (0x205f, 0x205f), (0x3000, 0x3000)
  ]

def isBlank (c : Char) : Bool :=
  inRanges blankRanges c

/-!
## Words

`gather` reads on from a word of which the characters `word` are known, last one
first.
-/

def emit (word : List Char) (rest : List (List Char)) : List (List Char) :=
  if word.isEmpty then rest else word.reverse :: rest

def gather (word : List Char) : List Char → List (List Char)
  | [] => emit word []
  | c :: rest =>
      if isBlank c then
        emit word (gather [] rest)
      else
        gather (c :: word) rest

def words (row : List Char) : List (List Char) :=
  gather [] row

/-!
## Trimming
-/

def trimStart (row : List Char) : List Char :=
  row.dropWhile isBlank

def trimEnd (row : List Char) : List Char :=
  (row.reverse.dropWhile isBlank).reverse

def trim (row : List Char) : List Char :=
  trimEnd (trimStart row)

def isBlankLine (row : List Char) : Bool :=
  row.all isBlank

@[simp] theorem words_nil : words [] = [] := rfl

end Text
end TubMonitor
