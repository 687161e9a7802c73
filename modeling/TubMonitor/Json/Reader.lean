import TubMonitor.Json.Token

/-!
# Reading documents

The tokens are taken one after the other.  What has been read of the lists and
objects that are still open is kept as a stack, and a place says which tokens may come
next.  A text is a document when its last token leaves the stack empty.
-/

namespace TubMonitor
namespace Json

inductive Frame where
  | list (items : List Json)
  | fields (members : List (Option String × Json)) (name : Option String)

inductive Place where
  | value
  | firstItem
  | firstName (members : List (Option String × Json))
  | name (members : List (Option String × Json))
  | colon (members : List (Option String × Json)) (name : Option String)
  | next (item : Json)
  | ended (value : Json)

structure Progress where
  stack : List Frame
  place : Place

namespace Progress

def start : Progress :=
  { stack := []
    place := .value }

def complete (stack : List Frame) (value : Json) : Progress :=
  match stack with
  | [] => { stack := [], place := .ended value }
  | _ => { stack, place := .next value }

def begin? (stack : List Frame) : Token → Option Progress
  | .null => some (complete stack null)
  | .bool b => some (complete stack (bool b))
  | .number n => some (complete stack n.value)
  | .text s => some (complete stack (text s))
  | .openList => some { stack := .list [] :: stack, place := .firstItem }
  | .openFields => some { stack, place := .firstName [] }
  | _ => none

def continue? (value : Json) : List Frame → Token → Option Progress
  | .list items :: stack, .comma =>
      some { stack := .list (value :: items) :: stack, place := .value }
  | .list items :: stack, .closeList =>
      some (complete stack (list (value :: items).reverse))
  | .fields members name :: stack, .comma =>
      some { stack, place := .name ((name, value) :: members) }
  | .fields members name :: stack, .closeFields =>
      some (complete stack (fields ((name, value) :: members).reverse))
  | _, _ => none

def step? (p : Progress) (t : Token) : Option Progress :=
  match p.place, t with
  | .value, t => begin? p.stack t
  | .firstItem, .closeList => some (complete (p.stack.drop 1) (list []))
  | .firstItem, t => begin? p.stack t
  | .firstName members, .closeFields => some (complete p.stack (fields members.reverse))
  | .firstName members, .text s => some { p with place := .colon members s }
  | .name members, .text s => some { p with place := .colon members s }
  | .colon members name, .colon =>
      some { stack := .fields members name :: p.stack, place := .value }
  | .next item, t => continue? item p.stack t
  | _, _ => none

def result? (p : Progress) : Option Json :=
  match p.place with
  | .ended value => some value
  | _ => none

end Progress

def ofTokens? (tokens : List Token) : Option Json :=
  (tokens.foldlM Progress.step? Progress.start).bind Progress.result?

def readRow? (row : List Char) : Option Json :=
  (tokens? row).bind ofTokens?

def read? (text : String) : Option Json :=
  readRow? text.toList

end Json
end TubMonitor
