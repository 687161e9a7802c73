import TubMonitor.Json.Value

/-!
# Fields of a record

A record is written as an object or as a list.  In an object the fields are found by
name, in any order; other names are passed over, and no field may appear twice.  In a
list all fields stand in their order.
-/

namespace TubMonitor
namespace Json

/-- The value under a name, if there is one; none where there are two. -/
def member? (members : List (Option String × Json)) (name : String) : Option (Option Json) :=
  match members.filter fun m => m.1 == some name with
  | [] => some none
  | [(_, value)] => some (some value)
  | _ => none

def slots? (names : List String) : Json → Option (List (Option Json))
  | fields members =>
      if members.any fun m => m.1.isNone then none else names.mapM (member? members)
  | list items => if items.length = names.length then some (items.map some) else none
  | _ => none

def required? (decode : Json → Option α) (slot : Option Json) : Option α :=
  slot.bind decode

def allowed? (decode : Json → Option α) : Option Json → Option (Option α)
  | none => some none
  | some value => optional? decode value

end Json
end TubMonitor
