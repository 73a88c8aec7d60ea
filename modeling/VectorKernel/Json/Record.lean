import VectorKernel.Json.Basic

/-!
# Records in JSON

Reading of records, enumerations and lists from JSON values. A record is an
object, whose further members are skipped, or an array of its fields in order,
of which the last ones may be missing. A name of an enumeration is a string, or
an object with that one name as key and null as value.
-/

namespace VectorKernel.Json

/-- The values under a key. -/
def membersOf (key : String) (members : List (String × Value)) : List Value :=
  (members.filter (·.1 == key)).map (·.2)

/-- The fields of a record with the given names, `none` for a missing one. A
repeated field or an item too many is refused. -/
def fields? (names : List String) : Value → Option (List (Option Value))
  | .object members =>
    names.mapM fun name =>
      match membersOf name members with
      | [] => some none
      | [value] => some (some value)
      | _ => none
  | .array items =>
    if items.length ≤ names.length then
      some (items.map some ++ List.replicate (names.length - items.length) none)
    else none
  | _ => none

/-- The text of a string. -/
def text? : Value → Option String
  | .string text => some text
  | _ => none

/-- The items of an array. -/
def items? : Value → Option (List Value)
  | .array items => some items
  | _ => none

/-- The member of an enumeration that a value names. -/
def choice? {α : Type} (ofName? : String → Option α) : Value → Option α
  | .string name => ofName? name
  | .object [(name, .null)] => ofName? name
  | _ => none

/-- A field that may be missing or null. -/
def optional? {α : Type} (read? : Value → Option α) : Option Value → Option (Option α)
  | none | some .null => some none
  | some value => (read? value).map some

end VectorKernel.Json
