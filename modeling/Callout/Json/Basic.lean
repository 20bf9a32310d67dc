import Callout.Dict

/-!
Values of the data format in which rules, objects and answers travel. Whole numbers are exact. The
fields of an object stand in key order and no key stands twice.
-/
namespace Callout

/-- A value of the data format. -/
inductive Json where
  | null
  | bool (value : Bool)
  | int (value : Int)
  | real (value : Float)
  | text (value : String)
  | list (items : List Json)
  | object (fields : List (String × Json))
deriving Inhabited, BEq

namespace Json

/-- An object of the given fields; of several with one key the last counts. -/
def ofFields (fields : List (String × Json)) : Json :=
  .object (fields.foldl (fun l f => Dict.insertEntry f.1 f.2 l) [])

/-- The field of an object. -/
def field? (j : Json) (key : String) : Option Json :=
  match j with
  | .object fields => fields.lookup key
  | _ => none

/-- The text that a value is. -/
def text? : Json → Option String
  | .text s => some s
  | _ => none

/-- The fields of an object. -/
def fields? : Json → Option (List (String × Json))
  | .object fields => some fields
  | _ => none

/-- The items of a list. -/
def items? : Json → Option (List Json)
  | .list items => some items
  | _ => none

/-- An object without one of its fields; other values stay as they are. -/
def erase (j : Json) (key : String) : Json :=
  match j with
  | .object fields => .object (fields.filter (·.1 ≠ key))
  | j => j

/-- A text or null. -/
def ofText? : Option String → Json
  | none => .null
  | some s => .text s

end Json
end Callout
