import Callout.Json.Basic
import Callout.Power

/-!
Reading records and choices from values. A record is an object whose unknown fields are ignored, or the
list of its fields in their declared order, where fields may be missing at the end only. Whether a missing
field is an error, and what stands for it, is said field by field.
-/
namespace Callout.Json

/-- What a value holds under the names of a record's fields. -/
structure Parts where
  /-- The fields that are there. -/
  present : List (String × Json)
  /-- Whether the record is written as a list. -/
  listed : Bool

/-- The parts of a record with the given field names. -/
def parts? (names : List String) : Json → Option Parts
  | .object fields => some ⟨fields, false⟩
  | .list items => if items.length ≤ names.length then some ⟨names.zip items, true⟩ else none
  | _ => none

namespace Parts
variable {α : Type}

/-- A field that has to be there. -/
def required (p : Parts) (name : String) (reader : Json → Option α) : Option α :=
  (p.present.lookup name).bind reader

/-- A field that may be missing or null. -/
def optional (p : Parts) (name : String) (reader : Json → Option α) : Option (Option α) :=
  match p.present.lookup name with
  | none | some .null => some none
  | some j => (reader j).map some

/-- A field that may be null, and missing from an object but not from a list. -/
def nullable (p : Parts) (name : String) (reader : Json → Option α) : Option (Option α) :=
  match p.present.lookup name with
  | none => if p.listed then none else some none
  | some .null => some none
  | some j => (reader j).map some

/-- A field with a value of its own when it is missing. -/
def defaulted (p : Parts) (name : String) (reader : Json → Option α) (value : α) : Option α :=
  match p.present.lookup name with
  | none => some value
  | some j => reader j

end Parts

/-- A truth value. -/
def bool? : Json → Option Bool
  | .bool b => some b
  | _ => none

/-- A text that has to be a certain one. -/
def exactly? (wanted : String) (j : Json) : Option String := j.text?.filter (· = wanted)

/-- A whole number between two bounds, the first included. -/
def intBetween? (low high : Int) : Json → Option Int
  | .int n => if low ≤ n ∧ n < high then some n else none
  | _ => none

/-- A whole number of 64 bits with a sign. -/
def int64? (j : Json) : Option Int64 := (j.intBetween? (-2 ^ 63) (2 ^ 63)).map Int64.ofInt

/-- A natural number of 32 bits. -/
def uint32? (j : Json) : Option UInt32 := (j.intBetween? 0 (2 ^ 32)).map fun n => UInt32.ofNat n.toNat

/-- A natural number of 16 bits. -/
def uint16? (j : Json) : Option UInt16 := (j.intBetween? 0 (2 ^ 16)).map fun n => UInt16.ofNat n.toNat

/-- A list whose items are all read by one reader. -/
def listOf? {α : Type} (reader : Json → Option α) : Json → Option (List α)
  | .list items => items.mapM reader
  | _ => none

/-- An object as a map whose values are all read by one reader. -/
def dictOf? {α : Type} (reader : Json → Option α) : Json → Option (Dict α)
  | .object fields => do
    let entries ← fields.mapM fun (key, value) => (reader value).map (Prod.mk key ·)
    return Dict.ofList entries
  | _ => none

/-- A choice without data: its name, or an object that has null under its name. -/
def choice? {α : Type} (names : List (String × α)) : Json → Option α
  | .text name => names.lookup name
  | .object [(name, .null)] => names.lookup name
  | _ => none

/-! ## Writing records -/

/-- A field that is always written. -/
def field (name : String) (value : Json) : List (String × Json) := [(name, value)]

/-- A field that is written when there is a value. -/
def fieldIfSome {α : Type} (name : String) (writer : α → Json) : Option α → List (String × Json)
  | none => []
  | some a => [(name, writer a)]

/-- A map as an object. -/
def ofDict {α : Type} (writer : α → Json) (d : Dict α) : Json :=
  .object (d.entries.map fun (key, value) => (key, writer value))

/-- A field that is written when the map has entries. -/
def fieldIfEntries {α : Type} (name : String) (writer : α → Json) (d : Dict α) : List (String × Json) :=
  if d.isEmpty then [] else [(name, ofDict writer d)]

end Callout.Json
