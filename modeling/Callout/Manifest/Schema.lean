import Callout.Json.Basic

/-!
Schemas: what values the server takes for a part of an object, and what people are told about it.
-/
namespace Callout.Manifest

/-- What values the server takes, as the fields of the schema's own form. -/
structure Schema where
  fields : List (String × Json)
deriving Inhabited

/-- A field of a record. -/
structure Field where
  name : String
  schema : Schema
  /-- Whether the field has to be there. -/
  required : Bool := false
deriving Inhabited

namespace Schema

/-- A schema as a value. -/
def toJson (s : Schema) : Json := .ofFields s.fields

/-- A schema that says one thing more. -/
def withField (s : Schema) (name : String) (value : Json) : Schema := ⟨(name, value) :: s.fields⟩

/-- Values of a type. -/
def ofType (name : String) : Schema := ⟨[("type", .text name)]⟩

/-- Texts. -/
def text : Schema := ofType "string"

/-- Truth values. -/
def truth : Schema := ofType "boolean"

/-- Texts that are one of some words. -/
def oneOf (words : List String) : Schema := text.withField "enum" (.list (words.map .text))

/-- Moments. -/
def moment : Schema := text.withField "format" (.text "date-time")

/-- Whole numbers of a width. -/
def whole (width : String) : Schema := (ofType "integer").withField "format" (.text width)

/-- Whole numbers of a width, none below zero. -/
def natural (width : String) : Schema := (whole width).withField "minimum" (.real 0)

/-- Lists. -/
def list (item : Schema) : Schema := (ofType "array").withField "items" item.toJson

/-- Maps from texts. -/
def dict (value : Schema) : Schema := (ofType "object").withField "additionalProperties" value.toJson

/-- Records. -/
def record (fields : List Field) : Schema :=
  let required := (fields.filter (·.required)).map fun f => Json.text f.name
  let s := (ofType "object").withField "properties" (.ofFields (fields.map fun f => (f.name, f.schema.toJson)))
  if required.isEmpty then s else s.withField "required" (.list required)

/-- A schema with a description. -/
def described (s : Schema) (description : String) : Schema := s.withField "description" (.text description)

/-- A schema for which null is taken too. -/
def orNull (s : Schema) : Schema := s.withField "nullable" (.bool true)

/-- A schema with a value that stands when there is none. -/
def orElse (s : Schema) (value : Json) : Schema := s.withField "default" value

end Schema
end Callout.Manifest
