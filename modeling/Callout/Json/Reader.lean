import Callout.Json.Token

/-!
Reading a value from its text. The tokens are taken one by one onto a stack of the lists and objects
that are open; a value that closes with nothing open around it ends the text. Lists and objects nest at
most 127 deep.
-/
namespace Callout.Json

/-- Where an open list stands. -/
inductive Slot where
  /-- At its start: an item or the end may follow. -/
  | first
  /-- After a comma: an item must follow. -/
  | next
  /-- After an item: a comma or the end may follow. -/
  | filled

/-- Where an open object stands. -/
inductive FieldSlot where
  /-- At its start: a key or the end may follow. -/
  | first
  /-- After a comma: a key must follow. -/
  | next
  /-- After a key: a colon must follow. -/
  | named (key : String)
  /-- After the colon: a value must follow. -/
  | awaiting (key : String)
  /-- After a value: a comma or the end may follow. -/
  | filled

/-- A list or object that is open, with what it holds so far, last first. -/
inductive Frame where
  | list (before : List Json) (slot : Slot)
  | object (before : List (String × Json)) (slot : FieldSlot)

/-- What has been read: the open frames, innermost first, or the value when nothing is open any more. -/
inductive Reading where
  | within (frames : List Frame)
  | finished (value : Json)

namespace Reading

/-- How many lists and objects may be open at a time. -/
def maxDepth : Nat := 127

/-- A value where the innermost frame awaits one. -/
def accept (frames : List Frame) (value : Json) : Option Reading :=
  match frames with
  | [] => some (.finished value)
  | .list before .first :: outer | .list before .next :: outer =>
    some (.within (.list (value :: before) .filled :: outer))
  | .object before (.awaiting key) :: outer =>
    some (.within (.object ((key, value) :: before) .filled :: outer))
  | .object before .first :: outer | .object before .next :: outer =>
    match value with
    | .text key => some (.within (.object before (.named key) :: outer))
    | _ => none
  | _ => none

/-- Whether the innermost frame awaits a value, so that a list or object may open there. -/
def awaitsValue : List Frame → Bool
  | [] | .list _ .first :: _ | .list _ .next :: _ | .object _ (.awaiting _) :: _ => true
  | _ => false

/-- A new frame where a value is awaited. -/
def push (frames : List Frame) (frame : Frame) : Option Reading :=
  if awaitsValue frames ∧ frames.length < maxDepth then some (.within (frame :: frames)) else none

/-- One token more. -/
def step : Reading → Token → Option Reading
  | .finished _, _ => none
  | .within frames, .value scalar => accept frames scalar
  | .within frames, .openList => push frames (.list [] .first)
  | .within frames, .openObject => push frames (.object [] .first)
  | .within (.list before .first :: outer), .closeList
  | .within (.list before .filled :: outer), .closeList => accept outer (.list before.reverse)
  | .within (.object before .first :: outer), .closeObject
  | .within (.object before .filled :: outer), .closeObject => accept outer (.ofFields before.reverse)
  | .within (.list before .filled :: outer), .comma => some (.within (.list before .next :: outer))
  | .within (.object before .filled :: outer), .comma => some (.within (.object before .next :: outer))
  | .within (.object before (.named key) :: outer), .colon =>
    some (.within (.object before (.awaiting key) :: outer))
  | _, _ => none

/-- All tokens, one after the other. -/
def run : Reading → List Token → Option Reading
  | r, [] => some r
  | r, t :: ts => (r.step t).bind (run · ts)

end Reading

/-- The value whose text is given, if it is the text of one. -/
def read (cs : List Char) : Option Json := do
  match ← Reading.run (.within []) (← Token.scan cs) with
  | .finished value => some value
  | .within _ => none

/-- The value whose text is given, if it is the text of one. -/
def parse (s : String) : Option Json := read s.toList

end Callout.Json
