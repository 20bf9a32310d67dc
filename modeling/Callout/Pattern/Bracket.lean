import Callout.Pattern.Escape

/-!
Classes in brackets: characters, intervals, escapes, classes of ASCII by name, brackets within brackets,
and the operations on classes, which all bind alike and to the left. The reader keeps the open brackets
and operations on a stack.
-/
namespace Callout.Pattern

/-- An operation on two classes. -/
inductive ClassOp where
  | inter
  | diff
  | symmetric

/-- The class that an operation makes of two. -/
def ClassOp.apply : ClassOp → CharClass → CharClass → CharClass
  | .inter => .inter
  | .diff => .diff
  | .symmetric => .symmetric

/-- What is open while a class is read. -/
inductive ClassFrame where
  /-- A bracket, with what stands before it in the bracket around it. -/
  | bracket (negated : Bool) (outer : CharClass)
  /-- An operation, with its first class. -/
  | operation (op : ClassOp) (first : CharClass)

/-- What has been read of a class: the open frames, innermost first, and the class of the items since. -/
structure ClassState where
  frames : List ClassFrame
  items : CharClass

namespace Flags

/-- The class of a literal within brackets; only ASCII where classes stay within it. -/
def literalClass? (f : Flags) (l : Literal) : Option CharClass :=
  if f.unicode ∨ l.char.toNat < 128 then some (.single l.char) else none

/-- The class after a bracket that has just been opened: hyphens and a closing bracket stand for
themselves there. -/
def leadingItems (f : Flags) (first : Bool) (items : CharClass) : List Char → CharClass × List Char
  | [] => (items, [])
  | c :: rest =>
    if f.verbose ∧ Text.isBlank c then f.leadingItems first items rest
    else if c = '-' then f.leadingItems false (.union items (.single '-')) rest
    else if c = ']' ∧ first then (.union items (.single ']'), rest)
    else (items, c :: rest)

/-- A bracket, after it has been opened. -/
def openBracket (f : Flags) (s : ClassState) (cs : List Char) : ClassState × List Char :=
  let (negated, cs) := match f.skip cs with
    | '^' :: rest => (true, f.skip rest)
    | cs => (false, cs)
  let (items, cs) := f.leadingItems true .empty (f.skip cs)
  (⟨.bracket negated s.items :: s.frames, items⟩, cs)

/-- The class of an operation that is open, or the class itself. -/
def closeOperation (f : Flags) (frames : List ClassFrame) (second : CharClass) :
    List ClassFrame × CharClass :=
  match frames with
  | .operation op first :: outer => (outer, op.apply (f.fold first) (f.fold second))
  | frames => (frames, second)

/-- A class of ASCII by its name, after the bracket that opens it. -/
def asciiClass? (f : Flags) (cs : List Char) : Option (Option CharClass × List Char) := do
  let cs ← match cs with
    | ':' :: rest => some rest
    | _ => none
  let (negated, cs) := match cs with
    | '^' :: rest => (true, rest)
    | cs => (false, cs)
  let name := cs.takeWhile (· ≠ ':')
  match cs.drop name.length with
  | ':' :: ']' :: rest =>
    let cls ← ascii? (String.ofList name)
    return (f.negate? negated (f.fold cls), rest)
  | _ => none

/-- One item of a class: a character or an escape that stands for characters. -/
def classItem (f : Flags) : List Char → Option (Escape × List Char)
  | [] => none
  | '\\' :: rest => f.escape rest
  | c :: rest => some (.literal ⟨c, false⟩, rest)

/-- The class of one item, or of an interval that starts with it. -/
def classRange (f : Flags) (cs : List Char) : Option (CharClass × List Char) := do
  let (first, rest) ← f.classItem cs
  let alone : Option (CharClass × List Char) :=
    match first with
    | .literal l => (f.literalClass? l).map (·, rest)
    | .charClass c => some (c, rest)
    | .place _ => none
  match f.skip rest with
  | [] => none
  | '-' :: after =>
    match f.skip after with
    | [] => none
    | ']' :: _ | '-' :: _ => alone
    | after =>
      let (second, rest) ← f.classItem after
      match first, second with
      | .literal a, .literal b =>
        let _ ← f.literalClass? a
        let _ ← f.literalClass? b
        if a.char.toNat ≤ b.char.toNat then some (.span a.char.toNat b.char.toNat, rest) else none
      | _, _ => none
  | _ => alone

/-- The next part of a class: the state after it, or the whole class when its bracket closes. -/
def classStep (f : Flags) (s : ClassState) : List Char → Option ((ClassState ⊕ CharClass) × List Char)
  | [] => none
  | '[' :: rest =>
    match f.asciiClass? rest with
    | some (cls?, rest) => cls?.map fun cls => (.inl { s with items := .union s.items cls }, rest)
    | none => let (s, rest) := f.openBracket s rest; some (.inl s, rest)
  | ']' :: rest => do
    let (frames, cls) := f.closeOperation s.frames s.items
    match frames with
    | .bracket negated outer :: frames =>
      let cls ← f.negate? negated (f.fold cls)
      if frames.isEmpty then return (.inr cls, rest)
      else return (.inl ⟨frames, .union outer cls⟩, rest)
    | _ => none
  | '&' :: '&' :: rest => some (.inl (operation .inter), rest)
  | '-' :: '-' :: rest => some (.inl (operation .diff), rest)
  | '~' :: '~' :: rest => some (.inl (operation .symmetric), rest)
  | cs => (f.classRange cs).map fun (cls, rest) => (.inl { s with items := .union s.items cls }, rest)
where
  operation (op : ClassOp) : ClassState :=
    let (frames, first) := f.closeOperation s.frames s.items
    ⟨.operation op first :: frames, .empty⟩

/-- The class of a bracket that has been opened, and what stands after it. -/
def classFrom (f : Flags) (s : ClassState) (cs : List Char) : Option (CharClass × List Char) :=
  match f.classStep s (f.skip cs) with
  | none => none
  | some (.inr cls, rest) => some (cls, rest)
  | some (.inl s, rest) => if rest.length < cs.length then f.classFrom s rest else none
termination_by cs.length

/-- A class in brackets, after its opening bracket. -/
def bracketed (f : Flags) (cs : List Char) : Option (CharClass × List Char) :=
  let (s, rest) := f.openBracket ⟨[], .empty⟩ cs
  f.classFrom s rest

end Flags
end Callout.Pattern
