import Callout.Pattern.Bracket
import Callout.Power

/-!
Reading a pattern. Groups that are open are kept on a stack; each holds the choices and the parts read so
far and the flags to go back to. Flags set within a group count up to its end, also in its later choices.
Groups, repetitions, sequences and choices nest at most 250 deep.
-/
namespace Callout.Pattern

/-- A part of a sequence: a pattern, or flags that are set from there on. -/
inductive Part where
  | node (n : Node) (depth : Nat)
  | flags

/-- What has been read of a group: its choices and the parts of the choice under way, last first. -/
structure Group where
  choices : List (Node × Nat)
  parts : List Part

namespace Group

/-- The group of which nothing has been read. -/
def start : Group := ⟨[], []⟩

/-- The group with one more part. -/
def push (g : Group) (n : Node) (depth : Nat) : Group := { g with parts := .node n depth :: g.parts }

/-- The choice under way and how deep it nests. -/
def current (g : Group) : Node × Nat :=
  let nodes := g.parts.reverse.filterMap fun
    | .node n depth => some (n, depth)
    | .flags => none
  let depth := (nodes.map (·.2)).foldl max 0
  (.ofSequence (nodes.map (·.1)), if g.parts.length ≤ 1 then depth else depth + 1)

/-- The pattern of the whole group and how deep it nests. -/
def finish (g : Group) : Node × Nat :=
  match g.choices with
  | [] => g.current
  | choices =>
    let all := (g.current :: choices).reverse
    (.ofChoices (all.map (·.1)), (all.map (·.2)).foldl max 0 + 1)

end Group

/-- What has been read of a pattern. -/
structure ParseState where
  flags : Flags
  group : Group
  /-- The open groups around, innermost first, with the flags to go back to. -/
  outer : List (Group × Flags)
  /-- The names of the groups so far. -/
  names : List String

/-- How deep a pattern may nest. -/
def maxNesting : Nat := 250

namespace ParseState

/-- A character where patterns stand. -/
def literal? (f : Flags) (l : Literal) : Option Node :=
  if f.unicode then some (.chars (f.fold (.single l.char)))
  else if l.char.toNat < 128 then some (.chars (f.fold (.single l.char)))
  else if l.isByte ∨ f.caseless then none
  else some (.chars (.single l.char))

/-- The state with one more pattern in its group. -/
def push (s : ParseState) (n : Node) (depth : Nat) : ParseState := { s with group := s.group.push n depth }

/-- What an escape stands for as a pattern. -/
def ofEscape? (f : Flags) : Escape → Option Node
  | .literal l => literal? f l
  | .charClass c => some (.chars c)
  | .place p => some (.place p)

/-- The flags of a group up to its colon or its end, and whether one has been given. A letter counts once
only, and there is one minus sign at most, not at the end. -/
def readFlags (f : Flags) (seen : List Char) (negated dangling : Bool) :
    List Char → Option (Flags × Bool × List Char)
  | [] => none
  | c :: rest =>
    if c = ':' ∨ c = ')' then
      if dangling then none else some (f, !seen.isEmpty, c :: rest)
    else if seen.contains c then none
    else
      let on := !negated
      let go (f : Flags) := readFlags f (c :: seen) negated false rest
      match c with
      | '-' => readFlags f (c :: seen) true true rest
      | 'i' => go { f with caseless := on }
      | 'm' => go { f with multiLine := on }
      | 's' => go { f with dotAll := on }
      | 'U' => go f
      | 'u' => go { f with unicode := on }
      | 'R' => go { f with returns := on }
      | 'x' => go { f with verbose := on }
      | _ => none

/-- Whether a character may stand in the name of a group. -/
def isNameChar (first : Bool) (c : Char) : Bool :=
  c = '_' || CharClass.holds (.table Unicode.alphabetic.table) c.toNat ||
    (!first && (c = '.' || c = '[' || c = ']' ||
      CharClass.holds (.tables [Unicode.decimalNumber, Unicode.letterNumber, Unicode.otherNumber]) c.toNat))

/-- A name up to its closing mark. -/
def readName (cs : List Char) : Option (String × List Char) :=
  let name := cs.takeWhile (· ≠ '>')
  match name, cs.drop name.length with
  | c :: more, '>' :: rest =>
    if isNameChar true c ∧ more.all (isNameChar false) then some (String.ofList name, rest) else none
  | _, _ => none

/-- A group, after it has been opened; or flags that are set up to the end of the group around. -/
def openGroup (s : ParseState) (cs : List Char) : Option (ParseState × List Char) :=
  let enter (flags : Flags) (names : List String) (rest : List Char) : Option (ParseState × List Char) :=
    some (⟨flags, .start, (s.group, s.flags) :: s.outer, names⟩, rest)
  let named (rest : List Char) : Option (ParseState × List Char) := do
    let (name, rest) ← readName rest
    if s.names.contains name then none else enter s.flags (name :: s.names) rest
  match s.flags.skip cs with
  | '?' :: '=' :: _ | '?' :: '!' :: _ | '?' :: '<' :: '=' :: _ | '?' :: '<' :: '!' :: _ => none
  | '?' :: 'P' :: '<' :: rest | '?' :: '<' :: rest => named rest
  | '?' :: rest => do
    let (flags, any, rest) ← readFlags s.flags [] false false rest
    match rest with
    | ')' :: rest =>
      if any then some ({ s with flags, group := { s.group with parts := .flags :: s.group.parts } }, rest)
      else none
    | _ :: rest => enter flags s.names rest
    | [] => none
  | rest => enter s.flags s.names rest

/-- The state after a group has closed. -/
def closeGroup (s : ParseState) : Option ParseState :=
  match s.outer with
  | [] => none
  | (group, flags) :: outer =>
    let (n, depth) := s.group.finish
    if depth + 1 ≤ maxNesting then some ⟨flags, group.push n (depth + 1), outer, s.names⟩ else none

/-- The state after another choice has begun. -/
def nextChoice (s : ParseState) : ParseState :=
  { s with group := ⟨s.group.current :: s.group.choices, []⟩ }

/-- The last pattern of the group repeated. -/
def repeatLast (s : ParseState) (low : Nat) (high : Option Nat) : Option ParseState :=
  match s.group.parts with
  | .node n depth :: parts =>
    some { s with group := { s.group with parts := .node (.times low high n) (depth + 1) :: parts } }
  | _ => none

/-- What stands after the question mark that may follow a repetition. -/
def dropLazy : List Char → List Char
  | '?' :: rest => rest
  | cs => cs

/-- A count, with blanks around. -/
def readCount (f : Flags) (cs : List Char) : Option (Nat × List Char) :=
  let rec digits (worth : Nat) (any : Bool) : List Char → Option (Nat × List Char)
    | [] => if any then some (worth, []) else none
    | c :: rest =>
      if c.isDigit then digits (worth * 10 + (c.toNat - 48)) true rest
      else if f.verbose ∧ Text.isBlank c then digits worth any rest
      else if any then some (worth, c :: rest) else none
  match digits 0 false (cs.dropWhile Text.isBlank) with
  | some (n, rest) => if n < 2 ^ 32 then some (n, rest.dropWhile Text.isBlank) else none
  | none => none

/-- A repetition with counts, after its opening brace. -/
def repeatCounted (s : ParseState) (cs : List Char) : Option (ParseState × List Char) := do
  let f := s.flags
  let (low, rest) ← readCount f (f.skip cs)
  let (high, rest) ← match rest with
    | ',' :: rest =>
      match f.skip rest with
      | '\x7d' :: rest => some (none, '\x7d' :: rest)
      | rest => (readCount f rest).map fun (high, rest) => (some high, rest)
    | rest => some (some low, rest)
  match rest with
  | '\x7d' :: rest =>
    if high.all (low ≤ ·) then return (← s.repeatLast low high, dropLazy (f.skip rest)) else none
  | _ => none

/-- The next part of a pattern. -/
def step (s : ParseState) : List Char → Option (ParseState × List Char)
  | [] => none
  | '(' :: rest => s.openGroup rest
  | ')' :: rest => s.closeGroup.map (·, rest)
  | '|' :: rest => some (s.nextChoice, rest)
  | '[' :: rest => (s.flags.bracketed rest).map fun (cls, rest) => (s.push (.chars cls) 1, rest)
  | '?' :: rest => (s.repeatLast 0 (some 1)).map (·, dropLazy rest)
  | '*' :: rest => (s.repeatLast 0 none).map (·, dropLazy rest)
  | '+' :: rest => (s.repeatLast 1 none).map (·, dropLazy rest)
  | '\x7b' :: rest => s.repeatCounted rest
  | '\\' :: rest => do
    let (e, rest) ← s.flags.escape rest
    return (s.push (← ofEscape? s.flags e) 0, rest)
  | '.' :: rest =>
    let f := s.flags
    if !f.unicode then none
    else
      let ends : CharClass := if f.returns then .union (.single '\n') (.single '\r') else .single '\n'
      some (s.push (.chars (if f.dotAll then .any else .not ends)) 0, rest)
  | '^' :: rest =>
    let f := s.flags
    some (s.push (.place (if !f.multiLine then .textStart
      else if f.returns then .lineStartReturn else .lineStart)) 0, rest)
  | '$' :: rest =>
    let f := s.flags
    some (s.push (.place (if !f.multiLine then .textEnd
      else if f.returns then .lineEndReturn else .lineEnd)) 0, rest)
  | c :: rest => (literal? s.flags ⟨c, false⟩).map fun n => (s.push n 0, rest)

/-- The pattern that the rest of a text completes. -/
def run (s : ParseState) (cs : List Char) : Option Node :=
  match s.flags.skip cs with
  | [] =>
    let (n, depth) := s.group.finish
    if s.outer.isEmpty ∧ depth ≤ maxNesting then some n else none
  | skipped =>
    match s.step skipped with
    | none => none
    | some (s, rest) => if rest.length < cs.length then s.run rest else none
termination_by cs.length

end ParseState

/-- The pattern that a text says. -/
def parse (text : String) : Option Node := ParseState.run ⟨{}, .start, [], []⟩ text.toList

end Callout.Pattern
