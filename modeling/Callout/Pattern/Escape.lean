import Callout.Pattern.Property

/-!
The flags of a pattern, and what stands for one character, one class or one place in it: escapes. Blanks
and comments count for nothing where the flag for that is set.
-/
namespace Callout.Pattern

/-- The flags that are set at a point of a pattern. -/
structure Flags where
  /-- Case does not count. -/
  caseless : Bool := false
  /-- The marks for start and end are those of lines. -/
  multiLine : Bool := false
  /-- The point stands for newlines too. -/
  dotAll : Bool := false
  /-- Lines end with a return, a newline or both. -/
  returns : Bool := false
  /-- Classes go beyond ASCII. -/
  unicode : Bool := true
  /-- Blanks and comments count for nothing. -/
  verbose : Bool := false

/-- A text without the blanks and comments at its start; a comment runs from a number sign to the end of
its line. -/
def skipVerbose (inComment : Bool) : List Char → List Char
  | [] => []
  | c :: rest =>
    if inComment then skipVerbose (c ≠ '\n') rest
    else if Text.isBlank c then skipVerbose false rest
    else if c = '#' then skipVerbose true rest
    else c :: rest

/-- A text without what counts for nothing at its start. -/
def Flags.skip (f : Flags) (cs : List Char) : List Char := if f.verbose then skipVerbose false cs else cs

/-- A character that stands for itself; one written by two hexadecimal digits is a byte where classes do
not go beyond ASCII. -/
structure Literal where
  char : Char
  isByte : Bool := false

/-- What an escape stands for. -/
inductive Escape where
  | literal (l : Literal)
  | charClass (c : CharClass)
  | place (p : Place)

/-- The characters that mean something in patterns. -/
def isMeta (c : Char) : Bool := "\\.+*?()|[]\x7b\x7d^$#&-~".toList.contains c

/-- Whether a character may stand after a backslash for itself. -/
def isEscapable (c : Char) : Bool :=
  isMeta c || (c.toNat < 128 && !c.isAlphanum && c ≠ '<' && c ≠ '>')

/-- The worth of a hexadecimal digit. -/
def hexWorth? (c : Char) : Option Nat :=
  if '0' ≤ c ∧ c ≤ '9' then some (c.toNat - 48)
  else if 'a' ≤ c ∧ c ≤ 'f' then some (c.toNat - 87)
  else if 'A' ≤ c ∧ c ≤ 'F' then some (c.toNat - 55)
  else none

/-- The character with a code point, if there is one. -/
def charOf? (n : Nat) : Option Char := if n.isValidChar then some (Char.ofNat n) else none

namespace Flags

/-- A number of hexadecimal digits and what they are worth. -/
def hexDigits (f : Flags) : Nat → Nat → List Char → Option (Nat × List Char)
  | 0, worth, cs => some (worth, cs)
  | count + 1, worth, cs =>
    match f.skip cs with
    | [] => none
    | c :: rest => (hexWorth? c).bind fun d => f.hexDigits count (worth * 16 + d) rest

/-- Hexadecimal digits up to a closing brace. -/
def hexBraced (f : Flags) (worth : Nat) (any : Bool) : List Char → Option (Nat × List Char)
  | [] => none
  | c :: rest =>
    if f.verbose ∧ Text.isBlank c then f.hexBraced worth any rest
    else if c = '\x7d' then if any then some (worth, rest) else none
    else (hexWorth? c).bind fun d => f.hexBraced (min (worth * 16 + d) 0x110000) true rest

/-- A character by its code point, after the letter that starts it; the letter says how many digits there
are when they are not in braces. -/
def hexEscape (f : Flags) (letter : Char) (cs : List Char) : Option (Escape × List Char) := do
  let digits := if letter = 'x' then 2 else if letter = 'u' then 4 else 8
  let (n, rest) ← match f.skip cs with
    | '\x7b' :: rest => f.hexBraced 0 false rest
    | cs => f.hexDigits digits 0 cs
  let c ← charOf? n
  return (.literal ⟨c, letter = 'x' ∧ n < 256⟩, f.skip rest)

/-- A class with the characters that differ in case only, where case does not count. -/
def fold (f : Flags) (c : CharClass) : CharClass :=
  if f.caseless then (if f.unicode then .folded c else .foldedAscii c) else c

/-- A class or what is not in it; outside ASCII nothing may be left out where classes stay within it. -/
def negate? (f : Flags) (negated : Bool) (c : CharClass) : Option CharClass :=
  if negated then (if f.unicode then some (.not c) else none) else some c

/-- The name of a class up to a closing brace. -/
def bracedName (f : Flags) : List Char → Option (List Char × List Char)
  | [] => none
  | c :: rest =>
    if f.verbose ∧ Text.isBlank c then f.bracedName rest
    else if c = '\x7d' then some ([], rest)
    else (f.bracedName rest).map fun (name, rest) => (c :: name, rest)

/-- What stands before and after the first place where one of the marks stands. -/
def splitAtMark (mark : List Char) : List Char → Option (List Char × List Char)
  | [] => none
  | c :: rest =>
    if mark.isPrefixOf (c :: rest) then some ([], (c :: rest).drop mark.length)
    else (splitAtMark mark rest).map fun (before, after) => (c :: before, after)

/-- The class that a name in braces stands for, before negation from outside: a name, or a name and a
value with a mark between, which may itself negate. -/
def classOfName (f : Flags) (name : List Char) : Option CharClass :=
  match splitAtMark ['!', '='] name with
  | some (key, value) => (valued? key value).map fun c => .not (f.fold c)
  | none =>
    match (splitAtMark [':'] name).or (splitAtMark ['='] name) with
    | some (key, value) => (valued? key value).map f.fold
    | none => (named? name).map f.fold

/-- A class by its name, after the letter that starts it. -/
def classEscape (f : Flags) (negated : Bool) (cs : List Char) : Option (Escape × List Char) := do
  if !f.unicode then none
  match f.skip cs with
  | '\x7b' :: rest =>
    let (name, rest) ← f.bracedName rest
    return (.charClass (← f.negate? negated (← f.classOfName name)), rest)
  | '\\' :: _ | [] => none
  | c :: rest =>
    return (.charClass (← f.negate? negated (← (named? [c]).map f.fold)), f.skip rest)

/-- What words are made of. -/
def wordClass (f : Flags) : CharClass := if f.unicode then .word else .asciiWord

/-- One of the classes that have a letter of their own. -/
def letterClass? (f : Flags) (letter : Char) : Option CharClass :=
  match letter with
  | 'd' => some (if f.unicode then .digit else .span 48 57)
  | 's' => some (if f.unicode then .blank else .asciiBlank)
  | 'w' => some f.wordClass
  | _ => none

/-- Whether a character may stand in the name of a place. -/
def isPlaceChar (c : Char) : Bool := c.isAlpha || c = '-'

/-- The letters of a name of a place up to what is none. -/
def placeName (f : Flags) : List Char → List Char × List Char
  | [] => ([], [])
  | c :: rest =>
    if f.verbose ∧ Text.isBlank c then f.placeName rest
    else if isPlaceChar c then
      let (name, rest) := f.placeName rest
      (c :: name, rest)
    else ([], c :: rest)

/-- A boundary of words, after its letter. A name in braces makes it one side of a boundary; braces that
start with no letter are something else. -/
def boundaryEscape (f : Flags) (cs : List Char) : Option (Escape × List Char) :=
  let plain : Option (Escape × List Char) := some (.place (.boundary f.wordClass), cs)
  match cs with
  | '\x7b' :: rest =>
    match f.skip rest with
    | [] => none
    | c :: _ =>
      if isPlaceChar c then
        match f.placeName rest with
        | (name, '\x7d' :: rest) =>
          match String.ofList name with
          | "start" => some (.place (.wordStart f.wordClass), rest)
          | "end" => some (.place (.wordEnd f.wordClass), rest)
          | "start-half" => some (.place (.wordStartHalf f.wordClass), rest)
          | "end-half" => some (.place (.wordEndHalf f.wordClass), rest)
          | _ => none
        | _ => none
      else plain
  | _ => plain

/-- What an escape stands for, after its backslash. -/
def escape (f : Flags) : List Char → Option (Escape × List Char)
  | [] => none
  | c :: rest =>
    let literal (c : Char) : Option (Escape × List Char) := some (.literal ⟨c, false⟩, rest)
    if c = 'x' ∨ c = 'u' ∨ c = 'U' then f.hexEscape c rest
    else if c = 'p' ∨ c = 'P' then f.classEscape (c = 'P') rest
    else
      match f.letterClass? c.toLower with
      | some cls => (f.negate? (c ≠ c.toLower) cls).map fun cls => (.charClass cls, rest)
      | none =>
        if isEscapable c then literal c
        else match c with
          | 'a' => literal '\x07'
          | 'f' => literal '\x0c'
          | 't' => literal '\t'
          | 'n' => literal '\n'
          | 'r' => literal '\r'
          | 'v' => literal '\x0b'
          | 'A' => some (.place .textStart, rest)
          | 'z' => some (.place .textEnd, rest)
          | 'b' => f.boundaryEscape rest
          | 'B' => some (.place (.notBoundary f.wordClass), rest)
          | '<' => some (.place (.wordStart f.wordClass), rest)
          | '>' => some (.place (.wordEnd f.wordClass), rest)
          | _ => none

end Flags
end Callout.Pattern
