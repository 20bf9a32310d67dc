import Callout.Text.Blank
import Callout.Unicode.Category
import Callout.Unicode.Folding
import Callout.Unicode.Trait

/-!
The form of patterns: classes of characters, places between characters, and the ways to put patterns
together. What case folding, negation and the flags of a pattern mean is settled when it is read, so
nothing here depends on flags.
-/
namespace Callout.Pattern
open Callout.Unicode

/-- A class of characters. -/
inductive CharClass where
  /-- The characters from one code point to another. -/
  | span (low high : Nat)
  /-- The characters of a table. -/
  | table (set : CodeSet)
  /-- The characters of one of several tables. -/
  | tables (sets : List CodeSet)
  | not (c : CharClass)
  | union (a b : CharClass)
  | inter (a b : CharClass)
  | diff (a b : CharClass)
  | symmetric (a b : CharClass)
  /-- The characters that differ from one of the class in case only. -/
  | folded (c : CharClass)
  /-- The same for the letters of ASCII alone. -/
  | foldedAscii (c : CharClass)

namespace CharClass

/-- The class without characters. -/
def empty : CharClass := .tables []

/-- The class of every character. -/
def any : CharClass := .span 0 0x10ffff

/-- The class of one character. -/
def single (c : Char) : CharClass := .span c.toNat c.toNat

/-- The code points that differ from one in case only, itself included. -/
def variants (n : Nat) : List Nat :=
  let f := folding.apply n
  n :: f :: folding.sources f

/-- The same for the letters of ASCII alone. -/
def variantsAscii (n : Nat) : List Nat :=
  if 65 ≤ n ∧ n ≤ 90 then [n, n + 32]
  else if 97 ≤ n ∧ n ≤ 122 then [n, n - 32]
  else [n]

/-- Whether a class holds a code point. -/
def holds : CharClass → Nat → Bool
  | .span low high, n => low ≤ n && n ≤ high
  | .table set, n => set.contains n
  | .tables sets, n => sets.any (·.contains n)
  | .not c, n => !c.holds n
  | .union a b, n => a.holds n || b.holds n
  | .inter a b, n => a.holds n && b.holds n
  | .diff a b, n => a.holds n && !b.holds n
  | .symmetric a b, n => a.holds n != b.holds n
  | .folded c, n => (variants n).any c.holds
  | .foldedAscii c, n => (variantsAscii n).any c.holds

/-- About how many intervals a class is made of. -/
def weight : CharClass → Nat
  | .span _ _ => 1
  | .table set => set.spans.size
  | .tables sets => (sets.map (·.spans.size)).sum
  | .not c => c.weight + 1
  | .union a b | .inter a b | .diff a b | .symmetric a b => a.weight + b.weight
  | .folded c | .foldedAscii c => 2 * c.weight

/-- The letters, marks, digits, joining punctuation and joiners that words are made of. -/
def word : CharClass :=
  .tables [alphabetic.table, nonspacingMark, spacingMark, enclosingMark, decimalNumber,
    connectorPunctuation, joinControl.table]

/-- The digits of every script. -/
def digit : CharClass := .table decimalNumber

/-- The blanks. -/
def blank : CharClass := .table whiteSpace.table

/-- The letters, digits and low line of ASCII. -/
def asciiWord : CharClass :=
  .union (.union (.span 48 57) (.span 65 90)) (.union (.span 97 122) (.span 95 95))

/-- The blanks of ASCII. -/
def asciiBlank : CharClass := .union (.span 9 13) (.span 32 32)

end CharClass

/-- A place between two characters. -/
inductive Place where
  | textStart
  | textEnd
  | lineStart
  | lineEnd
  /-- The start of a line where a return, a newline or both end lines. -/
  | lineStartReturn
  /-- The end of such a line. -/
  | lineEndReturn
  /-- Between a character of a class and one that is not. -/
  | boundary (word : CharClass)
  | notBoundary (word : CharClass)
  | wordStart (word : CharClass)
  | wordEnd (word : CharClass)
  /-- After no word. -/
  | wordStartHalf (word : CharClass)
  /-- Before no word. -/
  | wordEndHalf (word : CharClass)

/-- Whether a place is between a character before and a character after. -/
def Place.isBetween (p : Place) (before after : Option Char) : Bool :=
  let inside (word : CharClass) (c : Option Char) : Bool := c.any fun c => word.holds c.toNat
  match p with
  | .textStart => before.isNone
  | .textEnd => after.isNone
  | .lineStart => before.isNone || before == some '\n'
  | .lineEnd => after.isNone || after == some '\n'
  | .lineStartReturn =>
    before.isNone || before == some '\n' || (before == some '\r' && after != some '\n')
  | .lineEndReturn => after.isNone || after == some '\r' || (after == some '\n' && before != some '\r')
  | .boundary w => inside w before != inside w after
  | .notBoundary w => inside w before == inside w after
  | .wordStart w => !inside w before && inside w after
  | .wordEnd w => inside w before && !inside w after
  | .wordStartHalf w => !inside w before
  | .wordEndHalf w => !inside w after

/-- A pattern. -/
inductive Node where
  /-- Matches nothing at all, the text between no characters. -/
  | nothing
  | chars (c : CharClass)
  | place (p : Place)
  | sequence (a b : Node)
  | choice (a b : Node)
  /-- A pattern so many times, at most so many times if there is a bound. -/
  | times (low : Nat) (high : Option Nat) (a : Node)

namespace Node

/-- About how much room a pattern takes, in bytes. -/
def room : Node → Nat
  | .nothing => 32
  | .chars c => 32 * (2 * c.weight - 1)
  | .place _ => 32
  | .sequence a b => a.room + b.room
  | .choice a b => a.room + b.room + 32
  | .times low none a => (max low 1) * a.room + 32
  | .times low (some high) a => (max low high) * (a.room + 32)

/-- The pattern of several patterns one after the other. -/
def ofSequence : List Node → Node
  | [] => .nothing
  | [a] => a
  | a :: rest => .sequence a (ofSequence rest)

/-- The pattern that is one of several patterns. -/
def ofChoices : List Node → Node
  | [] => .nothing
  | [a] => a
  | a :: rest => .choice a (ofChoices rest)

end Node
end Callout.Pattern
