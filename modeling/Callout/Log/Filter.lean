import Callout.Decimal.Double
import Callout.Log.Record
import Callout.Text.Blank
import Callout.Unicode.Category
import Callout.Unicode.Trait

/-!
Filters of the log. A filter is a list of directives with commas between. A directive has a limit, and may name the
part of the program for which it holds: every target that begins with the name. Of the directives that hold for a
target the one with the longest name decides. A directive for spans lets no record pass, since there are no spans.
-/
namespace Callout.Log

/-- The place of the last level that passes; none passes if it is zero. -/
abbrev Limit := Nat

/-- A part of a filter. -/
structure Directive where
  /-- The name with which targets begin. -/
  name? : Option String := none
  limit : Limit
deriving DecidableEq, Repr, Inhabited

/-- Directives, of which no two are for one name. -/
abbrev Filter := List Directive

/-- The limit that a text names, by a word or by a number. -/
def Limit.read (text : String) : Option Limit :=
  let lower := text.map Char.toLower
  match Decimal.integer? text with
  | some n => if 0 ≤ n ∧ n ≤ Level.trace.place ∧ !text.startsWith "-" then some n.toNat else none
  | none =>
    if lower = "off" then some 0
    else if lower = "" then some Level.error.place
    else (Level.words.lookup lower).map Level.place

namespace Directive

/-- The limit of a directive after an equals sign. Without a word everything passes. -/
def readLimit (text : String) : Option Limit := if text = "" then some Level.trace.place else Limit.read text

/-- Whether a directive may begin with a character. -/
def mayBegin (c : Char) : Bool :=
  ['-', ':', '_', '['].contains c || Unicode.alphabetic.table.has c ||
    [Unicode.decimalNumber, Unicode.letterNumber, Unicode.otherNumber].any (·.has c)

/-- Whether what follows an opening bracket is a span with the end of a directive. -/
def isSpanEnd (text : List Char) : Bool :=
  match text.dropWhile (· ≠ ']') with
  | [] => false
  | [_] => true
  | _ :: '=' :: limit => (readLimit (String.ofList limit)).isSome
  | _ => false

/-- Reads a directive, if it is one; one for spans holds for nothing. A text that is no level is a name. -/
def read (text : String) : Option (Option Directive) :=
  let trimmed := (Text.trim text).toList
  let inside := trimmed.takeWhile fun c => c ≠ '=' && c ≠ '['
  let name := String.ofList (text.toList.take inside.length)
  match trimmed with
  | [] => none
  | first :: _ =>
    if !mayBegin first then none
    else
      match trimmed.drop inside.length with
      | [] =>
        some <| some <|
          match Limit.read text with
          | some limit => { limit }
          | none => { name? := some text, limit := Level.trace.place }
      | '=' :: _ =>
        (readLimit (String.ofList (text.toList.drop (inside.length + 1)))).map fun limit =>
          some { name? := some name, limit }
      | _ :: rest => if isSpanEnd rest then some none else none

/-- Whether a directive holds for a target. -/
def holdsFor (d : Directive) (target : String) : Bool := d.name?.all fun name => target.startsWith name

/-- The length of the name of a directive, longer than none at all. -/
def weight (d : Directive) : Nat := d.name?.elim 0 (·.utf8ByteSize + 1)

end Directive

namespace Filter

/-- A filter with one more directive, in place of one for the same name. -/
def add (f : Filter) (d : Directive) : Filter := f.filter (·.name? ≠ d.name?) ++ [d]

/-- Reads a filter. A text without directives lets errors pass. -/
def read (text : String) : Option Filter := do
  let directives ← ((text.splitOn ",").filter (· ≠ "")).mapM Directive.read
  if directives.isEmpty then return [{ limit := Level.error.place }]
  else return (directives.filterMap id).foldl add []

/-- The filter of a text that may be no filter, or be missing. -/
def ofText? (text? : Option String) : Filter := (text?.bind read).getD [{ limit := Level.info.place }]

/-- The limit for a target. -/
def limitFor (f : Filter) (target : String) : Limit :=
  let holding := (f.filter (·.holdsFor target)).mergeSort fun a b => a.weight ≥ b.weight
  (holding.head?.map (·.limit)).getD 0

/-- Whether a record passes. -/
def passes (f : Filter) (r : Record) : Bool := r.level.place ≤ f.limitFor r.target

end Filter
end Callout.Log
