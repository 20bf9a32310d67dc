import Callout.Pattern.Syntax
import Callout.Unicode.Script

/-!
The classes that are named in patterns: general categories, scripts, yes-or-no properties, and the
classes of ASCII. Names are compared without case, blanks, hyphens and low lines, and a leading "is" does
not count.
-/
namespace Callout.Pattern
open Callout.Unicode

/-- A name as names are compared. -/
def looseName (name : List Char) : String :=
  let kept (cs : List Char) : List Char :=
    (cs.filter fun c => c ≠ ' ' ∧ c ≠ '_' ∧ c ≠ '-' ∧ c.toNat < 128).map Char.toLower
  match name with
  | a :: b :: rest =>
    if a.toLower = 'i' ∧ b.toLower = 's' then
      let rest := kept rest
      if rest = ['c'] then "isc" else String.ofList rest
    else String.ofList (kept name)
  | name => String.ofList (kept name)

/-- The single categories with their names. -/
def leafCategories : List (List String × CodeSet) :=
  [(["lu", "uppercaseletter"], uppercaseLetter), (["ll", "lowercaseletter"], lowercaseLetter),
   (["lt", "titlecaseletter"], titlecaseLetter), (["lm", "modifierletter"], modifierLetter),
   (["lo", "otherletter"], otherLetter), (["mn", "nonspacingmark"], nonspacingMark),
   (["mc", "spacingmark"], spacingMark), (["me", "enclosingmark"], enclosingMark),
   (["nd", "decimalnumber", "digit"], decimalNumber), (["nl", "letternumber"], letterNumber),
   (["no", "othernumber"], otherNumber), (["pc", "connectorpunctuation"], connectorPunctuation),
   (["pd", "dashpunctuation"], dashPunctuation), (["ps", "openpunctuation"], openPunctuation),
   (["pe", "closepunctuation"], closePunctuation), (["pi", "initialpunctuation"], initialPunctuation),
   (["pf", "finalpunctuation"], finalPunctuation), (["po", "otherpunctuation"], otherPunctuation),
   (["sm", "mathsymbol"], mathSymbol), (["sc", "currencysymbol"], currencySymbol),
   (["sk", "modifiersymbol"], modifierSymbol), (["so", "othersymbol"], otherSymbol),
   (["zs", "spaceseparator"], spaceSeparator), (["zl", "lineseparator"], lineSeparator),
   (["zp", "paragraphseparator"], paragraphSeparator), (["cc", "control", "cntrl"], control),
   (["cf", "format"], format), (["cs", "surrogate"], surrogate), (["co", "privateuse"], privateUse)]

/-- The letters that start the names of the categories in each group. -/
def categoryGroups : List (List String × List String) :=
  [(["l", "letter"], ["lu", "ll", "lt", "lm", "lo"]), (["lc", "casedletter"], ["lu", "ll", "lt"]),
   (["m", "mark", "combiningmark"], ["mn", "mc", "me"]), (["n", "number"], ["nd", "nl", "no"]),
   (["p", "punctuation", "punct"], ["pc", "pd", "ps", "pe", "pi", "pf", "po"]),
   (["s", "symbol"], ["sm", "sc", "sk", "so"]), (["z", "separator"], ["zs", "zl", "zp"])]

/-- The table of a category, by one of its names. -/
def leafCategory? (name : String) : Option CodeSet :=
  (leafCategories.find? (·.1.contains name)).map (·.2)

/-- Every code point that has a category. -/
def assigned : CharClass := .tables (leafCategories.map (·.2))

/-- The class of a category or a group of categories. -/
def category? (name : String) : Option CharClass :=
  match name with
  | "any" => some .any
  | "assigned" => some assigned
  | "ascii" => some (.span 0 127)
  | "cn" | "unassigned" => some (.not assigned)
  | "c" | "other" =>
    some (.union (.not assigned) (.tables [control, format, surrogate, privateUse]))
  | name =>
    match leafCategory? name with
    | some table => some (.table table)
    | none =>
      (categoryGroups.find? (·.1.contains name)).map fun group => .tables (group.2.filterMap leafCategory?)

/-- The class of a script. -/
def script? (name : String) : Option CharClass :=
  (scripts.find? (·.names.contains name)).map fun s => .table s.table

/-- The class of a yes-or-no property. -/
def trait? (name : String) : Option CharClass :=
  (traits.find? (·.names.contains name)).map fun t => .table t.table

/-- The class that one name stands for; three short names always mean categories. -/
def named? (name : List Char) : Option CharClass :=
  let name := looseName name
  let trait := if name = "cf" ∨ name = "sc" ∨ name = "lc" then none else trait? name
  (trait.or (category? name)).or (script? name)

/-- The class that a name and a value stand for. -/
def valued? (name value : List Char) : Option CharClass :=
  match looseName name with
  | "gc" | "generalcategory" => category? (looseName value)
  | "sc" | "script" | "scx" | "scriptextensions" => script? (looseName value)
  | _ => none

/-- The classes of ASCII that have names of their own. -/
def ascii? (name : String) : Option CharClass :=
  let upper := CharClass.span 65 90
  let lower := CharClass.span 97 122
  let digits := CharClass.span 48 57
  match name with
  | "alnum" => some (.union digits (.union upper lower))
  | "alpha" => some (.union upper lower)
  | "ascii" => some (.span 0 127)
  | "blank" => some (.union (.span 9 9) (.span 32 32))
  | "cntrl" => some (.union (.span 0 31) (.span 127 127))
  | "digit" => some digits
  | "graph" => some (.span 33 126)
  | "lower" => some lower
  | "print" => some (.span 32 126)
  | "punct" => some (.union (.union (.span 33 47) (.span 58 64)) (.union (.span 91 96) (.span 123 126)))
  | "space" => some .asciiBlank
  | "upper" => some upper
  | "word" => some .asciiWord
  | "xdigit" => some (.union digits (.union (.span 65 70) (.span 97 102)))
  | _ => none

end Callout.Pattern
