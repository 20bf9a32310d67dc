import Callout.Decimal.Double
import Callout.Json.Writer

/-!
Values in block layout: a field or an item a line, what is inside further in. A list stands no further in than the
field that it belongs to. A text stands as it is where it cannot be taken for anything else, and in quotes elsewhere.
-/
namespace Callout.Manifest.Layout

/-- Words that stand for something else than text. -/
def reservedWords : List String :=
  ["", "~", "null", "y", "n", "yes", "no", "true", "false", "on", "off", ".nan", ".inf", "-.inf", "+.inf"]

/-- Characters with which no text begins that stands as it is. -/
def indicators : List Char :=
  [',', '[', ']', '\x7b', '\x7d', '#', '&', '*', '!', '|', '>', '\x27', '"', '%', '@', '\x60']

/-- Characters that begin a text that stands as it is only when more follows right away. -/
def openIndicators : List Char := ['-', '?', ':']

/-- Whether a blank follows, or nothing. -/
def atGap (rest : List Char) : Bool := rest.head?.all (· = ' ')

/-- Whether something inside a text would end it: a colon before a gap, or a number sign after one. -/
def breaks : List Char → Bool
  | [] => false
  | c :: rest => (c = ':' && atGap rest) || (c = ' ' && rest.head? = some '#') || breaks rest

/-- Whether a text stands as it is. -/
def isPlain (text : String) : Bool :=
  let cs := text.toList
  !reservedWords.contains (text.map Char.toLower) && (Decimal.double? text).isNone &&
    !cs.head?.any (fun c => c = ' ' || indicators.contains c) &&
    !(cs.head?.any openIndicators.contains && atGap (cs.drop 1)) &&
    !cs.getLast?.any (· = ' ') && !breaks cs

/-- A text in the layout. One with control characters has escapes. -/
def scalarText (text : String) : List Char :=
  if text.toList.any fun c => c < ' ' || c = '\x7f' then Json.writeText text
  else if isPlain text then text.toList
  else '\x27' :: (text.toList.flatMap fun c => if c = '\x27' then [c, c] else [c]) ++ ['\x27']

/-- A line further in by a number of steps. -/
def indent (depth : Nat) : List Char := List.replicate (2 * depth) ' '

mutual

/-- A value at the end of a line that is begun, with the lines after it. -/
def write (depth : Nat) : Json → List Char
  | .list [] => " []\n".toList
  | .object [] => [' ', '\x7b', '\x7d', '\n']
  | .list items => '\n' :: writeItems depth items
  | .object fields => '\n' :: writeFields (depth + 1) fields
  | .text text => ' ' :: (scalarText text ++ ['\n'])
  | scalar => ' ' :: (scalar.write ++ ['\n'])

/-- The items of a list, a line each. -/
def writeItems (depth : Nat) : List Json → List Char
  | [] => []
  | item :: items => indent depth ++ '-' :: (writeItem depth item ++ writeItems depth items)

/-- An item after its dash: the first field of an object stands on the line of the dash. -/
def writeItem (depth : Nat) : Json → List Char
  | .object ((key, value) :: fields) =>
    ' ' :: (scalarText key ++ ':' :: (write (depth + 1) value ++ writeFields (depth + 1) fields))
  | .list items => write (depth + 1) (.list items)
  | value => write depth value

/-- The fields of an object, a line each. -/
def writeFields (depth : Nat) : List (String × Json) → List Char
  | [] => []
  | (key, value) :: fields =>
    indent depth ++ (scalarText key ++ ':' :: (write depth value ++ writeFields depth fields))

end

/-- A value as a document. -/
def document : Json → String
  | .object fields => String.ofList (if fields.isEmpty then ['\x7b', '\x7d', '\n'] else writeFields 0 fields)
  | value => String.ofList ((write 0 value).dropWhile (fun c => c = ' ' || c = '\n'))

end Callout.Manifest.Layout
