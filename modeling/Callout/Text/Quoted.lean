import Callout.Unicode.Category
import Callout.Unicode.Trait

/-!
Text in quotes, as messages show it. The quote and the backslash are escaped, the usual control
characters have letters of their own, and every other character that prints nothing by itself
(control, format, unassigned, separators but the space, and marks that join the character before)
is written by its hexadecimal code point in braces.
-/
namespace Callout.Text
open Callout.Unicode

/-- The categories whose characters print something. -/
def printedCategories : List CodeSet :=
  [uppercaseLetter, lowercaseLetter, titlecaseLetter, modifierLetter, otherLetter, nonspacingMark,
   spacingMark, enclosingMark, decimalNumber, letterNumber, otherNumber, connectorPunctuation,
   dashPunctuation, openPunctuation, closePunctuation, initialPunctuation, finalPunctuation,
   otherPunctuation, mathSymbol, currencySymbol, modifierSymbol, otherSymbol]

/-- Whether a character prints something. -/
def isPrinted (c : Char) : Bool := c = ' ' || printedCategories.any (·.has c)

/-- The hexadecimal digits of a code point. -/
def hexText (n : Nat) : List Char := Nat.toDigits 16 n

/-- A character as it stands between quotes. -/
def quotedChar (c : Char) : List Char :=
  match c with
  | '"' => ['\\', '"']
  | '\\' => ['\\', '\\']
  | '\n' => ['\\', 'n']
  | '\r' => ['\\', 'r']
  | '\t' => ['\\', 't']
  | '\x00' => ['\\', '0']
  | c =>
    if isPrinted c && !graphemeExtend.table.has c then [c]
    else ['\\', 'u', '\x7b'] ++ hexText c.toNat ++ ['\x7d']

/-- A text in quotes. -/
def quoted (s : String) : String := String.ofList ('"' :: (s.toList.flatMap quotedChar ++ ['"']))

end Callout.Text
