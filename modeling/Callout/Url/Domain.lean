import Callout.Unicode.Category
import Callout.Unicode.Direction
import Callout.Unicode.HostCharacter
import Callout.Unicode.Joining
import Callout.Url.Punycode

/-!
Domain names: labels with points between. Letters beyond ASCII are told in labels that begin with `xn--`, so
every name has one form in ASCII. A label may not begin with a mark, may join letters only where a script
needs it, and keeps to one direction of writing if any label is written from right to left.
-/
namespace Callout.Domain
open Unicode

/-- Characters of ASCII that no domain holds. -/
def isForbidden (c : Char) : Bool :=
  c ≤ ' ' || c = '\x7f' || ['%', '#', '/', ':', '<', '>', '?', '@', '[', '\\', ']', '^', '|'].contains c

/-- Marks of any kind. -/
def isMark (c : Char) : Bool := nonspacingMark.has c || spacingMark.has c || enclosingMark.has c

/-! ## Joining -/

/-- Whether a character that divides or joins letters may stand between what is before it, last first, and
what is after it. -/
def mayJoin (before : List Char) (c : Char) (after : List Char) : Bool :=
  before.head?.any vowelKiller.has ||
    (c = '\u200c' &&
      (before.dropWhile joinsThrough.has).head?.any joinsNext.has &&
      (after.dropWhile joinsThrough.has).head?.any joinsPrevious.has)

/-- Whether all characters that divide or join letters stand where they may. -/
def joinsWell (before : List Char) : List Char → Bool
  | [] => true
  | c :: rest => (!(c = '\u200c' || c = '\u200d') || mayJoin before c rest) && joinsWell (c :: before) rest

/-! ## Direction -/

/-- The direction of a character. -/
inductive Direction where
  | left | right | arabicNumber | europeanNumber | nonspacing | neutral
deriving DecidableEq

/-- The direction of a character. -/
def direction (c : Char) : Direction :=
  if rightToLeft.has c then .right
  else if Unicode.arabicNumber.has c then .arabicNumber
  else if Unicode.europeanNumber.has c then .europeanNumber
  else if Unicode.nonspacing.has c then .nonspacing
  else if Unicode.neutral.has c then .neutral
  else .left

/-- Whether a label makes its domain one that is written from right to left somewhere. -/
def isRightward (label : List Char) : Bool :=
  label.any fun c => direction c = .right || direction c = .arabicNumber

/-- Whether a label keeps to one direction. -/
def keepsDirection (label : List Char) : Bool :=
  let all := label.map direction
  let last := (all.reverse.dropWhile (· = .nonspacing)).head?
  match all.head? with
  | none => true
  | some .right =>
    !all.contains .left && (last.any fun d => d = .right || d = .europeanNumber || d = .arabicNumber) &&
      !(all.contains .europeanNumber && all.contains .arabicNumber)
  | some .left =>
    !all.contains .right && !all.contains .arabicNumber && last.any fun d => d = .left || d = .europeanNumber
  | some _ => false

/-! ## Labels -/

/-- What a label that begins a tale begins with. -/
def mark : List Char := "xn--".toList

/-- Whether a label may stand in a domain. -/
def isSound (label : List Char) : Bool := !(label.head?.any isMark) && joinsWell [] label

/-- Whether a label holds no character that stands for another. -/
def isPlain (label : List Char) : Bool := label.all fun c => hostImage? c = some [c]

/-- The characters of a label that may be told in ASCII. -/
def told? (label : List Char) : Option (List Char) :=
  if mark.isPrefixOf label then do
    let told ← Punycode.decode (label.drop 4)
    if told.isEmpty || told.all (·.toNat < 0x80) || !isPlain told then none else some told
  else some label

/-- A label in ASCII. -/
def asciiLabel (label : List Char) : List Char :=
  if label.all (·.toNat < 0x80) then label else mark ++ Punycode.encode label

/-- The form of a domain name in ASCII. -/
def ofText? (text : String) : Option String := do
  let characters := (← text.toList.mapM hostImage?).flatten
  let labels ← (characters.splitOn '.').mapM told?
  if !labels.all isSound then none
  else if labels.any isRightward && !labels.all keepsDirection then none
  else if labels.any (·.any isForbidden) then none
  else some (".".intercalate (labels.map fun l => String.ofList (asciiLabel l)))

end Callout.Domain
