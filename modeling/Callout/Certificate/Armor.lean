import Callout.Certificate.Base64

/-!
Armour: sections of a text that hold bytes between a line that opens and a line that closes. Text between
sections counts for nothing, and a section that does not close ends the reading. A bundle is read strictly:
a line that seems to open a section has to. What belongs to an identity is read section after section up to
the one that is wanted, and what follows is not looked at.
-/
namespace Callout.Armor

/-- A section: its label and the bytes in it, if its text stands for bytes. -/
structure Section where
  label : String
  content? : Option (List UInt8)
deriving DecidableEq, Repr, Inhabited

/-- Sections up to the end of a text or to the first one that cannot be read. -/
structure Reading where
  sections : List Section
  /-- Whether all of the text has been read. -/
  isWhole : Bool
deriving DecidableEq, Repr, Inhabited

/-- A section in front of what else was read. -/
def Reading.cons (s : Section) (r : Reading) : Reading := { r with sections := s :: r.sections }

/-- The characters of bytes, one for each. -/
def characters (bytes : ByteArray) : List Char := bytes.toList.map fun b => Char.ofNat b.toNat

/-- The lines of a text, without what ends them. -/
def lines (text : List Char) : List (List Char) := text.splitBy fun a _ => a ≠ '\n'

/-- A line without the blanks and control characters at its end. -/
def trimEnd (line : List Char) : List Char := (line.reverse.dropWhile (· ≤ ' ')).reverse

/-- Five dashes. -/
def dashes : List Char := List.replicate 5 '-'

/-- What a line that opens a section begins with. -/
def opening : List Char := dashes ++ "BEGIN ".toList

/-- The line that closes a section. -/
def closing (label : List Char) : List Char := dashes ++ "END ".toList ++ label ++ dashes

/-- The label in a line that opens a section. -/
def label? (line : List Char) : Option (List Char) :=
  let line := trimEnd line
  if opening.isPrefixOf line && dashes.isSuffixOf (line.drop opening.length) then
    some ((line.drop opening.length).dropLast.dropLast.dropLast.dropLast.dropLast)
  else none

/-! ## Bundles -/

/-- Labels of sections whose content has to stand for bytes, whoever asks. -/
def known : List String :=
  ["CERTIFICATE", "PUBLIC KEY", "RSA PRIVATE KEY", "PRIVATE KEY", "EC PRIVATE KEY", "X509 CRL",
   "CERTIFICATE REQUEST", "ECHCONFIG"]

/-- Whether a line that opens a section ends with just five dashes. -/
def closesWithFive (line : List Char) : Bool :=
  ((line.reverse.filter fun c => !(c = '\n' || c = '\r' || c = ' ')).takeWhile (· = '-')).length = 5

/-- The sections of the lines of a bundle, with the label of the section that is open and its text so far. -/
def bundleOf : Option (List Char) → List Char → List (List Char) → Reading
  | none, _, [] => ⟨[], true⟩
  | some _, _, [] => ⟨[], false⟩
  | open?, text, line :: rest =>
    match opening.isPrefixOf line, open? with
    | true, _ =>
      match closesWithFive line, label? line with
      | true, some label => bundleOf (some label) text rest
      | _, _ => ⟨[], false⟩
    | false, none => bundleOf none text rest
    | false, some label =>
      if !(closing label).isPrefixOf line then bundleOf open? (text ++ line) rest
      else if !known.contains (String.ofList label) then bundleOf none [] rest
      else
        match Base64.decode text with
        | none => ⟨[], false⟩
        | some bytes => (bundleOf none [] rest).cons ⟨String.ofList label, some bytes⟩

/-- The sections of a bundle. -/
def bundle (bytes : ByteArray) : Reading := bundleOf none [] (lines (characters bytes))

/-! ## Identities -/

/-- The text of a section without the blank line that may come first. No other line may be blank: a blank
line after others would close a header, and a header says that the content cannot be read as it is. -/
def contentOf (lines : List (List Char)) : Option (List UInt8) :=
  let dense := lines.map trimEnd
  let dense := if dense.head? = some [] then dense.tail else dense
  if dense.contains [] then none else Base64.decode dense.flatten

/-- The sections of lines, with the label of the section that is open and its lines so far, last first. -/
def sectionsOf : Option (List Char) → List (List Char) → List (List Char) → Reading
  | none, _, [] => ⟨[], true⟩
  | some _, _, [] => ⟨[], false⟩
  | none, _, line :: rest => sectionsOf (label? line) [] rest
  | some label, before, line :: rest =>
    if (closing label).isPrefixOf line then
      match contentOf before.reverse with
      | none => ⟨[⟨String.ofList label, none⟩], false⟩
      | content => (sectionsOf none [] rest).cons ⟨String.ofList label, content⟩
    else if (dashes ++ "END ".toList).isPrefixOf line then ⟨[], false⟩
    else sectionsOf (some label) (line :: before) rest

/-- The sections of a text. -/
def sections (bytes : ByteArray) : Reading := sectionsOf none [] (lines (characters bytes))

end Callout.Armor
