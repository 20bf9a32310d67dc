import Callout.Decimal.Double
import Callout.Template.Error
import Callout.Text.Blank

/-!
The tokens of a template. A template is plain text with expressions in double braces, statements in braces
with percent signs, and comments in braces with number signs. A hyphen inside a mark takes the blanks on the
other side of it away, and nothing inside a raw block is read. Between the marks there are names, numbers,
texts in quotes and operators. While a bracket is open, braces do not end an expression.
-/
namespace Callout.Template

/-- A token. -/
inductive Token where
  /-- Plain text. -/
  | data (text : String)
  | openExpr
  | closeExpr
  | openStmt
  | closeStmt
  | name (id : String)
  | text (value : String)
  | int (value : Nat)
  | float (value : Float)
  /-- An operator or a bracket. -/
  | sign (text : String)
  /-- The text cannot be read from here on. -/
  | bad (error : Error)
deriving Inhabited, BEq

namespace Token

/-! ## Plain text -/

/-- A kind of mark. -/
inductive Mark where
  | expr
  | stmt
  | comment
deriving DecidableEq

/-- What a hyphen or a plus in a mark asks for. -/
inductive Trim where
  | usual
  /-- Blanks go away. -/
  | remove
  /-- Blanks stay. -/
  | keep
deriving DecidableEq

/-- What a character after a mark asks for, and how long it is. -/
def Trim.ofChar : Option Char → Trim × Nat
  | some '-' => (.remove, 1)
  | some '+' => (.keep, 1)
  | _ => (.usual, 0)

/-- The text before the first mark, the mark, and what comes from the mark on. -/
def findMark : List Char → List Char × Option (Mark × List Char)
  | '\x7b' :: '\x7b' :: rest => ([], some (.expr, rest))
  | '\x7b' :: '%' :: rest => ([], some (.stmt, rest))
  | '\x7b' :: '#' :: rest => ([], some (.comment, rest))
  | c :: rest =>
    let (before, found) := findMark rest
    (c :: before, found)
  | [] => ([], none)

/-- A list without the blanks at its start. -/
def trimStart (cs : List Char) : List Char := cs.dropWhile Text.isBlank

/-- Whether a character is a blank of ASCII. -/
def isAsciiBlank (c : Char) : Bool := c = ' ' || c = '\t' || c = '\n' || c = '\r' || c = '\x0c'

/-- What follows a word at the start of a list. -/
def afterWord? (word cs : List Char) : Option (List Char) :=
  if word.isPrefixOf cs then some (cs.drop word.length) else none

/-- The rest after a statement of one word, and what the end of it asks for. -/
def basicTag? (word : String) (cs : List Char) : Option (Trim × List Char) := do
  let cs ← afterWord? word.toList (cs.dropWhile isAsciiBlank)
  let cs := cs.dropWhile isAsciiBlank
  let (trim, width) := Trim.ofChar cs.head?
  let cs ← afterWord? ['%', '\x7d'] (cs.drop width)
  return (trim, cs)

/-- The text of a raw block up to its end, what the start of the end asks for, what the end of it asks for,
and the rest. -/
def rawBody? : List Char → Option (List Char × Trim × Trim × List Char)
  | [] => none
  | c :: rest =>
    let closing : Option (Trim × Trim × List Char) :=
      match c :: rest with
      | '\x7b' :: '%' :: inner =>
        let (start, width) := Trim.ofChar inner.head?
        (basicTag? "endraw" (inner.drop width)).map fun (finish, rest) => (start, finish, rest)
      | _ => none
    match closing with
    | some (start, finish, rest) => some ([], start, finish, rest)
    | none => (rawBody? rest).map fun (body, more) => (c :: body, more)

/-- What follows a comment, and whether blanks after it go away. -/
def afterComment? (last : Option Char) : List Char → Option (Bool × List Char)
  | '#' :: '\x7d' :: rest => some (last = some '-', rest)
  | c :: rest => afterComment? (some c) rest
  | [] => none

/-! ## Between the marks -/

/-- A name: letters, digits and low lines of ASCII, no digit first. -/
def isNameStart (c : Char) : Bool := c.isAlpha || c = '_'

/-- Whether a character may go on in a name. -/
def isNamePart (c : Char) : Bool := c.isAlphanum || c = '_'

/-- Where a number is. -/
inductive NumberState where
  | whole
  | based
  | fraction
  | exponent
  | signed
deriving DecidableEq

/-- The state of a number after one more character, unless it is over. -/
def NumberState.next? (base : Nat) : NumberState → Char → Option NumberState
  | .whole, '.' => some .fraction
  | .whole, 'e' | .whole, 'E' | .fraction, 'e' | .fraction, 'E' => some .exponent
  | .exponent, '+' | .exponent, '-' => some .signed
  | s, c =>
    if c.isDigit then some (if s = .exponent then .signed else s)
    else if s = .based ∧ base = 16 ∧ (('a' ≤ c ∧ c ≤ 'f') ∨ ('A' ≤ c ∧ c ≤ 'F')) then some s
    else if c = '_' then some s
    else none

/-- The characters of a number, its last state, and the rest. -/
def scanNumber (base : Nat) : NumberState → List Char → List Char × NumberState × List Char
  | s, [] => ([], s, [])
  | s, c :: rest =>
    match s.next? base c with
    | none => ([], s, c :: rest)
    | some next =>
      let (taken, last, rest) := scanNumber base next rest
      (c :: taken, last, rest)

/-- The worth of a digit of any base. -/
def digitWorth (c : Char) : Nat :=
  if c.isDigit then c.toNat - '0'.toNat
  else if 'a' ≤ c ∧ c ≤ 'z' then c.toNat - 'a'.toNat + 10
  else if 'A' ≤ c ∧ c ≤ 'Z' then c.toNat - 'A'.toNat + 10
  else 99

/-- The number that digits of a base make, within 128 bits. -/
def basedWorth? (base : Nat) (ds : List Char) : Option Nat :=
  if ds = [] ∨ !ds.all (fun c => digitWorth c < base) then none
  else
    let n := ds.foldl (fun n c => n * base + digitWorth c) 0
    if n < 2 ^ 128 then some n else none

/-- The number at the start of a list, and the rest. -/
def number (cs : List Char) : Token × List Char :=
  let (base, start, body) : Nat × NumberState × List Char := match cs with
    | '0' :: 'b' :: rest | '0' :: 'B' :: rest => (2, .based, rest)
    | '0' :: 'o' :: rest | '0' :: 'O' :: rest => (8, .based, rest)
    | '0' :: 'x' :: rest | '0' :: 'X' :: rest => (16, .based, rest)
    | cs => (10, .whole, cs)
  let (taken, last, rest) := scanNumber base start body
  let digits := taken.filter (· ≠ '_')
  if taken.getLast? = some '_' then (.bad .syntaxError, rest)
  else if last = .whole ∨ last = .based then
    ((basedWorth? base digits).elim (.bad .syntaxError) .int, rest)
  else ((Decimal.double? (String.ofList digits)).elim (.bad .syntaxError) .float, rest)

/-- The character that a letter stands for after a backslash. -/
def escapeOf? : Char → Option Char
  | '"' => some '"'
  | '\\' => some '\\'
  | '/' => some '/'
  | '\'' => some '\''
  | 'b' => some '\x08'
  | 'f' => some '\x0c'
  | 'n' => some '\n'
  | 'r' => some '\r'
  | 't' => some '\t'
  | _ => none

/-- The worth of hexadecimal digits. -/
def hexWorth? (ds : List Char) : Option Nat := basedWorth? 16 ds

/-- A text without its escapes; the code points of a pair of halves make one. -/
def unescape : Option Nat → List Char → Option (List Char)
  | none, [] => some []
  | some _, [] => none
  | half, '\\' :: 'u' :: a :: b :: c :: d :: rest => do
    let n ← hexWorth? [a, b, c, d]
    match half with
    | some high =>
      if 0xdc00 ≤ n ∧ n < 0xe000 then
        return Char.ofNat (0x10000 + (high - 0xd800) * 1024 + (n - 0xdc00)) :: (← unescape none rest)
      else none
    | none =>
      if 0xd800 ≤ n ∧ n < 0xdc00 then unescape (some n) rest
      else if 0xdc00 ≤ n ∧ n < 0xe000 then none
      else return Char.ofNat n :: (← unescape none rest)
  | some _, _ => none
  | none, '\\' :: c :: rest => do return (← escapeOf? c) :: (← unescape none rest)
  | none, '\\' :: [] => none
  | none, c :: rest => do return c :: (← unescape none rest)

/-- The characters of a text up to its closing quote, and the rest after that. -/
def scanText (quote : Char) : List Char → Option (List Char × List Char)
  | [] => none
  | '\\' :: c :: rest => (scanText quote rest).map fun (body, rest) => ('\\' :: c :: body, rest)
  | c :: rest =>
    if c = quote then some ([], rest)
    else if c = '\\' then none
    else (scanText quote rest).map fun (body, rest) => (c :: body, rest)

/-- The text in quotes whose opening quote has been read, and the rest. -/
def quotedText (quote : Char) (cs : List Char) : Token × List Char :=
  match scanText quote cs with
  | none => (.bad .syntaxError, [])
  | some (body, rest) =>
    match unescape none body with
    | some cs => (.text (String.ofList cs), rest)
    | none => (.bad .badEscape, rest)

/-- The operator at the start of a list, and the rest. -/
def sign? : List Char → Option (String × List Char)
  | '/' :: '/' :: rest => some ("//", rest)
  | '*' :: '*' :: rest => some ("**", rest)
  | '=' :: '=' :: rest => some ("==", rest)
  | '!' :: '=' :: rest => some ("!=", rest)
  | '>' :: '=' :: rest => some (">=", rest)
  | '<' :: '=' :: rest => some ("<=", rest)
  | c :: rest =>
    if "+-*/%.,:~=><|()[]".contains c ∨ c = '\x7b' ∨ c = '\x7d' then some (String.singleton c, rest) else none
  | [] => none

/-- How an operator changes the number of open brackets. -/
def nesting (sign : String) : Int :=
  if sign = "(" ∨ sign = "[" ∨ sign = "\x7b" then 1
  else if sign = ")" ∨ sign = "]" ∨ sign = "\x7d" then -1
  else 0

/-- The end of an expression or a statement at the start of a list: whether blanks after it go away, and the
rest. -/
def ending? (close : List Char) (cs : List Char) : Option (Bool × List Char) :=
  let (trim, width) := Trim.ofChar cs.head?
  match afterWord? close cs with
  | some rest => some (false, rest)
  | none => if width = 0 then none else (afterWord? close (cs.drop width)).map fun rest => (trim = .remove, rest)

/-! ## All tokens -/

/-- Where the reader of tokens is. -/
inductive Place where
  /-- In plain text; whether blanks go away first. -/
  | plain (trim : Bool)
  /-- In an expression, with so many brackets open. -/
  | inExpr (depth : Int)
  /-- In a statement, with so many brackets open. -/
  | inStmt (depth : Int)

/-- A piece of plain text, unless it is empty. -/
def ofPlain (cs : List Char) : List Token := if cs = [] then [] else [.data (String.ofList cs)]

/-- The tokens of plain text up to the next mark, where the reader is then, and the rest. -/
def stepPlain (trim : Bool) (cs : List Char) : List Token × Place × List Char :=
  let cs := if trim then trimStart cs else cs
  match findMark cs with
  | (before, none) => (ofPlain before, .plain false, [])
  | (before, some (mark, rest)) =>
    let (left, width) := Trim.ofChar rest.head?
    let lead := ofPlain (if left = .remove then Text.trimEnd before else before)
    let inner := rest.drop width
    match mark with
    | .comment =>
      match afterComment? none inner with
      | some (trim, rest) => (lead, .plain trim, rest)
      | none => (lead ++ [.bad .syntaxError], .plain false, [])
    | .expr => (lead ++ [.openExpr], .inExpr 0, inner)
    | .stmt =>
      match basicTag? "raw" inner with
      | none => (lead ++ [.openStmt], .inStmt 0, inner)
      | some (opening, body) =>
        match rawBody? body with
        | none => (lead ++ [.bad .syntaxError], .plain false, [])
        | some (body, start, finish, rest) =>
          let body := if opening = .remove then trimStart body else body
          let body := if start = .remove then Text.trimEnd body else body
          (lead ++ ofPlain body, .plain (finish = .remove), rest)

/-- One token of an expression or a statement, the number of brackets that are open after it, and the rest. -/
def stepCode (depth : Int) (cs : List Char) : Token × Int × List Char :=
  match cs with
  | '\'' :: rest =>
    let (token, rest) := quotedText '\'' rest
    (token, depth, rest)
  | '"' :: rest =>
    let (token, rest) := quotedText '"' rest
    (token, depth, rest)
  | cs =>
    match sign? cs with
    | some (s, rest) => (.sign s, depth + nesting s, rest)
    | none =>
      match cs with
      | [] => (.bad .syntaxError, depth, [])
      | c :: rest =>
        if c.isDigit then
          let (token, rest) := number cs
          (token, depth, rest)
        else if isNameStart c then
          (.name (String.ofList (cs.takeWhile isNamePart)), depth, cs.dropWhile isNamePart)
        else (.bad .syntaxError, depth, rest)

/-- The tokens of a text from a place on, in at most so many steps. -/
def scanFrom : Nat → Place → List Char → List Token
  | 0, _, _ => []
  | fuel + 1, place, cs =>
    let code (close : List Char) (closing : Token) (depth : Int) (back : Int → Place) : List Token :=
      let cs := cs.dropWhile isAsciiBlank
      if cs = [] then []
      else
        match if depth = 0 then ending? close cs else none with
        | some (trim, rest) => closing :: scanFrom fuel (.plain trim) rest
        | none =>
          match stepCode depth cs with
          | (.bad e, _, _) => [.bad e]
          | (token, depth, rest) => token :: scanFrom fuel (back depth) rest
    match place with
    | .plain trim =>
      if cs = [] then []
      else
        let (tokens, place, rest) := stepPlain trim cs
        tokens ++ scanFrom fuel place rest
    | .inExpr depth => code ['\x7d', '\x7d'] .closeExpr depth .inExpr
    | .inStmt depth => code ['%', '\x7d'] .closeStmt depth .inStmt

/-- A template without the line end at its end. -/
def withoutLineEnd (cs : List Char) : List Char :=
  let cs := if cs.getLast? = some '\n' then cs.dropLast else cs
  if cs.getLast? = some '\r' then cs.dropLast else cs

/-- The tokens of a template. -/
def scan (template : String) : List Token :=
  let cs := withoutLineEnd template.toList
  scanFrom (cs.length + 1) (.plain false) cs

end Token
end Callout.Template
