import Callout.Url.Basic

/-!
Reading an address that stands for itself. Control characters and blanks around it count for nothing, and so
do tabs and line ends in it. The scheme says how the rest is read: some schemes always ask somebody, and take
a reversed slash for a slash; the scheme of files has a host only if there is one between slashes; all others
have one only after two slashes.
-/
namespace Callout.Url

/-! ## What may not stand as it is -/

/-- Characters written out in a fragment. -/
def inFragment (c : Char) : Bool := [' ', '"', '<', '>', '\x60'].contains c

/-- Characters written out in a segment. -/
def inSegment (c : Char) : Bool := inFragment c || ['#', '?', '\x7b', '\x7d'].contains c

/-- Characters written out in the name of who asks. -/
def inUser (c : Char) : Bool := inSegment c || ['/', ':', ';', '=', '@', '[', '\\', ']', '^', '|'].contains c

/-- Characters written out in a query. -/
def inQuery (special : Bool) (c : Char) : Bool :=
  [' ', '"', '#', '<', '>'].contains c || (special && c = '\x27')

/-! ## Parts -/

/-- The scheme of a text, in lower case, and what is after the colon. -/
def scheme? (text : List Char) : Option (String × List Char) :=
  let name := text.takeWhile fun c => c.isAlphanum || c = '+' || c = '-' || c = '.'
  match text.head?, text.drop name.length with
  | some first, ':' :: rest =>
    if first.isAlpha then some (String.ofList (name.map Char.toLower), rest) else none
  | _, _ => none

/-- A fragment. -/
def fragmentOf (text : List Char) : String := String.ofList (Percent.encode inFragment text)

/-- The query and the fragment that are left of a text. -/
def withRest (special : Bool) (u : Url) (text : List Char) : Url :=
  match text with
  | '?' :: rest =>
    let query := String.ofList (Percent.encode (inQuery special) (rest.takeWhile (· ≠ '#')))
    let fragment? := (rest.dropWhile (· ≠ '#')).tail?.map fragmentOf
    { u with query? := some query, fragment? }
  | '#' :: rest => { u with fragment? := some (fragmentOf rest) }
  | _ => u

/-- Whether a character ends what is asked for. -/
def endsPath (c : Char) : Bool := c = '?' || c = '#'

/-! ## Segments -/

/-- Whether a character stands between segments. -/
def isSlash (special : Bool) (c : Char) : Bool := c = '/' || (special && c = '\\')

/-- A segment, with points for those that are written out. -/
def dots : List Char → List Char
  | '%' :: '2' :: 'e' :: rest | '%' :: '2' :: 'E' :: rest => '.' :: dots rest
  | c :: rest => c :: dots rest
  | [] => []

/-- Whether a segment is the letter of a drive. -/
def isDrive (segment : String) : Bool :=
  match segment.toList with
  | [letter, mark] => letter.isAlpha && (mark = ':' || mark = '|')
  | _ => false

/-- Segments, last first, without the last one. The letter of a drive stays. -/
def shorten (file : Bool) : List String → List String
  | [] => []
  | [only] => if file && isDrive only then [only] else []
  | _ :: rest => rest

/-- Segments, last first, after one more; a slash may follow it. -/
def place (file : Bool) (before : List String) (segment : String) (slash : Bool) : List String :=
  match dots segment.toList with
  | ['.', '.'] => if slash then shorten file before else "" :: shorten file before
  | ['.'] => if slash then before else "" :: before
  | _ =>
    if file && before.isEmpty && isDrive segment then String.ofList [segment.front, ':'] :: before
    else segment :: before

/-- Segments, last first, of a text; the characters of the segment under way are last first too. -/
def segmentsFrom (special file : Bool) (before : List String) (segment : List Char) :
    List Char → List String
  | [] => place file before (String.ofList segment.reverse) false
  | c :: rest =>
    if isSlash special c then
      segmentsFrom special file (place file before (String.ofList segment.reverse) true) [] rest
    else segmentsFrom special file before ((Percent.encodeChar inSegment c).reverse ++ segment) rest

/-- The segments of a text without the slash before the first. -/
def segmentsOf (special file : Bool) (text : List Char) : List String :=
  let all := (segmentsFrom special file [] [] text).reverse
  if file then
    match all.dropWhile (· = "") with
    | [] => [""]
    | rest => rest
  else all

/-- What is asked for, after who is asked, and what is left of the text. -/
def pathFrom (special file : Bool) (text : List Char) : Path × List Char :=
  let path := text.takeWhile (!endsPath ·)
  let rest := text.dropWhile (!endsPath ·)
  match path with
  | [] => (.segments (if special then [""] else []), rest)
  | c :: tail => (.segments (segmentsOf special file (if isSlash special c then tail else path)), rest)

/-! ## Who is asked -/

/-- The characters up to the host, if there are any, and the host and what is after it. -/
def asker (special : Bool) (text : List Char) : Option (List Char) × List Char :=
  let all := text.takeWhile fun c => !(isSlash special c || endsPath c)
  if all.contains '@' then
    let host := (all.reverse.takeWhile (· ≠ '@')).reverse
    (some ((all.reverse.dropWhile (· ≠ '@')).tail.reverse), host ++ text.drop all.length)
  else (none, text)

/-- The characters of a host, up to the port or the path. Colons between brackets belong to the host. -/
def hostPart (special : Bool) (within : Bool) : List Char → List Char × List Char
  | [] => ([], [])
  | c :: rest =>
    if (c = ':' && !within) || isSlash special c || endsPath c then ([], c :: rest)
    else
      let within := if c = '[' then true else if c = ']' then false else within
      ((c :: (hostPart special within rest).1), (hostPart special within rest).2)

/-- The port at the start of a text, and what is after it. -/
def portPart (text : List Char) : Except Error (Option Nat × List Char) :=
  let digits := text.takeWhile Char.isDigit
  let rest := text.drop digits.length
  let port := digits.foldl (fun n c => n * 10 + (c.toNat - '0'.toNat)) 0
  if port > 65535 then .error .invalidPort
  else if rest.head?.all fun c => ['/', '\\', '?', '#'].contains c then
    .ok (if digits = [] then none else some port, rest)
  else .error .invalidPort

/-- Who is asked, and what is after it. -/
def authority (scheme : String) (text : List Char) : Except Error (Authority × List Char) := do
  let special := isSpecial scheme
  let (asker?, text) := asker special text
  if asker? = some [] && text.head?.any fun c => isSlash special c || endsPath c then throw .emptyHost
  let name := (asker?.getD []).takeWhile (· ≠ ':')
  let password := (asker?.getD []).drop (name.length + 1)
  let (host, rest) := hostPart special false text
  if host = [] ∧ special then throw .emptyHost
  let host ← if special then Host.parse host else Host.parseOpaque host
  if host = .name "" ∧ (rest.head? = some ':' ∨ name ≠ [] ∨ password ≠ []) then throw .emptyHost
  let (port?, rest) ← match rest with
    | ':' :: rest => portPart rest
    | _ => .ok (none, rest)
  return ({ user := String.ofList (Percent.encode inUser name),
            password := String.ofList (Percent.encode inUser password),
            host? := if host = .name "" then none else some host,
            port? := if port? = usualPort? scheme then none else port? }, rest)

/-- An address after a scheme and two slashes. -/
def asked (scheme : String) (text : List Char) : Except Error Url := do
  let special := isSpecial scheme
  let (authority, rest) ← authority scheme text
  let (path, rest) := pathFrom special false rest
  return withRest special { scheme, authority? := some authority, path } rest

/-- The address of a file, after the scheme. -/
def file (text : List Char) : Except Error Url := do
  let made (host? : Option Host) (text : List Char) : Url :=
    let (path, rest) := pathFrom true true text
    withRest true { scheme := "file", authority? := some { host? }, path } rest
  match text with
  | a :: b :: rest =>
    if isSlash true a && isSlash true b then
      let host := rest.takeWhile fun c => !(isSlash true c || endsPath c)
      if host = [] || isDrive (String.ofList host) then return made none rest
      else
        let rest := rest.drop host.length
        match ← Host.parse host with
        | .name "localhost" => return made none rest
        | host => return made (some host) rest
    else return made none text
  | _ => return made none text

/-- The characters of a text that count. -/
def counted (text : String) : List Char :=
  let trimmed := (text.toList.dropWhile (· ≤ ' ')).reverse.dropWhile (· ≤ ' ') |>.reverse
  trimmed.filter fun c => !(c = '\t' || c = '\n' || c = '\r')

/-- The address that a text is. -/
def parse (text : String) : Except Error Url :=
  match scheme? (counted text) with
  | none => .error .relativeWithoutBase
  | some ("file", rest) => file rest
  | some (scheme, rest) =>
    if isSpecial scheme then asked scheme (rest.dropWhile (isSlash true))
    else
      match rest with
      | '/' :: '/' :: rest => asked scheme rest
      | '/' :: tail =>
        let (path, rest) := pathFrom false false ('/' :: tail)
        .ok (withRest false { scheme, path } rest)
      | _ =>
        let path := rest.takeWhile (!endsPath ·)
        .ok (withRest false { scheme, path := .whole (String.ofList (Percent.encode (fun _ => false) path)) }
          (rest.drop path.length))

end Callout.Url
