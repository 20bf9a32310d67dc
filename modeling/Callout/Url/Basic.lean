import Callout.Url.Host

/-!
Addresses: a scheme, who is asked there, what is asked for. The text of an address is made of its parts, so
two addresses with the same parts have the same text.
-/
namespace Callout

/-- Who is asked: a host, with a port unless it is the usual one of the scheme, and who asks. -/
structure Authority where
  user : String := ""
  password : String := ""
  /-- The host, if it is not empty. -/
  host? : Option Host := none
  port? : Option Nat := none
deriving DecidableEq, Repr, Inhabited

/-- What is asked for. -/
inductive Url.Path where
  /-- A text without parts. -/
  | whole (text : String)
  /-- Segments, with a slash before each. -/
  | segments (list : List String)
deriving DecidableEq, Repr, Inhabited

/-- An address. -/
structure Url where
  scheme : String
  authority? : Option Authority := none
  path : Url.Path
  query? : Option String := none
  fragment? : Option String := none
deriving DecidableEq, Repr, Inhabited

namespace Authority

/-- Who is asked as text. -/
def toText (a : Authority) : String :=
  a.user ++ (if a.password = "" then "" else ":" ++ a.password) ++
    (if a.user = "" ∧ a.password = "" then "" else "@") ++
    a.host?.elim "" Host.toText ++ a.port?.elim "" fun p => ":" ++ toString p

end Authority

namespace Url

/-- Segments with a slash before each. -/
def segmentsText (list : List String) : String := list.foldl (fun text s => text ++ "/" ++ s) ""

/-- What is asked for as text. Without a host, segments do not begin as one would. -/
def pathText (hasAuthority : Bool) : Path → String
  | .whole text => text
  | .segments list =>
    let text := segmentsText list
    if !hasAuthority && "//".isPrefixOf text then "/." ++ text else text

/-- The text of an address. -/
def toText (u : Url) : String :=
  u.scheme ++ ":" ++ u.authority?.elim "" (fun a => "//" ++ a.toText) ++ pathText u.authority?.isSome u.path ++
    u.query?.elim "" ("?" ++ ·) ++ u.fragment?.elim "" ("#" ++ ·)

/-- The host of an address. -/
def host? (u : Url) : Option Host := u.authority?.bind (·.host?)

/-- The port of an address, if it is not the usual one. -/
def port? (u : Url) : Option Nat := u.authority?.bind (·.port?)

/-- The usual port of a scheme. -/
def usualPort? (scheme : String) : Option Nat :=
  match scheme with
  | "http" | "ws" => some 80
  | "https" | "wss" => some 443
  | "ftp" => some 21
  | _ => none

/-- Whether a scheme says what a host is. -/
def isSpecial (scheme : String) : Bool := scheme = "file" || (usualPort? scheme).isSome

/-- The port of an address, or the usual one. -/
def portOrUsual? (u : Url) : Option Nat := u.port? <|> usualPort? u.scheme

/-- Another host in an address. A port that is told with it counts for nothing. -/
def withHost (u : Url) (host : String) : Except Error Url :=
  match u.path with
  | .whole _ => .error .hostNotAllowed
  | .segments _ =>
    let special := isSpecial u.scheme
    let characters := host.toList
    let name :=
      if characters.head? = some '[' && characters.getLast? = some ']' then characters
      else characters.takeWhile (· ≠ ':')
    if characters = [] ∧ special ∧ u.scheme ≠ "file" then .error .emptyHost
    else if characters.head? = some ':' then .error .invalidHostCharacter
    else do
      let host ← if special then Host.parse name else Host.parseOpaque name
      return { u with authority? := some { u.authority?.getD {} with
        host? := if host = .name "" then none else some host } }

end Url
end Callout
