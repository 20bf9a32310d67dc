import Callout.Dict
import Callout.Fault
import Callout.Text.Blank
import Callout.Url.Basic

/-!
Requests: a method, an address, headers and perhaps a body. The name of a header counts in lower case, and a
later header takes the place of an earlier one of its name.
-/
namespace Callout.Http

/-- Characters of a token: the word of a method or the name of a header. -/
def isTokenChar (c : Char) : Bool :=
  c.isAlphanum || ['!', '#', '$', '%', '&', '\x27', '*', '+', '-', '.', '^', '_', '\x60', '|', '~'].contains c

/-- Whether a text is a token. -/
def isToken (text : String) : Bool := text ≠ "" && text.toList.all isTokenChar

/-- Whether a text may be the value of a header. -/
def isHeaderValue (text : String) : Bool := text.toList.all fun c => c = '\t' || (c ≥ ' ' && c ≠ '\x7f')

/-- The usual method. -/
def usualMethod : String := "POST"

/-- The method that a text names, whatever its case. -/
def readMethod (raw? : Option String) : Except Misconfiguration String :=
  match (raw?.map Text.trim).filter (· ≠ "") with
  | none => .ok usualMethod
  | some raw =>
    let method := raw.map Char.toUpper
    if isToken method then .ok method else .error (.method raw)

/-- Headers by name in lower case. -/
abbrev Headers := Dict String

/-- The longest name of a header. -/
def longestName : Nat := 65535

/-- Headers with one more. -/
def withHeader (headers : Headers) (header : String × String) : Except Misconfiguration Headers :=
  if !isToken header.1 || header.1.length > longestName then .error (.headerName header.1)
  else if !isHeaderValue header.2 then .error (.headerValue header.1)
  else .ok (headers.insert (header.1.map Char.toLower) header.2)

/-- The headers that names and values make, in name order. -/
def readHeaders (values : Dict String) : Except Misconfiguration Headers :=
  values.entries.foldlM withHeader Dict.empty

/-- A header that stands unless there is one of its name. -/
def orHeader (headers : Headers) (name value : String) : Headers :=
  if headers.contains name then headers else headers.insert name value

/-- A request. -/
structure Request where
  method : String
  url : Url
  headers : Headers
  body? : Option String
deriving DecidableEq, Inhabited

end Callout.Http
