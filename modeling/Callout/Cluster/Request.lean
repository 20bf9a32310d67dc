import Callout.Json.Basic
import Callout.Url.Percent

/-!
Requests to the server of the cluster, and its answers. A request has a path and parameters; an answer has a
status and a text, which for a watch comes line by line.
-/
namespace Callout.Cluster

/-- What a request does. -/
inductive Method where
  | get
  | put
deriving DecidableEq, Repr, Inhabited

/-- The word of a method. -/
def Method.toText : Method → String
  | .get => "GET"
  | .put => "PUT"

/-- A request to the server. -/
structure Request where
  method : Method := .get
  path : String
  parameters : List (String × String) := []
  body? : Option Json := none
deriving Inhabited

/-- An answer of the server. -/
structure Response where
  status : Nat := 200
  body : String
deriving DecidableEq, Repr, Inhabited

namespace Request

/-- Whether a request asks for a watch. -/
def isWatch (r : Request) : Bool := r.parameters.lookup "watch" = some "true"

/-- Whether a character stands in a parameter as it is. -/
def isPlain (c : Char) : Bool := c.isAlphanum || ['*', '-', '.', '_'].contains c

/-- A text as it stands in a parameter: a blank is a plus sign. -/
def encode (text : String) : String :=
  String.ofList <| text.toList.flatMap fun c =>
    if c = ' ' then ['+'] else Percent.encodeChar (fun c => !isPlain c) c

/-- The texts of the parameters, in order. -/
def query (r : Request) : List String :=
  (r.parameters.map fun p => encode p.1 ++ "=" ++ encode p.2).mergeSort (· ≤ ·)

end Request

/-- The lines of a text. The last line need not end. -/
def Response.lines (r : Response) : List String :=
  let lines := r.body.splitOn "\n"
  (if lines.getLast? = some "" then lines.dropLast else lines).map fun line =>
    if line.endsWith "\r" then String.ofList line.toList.dropLast else line

end Callout.Cluster
