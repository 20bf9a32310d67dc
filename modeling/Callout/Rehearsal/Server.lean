import Callout.Cluster.Request
import Callout.Json.Writer

/-!
A stand-in for the server of the cluster. It answers in a fixed order whatever is asked, or by routes, each of which
has answers of its own; and it notes what it was asked.
-/
namespace Callout.Rehearsal
open Cluster (Request Response)

/-- An answer that is arranged. -/
inductive Arranged where
  | response (response : Response)
  /-- What was sent is sent back. -/
  | echo
deriving Inhabited

/-- How a server answers. -/
inductive Script where
  /-- These answers, in order. After the last one requests stay open and are not noted. -/
  | sequence (answers : List Arranged)
  /-- The answers of each route. The last one is given again and again, but a watch is then left open. -/
  | routes (answers : Dict (List Arranged))

/-- A stand-in for the server of the cluster. -/
structure Server where
  script : Script
  /-- The requests that came, in order. -/
  noted : List Request := []
  /-- How many requests came by each route. -/
  counts : Dict Nat := .empty

namespace Server

/-- The route of a request. -/
def route (r : Request) : String := (if r.isWatch then "WATCH" else r.method.toText) ++ " " ++ r.path

/-- What an arranged answer is to a request. -/
def answerTo (r : Request) : Arranged → Response
  | .response response => response
  | .echo => { body := (r.body?.map (·.compact)).getD "" }

/-- The refusal of a request without route. -/
def noRoute (r : Request) : Response :=
  { status := 404,
    body := (Json.ofFields
      [("apiVersion", .text "v1"), ("kind", .text "Status"), ("status", .text "Failure"),
       ("message", .text ("no route " ++ route r)), ("reason", .text "NotFound"), ("code", .int 404)]).compact }

/-- The answer of a route to the request with a number. -/
def answerOf (answers : List Arranged) (number : Nat) (r : Request) : Option Response :=
  match answers[number]? with
  | some answer => some (answerTo r answer)
  | none => if r.isWatch then none else some ((answers.getLast?.map (answerTo r)).getD (noRoute r))

/-- A request, with the answer if it gets one. -/
def receive (s : Server) (r : Request) : Server × Option Response :=
  match s.script with
  | .sequence [] => (s, none)
  | .sequence (answer :: rest) =>
    ({ s with script := .sequence rest, noted := s.noted ++ [r] }, some (answerTo r answer))
  | .routes answers =>
    let number := (s.counts.get? (route r)).getD 0
    ({ s with noted := s.noted ++ [r], counts := s.counts.insert (route r) (number + 1) },
      answerOf ((answers.get? (route r)).getD []) number r)

end Server
end Callout.Rehearsal
