import Callout.Json.Reader

/-!
Texts that stop too early: more characters could make them the text of a value, but as they are they are none.
-/
namespace Callout.Json

/-- The tokens that characters end, and what is under way after them. -/
def Token.scanOpen : Mode → List Char → Option (List Token × Mode)
  | mode, [] => some ([], mode)
  | mode, c :: cs => do
    let (mode, tokens) ← step mode c
    let (more, mode) ← scanOpen mode cs
    return (tokens ++ more, mode)

/-- What becomes of what is under way when the text stops: a token, or nothing if it stops too early. -/
def Token.close : Mode → Option (List Token)
  | .between => some []
  | .inNumber done => (ofNumber done).map ([·])
  | .inWord done => (ofWord done).map ([·])
  | _ => none

/-- Whether what is under way could go on to a token. -/
def Token.canGoOn : Mode → Bool
  | .inNumber done => (ofNumber ('0' :: done)).isSome
  | .inWord done => ["null", "true", "false"].any fun word => done.reverse.isPrefixOf word.toList
  | _ => true

/-- Whether a text stops too early. -/
def isUnfinished (text : String) : Bool :=
  match Token.scanOpen .between text.toList with
  | none => false
  | some (tokens, mode) =>
    match Reading.run (.within []) tokens, Token.close mode with
    | some (.within frames), some last =>
      match Reading.run (.within frames) last with
      | some (.within _) => true
      | _ => false
    | some (.within _), none => Token.canGoOn mode
    | _, _ => false

end Callout.Json
