/-!
Log records: how urgent a record is, which part of the program says it, and what it says.
-/
namespace Callout.Log

/-- How urgent a record is. -/
inductive Level where
  | error
  | warn
  | info
  | debug
  | trace
deriving DecidableEq, Repr, Inhabited

/-- The words of levels. -/
def Level.words : List (String × Level) :=
  [("error", .error), ("warn", .warn), ("info", .info), ("debug", .debug), ("trace", .trace)]

/-- The place of a level, the most urgent one first. -/
def Level.place : Level → Nat
  | .error => 1
  | .warn => 2
  | .info => 3
  | .debug => 4
  | .trace => 5

/-- A record of the log. -/
structure Record where
  level : Level
  /-- The part of the program that says it. -/
  target : String
  message : String
deriving DecidableEq, Repr, Inhabited

/-- A record as a line. -/
def Record.toText (r : Record) : String :=
  let word := ((Level.words.find? (·.2 = r.level)).map (·.1)).getD ""
  word.map Char.toUpper ++ " " ++ r.target ++ ": " ++ r.message

end Callout.Log
