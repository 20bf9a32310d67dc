import Callout.Pattern.Error
import Callout.Pattern.Parser

/-!
Finding a pattern in a text. A pattern takes a set of places in the text to the set of places where a
match that starts at one of the former can end; a pattern is found when some place is reached from some
place.
-/
namespace Callout.Pattern

/-- The places in a text from which something is possible: `true` at each such place. -/
abbrev Places := List Nat

/-- Places of both sets, each once. -/
def Places.join (a b : Places) : Places := a ++ b.filter (!a.contains ·)

/-- The character before a place. -/
def before (text : Array Char) (i : Nat) : Option Char := if i = 0 then none else text[i - 1]?

/-- The places that are reached from some places in any number of steps, of which at most `fuel` reach
anything new. -/
def closure (step : Places → Places) : Nat → Places → Places → Places
  | 0, reached, _ => reached
  | fuel + 1, reached, frontier =>
    let new := (step frontier).filter (!reached.contains ·)
    if new.isEmpty then reached else closure step fuel (reached ++ new) new

/-- The places that are reached in exactly so many steps. -/
def iterate (step : Places → Places) : Nat → Places → Places
  | 0, places => places
  | n + 1, places => if places.isEmpty then [] else iterate step n (step places)

/-- The places that are reached from some places in at most so many steps. -/
def within (step : Places → Places) : Nat → Places → Places → Places
  | 0, reached, _ => reached
  | n + 1, reached, frontier =>
    let new := (step frontier).filter (!reached.contains ·)
    if new.isEmpty then reached else within step n (reached ++ new) new

/-- The places where a match of a pattern that starts at one of some places can end. -/
def Node.reach (text : Array Char) : Node → Places → Places
  | .nothing, places => places
  | .chars c, places =>
    (places.filter fun i => (text[i]?).any fun x => c.holds x.toNat).map (· + 1)
  | .place p, places => places.filter fun i => p.isBetween (before text i) text[i]?
  | .sequence a b, places => b.reach text (a.reach text places)
  | .choice a b, places => (a.reach text places).join (b.reach text places)
  | .times low high a, places =>
    let start := iterate (a.reach text) low places
    match high with
    | none => closure (a.reach text) (text.size + 1) start start
    | some high => within (a.reach text) (high - low) start start

/-- How much room a pattern may take. -/
def maxRoom : Nat := 10485760

/-- A pattern that is ready to be looked for. -/
structure Compiled where
  node : Node

/-- The pattern that a text says, unless it is too large. -/
def compile (text : String) : Except Error Compiled :=
  match parse text with
  | none => .error .malformed
  | some node => if node.room ≤ maxRoom then .ok ⟨node⟩ else .error .tooLarge

/-- Whether a pattern is found somewhere in a text. -/
def Compiled.isFoundIn (p : Compiled) (text : String) : Bool :=
  let chars := text.toList.toArray
  !(p.node.reach chars (List.range (chars.size + 1))).isEmpty

end Callout.Pattern
