import Callout.Pattern.Search

/-!
Patterns, whatever finds them. What reads patterns is general in it; a program that runs looks for them as
`Callout.Pattern` does.
-/
namespace Callout

/-- What finds patterns in texts. -/
class Patterns where
  /-- The test that a pattern is for texts, or why a text is no pattern. -/
  read : String → Except String (String → Bool)

instance : Patterns where
  read pattern := ((Pattern.compile pattern).map (·.isFoundIn)).mapError (·.message)

end Callout
