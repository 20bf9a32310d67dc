/-!
Why a text is no pattern.
-/
namespace Callout.Pattern

/-- Why a text is no pattern. -/
inductive Error where
  /-- The text does not follow the grammar of patterns. -/
  | malformed
  /-- The pattern would take more room than a pattern may. -/
  | tooLarge
deriving DecidableEq, Repr, Inhabited

/-- What a message says of the error. -/
def Error.message : Error → String
  | .malformed => "regex parse error: the pattern is not well formed"
  | .tooLarge => "Compiled regex exceeds size limit of 10485760 bytes."

end Callout.Pattern
