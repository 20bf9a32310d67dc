/-!
Why a template cannot be rendered.
-/
namespace Callout.Template

/-- Why a template cannot be rendered. -/
inductive Error where
  /-- The text is no template. -/
  | syntaxError
  /-- A value that is needed is not there. -/
  | undefinedValue
  | unknownFilter
  | unknownTest
  | unknownFunction
  | unknownMethod
  /-- An operation on values that do not allow it. -/
  | invalidOperation
  /-- A template that another one refers to is not there. -/
  | templateNotFound
  /-- An argument too many. -/
  | tooManyArguments
  /-- An argument too few. -/
  | missingArgument
  /-- A list of a wrong length to be taken apart. -/
  | cannotUnpack
  /-- A block that is not there. -/
  | unknownBlock
  /-- An escape in a text that stands for nothing. -/
  | badEscape
  /-- An expression that nests too deep or a loop that runs too long. -/
  | outOfSteps
deriving DecidableEq, Repr, Inhabited

/-- What a message says of the error. -/
def Error.message : Error → String
  | .syntaxError => "syntax error"
  | .undefinedValue => "undefined value"
  | .unknownFilter => "unknown filter"
  | .unknownTest => "unknown test"
  | .unknownFunction => "unknown function"
  | .unknownMethod => "unknown method"
  | .invalidOperation => "invalid operation"
  | .templateNotFound => "template not found"
  | .tooManyArguments => "too many arguments"
  | .missingArgument => "missing argument"
  | .cannotUnpack => "cannot unpack"
  | .unknownBlock => "unknown block"
  | .badEscape => "bad string escape"
  | .outOfSteps => "engine ran out of fuel"

end Callout.Template
