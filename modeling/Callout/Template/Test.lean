import Callout.Template.Argument
import Callout.Template.Operation
import Callout.Unicode.Trait

/-!
Tests of values: what they are, what they are equal to or less than, and how they are written.
-/
namespace Callout.Template.Test

/-- What a test does with a value and its arguments. -/
abbrev Check := Value → List Value → Except Error Bool

/-- A test without arguments. -/
def plain (p : Value → Bool) : Check := fun v args => if args.isEmpty then .ok (p v) else .error .tooManyArguments

/-- A test with one argument. -/
def one (p : Value → Value → Except Error Bool) : Check := fun v args =>
  match args with
  | [a] => p v a
  | [] => .error .missingArgument
  | _ => .error .tooManyArguments

/-- A test of the text of a value. -/
def written (p : List Char → Bool) : Check := fun v args => do
  if args.isEmpty then return p (← v.asText).toList else .error .tooManyArguments

/-- A comparison. -/
def compared (op : BinaryOp) : Check := one fun v a => do return (← v.binary op a).isTrue

/-- Whether a value is a whole number. -/
def isInteger : Value → Bool
  | .int _ => true
  | _ => false

/-- Whether a value is a double. -/
def isDouble : Value → Bool
  | .float _ => true
  | _ => false

/-- Whether a value is a text that is not escaped any more. -/
def isSafe : Value → Bool
  | .text _ safe => safe
  | _ => false

/-- Whether two values are of one kind and equal. -/
def isSame (a b : Value) : Bool := a.kind = b.kind && isInteger a == isInteger b && a.equals b

/-- All tests but those of the names of filters and tests. -/
def table : List (String × Check) :=
  [("undefined", plain Value.isUndefined), ("defined", plain fun v => !v.isUndefined),
   ("none", plain fun v => v.kind = .none), ("safe", plain isSafe), ("escaped", plain isSafe),
   ("boolean", plain fun v => v.kind = .bool),
   ("odd", plain fun v => v.int?.any fun n => n % 2 ≠ 0), ("even", plain fun v => v.int?.any fun n => n % 2 = 0),
   ("divisibleby", one fun v a => .ok <|
     match v.pair? Value.double? a with
     | some (.ints a b) => b ≠ 0 && a % b = 0
     | some (.doubles a b) => Decimal.remainder a b == 0.0
     | _ => false),
   ("number", plain fun v => v.kind = .number), ("integer", plain isInteger), ("int", plain isInteger),
   ("float", plain isDouble), ("string", plain fun v => v.kind = .text),
   ("sequence", plain fun v => v.kind = .list), ("iterable", plain fun v => v.items?.isSome),
   ("mapping", plain fun v => v.kind = .map),
   ("startingwith", one fun v a => do return (← a.asText).toList.isPrefixOf (← v.asText).toList),
   ("endingwith", one fun v a => do return (← a.asText).toList.isSuffixOf (← v.asText).toList),
   ("lower", written fun cs => cs.all Unicode.lowercase.table.has),
   ("upper", written fun cs => cs.all Unicode.uppercase.table.has),
   ("sameas", one fun v a => .ok (isSame v a)),
   ("eq", compared .equal), ("equalto", compared .equal), ("==", compared .equal),
   ("ne", compared .unequal), ("!=", compared .unequal),
   ("lt", compared .less), ("lessthan", compared .less), ("<", compared .less),
   ("le", compared .atMost), ("<=", compared .atMost),
   ("gt", compared .greater), ("greaterthan", compared .greater), (">", compared .greater),
   ("ge", compared .atLeast), (">=", compared .atLeast),
   ("in", one fun v a => if a.isUndefined then .error .undefinedValue else a.contains v),
   ("true", plain fun v => v matches .bool true), ("false", plain fun v => v matches .bool false)]

/-- The test of a name. -/
def find? (name : String) : Option Check := table.lookup name

/-- Whether a value passes a test. -/
def passes (name : String) (v : Value) (args : List Value) : Except Error Bool :=
  match find? name with
  | some check => check v args
  | none => .error .unknownTest

end Callout.Template.Test
