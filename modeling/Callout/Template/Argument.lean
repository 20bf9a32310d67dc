import Callout.Template.Value

/-!
Arguments of filters, tests and functions: how many there may be, and what each of them has to be. A value
that is not there is an error wherever a certain kind of value is needed.
-/
namespace Callout.Template

/-- The arguments of a call. -/
structure Arguments where
  positional : List Value
  named : List (String × Value)

namespace Value

/-- A value that has to be there. -/
def present (v : Value) : Except Error Value := if v.isUndefined then .error .undefinedValue else .ok v

/-- The text of a value, which is not named arguments. -/
def asText (v : Value) : Except Error String := do
  match ← v.present with
  | .named _ => .error .invalidOperation
  | v => return v.shown

/-- The natural number that a value is. -/
def asNat (v : Value) : Except Error Nat := do
  match (← v.present).int? with
  | some n => if 0 ≤ n ∧ n < 2 ^ 64 then .ok n.toNat else .error .invalidOperation
  | Option.none => .error .invalidOperation

/-- The integer that a value is. -/
def asInt (v : Value) : Except Error Int := do
  match (← v.present).int? with
  | some n => .ok n
  | Option.none => .error .invalidOperation

/-- The truth value that a value is. -/
def asBool (v : Value) : Except Error Bool := do
  match ← v.present with
  | .bool b => .ok b
  | _ => .error .invalidOperation

/-- The items of a value that has some. -/
def asItems (v : Value) : Except Error (List Value) :=
  if v.isUndefined then .error .invalidOperation
  else
    match v.items? with
    | some items => .ok items
    | Option.none => .error .invalidOperation

end Value

namespace Arguments

/-- The arguments by place, of which there are at least and at most so many; named ones together count as
one more. -/
def places (a : Arguments) (least most : Nat) : Except Error (List Value) :=
  let all := if a.named.isEmpty then a.positional else a.positional ++ [.named a.named]
  if most < all.length then .error .tooManyArguments
  else if all.length < least then .error .missingArgument
  else .ok all

/-- The argument at a place, or the value that stands for nothing. -/
def nth (places : List Value) (i : Nat) : Value := (places[i]?).getD .missing

/-- The argument at a place, if there is one that stands for something. -/
def optional (places : List Value) (i : Nat) : Option Value :=
  (places[i]?).filter fun v => !v.isUndefined && v.kind ≠ .none

/-- A named argument, if there is one that stands for something. -/
def option (a : Arguments) (name : String) : Option Value :=
  (a.named.lookup name).filter fun v => !v.isUndefined && v.kind ≠ .none

/-- Refuses named arguments other than those given. -/
def onlyNamed (a : Arguments) (names : List String) : Except Error Unit :=
  if a.named.all fun e => names.contains e.1 then .ok () else .error .tooManyArguments

/-- A named truth value. -/
def flag (a : Arguments) (name : String) : Except Error Bool :=
  match a.option name with
  | some v => v.asBool
  | none => .ok false

end Arguments
end Callout.Template
