import Callout.Template.Value

/-!
Operations on values: arithmetic on integers of 128 bits and on doubles, joining and repeating of texts and
lists, containment, and slices.
-/
namespace Callout.Template.Value

/-- An integer that can be computed with. -/
def ofInt (n : Int) : Except Error Value := if inRange n then .ok (.int n) else .error .invalidOperation

/-- Arithmetic on two values as numbers of one kind. -/
def arithmetic (ints : Int → Int → Except Error Value) (doubles : Float → Float → Value) (a b : Value) :
    Except Error Value :=
  match pair? double? a b with
  | some (.ints a b) => ints a b
  | some (.doubles a b) => .ok (doubles a b)
  | _ => .error .invalidOperation

/-- The items of a list, but of nothing else. -/
def sequence? : Value → Option (List Value)
  | .list l | .iter l => some l
  | .group key items => some [key, .list items]
  | _ => Option.none

/-- A sum; texts and lists are put together. -/
def add (a b : Value) : Except Error Value :=
  match a.sequence?, b.sequence? with
  | some l, some m => .ok (.iter (l ++ m))
  | _, _ =>
    match a, b with
    | .text s _, .text t _ => .ok (ofText (s ++ t))
    | a, b => arithmetic (fun a b => ofInt (a + b)) (fun a b => .float (a + b)) a b

/-- A difference. -/
def subtract : Value → Value → Except Error Value :=
  arithmetic (fun a b => ofInt (a - b)) (fun a b => .float (a - b))

/-- A number of repetitions. -/
def count? (v : Value) : Except Error Nat :=
  match v.int? with
  | some n => if 0 ≤ n ∧ n < 2 ^ 64 then .ok n.toNat else .error .invalidOperation
  | Option.none => .error .invalidOperation

/-- How long what is repeated may become. -/
def maxRepeated : Nat := 100000000

/-- A list several times over. -/
def repeated {α : Type} (l : List α) (n : Nat) : Except Error (List α) :=
  if maxRepeated < l.length * n then .error .invalidOperation else .ok (List.replicate n l).flatten

/-- A product; a text or a list is repeated. -/
def multiply (a b : Value) : Except Error Value :=
  match a, b with
  | .text s _, n | n, .text s _ => do return ofText (String.ofList (← repeated s.toList (← count? n)))
  | .list l, n | n, .list l | .iter l, n | n, .iter l => do return .iter (← repeated l (← count? n))
  | a, b => arithmetic (fun a b => ofInt (a * b)) (fun a b => .float (a * b)) a b

/-- A quotient of doubles. -/
def divide (a b : Value) : Except Error Value :=
  match a.double?, b.double? with
  | some x, some y => .ok (.float (x / y))
  | _, _ => .error .invalidOperation

/-- A quotient that leaves a remainder of zero or more. -/
def divideWhole : Value → Value → Except Error Value :=
  arithmetic (fun a b => if b = 0 then .error .invalidOperation else ofInt (a / b))
    (fun a b => .float (Decimal.quotient a b))

/-- The remainder of zero or more. -/
def remainder : Value → Value → Except Error Value :=
  arithmetic (fun a b => if b = 0 then .error .invalidOperation else ofInt (a % b))
    (fun a b => .float (Decimal.remainder a b))

/-- A power of an integer with a natural exponent; none of those beyond 128 bits is computed. -/
def intPower (a b : Int) : Except Error Value :=
  if b < 0 ∨ 2 ^ 32 ≤ b then .error .invalidOperation
  else if a.natAbs ≤ 1 then ofInt (if b = 0 then 1 else if a = -1 ∧ b % 2 = 0 then 1 else a)
  else if 128 ≤ b then .error .invalidOperation
  else ofInt (a ^ b.toNat)

/-- A power. -/
def power : Value → Value → Except Error Value := arithmetic intPower (fun a b => .float (a ^ b))

/-- The negative of a number. -/
def negate : Value → Except Error Value
  | .int n => ofInt (-n)
  | .float x => .ok (.float (-x))
  | _ => .error .invalidOperation

/-- Whether one list is a part of another one, without a gap. -/
def isPart (part : List Char) : List Char → Bool
  | [] => part.isEmpty
  | c :: cs => part.isPrefixOf (c :: cs) || isPart part cs

/-- Whether a value contains another one: a text a part, a list an item, a map a key. -/
def contains (container v : Value) : Except Error Bool :=
  match container with
  | .undefined _ => .ok false
  | .text s _ => .ok (isPart v.shown.toList s.toList)
  | .list l | .iter l => .ok (l.any (·.equals v))
  | .group key items => .ok (key.equals v || (Value.list items).equals v)
  | .map _ | .named _ | .loop _ => .ok (container.get? v).isSome
  | .space _ | .callable .. | .builtin _ => .ok false
  | _ => .error .invalidOperation

/-- A bound of a slice. -/
def bound? : Value → Except Error (Option Int)
  | .none => .ok Option.none
  | v =>
    match v.int? with
    | some n => if -2 ^ 63 ≤ n ∧ n < 2 ^ 63 then .ok (some n) else .error .invalidOperation
    | Option.none => .error .invalidOperation

/-- A place counted from the end when it is below zero; one before the start is as far off as can be. -/
def fromEnd (length : Nat) (i : Int) : Nat :=
  if 0 ≤ i then i.toNat else if 0 ≤ length + i then (length + i).toNat else 2 ^ 64

/-- Every so-manieth item. -/
def everyNth {α : Type} (step : Nat) (l : List α) : List α :=
  (l.zipIdx.filter fun e => e.2 % step = 0).map (·.1)

/-- The items of a slice that goes forwards. -/
def forwards {α : Type} (l : List α) (start stop : Option Int) (step : Nat) : List α :=
  let first := fromEnd l.length (start.getD 0)
  let last := (stop.map (fromEnd l.length)).getD l.length
  everyNth step ((l.drop first).take (last - first))

/-- The items of a slice that goes backwards. -/
def backwards {α : Type} (l : List α) (start stop : Option Int) (step : Nat) : List α :=
  let length := l.length
  let first := match start with
    | Option.none => length - 1
    | some i => if (length : Int) ≤ i then length - 1 else fromEnd length i
  let last := (stop.map (fromEnd length)).getD 0
  let steps := if last = 0 then (first + step) / step else (first - last + step - 1) / step
  if 2 ^ 63 ≤ first then []
  else (List.range (min steps (length + 1))).filterMap fun i => if first < i * step then Option.none else l[first - i * step]?

/-- A slice of a text or a list. -/
def slice (v start stop step : Value) : Except Error Value := do
  let start ← bound? start
  let stop ← bound? stop
  let step := (← bound? step).getD 1
  let cut {α : Type} (l : List α) : List α :=
    if 0 < step then forwards l start stop step.toNat else backwards l start stop step.natAbs
  if step = 0 then .error .invalidOperation
  else
    match v with
    | .text s _ => return ofText (String.ofList (cut s.toList))
    | .undefined _ | .none => return .list []
    | .list l => return .list (cut l)
    | .iter l => return .iter (cut l)
    | _ => .error .invalidOperation

/-- What an operator makes of two values. -/
def binary (op : BinaryOp) (a b : Value) : Except Error Value :=
  match op with
  | .equal => .ok (.bool (a.equals b))
  | .unequal => .ok (.bool (!a.equals b))
  | .less => .ok (.bool (order a b = .lt))
  | .atMost => .ok (.bool (order a b ≠ .gt))
  | .greater => .ok (.bool (order a b = .gt))
  | .atLeast => .ok (.bool (order a b ≠ .lt))
  | .isIn => (b.contains a).map .bool
  | .add => a.add b
  | .subtract => a.subtract b
  | .multiply => a.multiply b
  | .divide => a.divide b
  | .divideWhole => a.divideWhole b
  | .remainder => a.remainder b
  | .power => a.power b
  | .join => .ok (ofText (a.shown ++ b.shown))

end Callout.Template.Value
