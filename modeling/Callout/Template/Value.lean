import Callout.Decimal.Double
import Callout.Json.Basic
import Callout.Template.Error
import Callout.Template.Syntax
import Callout.Text.Quoted

/-!
The values that templates work with, how they are shown, and how they are compared. Whole numbers, doubles and
truth values are compared as numbers; values of kinds that cannot be compared are ordered by their kinds.
-/
namespace Callout.Template

/-- A value. -/
inductive Value where
  /-- No value. It cannot be shown, unless it stands for the branch of a choice that is missing. -/
  | undefined (silent : Bool)
  | none
  | bool (value : Bool)
  | int (value : Int)
  | float (value : Float)
  /-- A text; a safe one is not escaped any more. -/
  | text (value : String) (safe : Bool)
  | list (items : List Value)
  /-- Items that are made one after the other. -/
  | iter (items : List Value)
  /-- A list of two whose items have names too: what items have in common, and those items. -/
  | group (key : Value) (items : List Value)
  /-- Entries in the order of their keys. -/
  | map (entries : List (Value × Value))
  /-- Named arguments. -/
  | named (entries : List (String × Value))
  /-- A map whose entries can be assigned, by its number. -/
  | space (id : Nat)
  /-- A function of the language. -/
  | builtin (name : String)
  /-- A part of the template that can be called, with the names that it sees. -/
  | callable (name : String) (parameters : List Parameter) (usesCaller : Bool) (body : List Stmt)
      (scopes : List (List (String × Value)))
  /-- What a template knows of the loop that it is in. -/
  | loop (entries : List (String × Value))

instance : Inhabited Value := ⟨.undefined false⟩

namespace Value

/-- The value that stands for nothing. -/
def missing : Value := .undefined false

/-- A text that is to be escaped. -/
def ofText (s : String) : Value := .text s false

/-- The kinds of values in their order. -/
inductive Kind where
  | undefined
  | none
  | bool
  | number
  | text
  | list
  | map
  | iter
  | plain
deriving DecidableEq, Repr

/-- The place of a kind in the order of kinds. -/
def Kind.rank : Kind → Nat
  | .undefined => 0
  | .none => 1
  | .bool => 2
  | .number => 3
  | .text => 4
  | .list => 5
  | .map => 6
  | .iter => 7
  | .plain => 8

/-- The kind of a value. -/
def kind : Value → Kind
  | .undefined _ => .undefined
  | .none => .none
  | .bool _ => .bool
  | .int _ | .float _ => .number
  | .text _ _ => .text
  | .list _ | .group _ _ => .list
  | .iter _ => .iter
  | .map _ | .named _ | .space _ | .loop _ | .callable .. => .map
  | .builtin _ => .plain

/-- Whether there is no value. -/
def isUndefined (v : Value) : Bool := v.kind = .undefined

/-- The text that a value is. -/
def text? : Value → Option String
  | .text s _ => some s
  | _ => Option.none

/-- The integers that can be computed with. -/
def inRange (n : Int) : Bool := -2 ^ 127 ≤ n && n < 2 ^ 127

/-- The integer that a value counts as. -/
def int? : Value → Option Int
  | .bool b => some (if b then 1 else 0)
  | .int n => some n
  | .float x => if Decimal.isWhole x then (Decimal.whole? x).filter (fun n => -2 ^ 63 ≤ n && n < 2 ^ 63)
    else Option.none
  | _ => Option.none

/-- The double that a value counts as, if no digit is lost. -/
def exactDouble? : Value → Option Float
  | .bool b => some (if b then 1.0 else 0.0)
  | .int n => let x := Decimal.ofInt n; if Decimal.whole? x = some n then some x else Option.none
  | .float x => some x
  | _ => Option.none

/-- The double that a value counts as. -/
def double? : Value → Option Float
  | .bool b => some (if b then 1.0 else 0.0)
  | .int n => some (Decimal.ofInt n)
  | .float x => some x
  | _ => Option.none

/-- Two values that can be compared, as values of one kind. -/
inductive Pair where
  | ints (a b : Int)
  | doubles (a b : Float)
  | texts (a b : String)

/-- Two values as values of one kind. -/
def pair? (double : Value → Option Float) : Value → Value → Option Pair
  | .text a _, .text b _ => some (.texts a b)
  | .float a, b => (double b).map (.doubles a ·)
  | a, .float b => (double a).map (.doubles · b)
  | a, b =>
    match a.int?, b.int? with
    | some a, some b => some (.ints a b)
    | _, _ => Option.none

/-- The order of doubles; the negative zero is less than the positive one, and not-a-number is last. -/
def compareDoubles (a b : Float) : Ordering :=
  if a < b then .lt
  else if b < a then .gt
  else if a == b then
    match Decimal.isNegative a, Decimal.isNegative b with
    | true, false => .lt
    | false, true => .gt
    | _, _ => .eq
  else if a.isNaN then if b.isNaN then .eq else .gt
  else .lt

/-- The order of values that can be compared, or else that of their kinds. -/
def compareSimple (a b : Value) : Ordering :=
  match a, b with
  | .none, .none => .eq
  | .undefined _, .undefined _ => .eq
  | a, b =>
    match pair? exactDouble? a b with
    | some (.ints a b) => compare a b
    | some (.doubles a b) => compareDoubles a b
    | some (.texts a b) => compare a b
    | Option.none => compare a.kind.rank b.kind.rank

mutual

/-- The order of values. Lists are compared item by item, maps entry by entry. -/
def order : Value → Value → Ordering
  | .list a, .list b | .list a, .iter b | .iter a, .list b | .iter a, .iter b => orderItems a b
  | .map a, .map b => orderEntries a b
  | a, b => compareSimple a b

/-- The order of lists. -/
def orderItems : List Value → List Value → Ordering
  | [], [] => .eq
  | [], _ :: _ => .lt
  | _ :: _, [] => .gt
  | a :: as, b :: bs => (order a b).then (orderItems as bs)

/-- The order of maps. -/
def orderEntries : List (Value × Value) → List (Value × Value) → Ordering
  | [], [] => .eq
  | [], _ :: _ => .lt
  | _ :: _, [] => .gt
  | (k, v) :: as, (l, w) :: bs => ((order k l).then (order v w)).then (orderEntries as bs)

end

/-- Whether two values are equal. -/
def equals (a b : Value) : Bool :=
  match a, b with
  | .float x, .float y => x == y
  | .space a, .space b => a = b
  | .builtin a, .builtin b => a = b
  | a, b =>
    match pair? exactDouble? a b with
    | some (.doubles a b) => a == b
    | some (.ints a b) => a = b
    | some (.texts a b) => a = b
    | Option.none =>
      (a.kind = b.kind || (a.kind.rank ∈ [5, 7] && b.kind.rank ∈ [5, 7])) && a.kind ≠ .plain && order a b = .eq

/-- A map with an entry in the place of the one with its key. -/
def insertEntry (key value : Value) : List (Value × Value) → List (Value × Value)
  | [] => [(key, value)]
  | (k, v) :: rest =>
    match order key k with
    | .lt => (key, value) :: (k, v) :: rest
    | .eq => (k, value) :: rest
    | .gt => (k, v) :: insertEntry key value rest

/-- The map of some entries; of several with one key the last counts. -/
def ofEntries (entries : List (Value × Value)) : Value :=
  .map (entries.foldl (fun m e => insertEntry e.1 e.2 m) [])

mutual

/-- The value that a value of the data format is. -/
def ofJson : Json → Value
  | .null => .none
  | .bool b => .bool b
  | .int n => .int n
  | .real x => .float x
  | .text s => ofText s
  | .list items => .list (ofJsonItems items)
  | .object fields => ofEntries (ofJsonFields fields)

/-- The values of items. -/
def ofJsonItems : List Json → List Value
  | [] => []
  | j :: rest => ofJson j :: ofJsonItems rest

/-- The entries of fields. -/
def ofJsonFields : List (String × Json) → List (Value × Value)
  | [] => []
  | (key, j) :: rest => (ofText key, ofJson j) :: ofJsonFields rest

end

/-! ## Showing values -/

mutual

/-- A value as it is shown inside a list or a map. -/
def inner : Value → String
  | .undefined _ => "undefined"
  | .none => "None"
  | .bool true => "True"
  | .bool false => "False"
  | .int n => toString n
  | .float x => Decimal.scientific x
  | .text s _ => Text.quoted s
  | .list l | .iter l => "[" ++ innerItems l true ++ "]"
  | .group key items => "[" ++ inner key ++ ", [" ++ innerItems items true ++ "]]"
  | .map m => "\x7b" ++ innerEntries m true ++ "\x7d"
  | .named m | .loop m => "\x7b" ++ innerNamed m true ++ "\x7d"
  | .space _ => "\x7b\x7d"
  | .builtin name => name
  | .callable name _ _ _ _ => "<macro " ++ name ++ ">"

/-- Items with commas between. -/
def innerItems : List Value → Bool → String
  | [], _ => ""
  | v :: rest, isFirst => (if isFirst then "" else ", ") ++ inner v ++ innerItems rest false

/-- Entries with commas between. -/
def innerEntries : List (Value × Value) → Bool → String
  | [], _ => ""
  | (k, v) :: rest, isFirst =>
    (if isFirst then "" else ", ") ++ inner k ++ ": " ++ inner v ++ innerEntries rest false

/-- Named entries with commas between. -/
def innerNamed : List (String × Value) → Bool → String
  | [], _ => ""
  | (k, v) :: rest, isFirst =>
    (if isFirst then "" else ", ") ++ Text.quoted k ++ ": " ++ inner v ++ innerNamed rest false

end

/-- A value as it is shown by itself. -/
def shown : Value → String
  | .undefined _ => ""
  | .text s _ => s
  | .float x => Decimal.pointed x
  | v => v.inner

/-! ## Parts of values -/

/-- Whether a value counts as true: it is no zero and not empty. -/
def isTrue : Value → Bool
  | .undefined _ | .none => false
  | .bool b => b
  | .int n => n ≠ 0
  | .float x => !(x == 0.0)
  | .text s _ => s ≠ ""
  | .list l | .iter l => !l.isEmpty
  | .map m => !m.isEmpty
  | .named m => !m.isEmpty
  | _ => true

/-- The items that a value is made of: those of a list, the keys of a map, the characters of a text. -/
def items? : Value → Option (List Value)
  | .undefined _ | .none => some []
  | .text s _ => some (s.toList.map fun c => ofText (String.singleton c))
  | .list l | .iter l => some l
  | .group key items => some [key, .list items]
  | .map m => some (m.map (·.1))
  | .named m | .loop m => some (m.map fun e => ofText e.1)
  | _ => Option.none

/-- The number of items. -/
def length? : Value → Option Nat
  | .text s _ => some s.length
  | .list l | .iter l => some l.length
  | .group _ _ => some 2
  | .map m => some m.length
  | .named m | .loop m => some m.length
  | _ => Option.none

/-- An item by its place; places below zero are counted from the end. -/
def itemAt? {α : Type} (l : List α) (i : Int) : Option α :=
  if i < 0 then (if i.natAbs ≤ l.length then l[l.length - i.natAbs]? else Option.none) else l[i.toNat]?

/-- What a value has under a key: an entry of a map, an item of a list or a character of a text. -/
def get? (v key : Value) : Option Value :=
  match v with
  | .map m => (m.find? fun e => order e.1 key = .eq).map (·.2)
  | .named m | .loop m => key.text?.bind fun k => m.lookup k
  | .list l | .iter l => key.int?.bind (itemAt? l)
  | .group a items =>
    match key.text? with
    | some "grouper" => some a
    | some "list" => some (.list items)
    | _ => key.int?.bind (itemAt? [a, .list items])
  | .text s _ => (key.int?.bind (itemAt? s.toList)).map fun c => ofText (String.singleton c)
  | _ => Option.none

/-- What a value has under a name. -/
def attribute? (v : Value) (name : String) : Option Value :=
  match v with
  | .map _ | .named _ | .loop _ | .group _ _ => v.get? (ofText name)
  | _ => Option.none

/-- What a value has under a path of names and places with points between. -/
def path? (v : Value) (path : String) : Except Error Value :=
  (path.splitOn ".").foldlM (fun v part =>
    if v.isUndefined then .error .undefinedValue
    else
      let key := match part.toNat? with
        | some n => Value.int n
        | Option.none => ofText part
      .ok ((v.get? key).getD missing)) v

end Value
end Callout.Template
