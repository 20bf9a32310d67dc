import Callout.Template.Test
import Callout.Text.Blank
import Callout.Unicode.Casing

/-!
Filters: what a template can do to a value beside the operators. A filter takes the value and arguments;
filters that go through lists can name a test or another filter.
-/
namespace Callout.Template.Filter
open Arguments (optional nth)

/-- What a filter makes of a value and arguments. -/
abbrev Transform := Value → Arguments → Except Error Value

/-- A filter without arguments. -/
def plain (f : Value → Except Error Value) : Transform := fun v a => do
  let _ ← a.places 0 0
  f v

/-- A filter of texts without arguments. -/
def written (f : String → String) : Transform := plain fun v => do return .ofText (f (← v.asText))

/-! ## Texts -/

/-- Whether a character is punctuation of ASCII. -/
def isAsciiPunctuation (c : Char) : Bool := 33 ≤ c.toNat && c.toNat ≤ 126 && !c.isAlphanum

/-- A text with a capital at the start of each word. -/
def titled (s : String) : String :=
  let step (done : List Char × Bool) (c : Char) : List Char × Bool :=
    if isAsciiPunctuation c || Text.isBlank c then (c :: done.1, true)
    else if done.2 then ((Unicode.upper c).reverse ++ done.1, false)
    else ((Unicode.lower c).reverse ++ done.1, false)
  String.ofList (s.toList.foldl step ([], true)).1.reverse

/-- A text with a capital at its start and nowhere else. -/
def capitalized (s : String) : String :=
  match s.toList with
  | [] => ""
  | c :: rest => String.ofList (Unicode.upper c) ++ Unicode.lowerText (String.ofList rest)

/-- A list in which a part is replaced wherever it stands; the empty part stands before each item and at the
end. The number says how many items are passed over first. -/
def replaceFrom (part new : List Char) : Nat → List Char → List Char
  | _, [] => if part.isEmpty then new else []
  | skip + 1, _ :: rest => replaceFrom part new skip rest
  | 0, c :: rest =>
    if part.isEmpty then new ++ c :: replaceFrom part new 0 rest
    else if part.isPrefixOf (c :: rest) then new ++ replaceFrom part new (part.length - 1) rest
    else c :: replaceFrom part new 0 rest

/-- The parts of a list between the places where a separator stands, at most so many. -/
def splitFrom (separator : List Char) : Nat → Nat → List Char → List Char → List (List Char)
  | _, _, done, [] => [done.reverse]
  | limit, skip + 1, done, _ :: rest => splitFrom separator limit skip done rest
  | 0, 0, done, rest => [done.reverse ++ rest]
  | limit + 1, 0, done, c :: rest =>
    if separator.isPrefixOf (c :: rest) then done.reverse :: splitFrom separator limit (separator.length - 1) [] rest
    else splitFrom separator (limit + 1) 0 (c :: done) rest

/-- The parts of a list between blanks, at most so many. -/
def splitBlanks : Nat → List Char → List Char → List (List Char)
  | _, done, [] => [done.reverse]
  | 0, done, rest => [done.reverse ++ rest]
  | limit + 1, done, c :: rest =>
    if Text.isBlank c then done.reverse :: splitBlanks limit [] rest else splitBlanks (limit + 1) (c :: done) rest

/-- The parts of a text. -/
def parts (s : String) (separator? : Option String) (limit? : Option Nat) : List (List Char) :=
  let cs := s.toList
  let limit := limit?.getD (cs.length + 2)
  match separator? with
  | some "" =>
    let all := [[]] ++ cs.map ([·]) ++ [[]]
    if all.length ≤ limit + 1 then all else all.take limit ++ [(all.drop limit).flatten]
  | some separator => splitFrom separator.toList limit 0 [] cs
  | none =>
    match limit? with
    | none => (splitBlanks limit [] cs).filter (!·.isEmpty)
    | some limit => splitBlanks limit [] cs

/-- Texts as a list. -/
def textList (l : List (List Char)) : Value := .list (l.map fun cs => .ofText (String.ofList cs))

/-- The lines of a text. -/
def lines (s : String) : List (List Char) :=
  let all := splitFrom ['\n'] (s.length + 1) 0 [] s.toList
  let all := if all.getLast? = some [] then all.dropLast else all
  all.map fun l => if l.getLast? = some '\r' then l.dropLast else l

/-- A list without the line end at its end. -/
def withoutLineEnd (cs : List Char) : List Char :=
  let cs := if cs.getLast? = some '\n' then cs.dropLast else cs
  if cs.getLast? = some '\r' then cs.dropLast else cs

/-- A text whose lines start with blanks; the first one and empty ones only if asked for. -/
def indented (s : String) (width : Nat) (first blank : Bool) : String :=
  let pad := List.replicate width ' '
  let line (l : List Char) : List Char := if l.isEmpty then (if blank then pad else []) else pad ++ l
  let all := splitFrom ['\n'] (s.length + 1) 0 [] (withoutLineEnd s.toList)
  let all := match all with
    | l :: rest => (if first then line l else l) :: rest.map line
    | [] => []
  String.ofList (withoutLineEnd (all.flatMap fun l => l ++ ['\n']))

/-- A character as it stands in a page. -/
def escapedChar : Char → List Char
  | '<' => "&lt;".toList
  | '>' => "&gt;".toList
  | '&' => "&amp;".toList
  | '"' => "&quot;".toList
  | '\'' => "&#x27;".toList
  | '/' => "&#x2f;".toList
  | c => [c]

/-- A value as it stands in a page. -/
def escaped (v : Value) : String :=
  match v with
  | .text s true => s
  | .text s false => String.ofList (s.toList.flatMap escapedChar)
  | .undefined _ | .none | .bool _ | .int _ | .float _ => v.shown
  | v => String.ofList (v.shown.toList.flatMap escapedChar)

mutual

/-- A value over several lines, so far in. -/
def laidOut (depth : Nat) : Value → String
  | .list [] | .iter [] => "[]"
  | .list l | .iter l => "[\n" ++ laidOutItems (depth + 1) l ++ indent depth ++ "]"
  | .map [] => "\x7b\x7d"
  | .map m => "\x7b\n" ++ laidOutEntries (depth + 1) m ++ indent depth ++ "\x7d"
  | v => v.inner
where
  /-- The blanks at the start of a line. -/
  indent (depth : Nat) : String := "".pushn ' ' (4 * depth)

/-- Items, each on lines of its own. -/
def laidOutItems (depth : Nat) : List Value → String
  | [] => ""
  | v :: rest => "".pushn ' ' (4 * depth) ++ laidOut depth v ++ ",\n" ++ laidOutItems depth rest

/-- Entries, each on lines of its own. -/
def laidOutEntries (depth : Nat) : List (Value × Value) → String
  | [] => ""
  | (k, v) :: rest =>
    "".pushn ' ' (4 * depth) ++ k.inner ++ ": " ++ laidOut depth v ++ ",\n" ++ laidOutEntries depth rest

end

/-! ## Numbers -/

/-- A whole number: of a number, of a truth value or of the text of a number. -/
def whole : Value → Except Error Value
  | .undefined _ | .none => .ok (.int 0)
  | .bool b => .ok (.int (if b then 1 else 0))
  | .int n => .ok (.int n)
  | .float x => .ok (ofDouble x)
  | .text s _ =>
    match (Decimal.integer? s).filter Value.inRange with
    | some n => .ok (.int n)
    | none => match Decimal.double? s with
      | some x => .ok (ofDouble x)
      | none => .error .invalidOperation
  | _ => .error .invalidOperation
where
  /-- The whole part of a double, held within 128 bits. -/
  ofDouble (x : Float) : Value :=
    match Decimal.whole? x with
    | some n => .int (max (-2 ^ 127) (min n (2 ^ 127 - 1)))
    | none => .int (if x.isNaN then 0 else if x < 0.0 then -2 ^ 127 else 2 ^ 127 - 1)

/-- A double: of a number, of a truth value or of the text of a number. -/
def double : Value → Except Error Value
  | .undefined _ | .none => .ok (.float 0.0)
  | .text s _ => ((Decimal.double? s).map .float).elim (.error .invalidOperation) .ok
  | v => (v.double?.map .float).elim (.error .invalidOperation) .ok

/-- A double rounded to so many places; a half goes away from zero. -/
def rounded (v : Value) (places : Int) : Except Error Value :=
  match v with
  | .int n => .ok (.int n)
  | .float x =>
    let unit : Float := if 0 ≤ places then Decimal.ofNat (10 ^ (min places 400).toNat)
      else 1.0 / Decimal.ofNat (10 ^ (min (-places) 400).toNat)
    .ok (.float ((unit * x).round / unit))
  | _ => .error .invalidOperation

/-- An absolute value. -/
def absolute : Value → Except Error Value
  | .int n => Value.ofInt n.natAbs
  | .float x => .ok (.float x.abs)
  | _ => .error .invalidOperation

/-! ## Lists -/

/-- A text without capitals of ASCII. -/
def lowered (s : String) : String := s.map Char.toLower

/-- The order of values; capitals of ASCII count only if asked for. -/
def order (caseCounts : Bool) (a b : Value) : Ordering :=
  match caseCounts, a, b with
  | false, .text s _, .text t _ => compare (lowered s) (lowered t)
  | _, a, b => Value.order a b

/-- A list in the order of what a function makes of its items. -/
def sortedBy (caseCounts : Bool) (f : Value → Value) (l : List Value) : List Value :=
  ((l.map fun v => (f v, v)).mergeSort fun a b => order caseCounts a.1 b.1 ≠ .gt).map (·.2)

/-- What a value has under a path, or another value. -/
def pathOr (path : String) (otherwise v : Value) : Value :=
  match v.path? path with
  | .ok found => if found.isUndefined then otherwise else found
  | .error _ => otherwise

/-- What items are compared by: something they have under a path, or themselves. -/
def keyOf (a : Arguments) : Except Error (Value → Value) :=
  match a.option "attribute" with
  | some p => do let p ← p.asText; return pathOr p .missing
  | none => .ok id

/-- A list without items that are equal to an earlier one. -/
def distinct (key : Value → Value) : List Value → List Value → List Value
  | _, [] => []
  | seen, v :: rest =>
    let k := key v
    if seen.any (fun s => Value.order s k = .eq) then distinct key seen rest else v :: distinct key (k :: seen) rest

/-- Neighbours with one key put together. -/
def grouped (caseCounts : Bool) (key : Value → Value) : List Value → List (Value × List Value)
  | [] => []
  | v :: rest =>
    match grouped caseCounts key rest with
    | (k, l) :: more =>
      if order caseCounts (key v) k = .eq then (key v, v :: l) :: more else (key v, [v]) :: (k, l) :: more
    | [] => [(key v, [v])]

/-- A list in rows of so many; the last row is filled up if there is something to fill it with. -/
def rows (width : Nat) (fill? : Option Value) : Nat → List Value → List Value
  | 0, _ => []
  | _, [] => []
  | fuel + 1, l =>
    let row := l.take width
    let row := match fill? with
      | some fill => row ++ List.replicate (width - row.length) fill
      | none => row
    .list row :: rows width fill? fuel (l.drop width)

/-- A list in so many columns, of which the first ones are longer by one. -/
def columns (count : Nat) (fill? : Option Value) (l : List Value) : List Value :=
  let short := l.length / count
  let longer := l.length % count
  (List.range count).map fun i =>
    let start := i * short + min i longer
    let column := (l.drop start).take (short + if i < longer then 1 else 0)
    .list (match fill? with
      | some fill => if longer ≤ i ∧ longer ≠ 0 then column ++ [fill] else column
      | none => column)

/-- The sum of numbers. -/
def total (l : List Value) : Except Error Value :=
  l.foldlM (fun sum v =>
    if v.isUndefined then .error .undefinedValue
    else if v.kind = .number then sum.add v
    else .error .invalidOperation) (.int 0)

/-- The text of a list with a text between its items; nothing is put after a start that is empty. -/
def joined (separator : String) (l : List Value) : String :=
  l.foldl (fun s v => (if s = "" then s else s ++ separator) ++ v.shown) ""

/-- The items of several lists side by side, up to the end of the shortest. -/
def zipped : List (List Value) → List Value
  | [] => []
  | [l] => l.map fun v => .list [v]
  | l :: rest => (l.zip (zipped rest)).map fun (v, row) =>
    match row with
    | .list more => .list (v :: more)
    | other => .list [v, other]

/-- A value with its items in the opposite order. -/
def reversed : Value → Except Error Value
  | .undefined s => .ok (.undefined s)
  | .none => .ok .none
  | .text s _ => .ok (.ofText (String.ofList s.toList.reverse))
  | .list l => .ok (.iter l.reverse)
  | v => match v.items? with
    | some l => .ok (.iter l.reverse)
    | none => .error .invalidOperation

/-- An item at one end. -/
def endItem (pick : List Value → Option Value) (v : Value) : Except Error Value :=
  match v.items? with
  | some l => .ok ((pick l).getD .missing)
  | none => .error .invalidOperation

/-- The least item in an order, the first of several. -/
def least (before : Value → Value → Bool) : List Value → Option Value
  | [] => none
  | v :: rest => some (rest.foldl (fun a b => if before b a then b else a) v)

/-- The pairs of a map. -/
def pairs : Value → Except Error (List (Value × Value))
  | .map m => .ok m
  | .named m | .loop m => .ok (m.map fun (k, v) => (.ofText k, v))
  | _ => .error .invalidOperation

/-- A pair as a list. -/
def pairList (e : Value × Value) : Value := .list [e.1, e.2]

/-- The entries of a map in the order of their keys or their values. -/
def sortedPairs (v : Value) (a : Arguments) : Except Error Value := do
  let byValue ← match a.option "by" with
    | none => pure false
    | some by_ => match ← by_.asText with
      | "key" => pure false
      | "value" => pure true
      | _ => .error .invalidOperation
  let caseCounts ← a.flag "case_sensitive"
  let reverse ← a.flag "reverse"
  a.onlyNamed ["by", "case_sensitive", "reverse"]
  if !a.positional.isEmpty then .error .tooManyArguments
  else
    let key (e : Value × Value) : Value := if byValue then e.2 else e.1
    let sorted := (← pairs v).mergeSort fun x y => order caseCounts (key x) (key y) ≠ .gt
    return .list ((if reverse then sorted.reverse else sorted).map pairList)

/-- The items of a value in order. -/
def sorted (v : Value) (a : Arguments) : Except Error Value := do
  let l ← v.asItems
  let caseCounts ← a.flag "case_sensitive"
  let key ← keyOf a
  let reverse ← a.flag "reverse"
  a.onlyNamed ["attribute", "case_sensitive", "reverse"]
  if !a.positional.isEmpty then .error .tooManyArguments
  else
    let l := sortedBy caseCounts key l
    return .list (if reverse then l.reverse else l)

/-- The items of a value without repetitions. -/
def unique (v : Value) (a : Arguments) : Except Error Value := do
  let caseCounts ← a.flag "case_sensitive"
  let key ← keyOf a
  a.onlyNamed ["attribute", "case_sensitive"]
  if !a.positional.isEmpty then .error .tooManyArguments
  else
    let folded (v : Value) : Value :=
      match caseCounts, key v with
      | false, .text s _ => .ofText (Unicode.lowerText s)
      | _, k => k
    return .list (distinct folded [] (← v.asItems))

/-- The items of a value, put together by what they have under a path. -/
def groups (v : Value) (a : Arguments) : Except Error Value := do
  let caseCounts ← a.flag "case_sensitive"
  let path ← match a.positional, a.option "attribute" with
    | [p], none => p.asText
    | [], some p => p.asText
    | [], none => .error .missingArgument
    | _, _ => .error .tooManyArguments
  a.onlyNamed ["attribute", "case_sensitive", "default"]
  let key := pathOr path ((a.named.lookup "default").getD .missing)
  let l := sortedBy caseCounts key (← v.asItems)
  return .list ((grouped caseCounts key l).map fun (k, l) => .group k l)

/-! ## All filters -/

/-- The value that stands for one that is missing, or for a false one if asked for. -/
def default (v : Value) (a : Arguments) : Except Error Value := do
  let args ← a.places 0 2
  let otherwise := (args[0]?).getD (.ofText "")
  let lax ← (optional args 1).elim (.ok false) Value.asBool
  return if v.isUndefined || (lax && !v.isTrue) then otherwise else v

/-- The filters that name no other filter. -/
def table : List (String × Transform) :=
  [("safe", plain fun v => do return .text (← v.asText) true),
   ("escape", plain fun v => .ok (.text (escaped v) true)), ("e", plain fun v => .ok (.text (escaped v) true)),
   ("lower", written Unicode.lowerText), ("upper", written Unicode.upperText),
   ("title", written titled), ("capitalize", written capitalized),
   ("replace", fun v a => do
      let args ← a.places 2 2
      let s ← v.asText
      let part ← (nth args 0).asText
      let new ← (nth args 1).asText
      return .ofText (String.ofList (replaceFrom part.toList new.toList 0 s.toList))),
   ("length", plain fun v => (v.length?).elim (.error .invalidOperation) fun n => .ok (.int n)),
   ("count", plain fun v => (v.length?).elim (.error .invalidOperation) fun n => .ok (.int n)),
   ("dictsort", sortedPairs), ("items", plain fun v => do return .list ((← pairs v).map pairList)),
   ("reverse", plain reversed),
   ("trim", fun v a => do
      let args ← a.places 0 1
      let s ← v.asText
      match optional args 0 with
      | none => return .ofText (Text.trim s)
      | some cut =>
        let cut := (← cut.asText).toList
        let back := (s.toList.dropWhile cut.contains).reverse.dropWhile cut.contains
        return .ofText (String.ofList back.reverse)),
   ("join", fun v a => do
      let args ← a.places 0 1
      let separator ← (optional args 0).elim (.ok "") Value.asText
      match v.items? with
      | some l => return .ofText (joined separator l)
      | none => .error .invalidOperation),
   ("split", fun v a => do
      let args ← a.places 0 2
      let s ← v.asText
      let separator? ← (optional args 0).mapM Value.asText
      let limit? ← (optional args 1).mapM Value.asInt
      return textList (parts s separator? ((limit?.filter (0 ≤ ·)).map Int.toNat))),
   ("lines", plain fun v => do return textList (lines (← v.asText))),
   ("default", default), ("d", default),
   ("round", fun v a => do
      let args ← a.places 0 1
      rounded v (← (optional args 0).elim (.ok 0) Value.asInt)),
   ("abs", plain absolute), ("int", plain whole), ("float", plain double),
   ("attr", fun v a => do
      let args ← a.places 1 1
      return ((← v.present).get? (nth args 0)).getD .missing),
   ("first", plain (endItem List.head?)),
   ("last", plain fun v => if v.kind = .map then .error .invalidOperation else endItem List.getLast? v),
   ("min", plain fun v => do
      return (least (fun a b => Value.order a b = .lt) (← v.asItems)).getD .missing),
   ("max", plain fun v => do
      return (least (fun a b => Value.order a b ≠ .lt) (← v.asItems)).getD .missing),
   ("sort", sorted), ("list", plain fun v => do return .list (← v.asItems)),
   ("string", plain fun v => .ok (match v with
      | .text s safe => .text s safe
      | v => .ofText v.shown)),
   ("bool", plain fun v => .ok (.bool v.isTrue)),
   ("batch", fun v a => do
      let args ← a.places 1 2
      let width ← (nth args 0).asNat
      let l ← v.asItems
      if width = 0 then .error .invalidOperation else return .list (rows width (optional args 1) (l.length + 1) l)),
   ("slice", fun v a => do
      let args ← a.places 1 2
      let count ← (nth args 0).asNat
      let l ← v.asItems
      if count = 0 then .error .invalidOperation else return .list (columns count (optional args 1) l)),
   ("sum", plain fun v => do total (← v.asItems)),
   ("indent", fun v a => do
      let args ← a.places 1 3
      let width ← (nth args 0).asNat
      let first ← (optional args 1).elim (.ok false) Value.asBool
      let blank ← (optional args 2).elim (.ok false) Value.asBool
      return .ofText (indented (← v.asText) width first blank)),
   ("groupby", groups), ("unique", unique),
   ("chain", fun v a => do
      let lists ← (v :: (← a.places 0 2000)).mapM Value.asItems
      return .iter lists.flatten),
   ("zip", fun v a => do
      let lists ← (v :: (← a.places 0 2000)).mapM Value.asItems
      return .iter (zipped lists)),
   ("pprint", plain fun v => .ok (.ofText (laidOut 0 v)))]

/-- The filters that name another filter or a test. -/
def namingNames : List String := ["select", "reject", "selectattr", "rejectattr", "map"]

/-- Whether there is a filter of a name. -/
def isKnown (name : String) : Bool := (table.lookup name).isSome || namingNames.contains name

/-- The items that pass a test, or fail it; without a test, those that count as true. -/
def selected (pass byPath : Bool) (v : Value) (a : Arguments) : Except Error Value := do
  if !a.named.isEmpty then .error .tooManyArguments
  let (path?, rest) ← match byPath, a.positional with
    | true, p :: rest => pure (some (← p.asText), rest)
    | true, [] => .error .missingArgument
    | false, rest => pure (none, rest)
  let keep (item : Value) : Except Error Bool := do
    let item ← match path? with
      | some p => item.path? p
      | none => pure item
    match rest with
    | [] => return item.isTrue == pass
    | name :: args => return (← Test.passes (← name.asText) item args) == pass
  return .list (← (← v.asItems).filterM keep)

/-- What a filter makes of a value. Filters can name each other so many times over. -/
def apply : Nat → String → Value → Arguments → Except Error Value
  | 0, _, _, _ => .error .outOfSteps
  | n + 1, name, v, a =>
    match table.lookup name with
    | some f => f v a
    | none =>
      match name with
      | "select" => selected true false v a
      | "reject" => selected false false v a
      | "selectattr" => selected true true v a
      | "rejectattr" => selected false true v a
      | "map" =>
        match a.option "attribute" with
        | some key =>
          if !a.positional.isEmpty then .error .tooManyArguments
          else do
            let otherwise := (a.named.lookup "default").getD .missing
            let part (item : Value) : Except Error Value := do
              let found := match key.text? with
                | some p => item.path? p
                | none => .ok ((item.get? key).getD .missing)
              match found with
              | .ok found => return if found.isUndefined then otherwise else found
              | .error e => if otherwise.isUndefined then .error e else return otherwise
            return .list (← (← v.asItems).mapM part)
        | none =>
          match a.positional with
          | [] => .error .invalidOperation
          | filter :: rest => do
            match filter.text? with
            | none => .error .invalidOperation
            | some filter =>
              if !isKnown filter then .error .unknownFilter
              else return .list (← (← v.asItems).mapM fun item => apply n filter item ⟨rest, a.named⟩)
      | _ => .error .unknownFilter

end Callout.Template.Filter
