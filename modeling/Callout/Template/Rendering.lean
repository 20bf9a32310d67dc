import Callout.Template.Filter
import Callout.Template.Parser

/-!
Rendering a template. Names are looked for from the innermost scope outwards, then in the context, then among
the functions of the language. A value that is not there is an error as soon as it is shown, gone through,
asked for a part or taken for true or false. Loops and macros open scopes; conditions do not. What a macro or
a captured block shows becomes a text.
-/
namespace Callout.Template

/-- What stays the same while a template is rendered. -/
structure Setting where
  context : Value
  blocks : List (String × List Stmt)

/-- What changes while a template is rendered. -/
structure Progress where
  /-- The names of each scope, innermost first; the last one is that of the template. -/
  scopes : List (List (String × Value)) := [[]]
  /-- The maps whose entries can be assigned. -/
  spaces : List (List (String × Value)) := []
  /-- What each loop was last asked to compare. -/
  changes : List (Int × List Value) := []
  nextLoop : Int := 0
  /-- What has been shown, last first. -/
  shown : List String := []
  /-- Whether what is shown is escaped. -/
  escaping : Bool := false
  /-- How deep scopes and calls nest. -/
  depth : Nat := 0

namespace Rendering

/-- A step of rendering. -/
abbrev R := StateT Progress (Except Error)

/-- An outcome that changes nothing. -/
def lift {α : Type} (r : Except Error α) : R α := fun p => r.map (·, p)

/-- Shows a text. -/
def put (s : String) : R Unit := modify fun p => { p with shown := s :: p.shown }

/-- What has been shown as one text. -/
def Progress.text (p : Progress) : String := String.join p.shown.reverse

/-- The functions of the language. -/
def functions : List String := ["range", "dict", "debug", "namespace"]

/-- The value of a name. -/
def find? (s : Setting) (p : Progress) (name : String) : Option Value :=
  (p.scopes.findSome? fun scope => scope.lookup name).or
    ((s.context.attribute? name).or (if functions.contains name then some (.builtin name) else none))

/-- A list of names with a value under a name. -/
def setName (name : String) (v : Value) (scope : List (String × Value)) : List (String × Value) :=
  (name, v) :: scope.filter (·.1 ≠ name)

/-- Gives a name a value in the innermost scope. -/
def store (name : String) (v : Value) : R Unit :=
  modify fun p =>
    match p.scopes with
    | scope :: rest => { p with scopes := setName name v scope :: rest }
    | [] => { p with scopes := [[(name, v)]] }

/-- How deep scopes and calls may nest. -/
def maxDepth : Nat := 500

/-- What one call of a macro adds to the depth. -/
def callCost : Nat := 5

/-- A step with other scopes, so much deeper. -/
def within {α : Type} (scopes : List (List (String × Value)) → List (List (String × Value))) (cost : Nat)
    (r : R α) : R α := do
  let before ← get
  if maxDepth < before.depth + cost then throw .invalidOperation
  else
    set { before with scopes := scopes before.scopes, depth := before.depth + cost }
    let a ← r
    modify fun p =>
      { p with scopes := before.scopes.dropLast ++ (p.scopes.getLast?).toList, depth := before.depth }
    return a

/-- A step in a new scope. -/
def inScope {α : Type} (scope : List (String × Value)) (r : R α) : R α := within (scope :: ·) 1 r

/-- What a step shows, as a text. -/
def capture (r : R Unit) : R Value := do
  let before := (← get).shown
  modify fun p => { p with shown := [] }
  r
  let p ← get
  set { p with shown := before }
  return .text (Progress.text p) p.escaping

/-- Whether a value counts as true. -/
def truth : Value → R Bool
  | .undefined false => throw .undefinedValue
  | v => return v.isTrue

/-- Shows a value. -/
def emit (v : Value) : R Unit := do
  match v with
  | .undefined false => throw .undefinedValue
  | v => put (if (← get).escaping then Filter.escaped v else v.shown)

/-- A part of a value, given what was found of it. -/
def partOf (v : Value) (found : Option Value) : R Value :=
  match found with
  | some part => return part
  | none => if v.isUndefined then throw .undefinedValue else return .missing

/-- What a value has under a name, where maps whose entries can be assigned are looked up by number. -/
def attribute? (p : Progress) (v : Value) (name : String) : Option Value :=
  match v with
  | .space id => ((p.spaces[id]?).getD []).lookup name
  | v => v.attribute? name

/-- Assigns a value to a target. -/
def assign : Target → Value → R Unit
  | .name id, v => store id v
  | .attribute _ _, _ => throw .invalidOperation
  | .items targets, v => assignAll targets v
where
  /-- Assigns the items of a value, of which there have to be as many as targets. -/
  assignAll (targets : List Target) (v : Value) : R Unit := do
    let items ← match v with
      | .list _ | .iter _ | .group _ _ | .map _ | .named _ => pure (v.items?.getD [])
      | _ => throw .cannotUnpack
    if items.length ≠ targets.length then throw .cannotUnpack
    else assignEach targets items
  /-- Assigns items one by one. -/
  assignEach : List Target → List Value → R Unit
    | t :: targets, v :: items => do
      assign t v
      assignEach targets items
    | _, _ => return

/-- Assigns an attribute of the map that a name stands for. -/
def assignAttribute (s : Setting) (id : String) (path : List String) (v : Value) : R Unit := do
  let p ← get
  let start := (find? s p id).getD .missing
  let owner := path.dropLast.foldl (fun o name => (attribute? p o name).getD .missing) start
  match owner, path.getLast? with
  | .space n, some name =>
    set { p with spaces := p.spaces.mapIdx fun i m => if i = n then setName name v m else m }
  | _, _ => throw .invalidOperation

/-- What a template knows of a loop at an item. -/
def loopAt (id : Int) (depth : Nat) (items : List Value) (i : Nat) : Value :=
  let n := items.length
  .loop
    ([("depth", .int (depth + 1 : Nat)), ("depth0", .int depth), ("first", .bool (i = 0)),
      ("index", .int (i + 1 : Nat)), ("index0", .int i), ("last", .bool (i + 1 = n)), ("length", .int n),
      ("nextitem", (items[i + 1]?).getD .missing),
      ("previtem", if i = 0 then .missing else (items[i - 1]?).getD .missing),
      ("revindex", .int (n - i : Nat)), ("revindex0", .int (n - i - 1 : Nat)), (" id", .int id)])

/-- The functions of the language that give values. -/
def builtin (name : String) (a : Arguments) : R Value := do
  match name with
  | "range" =>
    let args ← lift (a.places 1 3)
    let number (v : Value) : Except Error Nat := do
      let n ← v.asNat
      if n < 2 ^ 32 then return n else .error .invalidOperation
    let first ← lift (number (Arguments.nth args 0))
    let second? ← lift ((Arguments.optional args 1).mapM number)
    let step ← lift ((Arguments.optional args 2).elim (.ok 1) number)
    let (low, high) := match second? with
      | some high => (first, high)
      | none => (0, first)
    if step = 0 then throw .invalidOperation
    else
      let n := (high - low + step - 1) / step
      if 100000 < n then throw .invalidOperation
      else return .iter ((List.range n).map fun i => .int (low + i * step : Nat))
  | "dict" =>
    if 1 < a.positional.length then throw .tooManyArguments
    let start ← match a.positional.head? with
      | none | some (.undefined _) => pure []
      | some (.map m) => pure m
      | some _ => throw .invalidOperation
    return .ofEntries (start ++ a.named.map fun (k, v) => (.ofText k, v))
  | "namespace" =>
    if 1 < a.positional.length then throw .tooManyArguments
    let start ← match a.positional.head? with
      | none | some (.undefined _) => pure []
      | some (.map m) => pure (m.filterMap fun (k, v) => k.text?.map (·, v))
      | some _ => throw .invalidOperation
    let p ← get
    set { p with spaces := p.spaces ++ [start ++ a.named] }
    return .space p.spaces.length
  | _ =>
    match a.positional with
    | [v] => return .ofText (Filter.laidOut 0 v)
    | l => return .ofText (Filter.laidOut 0 (.list l))

/-- What a loop answers when it is called by one of its names. -/
def loopCall (entries : List (String × Value)) (name : String) (args : List Value) : R Value := do
  let id := ((entries.lookup " id").bind Value.int?).getD 0
  match name with
  | "cycle" =>
    let i := (((entries.lookup "index0").bind Value.int?).getD 0).toNat
    return if args.isEmpty then .missing else (args[i % args.length]?).getD .missing
  | "changed" =>
    let p ← get
    let same := match p.changes.lookup id with
      | some last => (Value.list last).equals (.list args)
      | none => false
    set { p with changes := (id, args) :: p.changes.filter (·.1 ≠ id) }
    return .bool !same
  | _ => throw .unknownMethod

/-- The values of a macro's parameters. -/
def bindParameters (parameters : List Parameter) (usesCaller : Bool) (a : Arguments) :
    Except Error (List (String × Value)) := do
  if parameters.length < a.positional.length then .error .tooManyArguments
  let bound ← parameters.zipIdx.mapM fun (p, i) =>
    match a.positional[i]?, a.named.lookup p.name with
    | some _, some _ => .error .tooManyArguments
    | some v, none | none, some v => .ok (p.name, v)
    | none, none => .ok (p.name, Value.missing)
  let known := parameters.map (·.name) ++ if usesCaller then ["caller"] else []
  a.onlyNamed known
  return bound ++ if usesCaller then [("caller", (a.named.lookup "caller").getD .missing)] else []

mutual

/-- The value of an expression. -/
def eval (s : Setting) : Nat → Expr → R Value
  | 0, _ => throw .outOfSteps
  | n + 1, e => do
    match e with
    | .none => return .none
    | .bool b => return .bool b
    | .int i => return .int i
    | .float x => return .float x
    | .text t => return .ofText t
    | .name id => return (find? s (← get) id).getD .missing
    | .list items => return .list (← items.mapM (eval s n))
    | .map entries => return .ofEntries (← entries.mapM fun (k, v) => return (← eval s n k, ← eval s n v))
    | .attribute e name =>
      let v ← eval s n e
      partOf v (attribute? (← get) v name)
    | .item e key =>
      let v ← eval s n e
      let k ← eval s n key
      match v, k.text? with
      | .space _, some name => partOf v (attribute? (← get) v name)
      | v, _ => partOf v (v.get? k)
    | .slice e start stop step =>
      let v ← eval s n e
      let start ← start.elim (pure .none) (eval s n)
      let stop ← stop.elim (pure .none) (eval s n)
      let step ← step.elim (pure .none) (eval s n)
      if v.isUndefined then throw .undefinedValue else lift (v.slice start stop step)
    | .call callee args => evalCall s n callee args []
    | .filter e name args =>
      let v ← eval s n e
      let a ← evalArgs s n args
      lift (Filter.apply 100 name v a)
    | .test e name args =>
      let v ← eval s n e
      let a ← evalArgs s n args
      let args := if a.named.isEmpty then a.positional else a.positional ++ [.named a.named]
      match name with
      | "filter" => return .bool (v.text?.any Filter.isKnown)
      | "test" => return .bool (v.text?.any fun t => (Test.find? t).isSome || t = "filter" || t = "test")
      | _ => return .bool (← lift (Test.passes name v args))
    | .negate e => lift (← eval s n e).negate
    | .not e => return .bool !(← truth (← eval s n e))
    | .and a b =>
      let v ← eval s n a
      if ← truth v then eval s n b else return v
    | .or a b =>
      let v ← eval s n a
      if ← truth v then return v else eval s n b
    | .binary op a b =>
      let x ← eval s n a
      let y ← eval s n b
      if op = .isIn ∧ y.isUndefined then throw .undefinedValue else lift (x.binary op y)
    | .choose condition yes no =>
      if ← truth (← eval s n condition) then eval s n yes
      else
        match no with
        | some e => eval s n e
        | none => return .undefined true

/-- The values of arguments. -/
def evalArgs (s : Setting) : Nat → List Arg → R Arguments
  | 0, _ => throw .outOfSteps
  | n + 1, args =>
    args.foldlM (fun a arg => do
      match arg with
      | .positional e => return { a with positional := a.positional ++ [← eval s n e] }
      | .named name e => return { a with named := setName name (← eval s n e) a.named }
      | .spread e => return { a with positional := a.positional ++ (← lift (← eval s n e).asItems) }
      | .spreadNamed e =>
        let entries ← lift (Filter.pairs (← eval s n e))
        return { a with
          named := entries.foldl (fun m (k, v) => setName k.shown v m) a.named }) ⟨[], []⟩

/-- The value of a call, with more named arguments than those that are written. -/
def evalCall (s : Setting) : Nat → Expr → List Arg → List (String × Value) → R Value
  | 0, _, _, _ => throw .outOfSteps
  | n + 1, callee, args, more => do
    match callee with
    | .attribute (.name "self") name =>
      match s.blocks.lookup name with
      | some body => capture (inScope [] (exec s n body))
      | none => throw .unknownBlock
    | .attribute e name =>
      let v ← eval s n e
      let a ← evalArgs s n args
      let a := { a with named := more ++ a.named }
      match v, attribute? (← get) v name with
      | .loop entries, none => loopCall entries name a.positional
      | _, some f => callValue s n f a
      | _, none => throw .unknownMethod
    | .name id =>
      let a ← evalArgs s n args
      let a := { a with named := more ++ a.named }
      if id = "super" then throw .invalidOperation
      else if id = "loop" then
        match find? s (← get) " again" with
        | some f => callValue s n f a
        | none => throw .invalidOperation
      else
        match find? s (← get) id with
        | some f => callValue s n f a
        | none => throw .unknownFunction
    | e =>
      let f ← eval s n e
      let a ← evalArgs s n args
      callValue s n f { a with named := more ++ a.named }

/-- The value of a call of a value. -/
def callValue (s : Setting) : Nat → Value → Arguments → R Value
  | 0, _, _ => throw .outOfSteps
  | n + 1, f, a => do
    match f with
    | .builtin name => builtin name a
    | .callable _ parameters usesCaller body scopes =>
      let bound ← lift (bindParameters parameters usesCaller a)
      capture <| within (fun now => bound :: scopes ++ (now.getLast?).toList) callCost do
        parameters.forM fun p =>
          match p.default?, bound.lookup p.name with
          | some e, some (.undefined _) => do store p.name (← eval s n e)
          | _, _ => return
        exec s n body
    | _ => throw .invalidOperation

/-- What filters make of a value, one after the other. -/
def applyChain (s : Setting) : Nat → FilterChain → Value → R Value
  | 0, _, _ => throw .outOfSteps
  | n + 1, filters, v =>
    filters.foldlM (fun v (name, args) => do
      let a ← evalArgs s n args
      lift (Filter.apply 100 name v a)) v

/-- Runs statements. -/
def exec (s : Setting) : Nat → List Stmt → R Unit
  | 0, _ => throw .outOfSteps
  | n + 1, list => list.forM fun statement => do
    match statement with
    | .data text => put text
    | .emit e => emit (← eval s n e)
    | .forEach target source only recursive body otherwise =>
      let v ← eval s n source
      if v.isUndefined then throw .undefinedValue
      else
        match v.items? with
        | none => throw .invalidOperation
        | some items =>
          let items ← match only with
            | none => pure items
            | some condition => items.filterM fun item => inScope [] <| do
              assign target item
              truth (← eval s n condition)
          if items.isEmpty then exec s n otherwise
          else
            let p ← get
            let depth := match recursive, find? s p " depth" with
              | true, some (.int d) => d.toNat
              | _, _ => 0
            let again : List (String × Value) :=
              if recursive then
                [(" again", .callable "loop" [⟨" items", none⟩, ⟨" depth", some (.int (depth + 1))⟩] false
                  [.forEach target (.name " items") only true body otherwise] p.scopes.dropLast)]
              else []
            let id := p.nextLoop
            set { p with nextLoop := id + 1 }
            inScope again <| do
              items.zipIdx.forM fun (item, i) => do
                store "loop" (loopAt id depth items i)
                assign target item
                exec s n body
    | .cond condition yes no => if ← truth (← eval s n condition) then exec s n yes else exec s n no
    | .scope assignments body =>
      inScope [] <| do
        assignments.forM fun (target, e) => do assign target (← eval s n e)
        exec s n body
    | .assign (.attribute id path) e => assignAttribute s id path (← eval s n e)
    | .assign target e => assign target (← eval s n e)
    | .assignBlock target filters body =>
      let v ← capture (exec s n body)
      let v ← applyChain s n filters v
      match target with
      | .attribute id path => assignAttribute s id path v
      | target => assign target v
    | .escaping mode body =>
      let v ← eval s n mode
      let on ← match v with
        | .text "html" _ => pure true
        | .text "none" _ => pure false
        | .text _ _ => throw .invalidOperation
        | v => pure (v.equals (.bool true))
      let before := (← get).escaping
      modify fun p => { p with escaping := on }
      exec s n body
      modify fun p => { p with escaping := before }
    | .filtered filters body =>
      let v ← capture (exec s n body)
      emit (← applyChain s n filters v)
    | .block _ body => inScope [] (exec s n body)
    | .extend e | .use e =>
      match (← eval s n e).text? with
      | some _ => throw .templateNotFound
      | none => throw .invalidOperation
    | .insert e ignoreMissing =>
      let v ← eval s n e
      let choices := match v with
        | .list l | .iter l => l
        | v => [v]
      if choices.any (·.text?.isNone) then throw .invalidOperation
      else if ignoreMissing || choices.isEmpty then return
      else throw .templateNotFound
    | .define name parameters usesCaller body =>
      store name (.callable name parameters usesCaller body (← get).scopes.dropLast)
    | .callWith parameters callee args body =>
      let caller : Value := .callable "caller" parameters false body (← get).scopes.dropLast
      emit (← evalCall s n callee args [("caller", caller)])
    | .run callee args =>
      let _ ← evalCall s n callee args []

end

mutual

/-- The blocks of a statement. -/
def blocksOf : Stmt → List (String × List Stmt)
  | .forEach _ _ _ _ body otherwise => blocksIn body ++ blocksIn otherwise
  | .cond _ yes no => blocksIn yes ++ blocksIn no
  | .scope _ body | .assignBlock _ _ body | .escaping _ body | .filtered _ body => blocksIn body
  | .block name body => (name, body) :: blocksIn body
  | _ => []

/-- The blocks of statements. -/
def blocksIn : List Stmt → List (String × List Stmt)
  | [] => []
  | s :: rest => blocksOf s ++ blocksIn rest

end

end Rendering

/-- The text that a template makes of a context. -/
def render (template : String) (context : Json) : Except Error String := do
  let statements ← parse template
  let setting : Setting := ⟨.ofJson context, Rendering.blocksIn statements⟩
  let steps := (template.length + 20) * 200
  let (_, p) ← (Rendering.exec setting steps statements).run {}
  return Rendering.Progress.text p

end Callout.Template
