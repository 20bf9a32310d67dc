import Callout.Template.Syntax
import Callout.Template.Token

/-!
Reading a template from its tokens, by descent. Every function takes one step off a bound that is computed
from the number of tokens. Operators bind, from loosest to tightest: choice, `or`, `and`, `not`, comparisons,
sum, joining of texts, product, power, sign, then what stands after an expression, then filters and tests.
-/
namespace Callout.Template
open Template.Token

namespace Parser

/-- What a reader knows beside the tokens: the blocks seen, and whether it is inside a macro. -/
structure State where
  tokens : List Token
  blocks : List String := []
  inMacro : Bool := false
  /-- Whether the name of a calling block was read. -/
  caller : Bool := false
  /-- How deep expressions and statements nest. -/
  depth : Nat := 0

/-- A reader. -/
abbrev P := StateT State (Except Error)

/-- A template that does not follow the grammar. -/
def malformed {α : Type} : P α := throw .syntaxError

/-- The next token, which stays. -/
def peek : P (Option Token) := do
  match (← get).tokens with
  | [] => return none
  | .bad e :: _ => throw e
  | t :: _ => return some t

/-- Passes over the next token. -/
def skip : P Unit := modify fun s => { s with tokens := s.tokens.drop 1 }

/-- The next token. -/
def next : P Token := do
  match ← peek with
  | none => malformed
  | some t => skip; return t

/-- Whether the next token is the one given. -/
def at_ (t : Token) : P Bool := return (← peek) == some t

/-- Passes over the next token if it is the one given, and says whether it was. -/
def skipIf (t : Token) : P Bool := do
  if ← at_ t then skip; return true else return false

/-- Passes over a token that has to be there. -/
def expect (t : Token) : P Unit := do
  if ← skipIf t then return else malformed

/-- A name. -/
def expectName : P String := do
  match ← next with
  | .name id => return id
  | _ => malformed

/-- How deep expressions and statements may nest. -/
def maxDepth : Nat := 150

/-- A reader one level deeper. -/
def deeper {α : Type} (p : P α) : P α := do
  let s ← get
  if s.depth + 1 > maxDepth then malformed
  else
    set { s with depth := s.depth + 1 }
    let a ← p
    modify fun s => { s with depth := s.depth - 1 }
    return a

/-- The names that nothing can be assigned to. -/
def reserved : List String := ["true", "True", "false", "False", "none", "None", "loop", "self"]

/-- A name that something can be assigned to. -/
def freeName : P String := do
  let id ← expectName
  if reserved.contains id then malformed else return id

/-! ## Operators -/

/-- A level of operators between two expressions. -/
inductive Level where
  | or
  | and
  | not
  | compare
  | sum
  | join
  | product
  | power
  | sign
deriving DecidableEq

/-- The level that binds next tighter. -/
def Level.tighter : Level → Level
  | .or => .and
  | .and => .not
  | .not => .compare
  | .compare => .sum
  | .sum => .join
  | .join => .product
  | .product => .power
  | .power => .sign
  | .sign => .sign

/-- The operators of each level that are single tokens. -/
def Level.signs : Level → List (String × BinaryOp)
  | .compare =>
    [("==", .equal), ("!=", .unequal), ("<", .less), ("<=", .atMost), (">", .greater), (">=", .atLeast)]
  | .sum => [("+", .add), ("-", .subtract)]
  | .join => [("~", .join)]
  | .product => [("*", .multiply), ("/", .divide), ("//", .divideWhole), ("%", .remainder)]
  | .power => [("**", .power)]
  | _ => []

/-- The operator of a level that a token is. -/
def Level.op? (l : Level) : Option Token → Option (Expr → Expr → Expr)
  | some (.name "or") => if l = .or then some .or else none
  | some (.name "and") => if l = .and then some .and else none
  | some (.name "in") => if l = .compare then some (.binary .isIn) else none
  | some (.sign s) => (l.signs.lookup s).map .binary
  | _ => none

/-- Whether a token starts the single argument of a test without brackets. -/
def startsArgument : Option Token → Bool
  | some (.name id) => !(["and", "or", "else", "is"].contains id)
  | some (.text _) | some (.int _) | some (.float _) => true
  | some (.sign s) => s = "[" || s = "\x7b"
  | _ => false

/-- Whether a comma follows something already read and is passed over, before a closing bracket. -/
def separator (isFirst : Bool) : P Unit := do
  if isFirst then return else expect (.sign ",")

mutual

/-- An expression. -/
def expr : Nat → P Expr
  | 0 => malformed
  | n + 1 => deeper (choice n)

/-- An expression or a choice between two. -/
def choice : Nat → P Expr
  | 0 => malformed
  | n + 1 => do
    let e ← level n .or
    choiceRest n e

/-- The conditions after an expression. -/
def choiceRest : Nat → Expr → P Expr
  | 0, _ => malformed
  | n + 1, e => do
    if ← skipIf (.name "if") then
      let condition ← level n .or
      let no ← if ← skipIf (.name "else") then some <$> choice n else pure none
      choiceRest n (.choose condition e no)
    else return e

/-- An expression of a level. -/
def level : Nat → Level → P Expr
  | 0, _ => malformed
  | n + 1, l => do
    match l with
    | .sign => suffixed n
    | .not => if ← skipIf (.name "not") then return .not (← level n .not) else level n .compare
    | l =>
      let e ← level n l.tighter
      levelRest n l e

/-- The operators of a level after an expression. -/
def levelRest : Nat → Level → Expr → P Expr
  | 0, _, _ => malformed
  | n + 1, l, e => do
    let token ← peek
    if l = .compare ∧ token == some (.name "not") then
      skip
      expect (.name "in")
      levelRest n l (.not (.binary .isIn e (← level n l.tighter)))
    else
      match l.op? token with
      | some op =>
        skip
        levelRest n l (op e (← level n l.tighter))
      | none => return e

/-- An expression with a sign, with what stands after it, and with filters and tests. -/
def suffixed : Nat → P Expr
  | 0 => malformed
  | n + 1 => do
    let e ← signed n
    let e ← postfixed n e
    filters n e

/-- A simple expression with any number of signs. -/
def signed : Nat → P Expr
  | 0 => malformed
  | n + 1 => do
    if ← skipIf (.sign "-") then return .negate (← signed n) else deeper (primary n)

/-- A simple expression. -/
def primary : Nat → P Expr
  | 0 => malformed
  | n + 1 => do
    match ← next with
    | .name "true" | .name "True" => return .bool true
    | .name "false" | .name "False" => return .bool false
    | .name "none" | .name "None" => return .none
    | .name id =>
      if id = "caller" then modify fun s => { s with caller := true }
      return .name id
    | .text s => texts n s
    | .int i => return .int i
    | .float x => return .float x
    | .sign "(" => bracketed n
    | .sign "[" => return .list (← items n "]" true)
    | .sign "\x7b" => return .map (← entries n true)
    | _ => malformed

/-- A text with those that follow it directly. -/
def texts : Nat → String → P Expr
  | 0, _ => malformed
  | n + 1, s => do
    match ← peek with
    | some (.text more) => skip; texts n (s ++ more)
    | _ => return .text s

/-- What stands in round brackets: an expression, or a list if there is a comma. -/
def bracketed : Nat → P Expr
  | 0 => malformed
  | n + 1 => do
    if ← skipIf (.sign ")") then return .list []
    let e ← expr n
    if ← at_ (.sign ",") then return .list (e :: (← items n ")" false))
    else
      expect (.sign ")")
      return e

/-- The items up to a closing bracket. -/
def items : Nat → String → Bool → P (List Expr)
  | 0, _, _ => malformed
  | n + 1, close, isFirst => do
    if ← skipIf (.sign close) then return []
    separator isFirst
    if !isFirst && (← skipIf (.sign close)) then return []
    let e ← expr n
    return e :: (← items n close false)

/-- The entries up to a closing brace. -/
def entries : Nat → Bool → P (List (Expr × Expr))
  | 0, _ => malformed
  | n + 1, isFirst => do
    if ← skipIf (.sign "\x7d") then return []
    separator isFirst
    if !isFirst && (← skipIf (.sign "\x7d")) then return []
    let key ← expr n
    expect (.sign ":")
    let value ← expr n
    return (key, value) :: (← entries n false)

/-- Attributes, items and calls after an expression. -/
def postfixed : Nat → Expr → P Expr
  | 0, _ => malformed
  | n + 1, e => do
    match ← peek with
    | some (.sign ".") => skip; postfixed n (.attribute e (← expectName))
    | some (.sign "[") => skip; postfixed n (← subscript n e)
    | some (.sign "(") => skip; postfixed n (.call e (← args n true false))
    | _ => return e

/-- What stands in square brackets after an expression. -/
def subscript : Nat → Expr → P Expr
  | 0, _ => malformed
  | n + 1, e => do
    let start ← if ← at_ (.sign ":") then pure none else some <$> expr n
    if ← skipIf (.sign ":") then
      let ends := do return (← at_ (.sign "]")) || (← at_ (.sign ":"))
      let stop ← if ← ends then pure none else some <$> expr n
      let step ←
        if ← skipIf (.sign ":") then
          if ← at_ (.sign "]") then pure none else some <$> expr n
        else pure none
      expect (.sign "]")
      return .slice e start stop step
    else
      expect (.sign "]")
      match start with
      | some key => return .item e key
      | none => malformed

/-- The arguments up to the closing bracket; named ones come last. -/
def args : Nat → Bool → Bool → P (List Arg)
  | 0, _, _ => malformed
  | n + 1, isFirst, named => do
    if ← skipIf (.sign ")") then return []
    separator isFirst
    if !isFirst && (← skipIf (.sign ")")) then return []
    if ← skipIf (.sign "**") then
      let e ← expr n
      return .spreadNamed e :: (← args n false true)
    else if ← skipIf (.sign "*") then
      let e ← expr n
      return .spread e :: (← args n false named)
    else
      let e ← expr n
      match e, ← at_ (.sign "=") with
      | .name id, true =>
        skip
        let value ← level n .or
        return .named id value :: (← args n false true)
      | e, _ => if named then malformed else return .positional e :: (← args n false false)

/-- The arguments in round brackets, if there are any. -/
def argsIfAny : Nat → P (List Arg)
  | 0 => malformed
  | n + 1 => do if ← skipIf (.sign "(") then args n true false else return []

/-- Filters and tests after an expression. -/
def filters : Nat → Expr → P Expr
  | 0, _ => malformed
  | n + 1, e => do
    match ← peek with
    | some (.sign "|") =>
      skip
      let name ← expectName
      filters n (.filter e name (← argsIfAny n))
    | some (.name "is") =>
      skip
      let negated ← skipIf (.name "not")
      let name ← expectName
      let list ←
        if ← at_ (.sign "(") then argsIfAny n
        else if startsArgument (← peek) then
          let a ← signed n
          pure [Arg.positional (← postfixed n a)]
        else pure []
      let e := Expr.test e name list
      filters n (if negated then .not e else e)
    | _ => return e

end

/-! ## Statements -/

/-- Whether a token ends a list of targets. -/
def endsTargets : Option Token → Bool
  | some (.sign ")") | some .closeExpr | some .closeStmt | some (.name "in") => true
  | _ => false

mutual

/-- One target or several. -/
def targets : Nat → P Target
  | 0 => malformed
  | n + 1 => do
    let (list, isList) ← targetList n true
    match list, isList with
    | [t], false => return t
    | list, _ => return .items list

/-- Targets with commas between, and whether there is a comma. -/
def targetList : Nat → Bool → P (List Target × Bool)
  | 0, _ => malformed
  | n + 1, isFirst => do
    separator isFirst
    if endsTargets (← peek) then return ([], !isFirst)
    let t ←
      if ← skipIf (.sign "(") then
        let t ← targets n
        expect (.sign ")")
        pure t
      else Target.name <$> freeName
    if ← at_ (.sign ",") then
      let (rest, _) ← targetList n false
      return (t :: rest, true)
    else return ([t], !isFirst)

end

/-- The attributes after a name. -/
def path : Nat → P (List String)
  | 0 => malformed
  | n + 1 => do if ← skipIf (.sign ".") then return (← expectName) :: (← path n) else return []

/-- The target of an assignment, and whether it is in brackets. -/
def assignTarget (n : Nat) : P (Target × Bool) := do
  if ← skipIf (.sign "(") then
    let t ← targets n
    expect (.sign ")")
    return (t, true)
  else
    let id ← freeName
    match ← path n with
    | [] =>
      if ← at_ (.sign ",") then
        let (rest, _) ← targetList n false
        return (.items (.name id :: rest), true)
      else return (.name id, false)
    | attributes => return (.attribute id attributes, false)

/-- Filters with bars between. -/
def chain : Nat → Bool → P FilterChain
  | 0, _ => malformed
  | n + 1, isFirst => do
    if isFirst || (← skipIf (.sign "|")) then
      let name ← expectName
      let list ← argsIfAny n
      return (name, list) :: (← chain n false)
    else return []

/-- The parameters of a macro up to the closing bracket; those with a default come last. -/
def parameters : Nat → Bool → Bool → P (List Parameter)
  | 0, _, _ => malformed
  | n + 1, isFirst, defaulted => do
    if ← skipIf (.sign ")") then return []
    separator isFirst
    if !isFirst && (← skipIf (.sign ")")) then return []
    let name ← freeName
    if ← skipIf (.sign "=") then
      let e ← expr n
      return ⟨name, some e⟩ :: (← parameters n false true)
    else if defaulted then malformed
    else return ⟨name, none⟩ :: (← parameters n false false)

/-- The assignments of a scope. -/
def assignments : Nat → Bool → P (List (Target × Expr))
  | 0, _ => malformed
  | n + 1, isFirst => do
    if ← at_ .closeStmt then return []
    separator isFirst
    let t ←
      if ← skipIf (.sign "(") then
        let t ← targets n
        expect (.sign ")")
        pure t
      else Target.name <$> freeName
    expect (.sign "=")
    let e ← expr n
    return (t, e) :: (← assignments n false)

/-- The names that are taken from another template. -/
def imports : Nat → Bool → P Unit
  | 0, _ => malformed
  | n + 1, isFirst => do
    if ← at_ .closeStmt then return
    separator isFirst
    if ← at_ .closeStmt then return
    let _ ← freeName
    if ← skipIf (.name "as") then let _ ← freeName
    imports n false

/-- A call and its arguments. -/
def callOf : Expr → P (Expr × List Arg)
  | .call callee list => return (callee, list)
  | _ => malformed

/-- Notes a block, which may stand once and in no macro. -/
def noteBlock (name : String) : P Unit := do
  let s ← get
  if s.inMacro || s.blocks.contains name then malformed
  else set { s with blocks := name :: s.blocks }

/-- A reader that is inside a macro. -/
def inMacro {α : Type} (p : P α) : P α := do
  let before := (← get).inMacro
  modify fun s => { s with inMacro := true }
  let a ← p
  modify fun s => { s with inMacro := before }
  return a

mutual

/-- Statements up to one that starts with one of some words, which stays; all statements if there are no
words. -/
def body : Nat → List String → P (List Stmt)
  | 0, _ => malformed
  | n + 1, stop => do
    match ← peek with
    | none => if stop = [] then return [] else malformed
    | some (.data s) => skip; return .data s :: (← body n stop)
    | some .openExpr =>
      skip
      let e ← expr n
      expect .closeExpr
      return .emit e :: (← body n stop)
    | some .openStmt =>
      skip
      match ← peek with
      | none => malformed
      | some t =>
        let isStop := match t with
          | .name id => stop.contains id
          | _ => false
        if isStop then return []
        let s ← deeper (stmt n)
        expect .closeStmt
        return s :: (← body n stop)
    | some _ => malformed

/-- Statements up to one of a single word, which is passed over. -/
def bodyTo : Nat → String → P (List Stmt)
  | 0, _ => malformed
  | n + 1, stop => do
    expect .closeStmt
    let list ← body n [stop]
    skip
    return list

/-- The branches of a condition after its first word. -/
def cond : Nat → P Stmt
  | 0 => malformed
  | n + 1 => do
    let e ← level n .or
    expect .closeStmt
    let yes ← body n ["endif", "else", "elif"]
    match ← next with
    | .name "else" => return .cond e yes (← bodyTo n "endif")
    | .name "elif" => return .cond e yes [← cond n]
    | _ => return .cond e yes []

/-- A statement after the mark that opens it. -/
def stmt : Nat → P Stmt
  | 0 => malformed
  | n + 1 => do
    match ← next with
    | .name "for" =>
      let target ← targets n
      expect (.name "in")
      let source ← level n .or
      let only ← if ← skipIf (.name "if") then some <$> expr n else pure none
      let recursive ← skipIf (.name "recursive")
      expect .closeStmt
      let list ← body n ["endfor", "else"]
      let otherwise ← match ← next with
        | .name "else" => bodyTo n "endfor"
        | _ => pure []
      return .forEach target source only recursive list otherwise
    | .name "if" => cond n
    | .name "with" =>
      let list ← assignments n true
      return .scope list (← bodyTo n "endwith")
    | .name "set" =>
      let (target, isList) ← assignTarget n
      let here ← peek
      if !isList && (here == some .closeStmt || here == some (.sign "|")) then
        let list ← if ← skipIf (.sign "|") then chain n true else pure []
        return .assignBlock target list (← bodyTo n "endset")
      else
        expect (.sign "=")
        return .assign target (← expr n)
    | .name "autoescape" =>
      let e ← expr n
      return .escaping e (← bodyTo n "endautoescape")
    | .name "filter" =>
      let list ← chain n true
      return .filtered list (← bodyTo n "endfilter")
    | .name "block" =>
      let name ← expectName
      noteBlock name
      let list ← bodyTo n "endblock"
      match ← peek with
      | some (.name again) => if again = name then skip else malformed
      | _ => pure ()
      return .block name list
    | .name "extends" => return .extend (← expr n)
    | .name "include" =>
      let e ← expr n
      let ignoreMissing ←
        if ← skipIf (.name "ignore") then expect (.name "missing"); pure true else pure false
      if ← skipIf (.name "with") then expect (.name "context")
      return .insert e ignoreMissing
    | .name "import" =>
      let e ← expr n
      expect (.name "as")
      let _ ← freeName
      return .use e
    | .name "from" =>
      let e ← expr n
      expect (.name "import")
      imports n true
      return .use e
    | .name "macro" =>
      let name ← expectName
      expect (.sign "(")
      let before := (← get).caller
      modify fun s => { s with caller := false }
      let list ← parameters n true false
      let content ← inMacro (bodyTo n "endmacro")
      let caller := (← get).caller
      modify fun s => { s with caller := before }
      return .define name list caller content
    | .name "call" =>
      let list ← if ← skipIf (.sign "(") then parameters n true false else pure []
      let (callee, arguments) ← callOf (← expr n)
      return .callWith list callee arguments (← inMacro (bodyTo n "endcall"))
    | .name "do" =>
      let (callee, arguments) ← callOf (← expr n)
      return .run callee arguments
    | _ => malformed

end

end Parser

/-- The statements of a template. -/
def parse (template : String) : Except Error (List Stmt) := do
  let tokens := Token.scan template
  let (list, _) ← (Parser.body (40 * tokens.length + 100) []).run { tokens }
  return list

end Callout.Template
