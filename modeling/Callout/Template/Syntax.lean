/-!
The form of templates: expressions with filters, tests and calls, and statements that hold parts of the
template.
-/
namespace Callout.Template

/-- An operator between two values. -/
inductive BinaryOp where
  | equal
  | unequal
  | less
  | atMost
  | greater
  | atLeast
  | isIn
  | add
  | subtract
  | multiply
  | divide
  | divideWhole
  | remainder
  | power
  | join
deriving DecidableEq, Repr

mutual

/-- An expression. -/
inductive Expr where
  | none
  | bool (value : Bool)
  | int (value : Nat)
  | float (value : Float)
  | text (value : String)
  | name (id : String)
  | list (items : List Expr)
  | map (entries : List (Expr × Expr))
  | attribute (of : Expr) (name : String)
  | item (of key : Expr)
  /-- The items from a place to another one, in steps. -/
  | slice (of : Expr) (start stop step : Option Expr)
  | call (callee : Expr) (args : List Arg)
  | filter (of : Expr) (name : String) (args : List Arg)
  | test (of : Expr) (name : String) (args : List Arg)
  | negate (e : Expr)
  | not (e : Expr)
  | and (a b : Expr)
  | or (a b : Expr)
  | binary (op : BinaryOp) (a b : Expr)
  /-- One of two values; nothing in place of a second one that is missing. -/
  | choose (condition yes : Expr) (no : Option Expr)

/-- An argument of a call, a filter or a test. -/
inductive Arg where
  | positional (e : Expr)
  | named (name : String) (e : Expr)
  /-- All items of a list. -/
  | spread (e : Expr)
  /-- All entries of a map. -/
  | spreadNamed (e : Expr)

end

instance : Inhabited Expr := ⟨.none⟩

/-- What values are assigned to. -/
inductive Target where
  | name (id : String)
  /-- An attribute of what a name stands for. -/
  | attribute (id : String) (path : List String)
  /-- The items of a list, one by one. -/
  | items (targets : List Target)

instance : Inhabited Target := ⟨.items []⟩

/-- Filters that are applied one after the other. -/
abbrev FilterChain := List (String × List Arg)

/-- A parameter of a macro, with the value it has when none is given. -/
structure Parameter where
  name : String
  default? : Option Expr

/-- A statement. -/
inductive Stmt where
  /-- Plain text. -/
  | data (text : String)
  | emit (e : Expr)
  | forEach (target : Target) (source : Expr) (only : Option Expr) (recursive : Bool)
      (body otherwise : List Stmt)
  | cond (condition : Expr) (yes no : List Stmt)
  | scope (assignments : List (Target × Expr)) (body : List Stmt)
  | assign (target : Target) (e : Expr)
  | assignBlock (target : Target) (filters : FilterChain) (body : List Stmt)
  | escaping (mode : Expr) (body : List Stmt)
  | filtered (filters : FilterChain) (body : List Stmt)
  | block (name : String) (body : List Stmt)
  | extend (template : Expr)
  | insert (template : Expr) (ignoreMissing : Bool)
  /-- Names that another template defines. -/
  | use (template : Expr)
  /-- A macro, and whether it refers to the block that it may be called with. -/
  | define (name : String) (parameters : List Parameter) (usesCaller : Bool) (body : List Stmt)
  /-- A call with a block. -/
  | callWith (parameters : List Parameter) (callee : Expr) (args : List Arg) (body : List Stmt)
  | run (callee : Expr) (args : List Arg)

instance : Inhabited Stmt := ⟨.data ""⟩

end Callout.Template
