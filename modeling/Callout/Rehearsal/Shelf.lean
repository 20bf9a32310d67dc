import Callout.Rule

/-!
A stand-in for the store of rules, in memory. Each change of a rule gives it the next version; a status is taken
only with the version that is stored. Faults and conflicts can be arranged.
-/
namespace Callout.Rehearsal

/-- A stand-in for the store of rules. -/
structure Shelf where
  /-- The rules by namespace and name, in that order. -/
  rules : List Rule := []
  /-- The rules that a list tells in place of those that are there. -/
  frozen? : Option (List Rule) := none
  listFault? : Option Fault := none
  getFault? : Option Fault := none
  updateFault? : Option Fault := none
  /-- How many more updates meet another version. -/
  conflicts : Nat := 0
  /-- A status that somebody else stores right before the next update. -/
  race? : Option RuleStatus := none
  gets : Nat := 0
  writes : Nat := 0
  rejected : Nat := 0

namespace Shelf

/-- The order of rules. -/
def before (a b : RuleId) : Bool := a.space < b.space || (a.space = b.space && a.name < b.name)

/-- What a rule is kept by. -/
def placeOf (rule : Rule) : RuleId := ⟨rule.metadata.space?.getD "", rule.metadata.name?.getD ""⟩

/-- The rule of a name. -/
def find? (s : Shelf) (id : RuleId) : Option Rule := s.rules.find? fun r => placeOf r = id

/-- A rule among rules in order. -/
def insert (rule : Rule) : List Rule → List Rule
  | [] => [rule]
  | first :: rest =>
    if placeOf rule = placeOf first then rule :: rest
    else if before (placeOf rule) (placeOf first) then rule :: first :: rest
    else first :: insert rule rest

/-- The next version. -/
def nextVersion (version? : Option String) : String := toString ((version?.bind String.toNat?).getD 0 + 1)

/-- A rule with the version after that of another one. -/
def after (previous? : Option Rule) (rule : Rule) : Rule :=
  { rule with
    metadata := { rule.metadata with version? := some (nextVersion (previous?.bind (·.metadata.version?))) } }

/-- A rule stored in place of the one of its name. -/
def put (s : Shelf) (rule : Rule) : Shelf :=
  { s with rules := insert (after (s.find? (placeOf rule)) rule) s.rules }

/-- The rules without the one of a name. -/
def remove (s : Shelf) (id : RuleId) : Shelf := { s with rules := s.rules.filter fun r => placeOf r ≠ id }

/-- All rules. -/
def list (s : Shelf) : Except Fault (List Rule) :=
  match s.listFault? with
  | some fault => .error fault
  | none => .ok (s.frozen?.getD s.rules)

/-- The rule of a name. -/
def get (s : Shelf) (id : RuleId) : Shelf × Except Fault Rule :=
  ({ s with gets := s.gets + 1 },
    match s.getFault?, s.find? id with
    | some fault, _ => .error fault
    | none, some rule => .ok rule
    | none, none => .error (.notFound id.toText))

/-- A status of a rule with the version that was read. -/
def update (s : Shelf) (rule : Rule) : Shelf × Except Fault Unit :=
  match s.updateFault?, s.find? (placeOf rule) with
  | some fault, _ => (s, .error fault)
  | none, none => (s, .error (.notFound (placeOf rule).toText))
  | none, some stored =>
    let raced := match s.race? with
      | none => stored
      | some status => after (some stored) { stored with status? := some status }
    let interferes := s.conflicts > 0
    let bumped := if interferes then after (some raced) raced else raced
    let s := { s with race? := none, conflicts := s.conflicts - 1, rules := insert bumped s.rules }
    if interferes ∨ bumped.metadata.version? ≠ rule.metadata.version? then
      ({ s with rejected := s.rejected + 1 }, .error (.conflict ((placeOf rule).toText ++ " modified")))
    else
      let written := after (some bumped) { bumped with status? := rule.status? }
      ({ s with writes := s.writes + 1, rules := insert written s.rules }, .ok ())

end Shelf
end Callout.Rehearsal
