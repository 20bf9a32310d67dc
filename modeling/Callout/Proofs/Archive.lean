import Callout.Engine.Demand

/-!
Stored rules, with all that was ever stored of them. A store answers from it: a list may hold any state that a
rule was in, a single rule is given as it is, and a status is stored only over the state that it was made from.
Others may create, edit and delete rules meanwhile (`Change`). What holds of every archive that comes about so is
`Orderly`: a version stands for one state of a rule, and no two names share an incarnation.
-/
namespace Callout

/-- All that was ever stored of rules, latest first: a rule under its name, or that its name has none any more. -/
structure Archive where
  log : List (RuleId × Option Rule) := []

/-- A rule with another status and version. -/
def Rule.restated (rule : Rule) (status? : Option RuleStatus) (version? : Option String) : Rule :=
  { rule with metadata := { rule.metadata with version? }, status? }

namespace Archive

/-- The rule of a name as it is. -/
def current? (a : Archive) (id : RuleId) : Option Rule := (a.log.find? (·.1 = id)).bind (·.2)

/-- Every state that a rule was ever in. -/
def versions (a : Archive) : List Rule := a.log.filterMap (·.2)

/-- The archive after a rule is stored. -/
def put (a : Archive) (rule : Rule) : Archive := ⟨(rule.id, some rule) :: a.log⟩

/-- The archive after a rule is deleted. -/
def remove (a : Archive) (id : RuleId) : Archive := ⟨(id, none) :: a.log⟩

/-- The archive after a rule is stored, if one is. -/
def putIfSome (a : Archive) (rule? : Option Rule) : Archive := rule?.elim a a.put

/-- A version of a rule stands for one state of it. -/
def Admits (a : Archive) (rule : Rule) : Prop :=
  ∀ old ∈ a.versions, old.id = rule.id → old.metadata.version? = rule.metadata.version? → old = rule

/-- What becomes of a rule whose status is stored: it still is in the version that was read, and gets the status. -/
def Lands (a : Archive) (given rule : Rule) : Prop :=
  ∃ stored, a.current? given.id = some stored ∧ stored.metadata.version? = given.metadata.version? ∧
    rule = stored.restated given.status? rule.metadata.version? ∧ a.Admits rule

/-- What others may do to stored rules. They remove nothing from a ledger. -/
inductive Change (a : Archive) : Archive → Prop where
  /-- A rule is created. It is told from all rules that ever were. -/
  | create {rule : Rule} (free : a.current? rule.id = none)
      (distinct : ∀ old ∈ a.versions, old.incarnation ≠ rule.incarnation) (admitted : a.Admits rule) :
      Change a (a.put rule)
  | edit {old rule : Rule} (present : a.current? rule.id = some old)
      (same : rule.metadata.uid? = old.metadata.uid?)
      (kept : ∀ object event, old.hasExecuted object event → rule.hasExecuted object event)
      (admitted : a.Admits rule) : Change a (a.put rule)
  | delete (id : RuleId) : Change a (a.remove id)

/-- No name that lost its rule has got another one. -/
def NeverRecreates (a : Archive) : Prop :=
  a.log.Pairwise fun later earlier => later.1 = earlier.1 → earlier.2 = none → later.2 = none

/-! ## Answers -/

/-- What is said when all rules are asked for: some states that rules were in, or a fault. -/
def Lists (a : Archive) : Except Fault (List Rule) → Prop
  | .ok rules => ∀ rule ∈ rules, rule ∈ a.versions
  | .error _ => True

/-- What is said when a rule is asked for: the rule as it is, or a fault. -/
def Finds (a : Archive) (id : RuleId) : Except Fault Rule → Prop
  | .ok rule => a.current? id = some rule
  | .error _ => True

/-- What is said when a status is to be stored, and what is stored. A fault may be told though it was stored. -/
def Stores (a : Archive) (given : Rule) (stored? : Option Rule) : Except Fault Unit → Prop
  | .ok () => ∃ rule, stored? = some rule ∧ a.Lands given rule
  | .error _ => ∀ rule ∈ stored?, a.Lands given rule

/-- What may be answered to a demand from outside the engine, and what is stored with it. -/
def Serves (a : Archive) (stored? : Option Rule) : (d : Demand) → d.Answer → Prop
  | .rules, answer => stored? = none ∧ a.Lists answer
  | .rule id, answer => stored? = none ∧ a.Finds id answer
  | .update given, answer => a.Stores given stored? answer
  | .secret _ _, _ | .run _, _ | .resolve _, _ | .pause _, _ => stored? = none
  | .tick _ _, _ | .notification _, _ | .news _, _ | .never, _ => False

/-! ## What an archive holds -/

@[simp] theorem current?_put_self (a : Archive) (rule : Rule) : (a.put rule).current? rule.id = some rule := by
  simp [current?,put]

theorem current?_put_of_ne (a : Archive) {rule : Rule} {id : RuleId} (other : rule.id ≠ id) :
    (a.put rule).current? id = a.current? id := by
  simp [current?,put,other]

@[simp] theorem current?_remove_self (a : Archive) (id : RuleId) : (a.remove id).current? id = none := by
  simp [current?,remove]

theorem current?_remove_of_ne (a : Archive) {gone id : RuleId} (other : gone ≠ id) :
    (a.remove gone).current? id = a.current? id := by
  simp [current?,remove,other]

@[simp] theorem versions_put (a : Archive) (rule : Rule) : (a.put rule).versions = rule :: a.versions := by
  simp [versions,put]

@[simp] theorem versions_remove (a : Archive) (id : RuleId) : (a.remove id).versions = a.versions := by
  simp [versions,remove]

theorem mem_versions_putIfSome {a : Archive} {rule : Rule} (stored? : Option Rule) (member : rule ∈ a.versions) :
    rule ∈ (a.putIfSome stored?).versions := by
  cases stored? with
  | none => exact member
  | some stored => simpa [putIfSome] using .inr member

theorem Change.mem_versions {a a' : Archive} (change : a.Change a') {rule : Rule} (member : rule ∈ a.versions) :
    rule ∈ a'.versions := by
  cases change with
  | create => simpa using .inr member
  | edit => simpa using .inr member
  | delete id => simpa using member

/-- What holds of every archive: rules are kept under their names, a version stands for one state of a rule, and no
two names share an incarnation. -/
structure Orderly (a : Archive) : Prop where
  keyed : ∀ entry ∈ a.log, ∀ rule ∈ entry.2, rule.id = entry.1
  versioned : ∀ rule ∈ a.versions, a.Admits rule
  named : ∀ old ∈ a.versions, ∀ rule ∈ a.versions, old.incarnation = rule.incarnation → old.id = rule.id

theorem orderly_empty : Orderly {} := by
  refine ⟨?_,?_,?_⟩ <;> intro entry member <;> simp [versions] at member

theorem mem_versions_of_current? {a : Archive} {id : RuleId} {rule : Rule} (found : a.current? id = some rule) :
    rule ∈ a.versions := by
  obtain ⟨entry,first,holds⟩ := Option.bind_eq_some_iff.mp found
  exact List.mem_filterMap.mpr ⟨entry,List.mem_of_find?_eq_some first,holds⟩

theorem Orderly.id_of_current? {a : Archive} (orderly : a.Orderly) {id : RuleId} {rule : Rule}
    (found : a.current? id = some rule) : rule.id = id := by
  obtain ⟨entry,first,holds⟩ := Option.bind_eq_some_iff.mp found
  have named : entry.1 = id := by simpa using List.find?_some first
  exact (orderly.keyed entry (List.mem_of_find?_eq_some first) rule holds).trans named

end Archive
end Callout
