import Callout.Rule.Matching

/-!
What rules demand of events. A filter is taken apart into its requirements, one for each label and one for each pattern
that is not empty (`Filter.Requires`), and an object passes exactly if it meets every one of them (`Filter.takes_iff`).
So a filter with more requirements takes no more objects, and one with a pattern that is no pattern takes none
(`Rule.answers_as_required`). What finds patterns may be anything.
-/
namespace Callout

deriving instance ReflBEq, LawfulBEq for EventKind

/-- Whether a text is a pattern, and one that is found in another text. -/
def Patterns.FoundIn [Patterns] (pattern text : String) : Prop :=
  ∃ test, read pattern = .ok test ∧ test text = true

/-! ## Requirements -/

/-- One thing that is demanded of an object. -/
inductive Requirement where
  | label (key value : String)
  | name (pattern : String)
  | space (pattern : String)

/-- Whether an object meets a requirement. An object of the whole cluster has the empty text for a namespace. -/
def Requirement.MetBy [Patterns] (object : Snapshot) : Requirement → Prop
  | .label key value => object.labels.get? key = some value
  | .name pattern => Patterns.FoundIn pattern object.name
  | .space pattern => Patterns.FoundIn pattern (object.space?.getD "")

namespace Filter

/-- What a filter demands. A pattern that is empty demands nothing. -/
inductive Requires (f : Filter) : Requirement → Prop where
  | label {key value : String} (listed : f.labels.get? key = some value) : Requires f (.label key value)
  | name {pattern : String} (given : f.namePattern? = some pattern) (solid : pattern ≠ "") : Requires f (.name pattern)
  | space {pattern : String} (given : f.namespacePattern? = some pattern) (solid : pattern ≠ "") :
      Requires f (.space pattern)

/-- A filter with one label or one pattern more. What is added takes the place of nothing. -/
inductive Adds (f : Filter) : Filter → Prop where
  | label (key value : String) (new : f.labels.get? key = none) : Adds f { f with labels := f.labels.insert key value }
  | name (pattern : String) (new : f.namePattern?.getD "" = "") : Adds f { f with namePattern? := some pattern }
  | space (pattern : String) (new : f.namespacePattern?.getD "" = "") :
      Adds f { f with namespacePattern? := some pattern }

variable {f g : Filter} {object : Snapshot}

theorem Adds.requires (adds : f.Adds g) {r : Requirement} (required : f.Requires r) : g.Requires r := by
  -- A requirement stays as it is unless it is of the kind that is added, and then there was none in its place.
  cases adds with
  | label key value new =>
    cases required with
    | @label other _ listed =>
      have apart : other ≠ key := by
        rintro rfl
        cases new.symm.trans listed
      exact .label ((Dict.get?_insert _ _ _ _).trans ((if_neg apart).trans listed))
    | name given solid => exact .name given solid
    | space given solid => exact .space given solid
  | name pattern new =>
    cases required with
    | label listed => exact .label listed
    | name given solid => exact absurd (by simpa [given] using new) solid
    | space given solid => exact .space given solid
  | space pattern new =>
    cases required with
    | label listed => exact .label listed
    | name given solid => exact .name given solid
    | space given solid => exact absurd (by simpa [given] using new) solid

variable [Patterns]

theorem patternFound_iff {pattern? : Option String} {text : String} :
    patternFound pattern? text = true ↔ ∀ pattern ∈ pattern?, pattern ≠ "" → Patterns.FoundIn pattern text := by
  cases pattern? with
  | none => simp [patternFound]
  | some pattern =>
    by_cases empty : pattern = ""
    · simp [patternFound,empty]
    · cases said : Patterns.read pattern with
      | ok test => simp [patternFound,Patterns.FoundIn,empty,said]
      | error cause => simp [patternFound,Patterns.FoundIn,empty,said]

/-- A filter takes the objects that meet all that it demands. -/
theorem takes_iff : f.takes object = true ↔ ∀ r, f.Requires r → r.MetBy object := by
  simp only [takes,Bool.and_eq_true,patternFound_iff,List.all_eq_true,beq_iff_eq]
  constructor
  · rintro ⟨⟨named,placed⟩,labelled⟩ r required
    cases required with
    | label listed => exact labelled _ ((Dict.get?_eq_some_iff _ _ _).mp listed)
    | name given solid => exact named _ given solid
    | space given solid => exact placed _ given solid
  · intro met
    exact ⟨⟨fun _ given solid => met _ (.name given solid),fun _ given solid => met _ (.space given solid)⟩,
      fun entry listed => met _ (.label ((Dict.get?_eq_some_iff _ _ _).mpr listed))⟩

/-- A filter that demands no less takes no more. -/
theorem takes_of_requires (stricter : ∀ r, f.Requires r → g.Requires r) (taken : g.takes object = true) :
    f.takes object = true :=
  takes_iff.mpr fun r required => takes_iff.mp taken r (stricter r required)

/-- No object meets what a text that is no pattern demands. -/
theorem not_takes_of_invalid {pattern cause : String} (solid : pattern ≠ "")
    (invalid : Patterns.read pattern = .error cause)
    (given : f.namePattern? = some pattern ∨ f.namespacePattern? = some pattern) : f.takes object = false := by
  have lost (text : String) : ¬Patterns.FoundIn pattern text := by
    rintro ⟨test,said,_⟩
    cases invalid.symm.trans said
  refine Bool.eq_false_iff.mpr fun taken => ?_
  rcases given with given | given
  · exact lost _ (takes_iff.mp taken _ (.name given solid))
  · exact lost _ (takes_iff.mp taken _ (.space given solid))

end Filter

/-! ## Rules -/

theorem ResourceType.eq_iff_parts {a b : ResourceType} :
    a = b ↔ a.group = b.group ∧ a.version = b.version ∧ a.kind = b.kind := by
  cases a
  cases b
  simp

namespace Rule
variable [Patterns]

theorem answers_iff {rule : Rule} {event : Event} :
    rule.answers event = true ↔
      rule.spec.selector = event.type ∧ event.kind ∈ rule.spec.events ∧
        ∀ f ∈ rule.spec.filter?, f.takes event.object = true := by
  cases given : rule.spec.filter? with
  | none => simp [answers,filterTakes,given]
  | some f => simp [answers,filterTakes,given,and_assoc]

/-- Whatever finds patterns, a rule answers the events of its type and of one of its kinds whose object meets all that
its filter demands, if it has one. A filter to which a label or a pattern is added takes no object that it did not take
before. A filter with a text that is no pattern takes no object, whatever else it says, and a rule with it answers no
event. -/
theorem answers_as_required :
    (∀ (rule : Rule) (event : Event), rule.answers event = true ↔
      (rule.spec.selector.group = event.type.group ∧ rule.spec.selector.version = event.type.version ∧
        rule.spec.selector.kind = event.type.kind) ∧
      event.kind ∈ rule.spec.events ∧
      ∀ f ∈ rule.spec.filter?, ∀ r, f.Requires r → r.MetBy event.object) ∧
    (∀ (f g : Filter) (object : Snapshot), f.Adds g → f.takes object = false → g.takes object = false) ∧
    (∀ (f : Filter) (pattern cause : String), pattern ≠ "" → Patterns.read pattern = .error cause →
      f.namePattern? = some pattern ∨ f.namespacePattern? = some pattern →
        (∀ object, f.takes object = false) ∧
        ∀ (rule : Rule) (event : Event), rule.spec.filter? = some f → rule.answers event = false) := by
  refine ⟨fun rule event => ?_,fun f g object adds missed => ?_,fun f pattern cause solid invalid given => ?_⟩
  · simp only [answers_iff,ResourceType.eq_iff_parts,Filter.takes_iff]
  · refine Bool.eq_false_iff.mpr fun taken => ?_
    cases missed.symm.trans (Filter.takes_of_requires (fun _ => adds.requires) taken)
  · have lost (object : Snapshot) : f.takes object = false := Filter.not_takes_of_invalid solid invalid given
    refine ⟨lost,fun rule event filtered => Bool.eq_false_iff.mpr fun answered => ?_⟩
    obtain ⟨_,_,taken⟩ := answers_iff.mp answered
    cases (lost event.object).symm.trans (taken f filtered)

end Rule

namespace Sample

/-- A filter for the objects of the web in any namespace of production. -/
def webFilter : Filter where
  labels := .ofList [("app", "web")]
  namePattern? := some "^web-"
  namespacePattern? := some "prod"

/-- A rule with a filter. -/
def filtered (f : Filter) : Rule where
  metadata := {}
  spec := { selector := ⟨"apps", "v1", "Deployment"⟩, events := [.create], filter? := some f, actions := [] }

/-- An object of production was created. -/
def deployed (name : String) : Event where
  kind := .create
  type := ⟨"apps", "v1", "Deployment"⟩
  lastKnown := false
  object := { name, space? := some "team-prod-eu", uid := "u", version? := none, labels := .ofList [("app", "web")],
              raw := .null }

/-- An object of the web is taken. One of another name is passed over, and so it is when one more label is demanded. When
a text that is no pattern stands for the namespace, nothing is taken. -/
theorem answers_as_required_of_web :
    ((filtered webFilter).answers (deployed "web-1") = true ∧
      ∀ r, webFilter.Requires r → r.MetBy (deployed "web-1").object) ∧
    (webFilter.Adds { webFilter with labels := webFilter.labels.insert "tier" "front" } ∧
      webFilter.takes (deployed "api-1").object = false ∧
      Filter.takes { webFilter with labels := webFilter.labels.insert "tier" "front" } (deployed "api-1").object =
        false) ∧
    (∃ cause, Patterns.read "(" = .error cause) ∧
      (filtered { webFilter with namespacePattern? := some "(" }).answers (deployed "web-1") = false := by
  have answered : (filtered webFilter).answers (deployed "web-1") = true := by decide +kernel
  have missed : webFilter.takes (deployed "api-1").object = false := by decide +kernel
  have adds : webFilter.Adds { webFilter with labels := webFilter.labels.insert "tier" "front" } :=
    .label "tier" "front" (by decide)
  have invalid : Patterns.read "(" = .error (Pattern.Error.message .malformed) := by with_unfolding_all rfl
  obtain ⟨exactly,added,closed⟩ := Rule.answers_as_required
  exact ⟨⟨answered,((exactly _ _).mp answered).2.2 _ rfl⟩,⟨adds,missed,added _ _ _ adds missed⟩,⟨_,invalid⟩,
    (closed _ _ _ (by decide) invalid (.inr rfl)).2 _ _ rfl⟩

end Sample
end Callout
