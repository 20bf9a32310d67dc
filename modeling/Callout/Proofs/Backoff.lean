import Callout.Proofs.Attempts

/-!
How long a pause between two attempts is. Every span that a text says can be represented (`Span.read_representable`), so
the pauses of a policy that comes of settings can be and are not empty (`RetryPolicy.ofSettings_pauses`). The pause
without its random part doubles 31 times at most (`RetryPolicy.baseDelay_doubles`), and the random part is less than a
quarter of it. The sum of both may be too long to be represented, and then there is no pause
(`RetryPolicy.delay_spread`).
-/
namespace Callout

/-- Whether a result is of a kind, if there is one. -/
def Yields {ε α : Type} (holds : α → Prop) (result : Except ε α) : Prop := ∀ a, result = .ok a → holds a

namespace Yields
variable {ε α β : Type} {holds : α → Prop}

theorem ok {a : α} (held : holds a) : Yields holds (.ok a : Except ε α) := fun _ same => Except.ok.inj same ▸ held

theorem error {cause : ε} : Yields holds (.error cause) := fun _ same => by cases same

theorem bind {first : Except ε β} {next : β → Except ε α} (later : ∀ b, first = .ok b → Yields holds (next b)) :
    Yields holds (first >>= next) := by
  cases first with
  | error cause => exact error
  | ok b => exact later b rfl

end Yields

namespace Span

/-! ## Spans that a text says -/

theorem fit_lt (n : Nat) : Yields (· < 2 ^ 64) (fit n) := by
  unfold fit
  split
  next small => exact .ok small
  next => exact .error

theorem plus_representable (total : Span) (seconds nanos : Nat) : Yields Representable (plus total seconds nanos) := by
  refine .bind fun small _ => .bind fun large fits => .ok ?_
  have bound : large < 2 ^ 64 := fit_lt _ large fits
  have below : small % perSecond < perSecond := Nat.mod_lt _ (by decide)
  simp only [Representable,perSecond] at *
  omega

theorem addUnits_representable (total : Span) (number : Nat) (fraction : Option Fraction) (word : List Char) :
    Yields Representable (addUnits total number fraction word) := by
  unfold addUnits
  split
  · split <;> exact .error
  -- The whole units make for one sum, in whichever measure the unit has, and a fraction of them for a second one.
  cases fraction with
  | none =>
    dsimp only
    split
    · exact .bind fun _ _ => .bind fun whole first => .ok (plus_representable _ _ _ whole first)
    · exact .bind fun _ _ => .bind fun whole first => .ok (plus_representable _ _ _ whole first)
    · exact .bind fun whole first => .ok (plus_representable _ _ _ whole first)
  | some f =>
    dsimp only
    split
    all_goals
      repeat refine .bind fun _ _ => ?_
      split
      · exact .bind fun _ _ => plus_representable _ _ _
      · exact .bind fun _ _ => plus_representable _ _ _
      · exact .error

/-- A character more leaves the total as it is, or adds units to it. -/
theorem step_representable (mode : Mode) {total : Span} (held : total.Representable) (position : Nat) (c : Char) :
    Yields (·.2.Representable) (step mode total position c) := by
  cases mode with
  | awaiting since =>
    simp only [step]
    split
    · exact .ok held
    · split
      · exact .ok held
      · exact .error
  | whole number =>
    simp only [step]
    split
    · exact .bind fun _ _ => .ok held
    · split
      · exact .ok held
      · split
        · exact .ok held
        · split
          · exact .ok held
          · exact .error
  | fraction number f shown =>
    simp only [step]
    split
    · exact .bind fun _ _ => .ok held
    · split
      · exact .ok held
      · split
        · exact .bind fun _ _ => .ok held
        · exact .error
  | unit number f word =>
    have more := addUnits_representable total number f word.reverse
    simp only [step]
    split
    · exact .bind fun sum added => .ok (more sum added)
    · split
      · exact .bind fun sum added => .ok (more sum added)
      · split
        · exact .ok held
        · exact .error

theorem finish_representable (mode : Mode) {total : Span} (held : total.Representable) :
    Yields Representable (finish mode total) := by
  cases mode with
  | awaiting since => exact .ok held
  | whole number => exact addUnits_representable total number none []
  | fraction number f shown => exact .bind fun _ _ => addUnits_representable total number (some f) []
  | unit number f word => exact addUnits_representable total number f word.reverse

theorem readFrom_representable (mode : Mode) {total : Span} (held : total.Representable) (position : Nat)
    (text : List Char) : Yields Representable (readFrom mode total position text) := by
  induction text generalizing mode total position with
  | nil => exact finish_representable mode held
  | cons c rest ih =>
    exact .bind fun next went => ih next.1 (step_representable mode held position c next went) _

theorem read_representable (text : String) : Yields Representable (read text) := by
  have none : zero.Representable := by decide
  unfold read
  split
  · exact .ok none
  · split
    · exact .error
    · exact readFrom_representable _ none 0 _

/-- Whether a span can be waited for: it can be represented, and it is not empty. -/
structure IsPause (s : Span) : Prop where
  representable : s.Representable
  positive : 0 < s.nanos

end Span

/-! ## Pauses that settings say -/

theorem readDuration_isPause {field raw : String} {span : Span} (said : readDuration field raw = .ok span) :
    span.IsPause := by
  unfold readDuration at said
  split at said
  · cases said
  next read =>
    split at said
    · cases said
    next filled =>
      cases said
      refine ⟨Span.read_representable _ _ read,Nat.pos_of_ne_zero fun none => filled ?_⟩
      cases span
      exact congrArg Span.mk none

theorem durationOr_isPause {field : String} {raw? : Option String} {otherwise span : Span}
    (usual : otherwise.IsPause) (said : durationOr field raw? otherwise = .ok span) : span.IsPause := by
  unfold durationOr at said
  split at said
  · exact readDuration_isPause said
  · cases said
    exact usual

namespace RetryPolicy

theorem ofSettings_pauses {settings? : Option RetrySettings} {p : RetryPolicy} (sound : ofSettings settings? = .ok p) :
    p.backoff.IsPause ∧ p.maxBackoff.IsPause := by
  have follows := ofSettings_follows sound
  exact ⟨durationOr_isPause ⟨by decide,by decide⟩ follows.backoff,
    durationOr_isPause ⟨by decide,by decide⟩ follows.maxBackoff⟩

/-! ## Without the random part -/

/-- The nanoseconds of a pause that doubles each time, up to the longest one. -/
def doubled (p : RetryPolicy) (attempt : Nat) : Nat := min (p.backoff.nanos * 2 ^ (attempt - 1)) p.maxBackoff.nanos

theorem nanos_min (a b : Span) : (a.min b).nanos = min a.nanos b.nanos := by
  unfold Span.min
  split
  next less => exact (Nat.min_eq_left less).symm
  next more => exact (Nat.min_eq_right (Nat.le_of_not_le more)).symm

/-- A product that cannot be represented gives way to the longest span, as one that is longer does. -/
theorem nanos_times (s : Span) (n : Nat) {longest : Span} (bound : longest.Representable) :
    (((s.times? n).getD longest).min longest).nanos = min (s.nanos * n) longest.nanos := by
  rw [nanos_min]
  unfold Span.times?
  simp only
  split
  · rfl
  next large =>
    have above : longest.nanos ≤ s.nanos * n := Nat.le_of_lt (Nat.lt_of_lt_of_le bound (Nat.not_lt.mp large))
    rw [Option.getD_none,Nat.min_self,Nat.min_eq_right above]

theorem baseDelay_nanos (p : RetryPolicy) (attempt : Nat) (bound : p.maxBackoff.Representable) :
    (p.baseDelay attempt).nanos = min (p.backoff.nanos * 2 ^ min (attempt - 1) 31) p.maxBackoff.nanos :=
  nanos_times p.backoff (2 ^ min (attempt - 1) 31) bound

/-- The pause after an attempt can be represented, whatever the longest one is. It is the first pause doubled before each
attempt but the first, up to 31 times, or the longest one if that is less. So it doubles each time, up to the longest
one, exactly if no more than 32 attempts were made, if there is nothing to double, or if 31 times are enough. -/
theorem baseDelay_doubles (p : RetryPolicy) (bound : p.maxBackoff.Representable) (attempt : Nat) :
    (p.baseDelay attempt).Representable ∧ 2 ^ min (attempt - 1) 31 < 2 ^ 32 ∧
      (p.baseDelay attempt).nanos = min (p.backoff.nanos * 2 ^ min (attempt - 1) 31) p.maxBackoff.nanos ∧
      ((p.baseDelay attempt).nanos = p.doubled attempt ↔
        attempt ≤ 32 ∨ p.backoff.nanos = 0 ∨ p.maxBackoff.nanos ≤ p.backoff.nanos * 2 ^ 31) := by
  have same := p.baseDelay_nanos attempt bound
  refine ⟨?_,Nat.pow_lt_pow_right (by decide) (by omega),same,?_⟩
  · unfold Span.Representable at bound ⊢
    omega
  rw [same,doubled]
  by_cases few : attempt ≤ 32
  · have all : min (attempt - 1) 31 = attempt - 1 := by omega
    simp only [all,few,true_or]
  by_cases none : p.backoff.nanos = 0
  · simp only [none,Nat.zero_mul,true_or,or_true]
  -- From here on the pause stands still, while one that is doubled each time goes on to grow.
  · have last : min (attempt - 1) 31 = 31 := by omega
    have more : p.backoff.nanos * 2 ^ 31 < p.backoff.nanos * 2 ^ (attempt - 1) :=
      Nat.mul_lt_mul_of_pos_left (Nat.pow_lt_pow_right (by decide) (by omega)) (Nat.pos_of_ne_zero none)
    rw [last]
    omega

end RetryPolicy

namespace Sample

/-- The third pause is the first one doubled twice. The sixtieth is the longest one, which every pause from the fourth on
is. -/
theorem baseDelay_doubles_to_longest :
    let p : RetryPolicy := { maxBackoff := .ofSeconds 3 }
    p.maxBackoff.Representable ∧ (p.baseDelay 3).nanos = p.doubled 3 ∧ (p.baseDelay 60).nanos = p.doubled 60 ∧
      p.doubled 3 = 2000000000 ∧ p.doubled 60 = 3000000000 := by
  intro p
  have bound : p.maxBackoff.Representable := by decide
  obtain ⟨_,_,_,third⟩ := p.baseDelay_doubles bound 3
  obtain ⟨_,_,_,late⟩ := p.baseDelay_doubles bound 60
  exact ⟨bound,third.mpr (.inl (by decide)),late.mpr (.inr (.inr (by decide))),by decide,by decide⟩

/-- Retries that start after a nanosecond. -/
def hasty : RetrySettings := { maxAttempts? := some 40, backoff? := some "1ns" }

/-- After 33 attempts the pause is half as long as it would be if it had doubled each time. -/
theorem baseDelay_stops_doubling :
    ∃ p, RetryPolicy.ofSettings (some hasty) = .ok p ∧ p.maxBackoff = .ofSeconds 10 ∧
      (p.baseDelay 33).nanos = 2147483648 ∧ p.doubled 33 = 4294967296 := by
  refine ⟨{ maxAttempts := 40, backoff := ⟨1⟩ },?_,?_,?_,?_⟩
  · rfl
  · rfl
  · decide
  · decide

end Sample

namespace RetryPolicy

/-! ## With the random part -/

/-- What a pause comes to with its random part, whether it can be represented or not. -/
def total (p : RetryPolicy) (attempt draw : Nat) : Span := ⟨(p.baseDelay attempt).nanos + p.jitter attempt draw⟩

/-- A pause is what it comes to if that can be represented, and otherwise there is none. -/
theorem delay?_eq (p : RetryPolicy) (attempt draw : Nat) :
    p.delay? attempt draw =
      if (p.total attempt draw).Representable then some (p.total attempt draw) else none := rfl

theorem delay?_ne_none_iff (p : RetryPolicy) (attempt draw : Nat) :
    p.delay? attempt draw ≠ none ↔ (p.total attempt draw).Representable := by
  rw [delay?_eq]
  split <;> simp [*]

/-- A pause is longer than the one without its random part by any amount below the bound, and by no other. -/
theorem total_range (p : RetryPolicy) (attempt n : Nat) :
    (∃ draw, (p.total attempt draw).nanos = n) ↔
      ∃ extra, extra < max (jitterBound (p.baseDelay attempt)) 1 ∧ n = (p.baseDelay attempt).nanos + extra := by
  constructor
  · rintro ⟨draw,rfl⟩
    exact ⟨_,Nat.mod_lt draw (by omega),rfl⟩
  · rintro ⟨extra,below,rfl⟩
    refine ⟨extra,?_⟩
    simp only [total,jitter,Nat.mod_eq_of_lt below]

theorem total_nanos (p : RetryPolicy) (attempt draw : Nat) :
    ∃ extra, extra < max (jitterBound (p.baseDelay attempt)) 1 ∧
      (p.total attempt draw).nanos = (p.baseDelay attempt).nanos + extra :=
  (p.total_range attempt _).mp ⟨draw,rfl⟩

theorem total_of_short (p : RetryPolicy) {attempt : Nat} (short : (p.baseDelay attempt).nanos < 4) (draw : Nat) :
    p.total attempt draw = p.baseDelay attempt := by
  obtain ⟨extra,below,same⟩ := p.total_nanos attempt draw
  have none : extra = 0 := by
    unfold jitterBound at below
    omega
  rw [none] at same
  exact congrArg Span.mk same

theorem total_of_long (p : RetryPolicy) {attempt : Nat} (long : 4 ≤ (p.baseDelay attempt).nanos) (draw : Nat) :
    (p.baseDelay attempt).nanos ≤ (p.total attempt draw).nanos ∧
      (p.total attempt draw).nanos < (p.baseDelay attempt).nanos + (p.baseDelay attempt).nanos / 4 := by
  obtain ⟨extra,below,same⟩ := p.total_nanos attempt draw
  unfold jitterBound at below
  omega

/-- There are all pauses if there is the longest one. -/
theorem delay?_all_iff (p : RetryPolicy) (attempt : Nat) :
    (∀ draw, p.delay? attempt draw ≠ none) ↔
      (p.baseDelay attempt).nanos + (jitterBound (p.baseDelay attempt) - 1) < 2 ^ 64 * Span.perSecond := by
  simp only [delay?_ne_none_iff]
  constructor
  · intro all
    obtain ⟨draw,same⟩ := (p.total_range attempt _).mpr ⟨jitterBound (p.baseDelay attempt) - 1,by omega,rfl⟩
    exact same ▸ all draw
  · intro fits draw
    obtain ⟨extra,below,same⟩ := p.total_nanos attempt draw
    unfold Span.Representable
    omega

theorem baseDelay_isPause {p : RetryPolicy} (first : p.backoff.IsPause) (longest : p.maxBackoff.IsPause)
    (attempt : Nat) : (p.baseDelay attempt).IsPause ∧ p.baseDelay attempt ≤ p.maxBackoff := by
  have same := p.baseDelay_nanos attempt longest.representable
  have doubled : 0 < p.backoff.nanos * 2 ^ min (attempt - 1) 31 :=
    Nat.mul_pos first.positive (Nat.pow_pos (by decide))
  obtain ⟨bound,positive⟩ := longest
  have less : (p.baseDelay attempt).nanos ≤ p.maxBackoff.nanos := by omega
  exact ⟨⟨Nat.lt_of_le_of_lt less bound,by omega⟩,less⟩

/-- Take a policy that comes of settings, and any attempt. The pause without its random part can be represented, is not
empty and is no longer than the longest one. The random part is any amount below a quarter of it and below `2 ^ 64 - 1`
nanoseconds, and there is none if it is shorter than four nanoseconds. The pause is the sum of both if that can be
represented, and otherwise there is no pause. So there is always one exactly if the longest sum can be represented. -/
theorem delay_spread {settings? : Option RetrySettings} {p : RetryPolicy} (sound : ofSettings settings? = .ok p)
    (attempt : Nat) :
    (p.baseDelay attempt).IsPause ∧ p.baseDelay attempt ≤ p.maxBackoff ∧
      (∀ draw, 0 < (p.total attempt draw).nanos) ∧
      ((p.baseDelay attempt).nanos < 4 → ∀ draw, p.total attempt draw = p.baseDelay attempt) ∧
      (4 ≤ (p.baseDelay attempt).nanos → ∀ draw, p.baseDelay attempt ≤ p.total attempt draw ∧
        (p.total attempt draw).nanos < (p.baseDelay attempt).nanos + (p.baseDelay attempt).nanos / 4) ∧
      (∀ extra < min ((p.baseDelay attempt).nanos / 4) (2 ^ 64 - 1),
        ∃ draw, (p.total attempt draw).nanos = (p.baseDelay attempt).nanos + extra) ∧
      (∀ draw, p.delay? attempt draw =
        if (p.total attempt draw).Representable then some (p.total attempt draw) else none) ∧
      ((∀ draw, p.delay? attempt draw ≠ none) ↔
        (p.baseDelay attempt).nanos + (min ((p.baseDelay attempt).nanos / 4) (2 ^ 64 - 1) - 1) <
          2 ^ 64 * Span.perSecond) := by
  obtain ⟨first,longest⟩ := ofSettings_pauses sound
  obtain ⟨pause,less⟩ := baseDelay_isPause first longest attempt
  refine ⟨pause,less,fun draw => ?_,p.total_of_short,fun long draw => p.total_of_long long draw,fun extra below => ?_,
    p.delay?_eq attempt,p.delay?_all_iff attempt⟩
  · obtain ⟨extra,_,same⟩ := p.total_nanos attempt draw
    have positive := pause.positive
    omega
  · exact (p.total_range attempt _).mpr ⟨extra,Nat.lt_of_lt_of_le below (Nat.le_max_left _ _),rfl⟩

end RetryPolicy

namespace Sample

/-- Retries with a first pause that is too short for a random part, while the second one has one. -/
def brisk : RetrySettings := { backoff? := some "0.000000004s" }

/-- The second pause has eight nanoseconds or nine. -/
theorem delay_spread_of_brisk : ∃ p, RetryPolicy.ofSettings (some brisk) = .ok p ∧ (p.baseDelay 2).nanos = 8 ∧
    (∀ draw, (p.total 2 draw).nanos = 8 ∨ (p.total 2 draw).nanos = 9) ∧ (∃ draw, (p.total 2 draw).nanos = 9) ∧
    ∀ draw, p.delay? 2 draw = some (p.total 2 draw) := by
  have sound : RetryPolicy.ofSettings (some brisk) = .ok { backoff := ⟨4⟩ } := rfl
  obtain ⟨_,_,_,_,long,reached,_,all⟩ := RetryPolicy.delay_spread sound 2
  have base : (RetryPolicy.baseDelay { backoff := ⟨4⟩ } 2).nanos = 8 := by decide
  refine ⟨_,sound,base,fun draw => ?_,?_,fun draw => ?_⟩
  · obtain ⟨least,below⟩ := long (by decide) draw
    have least : 8 ≤ (RetryPolicy.total { backoff := ⟨4⟩ } 2 draw).nanos := base ▸ least
    rw [base] at below
    omega
  · exact reached 1 (by decide)
  · exact if_pos ((RetryPolicy.delay?_ne_none_iff _ 2 draw).mp (all.mpr (by decide) draw))

/-- Retries with the longest pauses that a text can say. -/
def endless : RetrySettings :=
  { maxAttempts? := some 2, backoff? := some "18446744073709551615s 999999999ns",
    maxBackoff? := some "18446744073709551615s 999999999ns" }

/-- The settings are sound and the pause can be represented, but there is none any more once it has a random part. -/
theorem delay_beyond_spans : ∃ p, RetryPolicy.ofSettings (some endless) = .ok p ∧
    (p.baseDelay 1).Representable ∧ 4 ≤ (p.baseDelay 1).nanos ∧ p.delay? 1 1 = none := by
  refine ⟨{ maxAttempts := 2, backoff := ⟨2 ^ 64 * 1000000000 - 1⟩, maxBackoff := ⟨2 ^ 64 * 1000000000 - 1⟩ },
    ?_,?_,?_,?_⟩
  · rfl
  · decide
  · decide
  · decide

end Sample
end Callout
