import Callout.Cluster.Watch

/-!
Feeds: watches that pause after an error. Each pause is twice as long as the one before, up to a bound, and after a
long time without error the pauses are short again. Nothing is asked for before somebody waits for what comes next,
and a request that gets no answer stays open.
-/
namespace Callout.Cluster

/-- How long a feed pauses after errors. -/
structure Pauses where
  /-- The next pause in milliseconds. -/
  next : Nat
  /-- When the last pause began. -/
  last? : Option Nat
deriving DecidableEq, Repr, Inhabited

namespace Pauses

/-- The first pause. -/
def shortest : Nat := 800

/-- The longest pause. -/
def longest : Nat := 30000

/-- The time after which pauses are short again. -/
def forgetting : Nat := 120000

/-- Pauses before any error. -/
def start : Pauses := ⟨shortest, none⟩

/-- The end of a pause that begins now, and the pauses after it. -/
def begin (p : Pauses) (now : Nat) : Nat × Pauses :=
  let length := if p.last?.any fun last => forgetting < now - last then shortest else p.next
  (now + length, ⟨min (2 * length) longest, some now⟩)

end Pauses

/-- A watch that pauses after errors. -/
structure Feed (α : Type) where
  watch : Watch α
  pauses : Pauses := .start
  /-- When the pause ends. -/
  ready : Nat := 0
  /-- Whether a request was sent that gets no answer. -/
  hangs : Bool := false

namespace Feed
variable {α σ : Type}

/-- The feed of a subject. -/
def ofSubject (s : Subject α) : Feed α := { watch := { subject := s } }

/-- What a feed tells next, if anything, given a server that answers or leaves a request open. -/
def pullWithin (server : σ → Request → σ × Option Response) (now : Nat) :
    Nat → Feed α → σ → Feed α × σ × Option (Except Error (Change α))
  | 0, f, s => (f, s, none)
  | bound + 1, f, s =>
    let move : Watch.Next α → σ → Feed α × σ × Option (Except Error (Change α))
      | .ask _, s => (f, s, none)
      | .move watch none, s => pullWithin server now bound { f with watch } s
      | .move watch (some (.ok change)), s => ({ f with watch }, s, some (.ok change))
      | .move watch (some (.error e)), s =>
        let (ready, pauses) := f.pauses.begin now
        ({ f with watch, pauses, ready }, s, some (.error e))
    match f.watch.next with
    | .ask request =>
      match server s request with
      | (s, none) => ({ f with hangs := true }, s, none)
      | (s, some response) => move (f.watch.answered response) s
    | next => move next s

/-- How many steps are taken at most before something is told. -/
def patience : Nat := 100000

/-- What a feed tells next, if anything. -/
def pull (server : σ → Request → σ × Option Response) (now : Nat) (f : Feed α) (s : σ) :
    Feed α × σ × Option (Except Error (Change α)) :=
  if f.hangs || now < f.ready then (f, s, none) else f.pullWithin server now patience s

/-- What a feed tells one after the other, up to a number of items, if every pause is waited for. -/
def take (server : σ → Request → σ × Option Response) :
    Nat → Feed α → σ → σ × List (Except Error (Change α))
  | 0, _, s => (s, [])
  | count + 1, f, s =>
    match f.pull server f.ready s with
    | (_, s, none) => (s, [])
    | (f, s, some item) =>
      let (s, items) := take server count f s
      (s, item :: items)

end Feed
end Callout.Cluster
