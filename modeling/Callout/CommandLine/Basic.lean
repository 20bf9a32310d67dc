import Callout.Engine.Settings

/-!
What the program can be asked to do: to run, to print the manifest of rules, or to say something about itself. An
option of a run comes from the arguments, else from the environment, else it has a value of its own.
-/
namespace Callout.CommandLine

/-- Options of a run. -/
structure RunOptions where
  /-- Where metrics are to be read. -/
  metricsAddress? : Option String := none
  /-- How often a status is written at most. -/
  statusAttempts : Nat := 5
  /-- The seconds between attempts to open what could not be watched. -/
  requeueSeconds : Nat := 30
deriving DecidableEq, Repr, Inhabited

namespace RunOptions

/-- The settings of the engine. At least one attempt is made. -/
def settings (o : RunOptions) : EngineSettings := { statusAttempts := max 1 o.statusAttempts }

/-- The pause between attempts to open what could not be watched, a second at least. -/
def requeue (o : RunOptions) : Span := .ofSeconds (max 1 o.requeueSeconds)

end RunOptions

/-- What help is about. -/
inductive Topic where
  | program
  | run
  | manifest
  | help
deriving DecidableEq, Repr, Inhabited

/-- The commands, by name. -/
def Topic.commands : List (String × Topic) := [("run", .run), ("crd", .manifest), ("help", .help)]

/-- What the program is asked to do. -/
inductive Invocation where
  | run (options : RunOptions)
  | printManifest
  | help (topic : Topic)
  | version
deriving DecidableEq, Repr, Inhabited

/-- The values that the environment has for names. -/
abbrev Environment := String → Option String

/-! ## Options with a value -/

/-- An option of a run. -/
inductive RunOption where
  | metricsAddress
  | statusAttempts
  | requeueSeconds
deriving DecidableEq, Repr, Inhabited

namespace RunOption

/-- All options, in the order in which help shows them. -/
def all : List RunOption := [.metricsAddress, .statusAttempts, .requeueSeconds]

/-- The name of an option. -/
def name : RunOption → String
  | .metricsAddress => "metrics-addr"
  | .statusAttempts => "status-retry-attempts"
  | .requeueSeconds => "requeue-secs"

/-- The name that stands for the value of an option. -/
def valueName (o : RunOption) : String :=
  o.name.map fun c => if c = '-' then '_' else c.toUpper

/-- The name of an option in the environment. -/
def environmentName : RunOption → String
  | .metricsAddress => "RESACT_METRICS_ADDR"
  | .statusAttempts => "RESACT_STATUS_RETRY"
  | .requeueSeconds => "RESACT_REQUEUE_SECS"

/-- What help says of an option. -/
def about : RunOption → String
  | .metricsAddress => "Prometheus listener, e.g. 0.0.0.0:9090"
  | .statusAttempts => "Status write attempts before a dispatch reports a conflict"
  | .requeueSeconds => "Seconds between retries of resource types discovery cannot resolve yet"

/-- The value that stands for an option that is not given. -/
def usual? : RunOption → Option String
  | .metricsAddress => none
  | .statusAttempts => some (toString ({} : RunOptions).statusAttempts)
  | .requeueSeconds => some (toString ({} : RunOptions).requeueSeconds)

end RunOption
end Callout.CommandLine
