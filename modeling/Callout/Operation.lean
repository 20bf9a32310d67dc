import Callout.CommandLine.Help
import Callout.CommandLine.Reader
import Callout.Log.Filter
import Callout.Manifest.Rule
import Callout.SocketAddress

/-!
The program from its start to its end: what it prints, what it says in the log, and the code with which it ends. A
run ends at once when there is no cluster to talk to. Otherwise it goes on until it is interrupted.
-/
namespace Callout

/-- What the program finds around it. -/
structure Machine where
  environment : CommandLine.Environment
  /-- Whether the program may listen at an address. -/
  mayListen : SocketAddress → Bool
  /-- Whether it is known where a cluster is. -/
  knowsCluster : Bool

/-- How the program ends. -/
structure Ending where
  code : UInt32
  printed : String := ""
  log : List Log.Record := []
deriving Inhabited

namespace Operation
open Log (Record)

/-- The part of the program that starts and ends it. -/
def frame : String := "resact"

/-- The part of the program that reconciles watches with rules. -/
def reconciling : String := "resact::reconcile"

/-- The part of the program that is its engine. -/
def engine : String := "resact_engine::coordinator"

/-- The longest pause in seconds after which the clock still shows a time. -/
def longestPause : Nat := 2 ^ 63 - 1

/-- What is said of the address where metrics are to be read. -/
def metricsRecords (machine : Machine) (address : String) : Record :=
  match SocketAddress.read address with
  | none => ⟨.warn, frame, "invalid metrics address; expected host:port"⟩
  | some a =>
    if machine.mayListen a then ⟨.info, frame, "Prometheus metrics exporter listening"⟩
    else ⟨.warn, frame, "failed to install metrics exporter"⟩

/-- A run, with the code at its end. With a pause that no clock can show the reconciler cannot start, which is noticed
at the end. -/
def run (machine : Machine) (o : CommandLine.RunOptions) : UInt32 × List Record :=
  let metrics := (o.metricsAddress?.map (metricsRecords machine)).toList
  let failed : Record := ⟨.error, frame, "run failed"⟩
  let interrupted : List Record := [⟨.info, frame, "ctrl-c received"⟩, ⟨.info, engine, "engine shutting down"⟩]
  if !machine.knowsCluster then (1, metrics ++ [failed])
  else if longestPause < o.requeue.seconds then (1, metrics ++ interrupted ++ [failed])
  else
    (0, metrics ++ [⟨.info, reconciling, "rule reconciler started"⟩] ++ interrupted ++
      [⟨.info, reconciling, "rule reconciler stopped"⟩, ⟨.info, frame, "resact stopped"⟩])

/-- The code for arguments that are not understood. -/
def misuse : UInt32 := 2

/-- The program with its arguments. The log holds what its filter lets pass. -/
def ofArguments (machine : Machine) (arguments : List String) : Ending :=
  match CommandLine.read machine.environment arguments with
  | none => { code := misuse }
  | some .version => { code := 0, printed := CommandLine.versionText }
  | some (.help topic) => { code := 0, printed := topic.helpText machine.environment }
  | some .printManifest => { code := 0, printed := Manifest.Layout.document Manifest.rules }
  | some (.run options) =>
    let (code, records) := run machine options
    { code, log := records.filter (Log.Filter.ofText? (machine.environment "RESACT_LOG")).passes }

end Operation
end Callout
