import Callout.Operation

/-!
The command line of the program.
-/
open Callout

/-- Runs the program with its arguments. From here no cluster is known. -/
def main (arguments : List String) : IO UInt32 := do
  let names := "RESACT_LOG" :: CommandLine.RunOption.all.map (·.environmentName)
  let values ← names.mapM fun name => return (name, ← IO.getEnv name)
  let machine : Machine :=
    { environment := fun name => (values.lookup name).join, mayListen := SocketAddress.isLocal,
      knowsCluster := false }
  let ending := Operation.ofArguments machine arguments
  IO.print ending.printed
  for record in ending.log do
    IO.println record.toText
  return ending.code
