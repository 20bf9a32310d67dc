import Callout.CommandLine.Basic

/-!
What the program says about itself.
-/
namespace Callout.CommandLine

/-- The name of the program and its version. -/
def versionText : String := "resact 0.1.0\n"

/-- What a command does. -/
def Topic.about : Topic → String
  | .program => "Run HTTP actions on Kubernetes resource lifecycle events"
  | .run => "Run the engine against the current kube context"
  | .manifest => "Print the ResourceAction CRD manifest"
  | .help => "Print this message or the help of the given subcommand(s)"

/-- How a command is called. -/
def Topic.usage : Topic → String
  | .program => "resact <COMMAND>"
  | .run => "resact run [OPTIONS]"
  | .manifest => "resact crd"
  | .help => "resact help [COMMAND]..."

/-- What help says of an option of a run: its meaning, its name in the environment with the value that it has there,
and its usual value. -/
def RunOption.helpLines (environment : Environment) (o : RunOption) : List String :=
  let usual := o.usual?.elim "" fun value => " [default: " ++ value ++ "]"
  ["      --" ++ o.name ++ " <" ++ o.valueName ++ ">",
   "          " ++ o.about ++ " [env: " ++ o.environmentName ++ "=" ++ (environment o.environmentName).getD "" ++ "]" ++ usual]

/-- The names of commands with what they do. -/
def commandLines : List String :=
  "Commands:" :: Topic.commands.map fun (name, topic) =>
    "  " ++ name ++ "".pushn ' ' (6 - name.length) ++ topic.about

/-- What stands below the usage of a command. -/
def Topic.details (environment : Environment) : Topic → List (List String)
  | .program =>
    [commandLines, ["Options:", "  -h, --help     Print help", "  -V, --version  Print version"]]
  | .run =>
    [("Options:" :: RunOption.all.flatMap (·.helpLines environment)) ++ ["  -h, --help", "          Print help"]]
  | .manifest => [["Options:", "  -h, --help  Print help"]]
  | .help => [["Arguments:", "  [COMMAND]...  Print help for the subcommand(s)"]]

/-- The help about a topic. -/
def Topic.helpText (environment : Environment) (t : Topic) : String :=
  let parts := [t.about] :: ["Usage: " ++ t.usage] :: t.details environment
  "\n\n".intercalate (parts.map ("\n".intercalate ·)) ++ "\n"

end Callout.CommandLine
