import Callout.CommandLine.Basic
import Callout.Decimal.Double

/-!
Reading arguments. They are taken in order; the first that asks for help or for the version decides, unless one before
it is wrong. An option stands once, with its value after an equals sign or as the next argument, which begins with no
dash. Whatever is not understood makes the whole wrong.
-/
namespace Callout.CommandLine

/-- Values of options, as they were given. -/
abbrev Given := List (RunOption × String)

/-- The whole number up to a bound that a text says. A sign may stand before it. -/
def readWhole (bound : Nat) (text : String) : Option Nat :=
  (Decimal.integer? text).bind fun n => if 0 ≤ n ∧ n < bound then some n.toNat else none

/-- Whether a text is a value of an option. -/
def RunOption.accepts (o : RunOption) (text : String) : Bool :=
  match o with
  | .metricsAddress => true
  | .statusAttempts => (readWhole (2 ^ 32) text).isSome
  | .requeueSeconds => !text.startsWith "-" && (readWhole (2 ^ 64) text).isSome

/-- Options with one more, if it was not given before and its value is good. -/
def Given.add (given : Given) (o : RunOption) (text : String) : Option Given :=
  if (given.lookup o).isSome || !o.accepts text then none else some ((o, text) :: given)

/-- An argument. -/
inductive Argument where
  /-- Two dashes, after which no option stands. -/
  | stop
  /-- A name after two dashes, with the value after an equals sign. -/
  | long (name : String) (value? : Option String)
  /-- A letter after a dash, with more after it or not. -/
  | short (letter : Char)
  | word (text : String)

/-- What an argument is. -/
def Argument.ofText (text : String) : Argument :=
  match text.toList with
  | ['-', '-'] => .stop
  | '-' :: '-' :: rest =>
    match rest.span (· ≠ '=') with
    | (name, []) => .long (String.ofList name) none
    | (name, _ :: value) => .long (String.ofList name) (some (String.ofList value))
  | '-' :: letter :: _ => .short letter
  | _ => .word text

/-- What a command's arguments come to: a request for help, or the options that were given. -/
inductive Reading where
  | help
  | given (options : Given)

/-- The arguments of a run, with the option that awaits its value. -/
def readRunArguments : Given → Option RunOption → List String → Option Reading
  | given, none, [] => some (.given given)
  | _, some _, [] => none
  | given, awaiting?, text :: rest =>
    match Argument.ofText text, awaiting? with
    | .word value, some o => (given.add o value).bind fun given => readRunArguments given none rest
    | .stop, none => if rest.isEmpty then some (.given given) else none
    | .long "help" none, none | .short 'h', none => some .help
    | .long name value?, none =>
      match RunOption.all.find? (·.name = name), value? with
      | some o, some value => (given.add o value).bind fun given => readRunArguments given none rest
      | some o, none => if (given.lookup o).isSome then none else readRunArguments given (some o) rest
      | none, _ => none
    | _, _ => none

/-- The value of an option: the one given, else the one of the environment, which then has to be good. -/
def valueOf? (environment : Environment) (given : Given) (o : RunOption) : Option (Option String) :=
  match given.lookup o, environment o.environmentName with
  | some text, _ => some (some text)
  | none, some text => if o.accepts text then some (some text) else none
  | none, none => some none

/-- The options of a run. -/
def runOptions? (environment : Environment) (given : Given) : Option RunOptions := do
  let metricsAddress? ← valueOf? environment given .metricsAddress
  let attempts? ← valueOf? environment given .statusAttempts
  let seconds? ← valueOf? environment given .requeueSeconds
  let usual : RunOptions := {}
  return { metricsAddress?, statusAttempts := (attempts?.bind (readWhole (2 ^ 32))).getD usual.statusAttempts,
           requeueSeconds := (seconds?.bind (readWhole (2 ^ 64))).getD usual.requeueSeconds }

/-- The topic that help is asked about by the names of commands. -/
def helpTopic? : List String → Option Topic
  | [] => some .program
  | [name] => Topic.commands.lookup name
  | _ => none

/-- What arguments ask for, if they are understood. -/
def read (environment : Environment) : List String → Option Invocation
  | [] => none
  | text :: rest =>
    match Argument.ofText text with
    | .long "help" none | .short 'h' => some (.help .program)
    | .long "version" none | .short 'V' => some .version
    | .word "help" => (helpTopic? rest).map .help
    | .word "run" => do
      match ← readRunArguments [] none rest with
      | .help => return .help .run
      | .given given => return .run (← runOptions? environment given)
    | .word "crd" =>
      match rest.map Argument.ofText with
      | [] | [.stop] => some .printManifest
      | .long "help" none :: _ | .short 'h' :: _ => some (.help .manifest)
      | _ => none
    | _ => none

end Callout.CommandLine
