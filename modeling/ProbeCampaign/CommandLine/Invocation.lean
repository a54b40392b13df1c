import ProbeCampaign.CommandLine.Grammar

/-!
# Invocations

`program` is the grammar of the program, and an `Invocation` is what a command
line asks for: one command with its arguments, and where the configuration and
the store are.
-/

namespace ProbeCampaign.CommandLine

/-- The options that every command has. -/
def sharedOptions : List Parameter := [
  .option "config" (some 'c') .path,
  .option "db" none .path,
  .option "format" none .format,
  .flag "verbose" (some 'v')]

/-- A command without subcommands. -/
def leaf (name : String) (options : List Parameter) (operand : Option Parameter) : CommandSpec :=
  ⟨name, options, operand, []⟩

/-- A command that only holds others. -/
def group (name : String) (subcommands : List CommandSpec) : CommandSpec :=
  ⟨name, [], none, subcommands⟩

/-- The commands on the corpus. -/
def corpusCommands : CommandSpec :=
  group "corpus" [
    leaf "build" [.option "family" (some 'f') .text, .option "kind" (some 'k') .corpusKind] none,
    leaf "families" [] none,
    leaf "stats" [] none,
    leaf "show" [] (some (.needed "id" none .integer))]

/-- The command that plans tests. -/
def planCommand : CommandSpec :=
  leaf "plan" [
    .option "mode" (some 'm') .respType,
    .list "browser-id" (some 'b') .integer,
    .option "scheme" (some 's') .scheme,
    .option "out" (some 'o') .path] none

/-- The command that plans repetitions. -/
def repeatCommand : CommandSpec :=
  leaf "repeat" [
    .option "threshold" (some 't') .count,
    .option "multiplier" (some 'm') .count,
    .flag "mult-resp-ids" none,
    .list "browser-id" (some 'b') .integer,
    .option "os" none .text,
    .flag "include-debug" none,
    .option "out" (some 'o') .path] none

/-- The commands on retry artifacts. -/
def artifactCommands : CommandSpec :=
  group "artifact" [
    leaf "urls" [.needed "browser-id" (some 'b') .integer, .option "scheme" (some 's') .scheme]
      (some (.needed "path" none .path))]

/-- The whole program. -/
def program : CommandSpec :=
  group "headerprobe" [
    corpusCommands,
    planCommand,
    repeatCommand,
    artifactCommands,
    group "browsers" [leaf "register" [] none, leaf "list" [] none],
    group "results" [leaf "import" [] (some (.needed "path" none .path))],
    group "config" [
      leaf "init" [.flag "force" none] (some (.needed "path" none .path)),
      leaf "show" [] none],
    leaf "version" [] none]

/-- What to plan: the type of responses, the browsers or all that are
registered, and the scheme or all that are configured. The URLs go to a file if
one is named. -/
structure PlanArguments where
  mode : RespType
  browserIds : List Int
  scheme : Option Scheme
  out : Option String

/-- What to repeat. What is not given is as configured; browsers that are given
are also the expected ones. -/
structure RepeatArguments where
  threshold : Option Nat
  multiplier : Option Nat
  keepRanges : Bool
  browserIds : List Int
  os : Option String
  includeDebug : Bool
  out : Option String

/-- What a command line asks for. -/
inductive Command where
  | buildCorpus (only : Option String) (kind : CorpusKind)
  | listLabels
  | countResponses
  | showResponse (id : Int)
  | plan (arguments : PlanArguments)
  | repeatTests (arguments : RepeatArguments)
  | listRetries (path : String) (browserId : Int) (scheme : Scheme)
  | registerBrowsers
  | listBrowsers
  | importResults (path : String)
  | initConfig (path : String) (force : Bool)
  | showConfig
  | version

namespace Given

/-- The values of an option or operand, in the order given. -/
def all (g : Given) (name : String) : List String :=
  ((g.values.filter (·.1 == name)).map (·.2)).reverse

/-- Whether an option is given. -/
def has (g : Given) (name : String) : Bool :=
  g.values.any (·.1 == name)

/-- The value of an option or operand. -/
def text? (g : Given) (name : String) : Option String :=
  g.values.lookup name

/-- An integer that is given. -/
def integer? (g : Given) (name : String) : Option Int :=
  g.text? name >>= fun s => Decimal.int64? s.toList

/-- All integers that are given for an option. -/
def integers (g : Given) (name : String) : List Int :=
  (g.all name).filterMap fun s => Decimal.int64? s.toList

/-- A scheme that is given. -/
def scheme? (g : Given) : Option Scheme :=
  g.text? "scheme" >>= Scheme.ofName?

/-- The arguments of a plan. -/
def planArguments (g : Given) : PlanArguments where
  mode := (g.text? "mode" >>= RespType.ofName?).getD .basic
  browserIds := g.integers "browser-id"
  scheme := g.scheme?
  out := g.text? "out"

/-- The arguments of a repetition. -/
def repeatArguments (g : Given) : RepeatArguments where
  threshold := (g.integer? "threshold").map Int.toNat
  multiplier := (g.integer? "multiplier").map Int.toNat
  keepRanges := g.has "mult-resp-ids"
  browserIds := g.integers "browser-id"
  os := g.text? "os"
  includeDebug := g.has "include-debug"
  out := g.text? "out"

/-- The command that is given; every one has the operand that it needs. -/
def command? (g : Given) : Option Command :=
  match g.commands.tail with
  | ["corpus", "build"] =>
    some (.buildCorpus (g.text? "family")
      ((g.text? "kind" >>= CorpusKind.ofName?).getD .all))
  | ["corpus", "families"] => some .listLabels
  | ["corpus", "stats"] => some .countResponses
  | ["corpus", "show"] => (g.integer? "id").map .showResponse
  | ["plan"] => some (.plan g.planArguments)
  | ["repeat"] => some (.repeatTests g.repeatArguments)
  | ["artifact", "urls"] => do
    let path ← g.text? "path"
    let browserId ← g.integer? "browser-id"
    pure (.listRetries path browserId (g.scheme?.getD .https))
  | ["browsers", "register"] => some .registerBrowsers
  | ["browsers", "list"] => some .listBrowsers
  | ["results", "import"] => (g.text? "path").map .importResults
  | ["config", "init"] => (g.text? "path").map fun path => .initConfig path (g.has "force")
  | ["config", "show"] => some .showConfig
  | ["version"] => some .version
  | _ => none

end Given

/-- A command with the format of its reports and the paths of the configuration
and the store, if given. -/
structure Invocation where
  configPath : Option String
  dbPath : Option String
  format : ReportFormat
  command : Command

namespace Invocation

/-- What the arguments of the program ask for. -/
def read (args : List String) : Except Stop Invocation := do
  let g ← parse program sharedOptions args
  match g.command? with
  | none => throw .usage
  | some command =>
    let format := (g.text? "format" >>= ReportFormat.ofName?).getD .table
    pure ⟨g.text? "config", g.text? "db", format, command⟩

end Invocation

end ProbeCampaign.CommandLine
