import ProbeCampaign.CommandLine.Commands

/-!
# The program

`execute` runs the program on the arguments of a command line. It ends with an
exit code and the texts of both channels: zero where the command was carried
out, one where it gave up, two where the arguments make no command, and 101 where
the program broke down.
-/

namespace ProbeCampaign.CommandLine

/-- How a run ended. -/
structure Ending where
  exitCode : Nat
  output : String
  diagnostics : String

namespace Ending

/-- The ending of arguments that ask for no command. -/
def ofStop : Stop → Ending
  | .version title => ⟨0, title ++ " 0.1.0\n", ""⟩
  | .help title => ⟨0, "Usage: " ++ " ".intercalate (title.splitOn "-") ++ " [OPTIONS]\n", ""⟩
  | .usage => ⟨2, "", "error: these arguments make no command; see --help\n"⟩

/-- The ending of a command. -/
def ofTranscript (result : Except Complaint Unit) (t : Transcript) : Ending :=
  match result with
  | .ok () => ⟨0, Transcript.text t.output, Transcript.text t.diagnostics⟩
  | .error c =>
    ⟨c.exitCode, Transcript.text t.output, Transcript.text (t.diagnostics ++ [c.text])⟩

end Ending

variable {m : Type → Type} [Monad m] [FileSystem m]

/-- Carries out an invocation. -/
def perform (around : Surroundings) (i : Invocation) : m Ending := do
  let commanded : Run m Unit := do
    let s ← Setup.load around i
    s.perform around.home i.command
  let (result, t) ← commanded.run.run .empty
  pure (.ofTranscript result t)

/-- Runs the program. -/
def execute (around : Surroundings) (args : List String) : m Ending :=
  match Invocation.read args with
  | .error stop => pure (.ofStop stop)
  | .ok i => perform around i

end ProbeCampaign.CommandLine
