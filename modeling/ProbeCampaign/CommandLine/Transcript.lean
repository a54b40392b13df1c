import ProbeCampaign.Files

/-!
# What a run says

A command runs in `Run`: it uses files, says lines on the output and on the
diagnostics channel, and may end early with a `Complaint`. What was said before
stays said.
-/

namespace ProbeCampaign.CommandLine

/-- The lines said so far on both channels. -/
structure Transcript where
  output : List String
  diagnostics : List String

namespace Transcript

/-- Nothing said. -/
def empty : Transcript :=
  ⟨[], []⟩

/-- The text of lines, each with its end. -/
def text (lines : List String) : String :=
  String.join (lines.map (· ++ "\n"))

end Transcript

/-- Why a command ended early: it gave up, and says what it was doing and why
that failed, step by step; or the program broke down. -/
inductive Complaint where
  | gaveUp (messages : List String)
  | brokeDown (message : String)

namespace Complaint

/-- A complaint in one line. -/
def text : Complaint → String
  | .gaveUp messages => "❌ " ++ ": ".intercalate messages
  | .brokeDown message => message

/-- The exit code of a command that ended early. -/
def exitCode : Complaint → Nat
  | .gaveUp _ => 1
  | .brokeDown _ => 101

/-- A failure with everything that led to it. -/
def ofFailure (f : Failure) : Complaint :=
  .gaveUp (f.message :: f.causes)

/-- A refusal by the file system. -/
def ofFileError (e : FileError) : Complaint :=
  .gaveUp [e.message]

/-- Giving up, with what was being done before it. -/
def during (activity : String) : Complaint → Complaint
  | .gaveUp messages => .gaveUp (activity :: messages)
  | .brokeDown message => .brokeDown message

end Complaint

/-- A command on files that says lines and may end early. -/
abbrev Run (m : Type → Type) : Type → Type :=
  ExceptT Complaint (StateT Transcript m)

namespace Run

variable {m : Type → Type} [Monad m] {α : Type}

/-- Says lines on the output channel. -/
def say (lines : List String) : Run m Unit :=
  modify fun t => { t with output := t.output ++ lines }

/-- Says lines on the diagnostics channel. -/
def diagnose (lines : List String) : Run m Unit :=
  modify fun t => { t with diagnostics := t.diagnostics ++ lines }

/-- Says what has been done. -/
def succeed (message : String) : Run m Unit :=
  say ["✅ " ++ message]

/-- Says that there is nothing to do. -/
def inform (message : String) : Run m Unit :=
  say ["ℹ️  " ++ message]

/-- Warns of something that does not stop the command. -/
def warn (message : String) : Run m Unit :=
  diagnose ["⚠️  " ++ message]

/-- Acts on files. -/
def act (action : m α) : Run m α :=
  ExceptT.lift (StateT.lift action)

/-- Gives up if there is an error. -/
def orComplain {ε : Type} (complaint : ε → Complaint) : Except ε α → Run m α
  | .ok a => pure a
  | .error e => throw (complaint e)

/-- Breaks down if there is no value. -/
def orBreakDown (message : String) : Option α → Run m α
  | some a => pure a
  | none => throw (.brokeDown message)

/-- Gives up if there is a failure. -/
def orFail (result : Except Failure α) : Run m α :=
  orComplain .ofFailure result

end Run

end ProbeCampaign.CommandLine
