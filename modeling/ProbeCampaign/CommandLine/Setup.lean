import ProbeCampaign.CommandLine.Transcript
import ProbeCampaign.CommandLine.Invocation

/-!
# What commands work with

A `Setup` is the configuration of a run, the path of its store and the format of
its reports. `Setup.load` makes it from what the command line gives; `openStore`
and `keepStore` reach the store.
-/

namespace ProbeCampaign.CommandLine

variable {m : Type → Type} [Monad m] [FileSystem m]

/-- The text of bytes. -/
def decodeText (content : ByteArray) : Except FileError (List Char) :=
  match Utf8.decode? content.toList with
  | some cs => .ok cs
  | none => .error .invalidText

/-- The text of a file. -/
def readText (path : String) : Run m (Except FileError (List Char)) := do
  let content ← Run.act (FileSystem.read path)
  pure (content >>= decodeText)

/-- Makes the directory that a path lies in. -/
def makeParent (path : String) : Run m (Except FileError Unit) :=
  match Path.parent? path with
  | none | some "" => pure (.ok ())
  | some directory => Run.act (FileSystem.makeDirectories directory)

/-- Writes a file, and makes its directory before. -/
def saveText (path text : String) : Run m (Except FileError Unit) := do
  match ← makeParent path with
  | .error e => pure (.error e)
  | .ok () => Run.act (FileSystem.write path text)

/-- Gives up on a file that cannot be written. -/
def orFailWriting (path : String) : Except Failure Unit → Run m Unit :=
  Run.orComplain fun f => (Complaint.ofFailure f).during ("writing " ++ path)

/-- What surrounds a run: the home directory, and the paths of the configuration
and the store where the command line gives none. -/
structure Surroundings where
  home : String
  configPath : Option String
  dbPath : Option String

/-- A configuration, the path of the store and the format of reports. -/
structure Setup where
  config : CampaignConfig
  dbPath : String
  format : ReportFormat

/-- The configuration of a file. -/
def loadConfig (home path : String) : Run m CampaignConfig := do
  let content ← readText path
  Run.orComplain (fun f => (Complaint.ofFailure f).during ("loading config " ++ path))
    (content.mapError .io >>= CampaignConfig.parse home)

/-- Whether a store lives only as long as a run. -/
def isTransient (path : String) : Bool :=
  path == "" || path == ":memory:"

namespace Setup

/-- The setup that an invocation asks for. -/
def load (around : Surroundings) (i : Invocation) : Run m Setup := do
  let config ←
    match i.configPath <|> around.configPath with
    | none => pure (CampaignConfig.default around.home)
    | some path => loadConfig around.home path
  pure ⟨config, (i.dbPath <|> around.dbPath).getD config.dbPath, i.format⟩

/-- Opens the store, and makes its directory before. -/
def openStore (s : Setup) : Run m Store := do
  let made ← makeParent s.dbPath
  let directory := (Path.parent? s.dbPath).getD ""
  Run.orComplain (fun e => (Complaint.ofFileError e).during ("creating " ++ directory)) made
  let opened ←
    if isTransient s.dbPath then pure Store.empty.reopen
    else Run.act (FileSystem.openStore s.dbPath)
  Run.orComplain (fun f => (Complaint.ofFailure f).during ("opening database " ++ s.dbPath)) opened

/-- Keeps a store for later runs. -/
def keepStore (s : Setup) (store : Store) : Run m Unit :=
  if isTransient s.dbPath then pure () else Run.act (FileSystem.saveStore s.dbPath store)

/-- The files with values that are configured. -/
def valueFiles (s : Setup) : Run m FileReader := do
  let paths := s.config.corpus.valueLists.flatMap fun e => e.2.map (·.path)
  let contents ← paths.mapM fun path => do
    pure (path, ← Run.act (FileSystem.read path))
  pure fun path => (contents.lookup path).getD (.error .notFound)

/-- Says the lines of a listing. -/
def report (s : Setup) (l : Listing) : Run m Unit :=
  Run.say (l.lines s.format)

/-- Says JSON. -/
def reportDatum (d : Datum) : Run m Unit :=
  Run.say [Json.renderPretty d]

end Setup

end ProbeCampaign.CommandLine
