import ProbeCampaign.Artifact
import ProbeCampaign.CommandLine.Setup
import ProbeCampaign.Plan
import ProbeCampaign.Store.Query

/-!
# The commands

Every command reads what it needs, computes with the functions of the library,
keeps the store and says what came of it. A command that changes the store keeps
the changes made before it gives up.
-/

namespace ProbeCampaign.CommandLine

variable {m : Type → Type} [Monad m] [FileSystem m]

namespace Setup

/-- Generates responses and stores the new ones. -/
def buildCorpus (s : Setup) (only : Option String) (kind : CorpusKind) : Run m Unit := do
  let store ← s.openStore
  let read ← s.valueFiles
  let now ← Run.act FileSystem.now
  let (result, c) := Corpus.buildKind read s.config kind only (.healthy store now)
  s.keepStore c.store
  let reports ← Run.orFail result
  match only, reports with
  | some label, [] => throw (.gaveUp ["unknown label: " ++ label])
  | _, _ =>
    s.report (.ofReports reports)
    let created := reports.foldl (fun n r => n + r.created) 0
    Run.succeed (toString created ++ " new responses stored")

/-- The labels of all corpora, of a store that is there. -/
def labels (s : Setup) : Run m (List String) := do
  Run.orFail (Corpus.labels (← s.valueFiles) s.config)

/-- Lists the labels of all corpora. -/
def listLabels (s : Setup) : Run m Unit := do
  let _ ← s.openStore
  s.report (.ofLabels (← s.labels))

/-- Counts the stored responses by label and type. -/
def countResponses (s : Setup) : Run m Unit := do
  let store ← s.openStore
  s.report (.ofStats store (← s.labels))

/-- The lines that show a stored response. -/
def responseLines (r : StoredResponse) : List String :=
  let title := " ".intercalate
    ["#" ++ toString r.id, r.spec.label, r.spec.respType.name, toString r.spec.statusCode.toNat]
  title :: r.spec.headers.map (fun h => "  " ++ h.1 ++ ": " ++ h.2) ++ ["  " ++ r.digest]

/-- Shows one stored response. -/
def showResponse (s : Setup) (id : Int) : Run m Unit := do
  let store ← s.openStore
  match store.response? id with
  | none => Run.orFail (.error (.notFound "response" (toString id)))
  | some r =>
    if s.format = .json then reportDatum r.toDatum else Run.say (responseLines r)

/-- The browsers to plan for: those given, or all that are registered. -/
def plannedBrowsers (store : Store) (given : List Int) : List Int :=
  if given.isEmpty then (store.browsers.map (·.id)).filter (· ≠ unknownBrowserId) else given

/-- The limits of a plan, over one scheme if one is given. -/
def planLimits (s : Setup) (scheme : Option Scheme) : PlanLimits :=
  match scheme with
  | none => s.config.plan
  | some scheme => { s.config.plan with schemes := [scheme] }

/-- The lines that show texts. -/
def textLines (s : Setup) (texts : List String) : List String :=
  if s.format = .json then [Json.renderPretty (.texts texts)] else texts

/-- The text of a file of URLs, one a line. -/
def urlFile (urls : List String) : String :=
  "\n".intercalate urls ++ "\n"

/-- Plans tests, and says their URLs or writes them to a file. -/
def plan (s : Setup) (args : PlanArguments) : Run m Unit := do
  let store ← s.openStore
  let browserIds := plannedBrowsers store args.browserIds
  if browserIds.isEmpty then
    throw (.gaveUp ["no browsers registered; run `headerprobe browsers register` first"])
  let request : PlanRequest :=
    ⟨s.config.templates, s.config.hosts, s.planLimits args.scheme, args.mode, browserIds⟩
  let (outcome, _) ← Run.orBreakDown "capacity overflow" (request.plan? (.healthy store 0))
  outcome.errors.forM fun e => Run.warn e.message
  match args.out with
  | none => Run.say (s.textLines outcome.urls)
  | some path =>
    let written ← Run.act (FileSystem.write path (urlFile outcome.urls))
    Run.orComplain (fun e => (Complaint.ofFileError e).during ("writing " ++ path)) written
    Run.succeed (toString outcome.urls.length ++ " URLs written to " ++ path)

/-- How to repeat: as configured, where the arguments say nothing else. -/
def repeatOptions (s : Setup) (args : RepeatArguments) : RepeatOptions :=
  let policy := s.config.repeatPolicy
  { policy := {
      requiredRuns := args.threshold.getD policy.requiredRuns
      timeoutMultiplier := args.multiplier.getD policy.timeoutMultiplier
      keepRanges := policy.keepRanges || args.keepRanges }
    browserIds := if args.browserIds.isEmpty then none else some args.browserIds }

/-- The results that a repetition looks at. -/
def repeatFilter (args : RepeatArguments) : ResultFilter :=
  let usual := ResultFilter.default
  { usual with
    os := args.os
    browserIds := if args.browserIds.isEmpty then none else some args.browserIds
    excludeRespTypes :=
      if args.includeDebug then usual.excludeRespTypes.filter (· ≠ .debug)
      else usual.excludeRespTypes }

/-- The line that sums up a repetition. -/
def summary (o : RepeatOutcome) : String :=
  toString o.identities ++ " identities, " ++ toString o.incomplete ++ " incomplete, " ++
    toString o.warnings.length ++ " excluded"

/-- Writes a retry artifact to a file. -/
def saveArtifact (path : String) (artifact : RetryArtifact) : Run m (Except FileError Unit) :=
  saveText path artifact.render

/-- The retry artifact of a file. -/
def loadArtifact (path : String) : Run m (Except Failure RetryArtifact) := do
  let content ← readText path
  pure <| content.mapError Failure.io >>= fun cs =>
    match RetryArtifact.parse? cs with
    | some a => .ok a
    | none => .error .serialization

/-- Finds what has to be repeated, and writes it to a file if one is named. -/
def repeatTests (s : Setup) (args : RepeatArguments) : Run m Unit := do
  let store ← s.openStore
  let records ← Run.orFail (store.query (repeatFilter args))
  let outcome := Repeat.reconcile (s.repeatOptions args) records
  outcome.warnings.forM fun w => Run.warn w.message
  s.report (.ofRepeats outcome.urls)
  if s.format ≠ .json then Run.say [summary outcome]
  match args.out with
  | none => pure ()
  | some path =>
    let artifact := RetryArtifact.ofOutcome outcome
    let saved ← saveArtifact path artifact
    orFailWriting path (saved.mapError .io)
    Run.succeed (toString artifact.total ++ " retry URLs written to " ++ path)

/-- The lines that show batches, numbered from one. -/
def batchLines (batches : List (List String)) : List String :=
  (batches.mapIdx fun i batch =>
    ("# batch " ++ toString (i + 1) ++ " (" ++ toString batch.length ++ " URLs)") :: batch).flatten

/-- Lists what a browser has to repeat over a scheme, in batches. -/
def listRetries (s : Setup) (path : String) (browserId : Int) (scheme : Scheme) :
    Run m Unit := do
  let loaded ← loadArtifact path
  let artifact ←
    Run.orComplain (fun f => (Complaint.ofFailure f).during ("reading " ++ path)) loaded
  let batched := batches (artifact.urlsFor browserId scheme) s.config.plan.maxUrlsUntilRestart
  if s.format = .json then reportDatum (.list (batched.map .texts))
  else if batched.isEmpty then
    Run.inform ("No " ++ scheme.name ++ " URLs to repeat for browser " ++ toString browserId)
  else Run.say (batchLines batched)

/-- Registers browsers in order, and counts the new ones. -/
def registerAll (store : Store) (entries : List BrowserEntry) : Nat × Store :=
  entries.foldl (fun (created, store) entry =>
    let ((_, isNew), store) := store.register entry
    (if isNew then created + 1 else created, store)) (0, store)

/-- Registers the configured browsers. -/
def registerBrowsers (s : Setup) : Run m Unit := do
  let store ← s.openStore
  if s.config.browsers.isEmpty then Run.inform "No browsers configured"
  else
    let (created, store) := registerAll store s.config.browsers
    s.keepStore store
    Run.succeed (toString s.config.browsers.length ++ " browsers registered (" ++
      toString created ++ " new)")

/-- Lists the registered browsers. -/
def listBrowsers (s : Setup) : Run m Unit := do
  let store ← s.openStore
  s.report (.ofBrowsers store.browsers)

/-- The complaint about a result that the store refuses. -/
def refused (r : Store.Refusal) : Complaint :=
  (Complaint.ofFailure (.database r.error)).during
    ("importing record " ++ toString r.position ++ " (" ++ r.record.fullUrl ++ ")")

/-- Stores the results of a file. -/
def importResults (s : Setup) (path : String) : Run m Unit := do
  let content ←
    Run.orComplain (fun e => (Complaint.ofFileError e).during ("reading " ++ path))
      (← readText path)
  match ResultRecord.parseList? (String.ofList content) with
  | none => throw (.gaveUp ["parsing " ++ path, "no list of result records"])
  | some records =>
    let store ← s.openStore
    let (result, store) := store.insertResults records
    s.keepStore store
    let ids ← Run.orComplain refused result
    Run.succeed (toString ids.length ++ " results imported")

/-- Writes the default configuration to a file; one that exists is replaced only
by force. -/
def initConfig (home path : String) (force : Bool) : Run m Unit := do
  if (← Run.act (FileSystem.fileExists path)) && !force then
    Run.warn (path ++ " exists; pass --force to overwrite")
  else
    match (CampaignConfig.default home).render? with
    | none => orFailWriting path (.error .configWrite)
    | some text =>
      let saved ← saveText path text
      orFailWriting path (saved.mapError .io)
      Run.succeed ("Default configuration written to " ++ path)

/-- Says the version of the program. -/
def showVersion : Run m Unit :=
  Run.say ["HeaderProbe CLI v0.1.0",
    "Test plan synthesis and repeat reconciliation for security headers"]

/-- Carries out a command. -/
def perform (home : String) (s : Setup) : Command → Run m Unit
  | .buildCorpus only kind => s.buildCorpus only kind
  | .listLabels => s.listLabels
  | .countResponses => s.countResponses
  | .showResponse id => s.showResponse id
  | .plan args => s.plan args
  | .repeatTests args => s.repeatTests args
  | .listRetries path browserId scheme => s.listRetries path browserId scheme
  | .registerBrowsers => s.registerBrowsers
  | .listBrowsers => s.listBrowsers
  | .importResults path => s.importResults path
  | .initConfig path force => initConfig home path force
  | .showConfig => reportDatum s.config.toDatum
  | .version => showVersion

end Setup

end ProbeCampaign.CommandLine
