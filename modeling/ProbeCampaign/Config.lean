import ProbeCampaign.Browser
import ProbeCampaign.Error
import ProbeCampaign.Files.Path
import ProbeCampaign.Host
import ProbeCampaign.Template
import ProbeCampaign.Text.Utf8
import ProbeCampaign.Toml.Parser
import ProbeCampaign.Toml.Printer

/-!
# The configuration of a campaign

A `CampaignConfig` has a section for each part of the program; what a file
leaves out has a default. `validate` refuses limits that make planning or
repeating meaningless, `parse` reads a file and validates it, and `render?`
writes one.
-/

namespace ProbeCampaign

/-- Everything that is configured. -/
structure CampaignConfig where
  dbPath : String
  hosts : HostConfig
  plan : PlanLimits
  repeatPolicy : RepeatPolicy
  corpus : CorpusPolicy
  templates : List TestTemplate
  browsers : List BrowserEntry
  deriving DecidableEq

/-- The path of the database in a home directory. -/
def defaultDbPath (home : String) : String :=
  Path.join home ".headerprobe/corpus.db"

namespace CampaignConfig

/-- The configuration used when nothing is configured. -/
def default (home : String) : CampaignConfig :=
  ⟨defaultDbPath home, .default, .default, .default, .default, builtinTemplates, []⟩

/-- The fields of a configuration, in order. -/
def fields : List String :=
  ["db_path", "hosts", "plan", "repeat", "corpus", "templates", "browsers"]

/-- The configuration that a record denotes; each section has a default. -/
def ofDatum? (home : String) (d : Datum) : Option CampaignConfig := do
  let r ← Record.of? fields d
  let dbPath ← r.defaulted "db_path" Datum.text? (defaultDbPath home)
  let hosts ← r.defaulted "hosts" HostConfig.ofDatum? .default
  let plan ← r.defaulted "plan" PlanLimits.ofDatum? .default
  let repeatPolicy ← r.defaulted "repeat" RepeatPolicy.ofDatum? .default
  let corpus ← r.defaulted "corpus" CorpusPolicy.ofDatum? .default
  let templates ← r.defaulted "templates" (Datum.list? TestTemplate.ofDatum?) builtinTemplates
  let browsers ← r.defaulted "browsers" (Datum.list? BrowserEntry.ofDatum?) []
  pure ⟨dbPath, hosts, plan, repeatPolicy, corpus, templates, browsers⟩

/-- The entries of the record of a configuration. -/
def toEntries (c : CampaignConfig) : List (String × Datum) := [
  ("db_path", .text c.dbPath),
  ("hosts", c.hosts.toDatum),
  ("plan", c.plan.toDatum),
  ("repeat", c.repeatPolicy.toDatum),
  ("corpus", c.corpus.toDatum),
  ("templates", .list (c.templates.map TestTemplate.toDatum)),
  ("browsers", .list (c.browsers.map BrowserEntry.toDatum))]

/-- The record of a configuration. -/
def toDatum (c : CampaignConfig) : Datum :=
  .table c.toEntries

/-- The first flaw of a configuration. -/
def flaw? (c : CampaignConfig) : Option String :=
  if c.plan.maxRespsPerUrl = 0 then some "plan.max_resps_per_url must be at least 1"
  else if c.plan.maxPopupsPerUrl = 0 then some "plan.max_popups_per_url must be at least 1"
  else if c.plan.maxUrlsUntilRestart = 0 then
    some "plan.max_urls_until_restart must be at least 1"
  else if c.plan.schemes = [] then some "plan.schemes must not be empty"
  else if c.repeatPolicy.requiredRuns = 0 then some "repeat.required_runs must be at least 1"
  else if c.repeatPolicy.timeoutMultiplier = 0 then
    some "repeat.timeout_multiplier must be at least 1"
  else if c.corpus.upsertRetries = 0 then some "corpus.upsert_retries must be at least 1"
  else none

/-- Refuses a configuration with a flaw. -/
def validate (c : CampaignConfig) : Except Failure Unit :=
  match c.flaw? with
  | none => .ok ()
  | some reason => .error (.invalidConfig reason)

/-- The valid configuration that the text of a file denotes. -/
def parse (home : String) (content : List Char) : Except Failure CampaignConfig := do
  let some c := Toml.parseChars? content >>= ofDatum? home
    | throw .configParse
  c.validate
  pure c

/-- The text of the file of a configuration. A number that needs more than 63
bits has none. -/
def render? (c : CampaignConfig) : Option String :=
  Toml.render? c.toEntries

end CampaignConfig

end ProbeCampaign
