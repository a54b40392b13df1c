import ProbeCampaign.Config
import ProbeCampaign.Family.Builtin
import ProbeCampaign.Family.BuiltinCorpora
import ProbeCampaign.Family.Probes
import ProbeCampaign.Store.Connection
import ProbeCampaign.ValueList
import Std.Data.HashSet

/-!
# Building the corpus

The corpus of a label is the list of responses that probe it; `persist` stores
the distinct ones in order and tries again where the store is unavailable.
`families` adds the configured value lists to the built-in families, and
`buildBasic` and `buildParsing` store the corpora of all labels or of one.
-/

namespace ProbeCampaign

/-- The content of a file, or why it cannot be read. -/
abbrev FileReader := String → Except FileError ByteArray

/-- What became of the responses of one label: how many were generated, how many
of them are distinct, and how many of those were new to the store. -/
structure CorpusReport where
  label : String
  generated : Nat
  unique : Nat
  created : Nat
  deriving DecidableEq

/-- The record of a report. -/
def CorpusReport.toDatum (r : CorpusReport) : Datum :=
  .table [
    ("label", .text r.label),
    ("generated", .int r.generated),
    ("unique", .int r.unique),
    ("created", .int r.created)]

/-- Which corpora are built: those that probe parsing, the debug and basic ones,
or all. -/
inductive CorpusKind where
  | parsing
  | basic
  | all
  deriving DecidableEq

namespace CorpusKind

/-- The name of a kind. -/
def name : CorpusKind → String
  | .parsing => "parsing"
  | .basic => "basic"
  | .all => "all"

/-- The kind of a name. -/
def ofName? (s : String) : Option CorpusKind :=
  [CorpusKind.parsing, .basic, .all].find? (·.name == s)

end CorpusKind

/-- The corpus of one label, by how its responses are generated. -/
inductive LabelCorpus where
  | family (f : HeaderFamily)
  | multi (f : MultiHeaderFamily)
  | fixed (c : BasicCorpus)

namespace LabelCorpus

/-- The label of a corpus. -/
def label : LabelCorpus → String
  | .family f => f.label
  | .multi f => f.label
  | .fixed c => c.label

/-- The responses of a corpus in the order of generation; `redirect` is the
header of redirecting ones. -/
def specs (redirect : Header) : LabelCorpus → List ResponseSpec
  | .family f => f.tests redirect
  | .multi f => f.tests
  | .fixed c => c.specs redirect

end LabelCorpus

namespace Corpus

/-- The families with the values of one file added to those of a label. -/
def extendLabel (hosts : HostConfig) (label : String) (values : List String)
    (families : List HeaderFamily) : List HeaderFamily :=
  families.map fun f => if f.label = label then f.extendOther hosts values else f

/-- The values of a source. -/
def load (read : FileReader) (source : ValueListSource) : Except Failure (List String) := do
  let content ← (read source.path).mapError .io
  pure (ValueList.parseBytes content source.minCount)

/-- The families with the values of the sources of one label added. -/
def addSources (read : FileReader) (hosts : HostConfig) (families : List HeaderFamily)
    (label : String) (sources : List ValueListSource) : Except Failure (List HeaderFamily) :=
  if families.any (·.label = label) then
    sources.foldlM (fun fs source => do
      let values ← load read source
      pure (extendLabel hosts label values fs)) families
  else .error (.unknownFamily label)

/-- The built-in families with the values of all configured sources added. -/
def families (read : FileReader) (config : CampaignConfig) :
    Except Failure (List HeaderFamily) :=
  config.corpus.valueLists.foldlM
    (fun fs (label, sources) => addSources read config.hosts fs label sources)
    (builtinFamilies config.hosts)

/-- The labels of all corpora. -/
def labels (read : FileReader) (config : CampaignConfig) : Except Failure (List String) := do
  let fs ← families read config
  let probed := fs.map (·.label) ++ (builtinMultiFamilies fs).map (·.label)
  let basic := (builtinCorpora config.hosts).map (·.label)
  pure (probed ++ basic.filter (!probed.contains ·))

/-- The responses that are not among those seen, each once, in order. -/
def distinctFrom (seen : Std.HashSet ResponseSpec) : List ResponseSpec → List ResponseSpec
  | [] => []
  | spec :: rest =>
    if seen.contains spec then distinctFrom seen rest
    else spec :: distinctFrom (seen.insert spec) rest

/-- The distinct responses in the order of their first occurrence. -/
def distinct (specs : List ResponseSpec) : List ResponseSpec :=
  distinctFrom ∅ specs

/-- Stores a response, with further attempts after failures. -/
def attempt (c : Connection) (spec : ResponseSpec) : Nat → Except Failure (Int × Bool) × Connection
  | 0 => c.upsert spec
  | further + 1 =>
    match c.upsert spec with
    | (.ok result, c) => (.ok result, c)
    | (.error _, c) => attempt c spec further

/-- Stores responses in order up to the first that fails at every attempt;
counts those that are new to the store. -/
def storeAll (further : Nat) :
    List ResponseSpec → Connection → Except Failure Nat × Connection
  | [], c => (.ok 0, c)
  | spec :: rest, c =>
    match attempt c spec further with
    | (.error e, c) => (.error e, c)
    | (.ok (_, isNew), c) =>
      match storeAll further rest c with
      | (.error e, c) => (.error e, c)
      | (.ok created, c) => (.ok (if isNew then created + 1 else created), c)

/-- The number of attempts for each response. -/
def attempts (config : CampaignConfig) : Nat :=
  max config.corpus.upsertRetries 1

/-- Stores the distinct responses of a label. -/
def persist (config : CampaignConfig) (label : String) (specs : List ResponseSpec)
    (c : Connection) : Except Failure CorpusReport × Connection :=
  let unique := distinct specs
  match storeAll (attempts config - 1) unique c with
  | (.error e, c) => (.error (.upsertExhausted label (attempts config) e), c)
  | (.ok created, c) => (.ok ⟨label, specs.length, unique.length, created⟩, c)

/-- Generates and stores one corpus. -/
def build (config : CampaignConfig) (corpus : LabelCorpus) (c : Connection) :
    Except Failure CorpusReport × Connection :=
  persist config corpus.label (corpus.specs config.hosts.redirectEmpty) c

/-- Stores several corpora in order, up to the first failure. -/
def persistAll (config : CampaignConfig) :
    List LabelCorpus → Connection → Except Failure (List CorpusReport) × Connection
  | [], c => (.ok [], c)
  | corpus :: rest, c =>
    match build config corpus c with
    | (.error e, c) => (.error e, c)
    | (.ok report, c) =>
      match persistAll config rest c with
      | (.error e, c) => (.error e, c)
      | (.ok reports, c) => (.ok (report :: reports), c)

/-- Whether a label is selected. -/
def wanted (only : Option String) (label : String) : Bool :=
  only.all (· = label)

/-- Stores the selected ones of several corpora; one of them must be selected. -/
def buildSelected (config : CampaignConfig) (only : Option String) (corpora : List LabelCorpus)
    (c : Connection) : Except Failure (List CorpusReport) × Connection :=
  let selected := corpora.filter fun k => wanted only k.label
  match only, selected with
  | some label, [] => (.error (.unknownFamily label), c)
  | _, _ => persistAll config selected c

/-- The debug and basic corpora. -/
def basicCorpora (config : CampaignConfig) : List LabelCorpus :=
  (builtinCorpora config.hosts).map .fixed

/-- The parsing corpora of families and of the headers probed together. -/
def parsingCorpora (families : List HeaderFamily) : List LabelCorpus :=
  families.map .family ++ (builtinMultiFamilies families).map .multi

/-- Stores the debug and basic corpora of all labels or of one. -/
def buildBasic (config : CampaignConfig) (only : Option String) (c : Connection) :
    Except Failure (List CorpusReport) × Connection :=
  buildSelected config only (basicCorpora config) c

/-- Stores the parsing corpora of all labels or of one. -/
def buildParsing (read : FileReader) (config : CampaignConfig) (only : Option String)
    (c : Connection) : Except Failure (List CorpusReport) × Connection :=
  match families read config with
  | .error e => (.error e, c)
  | .ok fs => buildSelected config only (parsingCorpora fs) c

/-- A result in which a label that no corpus has counts as nothing to build, if
all kinds are built. -/
def skipUnknown (kind : CorpusKind) :
    Except Failure (List CorpusReport) → Except Failure (List CorpusReport)
  | .error (.unknownFamily label) =>
    if kind = .all then .ok [] else .error (.unknownFamily label)
  | result => result

/-- Stores the corpora of a kind, of all labels or of one. A label may have a
corpus of only one kind. -/
def buildKind (read : FileReader) (config : CampaignConfig) (kind : CorpusKind)
    (only : Option String) (c : Connection) : Except Failure (List CorpusReport) × Connection :=
  let (basic, c) := if kind = .parsing then (.ok [], c) else buildBasic config only c
  match skipUnknown kind basic with
  | .error e => (.error e, c)
  | .ok basicReports =>
    let (parsing, c) := if kind = .basic then (.ok [], c) else buildParsing read config only c
    match skipUnknown kind parsing with
    | .error e => (.error e, c)
    | .ok parsingReports => (.ok (basicReports ++ parsingReports), c)

end Corpus

end ProbeCampaign
