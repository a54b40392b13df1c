import ProbeCampaign.Datum.Decode

/-!
# Browsers under test

A `BrowserEntry` is one tested configuration of a browser. Two entries are the
same browser when they agree in everything but the additional remark.
-/

namespace ProbeCampaign

/-- How a browser shows its windows. -/
inductive HeadlessMode where
  | real
  | xvfb
  | headless
  | headlessNew
  deriving DecidableEq

namespace HeadlessMode

/-- The name of a mode. -/
def name : HeadlessMode → String
  | .real => "real"
  | .xvfb => "xvfb"
  | .headless => "headless"
  | .headlessNew => "headless-new"

/-- The mode of a name. -/
def ofName? (s : String) : Option HeadlessMode :=
  [HeadlessMode.real, .xvfb, .headless, .headlessNew].find? (·.name == s)

end HeadlessMode

/-- How a browser is driven. -/
inductive AutomationMode where
  | manual
  | intent
  | selenium
  | playwright
  | other
  deriving DecidableEq

namespace AutomationMode

/-- The name of a mode. -/
def name : AutomationMode → String
  | .manual => "manual"
  | .intent => "intent"
  | .selenium => "selenium"
  | .playwright => "playwright"
  | .other => "other"

/-- The mode of a name. -/
def ofName? (s : String) : Option AutomationMode :=
  [AutomationMode.manual, .intent, .selenium, .playwright, .other].find? (·.name == s)

end AutomationMode

/-- One tested configuration of a browser, with a remark. -/
structure BrowserEntry where
  name : String
  version : String
  os : String
  headlessMode : HeadlessMode
  automationMode : AutomationMode
  addInfo : String
  deriving DecidableEq

namespace BrowserEntry

/-- The placeholder that stands for no browser in particular. -/
def unknown : BrowserEntry :=
  ⟨"Unknown", "Unknown", "Unknown", .real, .manual, ""⟩

/-- What makes two entries the same browser. -/
def key (e : BrowserEntry) : String × String × String × HeadlessMode × AutomationMode :=
  (e.name, e.version, e.os, e.headlessMode, e.automationMode)

/-- The fields of an entry, in order. -/
def fields : List String :=
  ["name", "version", "os", "headless_mode", "automation_mode", "add_info"]

/-- The entry that a record denotes; the remark may be left out. -/
def ofDatum? (d : Datum) : Option BrowserEntry := do
  let r ← Record.of? fields d
  let name ← r.required "name" Datum.text?
  let version ← r.required "version" Datum.text?
  let os ← r.required "os" Datum.text?
  let headlessMode ← r.required "headless_mode" fun d => d.choice? >>= HeadlessMode.ofName?
  let automationMode ← r.required "automation_mode" fun d => d.choice? >>= AutomationMode.ofName?
  let addInfo ← r.defaulted "add_info" Datum.text? ""
  pure ⟨name, version, os, headlessMode, automationMode, addInfo⟩

/-- The fields of an entry with their values. -/
def entries (e : BrowserEntry) : List (String × Datum) := [
  ("name", .text e.name),
  ("version", .text e.version),
  ("os", .text e.os),
  ("headless_mode", .text e.headlessMode.name),
  ("automation_mode", .text e.automationMode.name),
  ("add_info", .text e.addInfo)]

/-- The record of an entry. -/
def toDatum (e : BrowserEntry) : Datum :=
  .table e.entries

end BrowserEntry

/-- The id of the placeholder browser in every store. -/
def unknownBrowserId : Int := 1

/-- A registered browser. -/
structure Browser where
  id : Int
  entry : BrowserEntry

/-- The record of a registered browser. -/
def Browser.toDatum (b : Browser) : Datum :=
  .table (("id", .int b.id) :: b.entry.entries)

end ProbeCampaign
