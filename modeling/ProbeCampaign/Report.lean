import ProbeCampaign.Corpus
import ProbeCampaign.Json.Printer
import ProbeCampaign.Report.Table

/-!
# Reports

What the program tells is a list of records. `Listing` is such a list with a
row of cells for each record; it is shown as a box, as lines of named values or
as JSON.
-/

namespace ProbeCampaign

/-- How reports are shown. -/
inductive ReportFormat where
  | table
  | json
  | plain
  deriving DecidableEq

namespace ReportFormat

/-- The name of a format. -/
def name : ReportFormat → String
  | .table => "table"
  | .json => "json"
  | .plain => "plain"

/-- The format of a name. -/
def ofName? (s : String) : Option ReportFormat :=
  [ReportFormat.table, .json, .plain].find? (·.name == s)

end ReportFormat

/-- A record to show: its cells, and all of it. -/
structure ListingItem where
  cells : List String
  datum : Datum

/-- Records to show, under the headings of their cells. -/
structure Listing where
  headings : List String
  items : List ListingItem

namespace Listing

/-- The lines of one record, one for each cell. -/
def plainItem (headings : List String) (item : ListingItem) : List String :=
  List.zipWith (fun h c => h ++ ": " ++ c) headings item.cells

/-- The lines of a listing in a format. -/
def lines (l : Listing) (format : ReportFormat) : List String :=
  match format with
  | .json => [Json.renderPretty (.list (l.items.map (·.datum)))]
  | .table =>
    if l.items.isEmpty then ["No items found."]
    else Table.lines l.headings (l.items.map (·.cells))
  | .plain =>
    if l.items.isEmpty then ["No items found."]
    else ((l.items.map (plainItem l.headings)).intersperse ["---"]).flatten

/-- What became of the corpora of several labels. -/
def ofReports (reports : List CorpusReport) : Listing where
  headings := ["Label", "Generated", "Unique", "Created"]
  items := reports.map fun r =>
    ⟨[r.label, toString r.generated, toString r.unique, toString r.created], r.toDatum⟩

/-- Labels by name. -/
def ofLabels (labels : List String) : Listing where
  headings := ["Label"]
  items := labels.map fun label => ⟨[label], .table [("label", .text label)]⟩

/-- The numbers of stored responses of several labels by type. -/
def ofStats (store : Store) (labels : List String) : Listing where
  headings := ["Label", "Debug", "Basic", "Parsing"]
  items := labels.map fun label =>
    let counts := RespType.all.map fun t => (t.name, store.count (some label) (some t))
    ⟨label :: counts.map fun c => toString c.2,
      .table (("label", .text label) :: counts.map fun c => (c.1, .int c.2))⟩

/-- Registered browsers. -/
def ofBrowsers (browsers : List Browser) : Listing where
  headings := ["ID", "Name", "Version", "OS", "Headless", "Automation"]
  items := browsers.map fun b =>
    let e := b.entry
    ⟨[toString b.id, e.name, e.version, e.os, e.headlessMode.name, e.automationMode.name],
      .table [
        ("id", .int b.id),
        ("name", .text e.name),
        ("version", .text e.version),
        ("os", .text e.os),
        ("headless_mode", .text e.headlessMode.name),
        ("automation_mode", .text e.automationMode.name)]⟩

/-- The numbers of URLs to repeat by browser. -/
def ofRepeats (urls : List (Int × List String)) : Listing where
  headings := ["Browser", "URLs to repeat"]
  items := urls.map fun (id, us) =>
    ⟨[toString id, toString us.length],
      .table [("browser_id", .int id), ("urls", .int us.length)]⟩

end Listing

end ProbeCampaign
