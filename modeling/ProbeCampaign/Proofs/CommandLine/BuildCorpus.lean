import Mathlib.Tactic
import ProbeCampaign.CommandLine.Commands
import ProbeCampaign.Proofs.CommandLine.Exec
import ProbeCampaign.Proofs.Corpus.Kinds

/-!
# The command that builds the corpus

Once the store is open, the command that builds the corpus ends as the build of the given kind does
(`exec_buildCorpus`). With a value list for a label without a family it gives up where the parsing
corpora are built, and ends well where all are (`buildCorpus_mislabelled`).
-/

namespace ProbeCampaign.CommandLine

namespace Setup

/-! ## Building the corpus -/

/-- The contents of the files that the configured value lists name. -/
def reader (s : Setup) (tree : FileTree) : FileReader := fun path =>
  (((s.config.corpus.valueLists.flatMap fun e => e.2.map (·.path)).map
    fun path => (path, tree.read path)).lookup path).getD (.error .notFound)

theorem exec_valueFiles (s : Setup) (t : Transcript) (tree : FileTree) :
    exec s.valueFiles t tree = ((.ok (s.reader tree), t), tree) := by
  unfold valueFiles
  rw [exec_bind_ok (exec_mapM t tree (fun path => rfl) _), exec_pure]
  rfl

/-- Keeping a store says nothing and does not fail. -/
theorem exec_keepStore (s : Setup) (store : Store) (t : Transcript) (tree : FileTree) :
    ∃ tree', exec (s.keepStore store) t tree = ((.ok (), t), tree') := by
  unfold keepStore
  split
  · exact ⟨tree, rfl⟩
  · exact ⟨_, rfl⟩

/-- How the command ends, by the outcome of the build. -/
def ended (only : Option String) :
    Except Failure (List CorpusReport) → Except Complaint Unit
  | .error e => .error (.ofFailure e)
  | .ok reports =>
    match only, reports with
    | some label, [] => .error (.gaveUp ["unknown label: " ++ label])
    | _, _ => .ok ()

/-- Once the store is open, the command ends as the build does. -/
theorem exec_buildCorpus {s : Setup} {t t₁ : Transcript} {tree tree₁ : FileTree} {store : Store}
    (hopen : exec s.openStore t tree = ((.ok store, t₁), tree₁)) (only : Option String)
    (kind : CorpusKind) :
    (exec (s.buildCorpus only kind) t tree).1.1 =
      ended only
        (Corpus.buildKind (s.reader tree₁) s.config kind only (.healthy store 0)).1 := by
  have hnow : exec (Run.act FileSystem.now) t₁ tree₁ = ((.ok 0, t₁), tree₁) := rfl
  unfold buildCorpus
  rw [exec_bind_ok hopen, exec_bind_ok (exec_valueFiles s t₁ tree₁), exec_bind_ok hnow]
  generalize Corpus.buildKind (s.reader tree₁) s.config kind only (.healthy store 0) = built
  obtain ⟨result, c⟩ := built
  obtain ⟨tree₂, hkeep⟩ := exec_keepStore s c.store t₁ tree₁
  dsimp only
  rw [exec_bind_ok hkeep, exec_bind, exec_orFail]
  cases result with
  | error e => rfl
  | ok reports =>
    cases only with
    | none => rfl
    | some label =>
      cases reports with
      | nil => rfl
      | cons report rest => rfl

/-- A value list for a label without a family, and a store that is not kept. -/
def mislabelled : Setup where
  config := { CampaignConfig.default "" with
    corpus := { CorpusPolicy.default with valueLists := [("NOPE", [])] } }
  dbPath := ":memory:"
  format := .table

/-- The command gives up on the parsing corpora, but ends well on all kinds. -/
theorem buildCorpus_mislabelled :
    (exec (mislabelled.buildCorpus none .parsing) .empty .empty).1.1 =
        .error (.gaveUp ["Unknown header family: NOPE"]) ∧
      (exec (mislabelled.buildCorpus none .all) .empty .empty).1.1 = .ok () := by
  have hopen : exec mislabelled.openStore .empty .empty =
      ((.ok Store.empty.opened, .empty), .empty) :=
    exec_openStore_transient rfl (by decide +kernel) _ _
  have hfamilies : ∀ read, Corpus.families read mislabelled.config =
      .error (.unknownFamily "NOPE") := fun read => rfl
  rw [exec_buildCorpus hopen, exec_buildCorpus hopen]
  constructor
  · rfl
  · obtain ⟨reports, hok⟩ := Corpus.buildKind_all_of_unknownFamily
      (hfamilies (mislabelled.reader .empty)) (c := .healthy Store.empty.opened 0) fun _ => rfl
    rw [hok]
    rfl

end Setup

end ProbeCampaign.CommandLine
