import Mathlib.Tactic
import ProbeCampaign.CommandLine.Setup
import ProbeCampaign.Files.Tree
import ProbeCampaign.Proofs.Files.Tree
import ProbeCampaign.Proofs.Text.Utf8

/-!
# Runs on a tree of files

A command runs on a tree of files step by step (`exec_bind`); a run whose steps say nothing says
nothing (`Silent.bind`). A text that it could save is what it reads from that file later
(`exec_readText_of_saveText`).
-/

namespace ProbeCampaign.CommandLine

/-- How a run ends, with the transcript and the tree of files that it leaves. -/
def exec {α : Type} (x : Run (StateM FileTree) α) (t : Transcript) (tree : FileTree) :
    (Except Complaint α × Transcript) × FileTree :=
  (x.run.run t).run tree

section Exec

variable {α β : Type} (t : Transcript) (tree : FileTree)

/-- The second part of a run goes on from what the first one said and wrote, unless that failed. -/
theorem exec_bind (x : Run (StateM FileTree) α) (f : α → Run (StateM FileTree) β) :
    exec (x >>= f) t tree =
      match exec x t tree with
      | ((.ok a, t'), tree') => exec (f a) t' tree'
      | ((.error e, t'), tree') => ((.error e, t'), tree') := by
  unfold exec
  rw [ExceptT.run_bind, StateT.run_bind, StateT.run_bind]
  rcases (x.run.run t).run tree with ⟨⟨_ | a, t'⟩, tree'⟩
  · rfl
  · rfl

theorem exec_bind_ok {x : Run (StateM FileTree) α} {t t' : Transcript} {tree tree' : FileTree}
    {a : α} (h : exec x t tree = ((.ok a, t'), tree')) (f : α → Run (StateM FileTree) β) :
    exec (x >>= f) t tree = exec (f a) t' tree' := by
  rw [exec_bind, h]

/-- Both parts of a run that ends well do. -/
theorem exists_of_exec_bind_ok {x : Run (StateM FileTree) α} {f : α → Run (StateM FileTree) β}
    {t t' : Transcript} {tree tree' : FileTree} {b : β}
    (h : exec (x >>= f) t tree = ((.ok b, t'), tree')) :
    ∃ a t₁ tree₁, exec x t tree = ((.ok a, t₁), tree₁) ∧
      exec (f a) t₁ tree₁ = ((.ok b, t'), tree') := by
  rw [exec_bind] at h
  generalize hx : exec x t tree = ended at h
  obtain ⟨⟨result, t₁⟩, tree₁⟩ := ended
  cases result with
  | error e => cases h
  | ok a => exact ⟨a, t₁, tree₁, rfl, h⟩

theorem exec_pure (a : α) : exec (pure a) t tree = ((.ok a, t), tree) :=
  rfl

theorem exec_act (action : StateM FileTree α) :
    exec (Run.act action) t tree = ((.ok (action.run tree).1, t), (action.run tree).2) :=
  rfl

theorem exec_orFail (result : Except Failure α) :
    exec (Run.orFail result) t tree = ((result.mapError .ofFailure, t), tree) := by
  cases result with
  | error e => rfl
  | ok a => rfl

theorem exec_orBreakDown_some (message : String) (a : α) :
    exec (Run.orBreakDown message (some a)) t tree = ((.ok a, t), tree) :=
  rfl

theorem exec_orComplain_ok {ε : Type} (complaint : ε → Complaint) (a : α) :
    exec (Run.orComplain complaint (.ok a)) t tree = ((.ok a, t), tree) :=
  rfl

/-- A step that leaves everything as it is leaves it so for each element of a list. -/
theorem exec_mapM {f : α → Run (StateM FileTree) β} {g : α → β}
    (h : ∀ a, exec (f a) t tree = ((.ok (g a), t), tree)) (xs : List α) :
    exec (xs.mapM f) t tree = ((.ok (xs.map g), t), tree) := by
  induction xs with
  | nil => rfl
  | cons x xs ih =>
    rw [List.mapM_cons, exec_bind_ok (h x), exec_bind_ok ih, exec_pure, List.map_cons]

end Exec

/-! ## Runs that say nothing -/

/-- However the run ends, it adds nothing to the transcript. -/
def Silent {α : Type} (x : Run (StateM FileTree) α) : Prop :=
  ∀ t tree, ∃ result tree', exec x t tree = ((result, t), tree')

section Silent

variable {α β : Type}

theorem silent_pure (a : α) : Silent (pure a) :=
  fun t tree => ⟨.ok a, tree, exec_pure t tree a⟩

theorem silent_act (action : StateM FileTree α) : Silent (Run.act action) :=
  fun t tree => ⟨_, _, exec_act t tree action⟩

theorem silent_orComplain {ε : Type} (complaint : ε → Complaint) (result : Except ε α) :
    Silent (Run.orComplain complaint result) := by
  intro t tree
  cases result with
  | error e => exact ⟨.error (complaint e), tree, rfl⟩
  | ok a => exact ⟨.ok a, tree, rfl⟩

/-- Two silent parts make a silent whole. -/
theorem Silent.bind {x : Run (StateM FileTree) α} {f : α → Run (StateM FileTree) β} (hx : Silent x)
    (hf : ∀ a, Silent (f a)) : Silent (x >>= f) := by
  intro t tree
  obtain ⟨result, tree₁, hx⟩ := hx t tree
  rw [exec_bind, hx]
  cases result with
  | error e => exact ⟨.error e, tree₁, rfl⟩
  | ok a => exact hf a t tree₁

/-- Making a directory says nothing, whether it can be made or not. -/
theorem silent_makeParent (path : String) : Silent (makeParent path) := by
  unfold makeParent
  split
  · exact silent_pure _
  · exact silent_pure _
  · exact silent_act _

end Silent

/-! ## Texts in files -/

theorem decodeText_toUTF8 (text : String) : decodeText text.toUTF8 = .ok text.toList := by
  rw [decodeText, Utf8.toList_toUTF8, Utf8.decode?_bytes]

theorem exec_readText (path : String) (t : Transcript) (tree : FileTree) :
    exec (readText path) t tree = ((.ok (tree.read path >>= decodeText), t), tree) :=
  rfl

/-- A bare name needs no directory. -/
theorem exec_makeParent {path : String} (hparent : Path.parent? path = some "") (t : Transcript)
    (tree : FileTree) : exec (makeParent path) t tree = ((.ok (.ok ()), t), tree) := by
  unfold makeParent
  rw [hparent]
  rfl

/-- A text is saved in the directory that is there, without a word. -/
theorem exec_saveText {path text : String} {tree tree' : FileTree}
    (hparent : Path.parent? path = some "")
    (hwrite : tree.write path (.file text.toUTF8) = .ok tree') (t : Transcript) :
    exec (saveText path text) t tree = ((.ok (.ok ()), t), tree') := by
  have hrun : (FileTree.changing (·.write path (.file text.toUTF8))).run tree = (.ok (), tree') :=
    FileTree.run_changing_ok_iff.2 hwrite
  unfold saveText
  rw [exec_bind_ok (exec_makeParent hparent t tree)]
  show exec (Run.act (FileTree.changing (·.write path (.file text.toUTF8)))) t tree = _
  rw [exec_act, hrun]

/-- A text is saved by a write to its path, once the directory is there. -/
theorem exists_write_of_saveText {path text : String} {t t' : Transcript} {tree tree' : FileTree}
    (h : exec (saveText path text) t tree = ((.ok (.ok ()), t'), tree')) :
    ∃ tree₁ : FileTree, tree₁.write path (.file text.toUTF8) = .ok tree' := by
  obtain ⟨made, t₁, tree₁, -, h⟩ := exists_of_exec_bind_ok h
  cases made with
  | error e => cases h
  | ok _ =>
    refine ⟨tree₁, ?_⟩
    rw [exec_act] at h
    simp only [Prod.mk.injEq, Except.ok.injEq] at h
    obtain ⟨⟨hended, -⟩, htree⟩ := h
    exact FileTree.run_changing_ok_iff.1 (Prod.ext hended htree)

/-- What could be saved is read back from the file. -/
theorem exec_readText_of_saveText {path text : String} {t t' : Transcript} {tree tree' : FileTree}
    (h : exec (saveText path text) t tree = ((.ok (.ok ()), t'), tree')) (t₁ : Transcript) :
    exec (readText path) t₁ tree' = ((.ok (.ok text.toList), t₁), tree') := by
  obtain ⟨tree₁, hwrite⟩ := exists_write_of_saveText h
  rw [exec_readText, FileTree.read_of_write hwrite]
  have hdecode := decodeText_toUTF8 text
  rw [← hdecode]
  rfl

/-! ## Opening the store -/

namespace Setup

/-- A store that is not kept starts empty. -/
theorem exec_openStore_transient {s : Setup} (h : isTransient s.dbPath = true)
    (hparent : Path.parent? s.dbPath = some "") (t : Transcript) (tree : FileTree) :
    exec s.openStore t tree = ((.ok Store.empty.opened, t), tree) := by
  unfold openStore
  rw [exec_bind_ok (exec_makeParent hparent t tree)]
  dsimp only
  rw [if_pos h]
  rfl

/-- A kept store is the one that the file holds. -/
theorem exec_openStore_kept {s : Setup} {tree tree' : FileTree} {store : Store}
    (h : isTransient s.dbPath = false) (hparent : Path.parent? s.dbPath = some "")
    (hopened : tree.openStore s.dbPath = (.ok store, tree')) (t : Transcript) :
    exec s.openStore t tree = ((.ok store, t), tree') := by
  have hact : exec (Run.act (FileSystem.openStore s.dbPath)) t tree =
      ((.ok (.ok store), t), tree') := by
    have hrun : (FileSystem.openStore s.dbPath : StateM FileTree _).run tree =
        (.ok store, tree') := hopened
    rw [exec_act, hrun]
  unfold openStore
  rw [exec_bind_ok (exec_makeParent hparent t tree)]
  dsimp only
  rw [exec_bind_ok (exec_orComplain_ok t tree _ ()), h, if_neg Bool.false_ne_true,
    exec_bind_ok hact]
  rfl

end Setup

end ProbeCampaign.CommandLine
