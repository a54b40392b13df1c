import Mathlib.Tactic
import ProbeCampaign.Files.Tree
import ProbeCampaign.Proofs.Fallible

/-!
# Files read back

A path leads to the same place after a file was written there: the directories on the way stay, as
no file takes the place of one (`follow_put`). So what is written to a path is read from it
(`read_of_write`).
-/

namespace ProbeCampaign.FileTree

variable {t t' : FileTree} {place : List String} {node : FileNode}

theorem node?_put_self (t : FileTree) (hplace : place ≠ []) (node : FileNode) :
    (t.put place node).node? place = some node := by
  simp [node?, put, hplace]

theorem lookup_filter_ne {α β : Type} [BEq α] [LawfulBEq α] [DecidableEq α] {a b : α} (h : b ≠ a)
    (l : List (α × β)) : (l.filter (·.1 ≠ a)).lookup b = l.lookup b := by
  induction l with
  | nil => rfl
  | cons e l ih =>
    by_cases he : e.1 = a
    · have hb : (b == e.1) = false := by simpa [he] using h
      rw [List.filter_cons_of_neg (by simpa using he), ih, List.lookup_cons, hb]
    · rw [List.filter_cons_of_pos (by simpa using he), List.lookup_cons, List.lookup_cons, ih]

/-- What stands in another place stays there. -/
theorem node?_put_of_ne {other : List String} (h : other ≠ place) (t : FileTree) (node : FileNode) :
    (t.put place node).node? other = t.node? other := by
  unfold node? put
  split
  · rfl
  · have hne : (other == place) = false := by simpa using h
    rw [List.lookup_cons, hne]
    dsimp only
    exact lookup_filter_ne h t.nodes

/-- Names lead where they led before something took a place that was no directory. -/
theorem follow_put (hplace : t.node? place ≠ some .directory) (node : FileNode) {names : List String}
    {start goal : List String} (h : t.follow start names = .ok goal) :
    (t.put place node).follow start names = .ok goal := by
  induction names generalizing start with
  | nil => exact h
  | cons name rest ih =>
    unfold follow at h ⊢
    dsimp only at h ⊢
    split at h
    · cases h
    · next hshort =>
      rw [if_neg hshort]
      cases rest with
      | nil => exact h
      | cons name' rest =>
        dsimp only at h ⊢
        split at h
        · next hdirectory =>
          -- What is followed is a directory, so it is not the place.
          have hne : (if name = ".." then start.dropLast else start ++ [name]) ≠ place := by
            rintro rfl
            exact hplace hdirectory
          rw [node?_put_of_ne hne, hdirectory]
          exact ih h
        · cases h
        · cases h

/-- A path leads to the same place after something else is put where no directory is. -/
theorem locate_put (hplace : t.node? place ≠ some .directory) (node : FileNode) {path : String}
    {goal : List String} (h : t.locate path = .ok goal) :
    (t.put place node).locate path = .ok goal := by
  unfold locate at h ⊢
  split at h
  · cases h
  · next hempty =>
    rw [if_neg hempty]
    split at h
    · cases h
    · next hnul =>
      rw [if_neg hnul]
      exact follow_put hplace node h

/-- A write succeeds where a path leads to no directory, and changes only that place. -/
theorem write_ok_iff {path : String} :
    t.write path node = .ok t' ↔ ∃ place, t.locate path = .ok place ∧
      t.node? place ≠ some .directory ∧ Path.namesDirectory path = false ∧
      t' = t.put place node := by
  unfold write
  rw [Fallible.bind_ok_iff]
  apply exists_congr
  intro place
  apply and_congr_right
  intro _
  cases hnames : Path.namesDirectory path with
  | true => rcases t.node? place with _ | _ | _ | _ <;> simp
  | false => rcases t.node? place with _ | _ | _ | _ <;> simp [eq_comm]

/-- What a path leads to is found. -/
theorem find_of_locate {path : String} (hlocate : t.locate path = .ok place)
    (hnames : Path.namesDirectory path = false) (hnode : t.node? place = some node) :
    t.find path = .ok node := by
  unfold find
  rw [Fallible.bind_ok_iff]
  refine ⟨place, hlocate, ?_⟩
  rw [hnode, hnames]
  cases node with
  | directory => rfl
  | file content => rfl
  | store s => rfl

/-- A name that leads to a file of its own. -/
structure IsBare (name : String) : Prop where
  components : Path.components name = [name]
  ne_empty : name ≠ ""
  ne_dots : name ≠ ".."
  nul : name.contains '\x00' = false
  short : Path.tooLong name = false
  file : Path.namesDirectory name = false

theorem IsBare.locate {name : String} (h : IsBare name) (t : FileTree) :
    t.locate name = .ok [name] := by
  simp [FileTree.locate, h.components, h.ne_empty, h.ne_dots, h.nul, h.short, follow]

theorem IsBare.find {name : String} (h : IsBare name) (hnode : t.node? [name] = some node) :
    t.find name = .ok node :=
  find_of_locate (h.locate t) h.file hnode

/-- A file is written under a bare name unless there is a directory of that name. -/
theorem IsBare.write {name : String} (h : IsBare name) {t : FileTree}
    (hnode : t.node? [name] ≠ some .directory) (node : FileNode) :
    t.write name node = .ok (t.put [name] node) :=
  write_ok_iff.2 ⟨_, h.locate t, hnode, h.file, rfl⟩

/-- A change of the tree succeeds if the tree allows it. -/
theorem run_changing_ok_iff {change : FileTree → Except FileError FileTree} :
    (changing change).run t = (.ok (), t') ↔ change t = .ok t' := by
  rw [changing, StateT.run_modifyGet]
  cases change t with
  | error e =>
    change (Except.error e, t) = (Except.ok (), t') ↔ _
    simp
  | ok t₁ =>
    change (Except.ok (), t₁) = (Except.ok (), t') ↔ _
    simp

/-- What was written to a path is read from it. -/
theorem read_of_write {path : String} {content : ByteArray}
    (h : t.write path (.file content) = .ok t') : t'.read path = .ok content := by
  obtain ⟨place, hlocate, hplace, hnames, rfl⟩ := write_ok_iff.1 h
  have hne : place ≠ [] := by
    rintro rfl
    exact hplace rfl
  have hfind : (t.put place (.file content)).find path = .ok (.file content) :=
    find_of_locate (locate_put hplace _ hlocate) hnames (node?_put_self t hne _)
  unfold read
  rw [Fallible.bind_ok_iff]
  exact ⟨_, hfind, rfl⟩

end ProbeCampaign.FileTree
