import Mathlib.Tactic
import ProbeCampaign.CommandLine.Commands
import ProbeCampaign.Proofs.CommandLine.Exec
import ProbeCampaign.Proofs.Plan.Execution
import ProbeCampaign.Proofs.Plan.Room
import ProbeCampaign.Proofs.Plan.Urls

/-!
# The two outputs of the command that plans

The command says the planned URLs, one a line, or writes them to a file. Once the store is open and
there are browsers, both ways plan the same (`exec_plan`), and the file holds what is said otherwise
(`plan_outputs`). A file for no URL is the exception: it holds an empty line (`plan_outputs_empty`).
-/

namespace ProbeCampaign.CommandLine

/-! ## Lines -/

theorem text_cons (line : String) (lines : List String) :
    Transcript.text (line :: lines) = line ++ "\n" ++ Transcript.text lines := by
  rw [Transcript.text, List.map_cons, String.join_cons, Transcript.text]

/-- Texts with line feeds between and one at the end are lines, if there is a text. -/
theorem urlFile_eq_text {urls : List String} (h : urls ≠ []) :
    Setup.urlFile urls = Transcript.text urls := by
  induction urls with
  | nil => exact absurd rfl h
  | cons url urls ih =>
    rw [text_cons]
    cases urls with
    | nil =>
      rw [Setup.urlFile, String.intercalate_singleton, Transcript.text, List.map_nil,
        String.join_nil, String.append_empty]
    | cons next urls =>
      rw [← ih (List.cons_ne_nil next urls), Setup.urlFile, String.intercalate_cons_cons,
        String.append_assoc, Setup.urlFile]

/-- Lines are cut at their ends. -/
theorem splitOn_text {lines : List String} (h : ∀ line ∈ lines, '\n' ∉ line.toList) :
    (Transcript.text lines).toList.splitOn '\n' = lines.map String.toList ++ [[]] := by
  have htext : (Transcript.text lines).toList =
      ['\n'].intercalate (lines.map String.toList ++ [[]]) := by
    induction lines with
    | nil => rfl
    | cons line lines ih =>
      rw [text_cons, String.toList_append, String.toList_append, List.map_cons, List.cons_append,
        ih fun l hl => h l (List.mem_cons_of_mem _ hl)]
      cases hrest : lines.map String.toList ++ [[]] with
      | nil => exact absurd hrest (by simp)
      | cons next rest =>
        rw [List.intercalate_cons_cons]
        rfl
  rw [htext]
  refine List.splitOn_intercalate '\n' (fun part hpart => ?_) (by simp)
  rcases List.mem_append.1 hpart with hpart | hpart
  · obtain ⟨line, hline, rfl⟩ := List.mem_map.1 hpart
    exact h line hline
  · rw [List.mem_singleton.1 hpart]
    exact List.not_mem_nil

end ProbeCampaign.CommandLine

namespace ProbeCampaign.PlanRequest

/-- A planned URL stands in one line if host, directory and files do. -/
theorem lineFeed_not_mem_of_mem_urls {r : PlanRequest} {c : Connection}
    (hhost : '\n' ∉ r.hosts.baseHost.toList) (hdir : '\n' ∉ r.hosts.testDir.toList)
    (hfiles : ∀ t ∈ r.templates, '\n' ∉ t.file.toList) :
    ∀ url ∈ (r.plan c).1.urls, '\n' ∉ url.toList := by
  intro url hurl
  obtain ⟨e, he, rfl⟩ := List.mem_map.1 hurl
  obtain ⟨scheme, t, ht, b, x, popups, rfl⟩ := exists_visit_of_mem_entries he
  have hfile := hfiles t ht
  have hscheme : '\n' ∉ scheme.name.toList := by
    cases scheme with
    | http => decide
    | https => decide
  have hquery : ∀ params, '\n' ∉ Form.encode params :=
    fun params hmem => absurd (Form.mem_encode hmem) (by decide)
  rw [TestPlanEntry.url, TestPlanEntry.toList_render, TestPlanEntry.toList_page]
  simp [visit, HostConfig.testHost, hscheme, hhost, hdir, hfile, hquery]

/-- Pages without popups need no room for buckets. -/
theorem hasRoom_of_popups {r : PlanRequest} (h : ∀ t ∈ r.templates, t.popupsPerId r.mode = 0)
    (c : Connection) : r.HasRoom c := by
  intro step hstep _ x _ hlt
  rw [popups, h _ (mem_templates_of_mem_steps hstep), Nat.zero_mul] at hlt
  exact absurd hlt (Nat.not_lt_zero _)

end ProbeCampaign.PlanRequest

namespace ProbeCampaign.CommandLine

namespace Setup

/-! ## Planning -/

/-- What the command plans from a store. -/
def request (s : Setup) (args : PlanArguments) (store : Store) : PlanRequest :=
  ⟨s.config.templates, s.config.hosts, s.planLimits args.scheme, args.mode,
    plannedBrowsers store args.browserIds⟩

/-- The URLs that the command plans from a store, in order. -/
def plannedUrls (s : Setup) (args : PlanArguments) (store : Store) : List String :=
  ((s.request args store).plan (.healthy store 0)).1.urls

/-- The warnings of pages that are left out of the plan. -/
def planWarnings (s : Setup) (args : PlanArguments) (store : Store) : List String :=
  (s.request args store).errors.map fun e => "⚠️  " ++ e.message

/-- What the command does with planned URLs. -/
def deliver (s : Setup) (out : Option String) (urls : List String) : Run (StateM FileTree) Unit :=
  match out with
  | none => Run.say (s.textLines urls)
  | some path => do
    let written ← Run.act (FileSystem.write path (urlFile urls))
    Run.orComplain (fun e => (Complaint.ofFileError e).during ("writing " ++ path)) written
    Run.succeed (toString urls.length ++ " URLs written to " ++ path)

/-- Each error of a plan becomes a line of the diagnostics. -/
theorem exec_warnings (errors : List TemplateError) (t : Transcript) (tree : FileTree) :
    exec (errors.forM fun e => Run.warn e.message) t tree =
      ((.ok (), ⟨t.output, t.diagnostics ++ errors.map fun e => "⚠️  " ++ e.message⟩), tree) := by
  induction errors generalizing t with
  | nil => rw [List.map_nil, List.append_nil]; rfl
  | cons e errors ih =>
    have hwarn : exec (Run.warn e.message) t tree =
        ((.ok (), ⟨t.output, t.diagnostics ++ ["⚠️  " ++ e.message]⟩), tree) := rfl
    show exec (Run.warn e.message >>= fun _ => errors.forM fun e => Run.warn e.message) t tree = _
    rw [exec_bind_ok hwarn, ih, List.map_cons, List.append_assoc]
    rfl

/-- Opening the store says nothing. -/
theorem silent_openStore (s : Setup) : Silent s.openStore := by
  unfold openStore
  refine (silent_makeParent _).bind fun made => (silent_orComplain _ made).bind fun _ => ?_
  dsimp only
  split
  · exact (silent_pure _).bind fun opened => silent_orComplain _ opened
  · exact (silent_act _).bind fun opened => silent_orComplain _ opened

/-- Once the store is open, the command plans for the browsers that there are, if there is room for
the buckets of popups. -/
theorem exec_plan {s : Setup} (args : PlanArguments) {t : Transcript} {tree tree₁ : FileTree}
    {store : Store} (hopen : exec s.openStore t tree = ((.ok store, t), tree₁))
    (hbrowsers : plannedBrowsers store args.browserIds ≠ [])
    (hroom : (s.request args store).HasRoom (.healthy store 0)) :
    exec (s.plan args) t tree = exec (s.deliver args.out (s.plannedUrls args store))
      ⟨t.output, t.diagnostics ++ s.planWarnings args store⟩ tree₁ := by
  have hplan : (s.request args store).plan? (.healthy store 0) = some _ :=
    PlanRequest.plan?_eq_some_iff.2 ⟨hroom, rfl⟩
  unfold request at hplan
  unfold plan
  rw [exec_bind_ok hopen]
  dsimp only
  rw [if_neg (mt List.isEmpty_iff.1 hbrowsers), hplan, exec_bind_ok (exec_orBreakDown_some _ _ _ _),
    exec_bind_ok (exec_warnings _ t tree₁)]
  rfl

/-- A plan that succeeds has opened the store; there are browsers, and room for the buckets. -/
theorem exists_store_of_plan {s : Setup} {args : PlanArguments} {t t' : Transcript}
    {tree tree' : FileTree} (h : exec (s.plan args) t tree = ((.ok (), t'), tree')) :
    ∃ store tree₁, exec s.openStore t tree = ((.ok store, t), tree₁) ∧
      plannedBrowsers store args.browserIds ≠ [] ∧
      (s.request args store).HasRoom (.healthy store 0) := by
  obtain ⟨result, tree₁, hopen⟩ := silent_openStore s t tree
  unfold plan at h
  rw [exec_bind, hopen] at h
  cases result with
  | error e => cases h
  | ok store =>
    dsimp only at h
    by_cases hbrowsers : plannedBrowsers store args.browserIds = []
    · rw [if_pos (List.isEmpty_iff.2 hbrowsers)] at h
      cases h
    · rw [if_neg (mt List.isEmpty_iff.1 hbrowsers)] at h
      cases hplan : (s.request args store).plan? (.healthy store 0) with
      | none =>
        unfold request at hplan
        rw [hplan] at h
        cases h
      | some p => exact ⟨store, tree₁, hopen, hbrowsers, (PlanRequest.plan?_eq_some_iff.1 hplan).1⟩

/-- Without a file the URLs are said, one a line. -/
theorem exec_deliver_none {s : Setup} (hformat : s.format ≠ .json) (urls : List String)
    (t : Transcript) (tree : FileTree) :
    exec (s.deliver none urls) t tree = ((.ok (), ⟨t.output ++ urls, t.diagnostics⟩), tree) := by
  unfold deliver textLines
  rw [if_neg hformat]
  rfl

/-- With a file they are written to it. -/
theorem exec_deliver_some (s : Setup) {path : String} {urls : List String} {tree tree' : FileTree}
    (hwrite : tree.write path (.file (urlFile urls).toUTF8) = .ok tree') (t : Transcript) :
    exec (s.deliver (some path) urls) t tree =
      ((.ok (), ⟨t.output ++ ["✅ " ++ (toString urls.length ++ " URLs written to " ++ path)],
        t.diagnostics⟩), tree') := by
  have hrun : (FileSystem.write path (urlFile urls) : StateM FileTree _).run tree =
      (.ok (), tree') := FileTree.run_changing_ok_iff.2 hwrite
  unfold deliver
  rw [exec_bind, exec_act, hrun]
  rfl

/-- What was delivered to a file is in the file. -/
theorem of_deliver_ok {s : Setup} {path : String} {urls : List String} {t t' : Transcript}
    {tree tree' : FileTree}
    (h : exec (s.deliver (some path) urls) t tree = ((.ok (), t'), tree')) :
    tree'.read path = .ok (urlFile urls).toUTF8 ∧ t'.diagnostics = t.diagnostics := by
  cases hwrite : tree.write path (.file (urlFile urls).toUTF8) with
  | error e =>
    have hrun : (FileSystem.write path (urlFile urls) : StateM FileTree _).run tree =
        (.error e, tree) := by
      show (FileTree.changing (·.write path (.file (urlFile urls).toUTF8))).run tree = _
      rw [FileTree.changing, StateT.run_modifyGet, hwrite]
      rfl
    unfold deliver at h
    rw [exec_bind, exec_act, hrun] at h
    cases h
  | ok tree₂ =>
    rw [exec_deliver_some s hwrite] at h
    cases h
    exact ⟨FileTree.read_of_write hwrite, rfl⟩

/-- Where the command succeeds in writing a file, it says the planned URLs when it is given none:
one a line, in the order of the plan. The file holds the very text that is said then, if a URL is
planned; else it holds an empty line, and nothing is said. -/
theorem plan_outputs {s : Setup} {args : PlanArguments} {path : String} {tree tree₁ : FileTree}
    {t₁ : Transcript} (hformat : s.format ≠ .json)
    (hhost : '\n' ∉ s.config.hosts.baseHost.toList) (hdir : '\n' ∉ s.config.hosts.testDir.toList)
    (hfiles : ∀ t ∈ s.config.templates, '\n' ∉ t.file.toList)
    (hplan : exec (s.plan { args with out := some path }) .empty tree = ((.ok (), t₁), tree₁)) :
    ∃ store t₂ tree₂, exec s.openStore .empty tree = ((.ok store, .empty), tree₂) ∧
      exec (s.plan { args with out := none }) .empty tree = ((.ok (), t₂), tree₂) ∧
      t₂.output = s.plannedUrls args store ∧ t₂.diagnostics = t₁.diagnostics ∧
      (Transcript.text t₂.output).toList.splitOn '\n' =
        (s.plannedUrls args store).map String.toList ++ [[]] ∧
      (s.plannedUrls args store ≠ [] →
        tree₁.read path = .ok (Transcript.text t₂.output).toUTF8) ∧
      (s.plannedUrls args store = [] →
        tree₁.read path = .ok "\n".toUTF8 ∧ Transcript.text t₂.output = "") := by
  obtain ⟨store, tree₂, hopen, hbrowsers, hroom⟩ := exists_store_of_plan hplan
  rw [exec_plan _ hopen hbrowsers hroom] at hplan
  obtain ⟨hread, hdiagnostics⟩ := of_deliver_ok hplan
  have hurls : s.plannedUrls { args with out := some path } store = s.plannedUrls args store := rfl
  rw [hurls] at hread
  refine ⟨store, ⟨s.plannedUrls args store, s.planWarnings args store⟩, tree₂, hopen, ?_, rfl, ?_,
    ?_, ?_, ?_⟩
  · have hsaid := exec_plan { args with out := none } hopen hbrowsers hroom
    rwa [exec_deliver_none hformat] at hsaid
  · rw [hdiagnostics]
    rfl
  · exact splitOn_text (PlanRequest.lineFeed_not_mem_of_mem_urls hhost hdir hfiles)
  · intro hne
    rw [hread, urlFile_eq_text hne]
  · intro hnone
    dsimp only
    rw [hread, hnone]
    exact ⟨rfl, rfl⟩

/-! ## A plan for one browser -/

/-- The setup with two pages in one file. -/
def planning (dbPath : String) : Setup where
  config := { CampaignConfig.default "" with templates := Repeat.sharedRequest.templates }
  dbPath
  format := .plain

/-- One browser over one scheme, and a file if one is named. -/
def planningFor (out : Option String) : PlanArguments :=
  ⟨.parsing, [2], some .https, out⟩

theorem hasRoom_planning (dbPath : String) (out : Option String) (store : Store) :
    ((planning dbPath).request (planningFor out) store).HasRoom (.healthy store 0) :=
  have hnone : ∀ t ∈ Repeat.sharedRequest.templates, t.popupsPerId .parsing = 0 := by decide
  @PlanRequest.hasRoom_of_popups ((planning dbPath).request (planningFor out) store) hnone _

/-- The URLs of the responses in the sample store: the ids of one label have a gap, where that of the
other one is. -/
def plannedSample : List String :=
  [("XFO", "1", "3"), ("XFO", "5", "5"), ("CSP", "4", "4")].map fun (label, first, last) =>
    "https://sub.web-platform.test/_hp/tests/framing.html?resp_type=parsing&browser_id=2&label=" ++
      label ++ "&first_id=" ++ first ++ "&last_id=" ++ last ++ "&scheme=https&timeout=5"

theorem plannedUrls_planning (dbPath : String) (out : Option String) :
    (planning dbPath).plannedUrls (planningFor out) PlanRequest.sampleStore.opened =
      plannedSample := by
  have hentries := @Repeat.entries_groupedRequest PlanRequest.sampleStore.opened [.https] [2]
    PlanRequest.stored_xfo PlanRequest.stored_csp
  show (PlanRequest.plan (Repeat.groupedRequest [.https] [2]) _).1.entries.map TestPlanEntry.url = _
  rw [hentries]
  decide +kernel

theorem isBare_urls : FileTree.IsBare "urls.txt" :=
  ⟨by decide +kernel, by decide, by decide, by simp, by decide +kernel, by decide +kernel⟩

/-- A tree with the sample store. -/
def sampleTree : FileTree :=
  ⟨[(["c.db"], .store PlanRequest.sampleStore)]⟩

/-- The store is opened and kept. -/
theorem exec_openStore_sampleTree :
    exec (planning "c.db").openStore .empty sampleTree =
      ((.ok PlanRequest.sampleStore.opened, .empty),
        sampleTree.put ["c.db"] (.store PlanRequest.sampleStore.opened)) := by
  have hbare : FileTree.IsBare "c.db" :=
    ⟨by decide +kernel, by decide, by decide, by simp, by decide +kernel, by decide +kernel⟩
  have hnode : sampleTree.node? ["c.db"] = some (.store PlanRequest.sampleStore) := by
    simp [FileTree.node?, sampleTree]
  have hkept := hbare.write (t := sampleTree) (by simp [hnode])
    (.store PlanRequest.sampleStore.opened)
  have hnul : "c.db".toList.idxOf? '\x00' = none := by decide +kernel
  refine exec_openStore_kept (by decide +kernel) (by decide +kernel) ?_ .empty
  show FileTree.openStore sampleTree "c.db" = _
  unfold FileTree.openStore
  rw [hnul, hbare.find hnode]
  dsimp only
  rw [hkept]
  rfl

/-- Three URLs are written to the file, one a line, and said without one. -/
theorem plan_outputs_sample :
    ∃ t₁ tree₁ t₂ tree₂,
      exec ((planning "c.db").plan (planningFor (some "urls.txt"))) .empty sampleTree =
        ((.ok (), t₁), tree₁) ∧
      exec ((planning "c.db").plan (planningFor none)) .empty sampleTree = ((.ok (), t₂), tree₂) ∧
      t₂.output = plannedSample ∧
      tree₁.read "urls.txt" = .ok (Transcript.text plannedSample).toUTF8 := by
  have hopen := exec_openStore_sampleTree
  have hbrowsers : plannedBrowsers PlanRequest.sampleStore.opened [2] ≠ [] := by
    decide +kernel
  have hwrite := isBare_urls.write
    (t := sampleTree.put ["c.db"] (.store PlanRequest.sampleStore.opened))
    (by simp [FileTree.node?, FileTree.put, sampleTree, List.lookup_cons])
    (.file (urlFile plannedSample).toUTF8)
  have hplan := exec_plan (planningFor (some "urls.txt")) hopen hbrowsers (hasRoom_planning _ _ _)
  rw [plannedUrls_planning, show (planningFor (some "urls.txt")).out = some "urls.txt" from rfl,
    exec_deliver_some (planning "c.db") hwrite] at hplan
  obtain ⟨store, t₂, tree₂, hopened, hsaid, houtput, -, -, hsome, -⟩ :=
    @plan_outputs (planning "c.db") (planningFor none) "urls.txt" _ _ _
      (by simp [planning]) (by decide +kernel) (by decide +kernel) (by decide +kernel) hplan
  rw [hopen] at hopened
  cases hopened
  rw [plannedUrls_planning] at houtput hsome
  refine ⟨_, _, t₂, _, hplan, hsaid, houtput, ?_⟩
  rw [hsome (by simp [plannedSample]), houtput]

/-- No response is planned for, but the file has a line. -/
theorem plan_outputs_empty :
    ∃ t₁ tree₁ t₂ tree₂,
      exec ((planning ":memory:").plan (planningFor (some "urls.txt"))) .empty .empty =
        ((.ok (), t₁), tree₁) ∧
      exec ((planning ":memory:").plan (planningFor none)) .empty .empty = ((.ok (), t₂), tree₂) ∧
      tree₁.read "urls.txt" = .ok "\n".toUTF8 ∧ Transcript.text t₂.output = "" := by
  have hopen : exec (planning ":memory:").openStore .empty .empty =
      ((.ok Store.empty.opened, .empty), .empty) :=
    exec_openStore_transient rfl (by decide +kernel) _ _
  have hbrowsers : plannedBrowsers Store.empty.opened [2] ≠ [] := by
    decide +kernel
  have hurls : ∀ out,
      (planning ":memory:").plannedUrls (planningFor out) Store.empty.opened = [] := by
    intro out
    have hstored : ∀ label mode, ResponseIndex.stored Store.empty.opened label mode = [] := by
      intro label mode
      rw [ResponseIndex.stored_eq]
      exact Distinct.distinct_of_pairwise Distinct.isOrder_int .nil
    unfold plannedUrls PlanOutcome.urls
    rw [PlanRequest.plan_eq_of_serves ⟨rfl, fun _ _ => rfl⟩, List.map_eq_nil_iff]
    refine List.flatMap_eq_nil_iff.2 fun step _ => ?_
    exact (congrArg _ (hstored _ _)).trans (PlanRequest.visits_nil ..)
  have hwrite := isBare_urls.write (t := .empty)
    (by simp [FileTree.node?, FileTree.empty, List.lookup_cons]) (.file (urlFile []).toUTF8)
  have hfile := exec_plan (planningFor (some "urls.txt")) hopen hbrowsers (hasRoom_planning _ _ _)
  rw [hurls, show (planningFor (some "urls.txt")).out = some "urls.txt" from rfl,
    exec_deliver_some _ hwrite] at hfile
  have hsaid := exec_plan (planningFor none) hopen hbrowsers (hasRoom_planning _ _ _)
  rw [hurls, show (planningFor none).out = none from rfl,
    exec_deliver_none (by simp [planning])] at hsaid
  exact ⟨_, _, _, _, hfile, hsaid, FileTree.read_of_write hwrite, rfl⟩

end Setup

end ProbeCampaign.CommandLine
