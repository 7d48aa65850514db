import PageGrid.Proofs.IndifferentCommands
import PageGrid.Proofs.JobFile
import PageGrid.Proofs.SideFile
import PageGrid.Proofs.Succession

/-!
# What a run takes over from the previous one

A run finds a record of the previous one, with pages, numbers of destinations and properties of link
targets, and it numbers its own markers from whatever number comes next. Of all this, only the pages have
an influence: the run is a variation of the one that numbers its markers from zero, and layout is
indifferent to variations. Two runs on records with the same pages therefore yield the same, up to what
their numbers count from.

A job is stable if its run has left the pages that it has found. The next run finds the same pages, and
so does every run after it.

## Main definitions

* `RunSummary.PagesReadBack` — the pages of a run survive the side file;
* `Variation.ofLoaded` — the variation from one record and file tree to another;
* `RunOutcome.Yields` — a run yields a summary and pages that are numbered from some number;
* `Job.closing` — what a run yields of the end of its program;
* `Job.series` — runs of one job.

## Main results

* `Job.exists_outcome` — one outcome, numbered from zero, stands for all runs on the same pages;
* `Job.output_depends_on_pages_found` — two runs on the same pages, and stability.
-/

namespace PageGrid

/-! ### Records with the same pages -/

/-- Only the names and the pages of markers count. -/
theorem JobRecord.pageOf?_eq (r : JobRecord) (name : String) :
    r.pageOf? name =
      ((r.markers.map fun m => (m.name, m.page)).reverse.find? (·.1 = name)).map (·.2) := by
  rw [pageOf?, ← List.map_reverse, List.find?_map, Option.map_map]
  rfl

theorem samePages_of_map_eq {p q : JobRecord} (hlast : p.lastPage = q.lastPage)
    (h : (p.markers.map fun m => (m.name, m.page)) = q.markers.map fun m => (m.name, m.page)) :
    SamePages (some p) (some q) :=
  .present hlast fun name => by rw [p.pageOf?_eq, q.pageOf?_eq, h]

/-- What is read from a file has the pages that were written. -/
theorem JobRecord.samePages_reread (r : JobRecord) : SamePages (some r) (some r.reread) := by
  refine samePages_of_map_eq rfl ?_
  rw [reread, List.map_map]
  rfl

/-- The text of what a run leaves is read with the pages that were written, whatever else is read. -/
def RunSummary.PagesReadBack (summary : RunSummary) : Prop :=
  ∃ r, JobRecord.parse summary.record.render = some r ∧ SamePages (some summary.record) (some r)

theorem RunSummary.pagesReadBack_of_fits {summary : RunSummary} (hnames : summary.record.NamesAreText)
    (hfits : summary.record.Fits) : summary.PagesReadBack :=
  ⟨_, JobRecord.parse_render_reread summary.record hnames hfits, summary.record.samePages_reread⟩

/-- Numbers are no pages. -/
theorem RunSummary.samePages_renumber (k : Nat) (summary : RunSummary) :
    SamePages (some summary.record) (some (summary.renumber k).record) := by
  refine samePages_of_map_eq rfl ?_
  rw [record, record, renumber, List.map_map]
  rfl

/-! ### From one beginning to another -/

/-- The variation that finds one record and file tree in place of others. -/
def Variation.ofLoaded {p q : Option JobRecord} {t t' : FileTree} (offset : Nat) (hp : SamePages p q)
    (ht : t.SameImages t') (logged : List LogEntry) : Variation where
  offset
  logged
  record r := if r = p then q else r
  samePages r := by
    split
    · next h => exact h ▸ hp
    · exact .refl r
  files s := if s = t then t' else s
  sameImages s := by
    split
    · next h => exact h ▸ ht
    · exact ⟨fun _ _ => rfl, fun _ _ => rfl⟩

/-- The run succeeds with a summary and pages, up to the number that its markers count from; in the given
ones they count from zero. -/
structure RunOutcome.Yields (outcome : RunOutcome) (nextId : Nat) (summary : RunSummary)
    (pages : List (FinishedPage Float)) : Prop where
  result : outcome.result = .ok (summary.renumber nextId)
  pages : outcome.pages = pages.map (FinishedPage.renumber nextId)

namespace Job

variable {job : Job} {files files' : FileTree} {depth nextId : Nat} {layout data : String}
  {p p' : Option JobRecord} {summary : RunSummary}

theorem steady_program {v : Variation} (depth : Nat) (rules : Rule) (rootName : String) :
    Action.Steady v (program depth rules rootName) := by
  have hrules (rule : Rule) : Action.Renumbered v
      (Interpreter.executeChildren depth rule (.single Xml.Document.rootElement)) :=
    Interpreter.renumbered_executeAll (Interpreter.renumbered_execute depth) _ _
  refine (hrules rules).bind fun _ => Action.indifferent_layout.bind fun l => ?_
  rw [Layout.patterns_vary]
  cases l.patterns.lookup? rootName "" with
  | none => exact .stop _
  | some recorded =>
    exact (hrules recorded).bind fun _ => Action.steady_finishPage

/-! ### The end of a run -/

/-- What a run yields that has come to apply its rules, given how that ended. -/
def closing (c : Config) (files : FileTree) (r : Except Fault Unit × Session) :
    Except Fault RunSummary :=
  match r.1 with
  | .error fault => .error { fault with isReported := true }
  | .ok _ =>
    if (save c files r.2.layout).isSome then .ok ⟨r.2.layout.references.current, r.2.layout.pageCount⟩
    else .error ⟨.sideFileAccess, true⟩

theorem closing_runWithin {rules : Rule} {document : Xml.Document} {s : Session}
    (h : Begins job files nextId layout data rules document s) (depth : Nat)
    (sink : PageSink) :
    let r := (program depth rules document.root.name).runWith (job.setting files document sink) s
    (job.runWithin depth files nextId layout data sink).result = closing job.config files r ∧
      (job.runWithin depth files nextId layout data sink).pages = r.2.layout.finished := by
  obtain ⟨previous, hprevious, hsources, rfl⟩ := h
  unfold runWithin
  dsimp only
  rw [hprevious]
  dsimp only
  rw [hsources]
  dsimp only
  generalize (program depth rules document.root.name).runWith _ _ = r
  obtain ⟨fault | _, t⟩ := r
  · exact ⟨rfl, rfl⟩
  · dsimp only [closing]
    cases save job.config files t.layout with
    | none => exact ⟨rfl, rfl⟩
    | some _ => exact ⟨rfl, rfl⟩

/-- Whether the side file can be written does not depend on what is in it. -/
theorem isSome_save (hfiles : files.SameBut job.config.auxFile files') (l l' : Layout) :
    (save job.config files' l').isSome = (save job.config files l).isSome := by
  rw [save, save]
  split
  · exact hfiles.isSome_write _ _
  · rfl

theorem closing_vary (v : Variation) (hfiles : files.SameBut job.config.auxFile files')
    (r : Except Fault Unit × Session) :
    closing job.config files' (r.1.map id, r.2.vary v) =
      (closing job.config files r).map (RunSummary.renumber v.offset) := by
  obtain ⟨fault | _, t⟩ := r
  · rfl
  · dsimp only [closing, Except.map]
    rw [isSome_save hfiles t.layout]
    split <;> rfl

/-! ### One outcome for all runs -/

theorem isFile_of_previousRecord {path : String} (h : previousRecord files path = .ok p) :
    files.isFile path = p.isSome := by
  rw [previousRecord, FileTree.readText] at h
  rw [FileTree.isFile]
  cases hcontent : files.content path with
  | error e =>
    rw [hcontent] at h
    cases e with
    | missing =>
      cases h
      rfl
    | unreadable => cases h
  | ok content =>
    rw [hcontent] at h
    cases htext : content.toText? with
    | none =>
      simp only [htext] at h
      cases h
    | some text =>
      simp only [htext] at h
      cases hparse : JobRecord.parse text with
      | none =>
        rw [hparse] at h
        cases h
      | some record =>
        rw [hparse] at h
        cases h
        rfl

/-- A run whose sources are refused has not come to any page. -/
theorem refused_runWithin {fault : Fault} (hp : previousRecord files job.config.auxFile = .ok p)
    (hsources : sources job.config layout data = .error fault) (depth nextId : Nat) :
    (job.runWithin depth files nextId layout data).result =
        .error { fault with isReported := true } ∧
      (job.runWithin depth files nextId layout data).pages = [] := by
  unfold runWithin
  dsimp only
  rw [hp]
  dsimp only
  rw [hsources]
  exact ⟨rfl, rfl⟩

/-- A run on the same pages begins with a variation of the session that counts from zero. -/
theorem begins_vary {rules : Rule} {document : Xml.Document}
    (hsources : sources job.config layout data = .ok (rules, document))
    (hp' : previousRecord files' job.config.auxFile = .ok p') (hpages : SamePages p p')
    (himages : files.SameImages files') (nextId : Nat) :
    Begins job files' nextId layout data rules document
      ((Session.start (startLayout job.config p 0)).vary
        (.ofLoaded nextId hpages himages (previousNotice job.config.auxFile p').reverse)) := by
  refine ⟨p', hp', hsources, ?_⟩
  simp [Session.vary, Session.start, Session.logging, startLayout, Layout.vary, Layout.start,
    References.vary, References.start, Variation.ofLoaded]

theorem setting_vary (document : Xml.Document) (hpages : SamePages p p')
    (himages : files.SameImages files') (logged : List LogEntry) :
    (job.setting files document).vary (.ofLoaded nextId hpages himages logged) =
      job.setting files' document := by
  simp [Setting.vary, setting, Variation.ofLoaded]

/-- **One outcome, numbered from zero, stands for all runs** that find the same pages, in trees that are
the same but for the side file. -/
theorem exists_outcome (depth : Nat) (layout data : String)
    (hp : previousRecord files job.config.auxFile = .ok p) :
    ∃ (result : Except Fault RunSummary) (pages : List (FinishedPage Float)),
      ∀ files' p' nextId, previousRecord files' job.config.auxFile = .ok p' → SamePages p p' →
        files.SameBut job.config.auxFile files' →
        (job.runWithin depth files' nextId layout data).result =
            result.map (RunSummary.renumber nextId) ∧
          (job.runWithin depth files' nextId layout data).pages =
            pages.map (FinishedPage.renumber nextId) := by
  cases hsources : sources job.config layout data with
  | error fault =>
    exact ⟨.error { fault with isReported := true }, [], fun _ _ nextId hp' _ _ =>
      refused_runWithin hp' hsources depth nextId⟩
  | ok found =>
    obtain ⟨rules, document⟩ := found
    let setting := job.setting files document
    let start := Session.start (startLayout job.config p 0)
    let zero := (program depth rules document.root.name).runWith setting start
    refine ⟨closing job.config files zero, zero.2.layout.finished,
      fun files' p' nextId hp' hpages hfiles => ?_⟩
    have hfile : files'.isFile job.config.auxFile = files.isFile job.config.auxFile := by
      rw [isFile_of_previousRecord hp', isFile_of_previousRecord hp]
      cases hpages <;> rfl
    have himages := hfiles.sameImages hfile
    have hbegins := begins_vary hsources hp' hpages himages nextId
    obtain ⟨hresult, hfinished⟩ := closing_runWithin hbegins depth .memory
    rw [← setting_vary document hpages himages,
      steady_program depth rules document.root.name setting start PageSink.blind_memory] at hresult hfinished
    exact ⟨hresult.trans (closing_vary _ hfiles zero), hfinished⟩

/-! ### Runs of one job -/

/-- Runs of one job, each with the number of its first marker. -/
def series (job : Job) (layout data : String) (starts : List Nat) : List Launch :=
  starts.map fun nextId => { job, layout, data, nextId }

/-- A run that leaves the pages that it has found leaves them to the next run. -/
theorem previousRecord_of_samePages (hp : previousRecord files job.config.auxFile = .ok p)
    (h : (job.runWithin depth files nextId layout data).result = .ok summary)
    (hsame : SamePages p (some summary.record))
    (hreads : job.config.writeAux = true → summary.PagesReadBack) :
    ∃ q, previousRecord (job.runWithin depth files nextId layout data).files job.config.auxFile = .ok q ∧
      SamePages p q ∧
      files.SameBut job.config.auxFile (job.runWithin depth files nextId layout data).files := by
  obtain ⟨_, _, _, t, hcompletes⟩ := runWithin_eq_ok h
  have hsave := hcompletes.save
  cases hwrite : job.config.writeAux with
  | false =>
    rw [save_of_not_writeAux hwrite hsave]
    exact ⟨p, hp, .refl p, .refl _ files⟩
  | true =>
    have hread := readText_save hwrite hsave
    have hrecord : t.layout.references.record t.layout.pageCount = summary.record := by
      rw [hcompletes.summary_eq]
      rfl
    rw [hrecord] at hread
    obtain ⟨q, hparse, hpages⟩ := hreads hwrite
    refine ⟨some q, previousRecord_of_readText hread hparse, hsame.trans hpages, ?_⟩
    simp only [save, hwrite, if_true] at hsave
    exact FileTree.sameBut_write hsave

/-- Runs of a job that leave the pages that they have found lead to files that still have them. -/
theorem previousRecord_filesAfter (hsame : SamePages p (some summary.record)) {starts : List Nat}
    (hall : ∀ files' p' nextId, previousRecord files' job.config.auxFile = .ok p' → SamePages p p' →
      files.SameBut job.config.auxFile files' →
      (job.runWithin depth files' nextId layout data).result = .ok (summary.renumber nextId))
    (hreads : job.config.writeAux = true → ∀ n ∈ starts, (summary.renumber n).PagesReadBack)
    (hp' : previousRecord files' job.config.auxFile = .ok p') (hpages : SamePages p p')
    (hfiles : files.SameBut job.config.auxFile files') :
    ∃ q, previousRecord (filesAfter depth files' (series job layout data starts))
        job.config.auxFile = .ok q ∧ SamePages p q ∧
      files.SameBut job.config.auxFile (filesAfter depth files' (series job layout data starts)) := by
  induction starts generalizing files' p' with
  | nil => exact ⟨p', hp', hpages, hfiles⟩
  | cons n starts ih =>
    have hresult := hall files' p' n hp' hpages hfiles
    have hleft : SamePages p' (some (summary.renumber n).record) :=
      (hpages.symm.trans hsame).trans (summary.samePages_renumber n)
    obtain ⟨q, hq, hpq, hbut⟩ := previousRecord_of_samePages hp' hresult hleft
      fun hwrite => hreads hwrite n (.head _)
    exact ih (fun hwrite m hm => hreads hwrite m (.tail _ hm)) hq (hpages.trans hpq)
      (hfiles.trans hbut)

/-- **A run depends on the previous one only through pages.** Two runs of a job find records with the
same number of pages and the same map from names to pages, or none, in file trees that are the same but
for the side file; the records may differ in everything else, and the markers may be numbered from
different numbers. Then both fail with the same fault, or both yield the same pages and the same summary
up to the number that they count from. If the pages found are those of the run itself, then every later
run of the job yields the same again, up to the number that it counts from, as long as pages are read from
the side file as they were written. -/
theorem output_depends_on_pages_found (depth : Nat) (job : Job) (layout data : String)
    (files₁ files₂ : FileTree) (n₁ n₂ : Nat) (p₁ p₂ : Option JobRecord)
    (h₁ : previousRecord files₁ job.config.auxFile = .ok p₁)
    (h₂ : previousRecord files₂ job.config.auxFile = .ok p₂) (hpages : SamePages p₁ p₂)
    (hfiles : files₁.SameBut job.config.auxFile files₂) :
    let run₁ := job.runWithin depth files₁ n₁ layout data
    let run₂ := job.runWithin depth files₂ n₂ layout data
    (∃ fault, run₁.result = .error fault ∧ run₂.result = .error fault) ∨
    ∃ (summary : RunSummary) (pages : List (FinishedPage Float)),
      run₁.Yields n₁ summary pages ∧ run₂.Yields n₂ summary pages ∧
      (SamePages p₁ (some (summary.renumber n₁).record) →
        ∀ starts : List Nat,
          (job.config.writeAux = true → ∀ n ∈ starts, (summary.renumber n).PagesReadBack) →
          ∀ n, (job.runWithin depth (filesAfter depth files₁ (series job layout data starts)) n layout
            data).Yields n summary pages) := by
  intro run₁ run₂
  obtain ⟨result, pages, hall⟩ := exists_outcome depth layout data h₁
  obtain ⟨hresult₁, hpages₁⟩ := hall files₁ p₁ n₁ h₁ (.refl p₁) (.refl _ files₁)
  obtain ⟨hresult₂, hpages₂⟩ := hall files₂ p₂ n₂ h₂ hpages hfiles
  cases result with
  | error fault => exact .inl ⟨fault, hresult₁, hresult₂⟩
  | ok summary =>
    refine .inr ⟨summary, pages, ⟨hresult₁, hpages₁⟩, ⟨hresult₂, hpages₂⟩,
      fun hsame starts hreads n => ?_⟩
    have hzero := hsame.trans (summary.samePages_renumber n₁).symm
    obtain ⟨q, hq, hpq, hbut⟩ := previousRecord_filesAfter hzero
      (fun files' p' n h h' h'' => (hall files' p' n h h' h'').1) hreads h₁ (.refl p₁) (.refl _ files₁)
    obtain ⟨hresult, hfinished⟩ := hall _ q n hq hpq hbut
    exact ⟨hresult, hfinished⟩

/-- Rules that place a box which a marker points to. -/
def pointing : String :=
  "<Record element='data'><Mark select=\"'a'\"/>" ++
    "<PlaceObject x='1' y='1'><Box width='1pt' height='1pt'/></PlaceObject></Record>"

/-- A tree with nothing but a side file. -/
def sideFileOnly (text : String) : FileTree := ⟨[(["gridpress-aux.xml"], .file (.text text))], []⟩

/-- A side file with one marker. -/
def plainText : String := "<r lastpage='1'><mark name='a' page='1' id='7'/></r>"

/-- What is in the file with one marker. -/
def plainRecord : JobRecord := ⟨1, [⟨"a", 1, 7, false, none⟩]⟩

/-- A side file with two markers of one name, of which the second one counts. -/
def doubledText : String :=
  "<r lastpage='1'><mark name='a' page='5' id='1'/>" ++
    "<mark name='a' page='1' id='0' pdftarget='1' shift='2'/></r>"

/-- What is in the file with two markers. -/
def doubledRecord : JobRecord := ⟨1, [⟨"a", 5, 1, false, none⟩, ⟨"a", 1, 0, true, some 2⟩]⟩

/-- What the rules leave, counted from zero. -/
def pointed : RunSummary := ⟨[⟨"a", 1, 0, false, none⟩], 1⟩

theorem namesAreText_pointed (n : Nat) : (pointed.renumber n).record.NamesAreText :=
  List.forall_mem_singleton.mpr (by decide : Xml.IsText "a".toList)

theorem fits_pointed {n : Nat} (hn : n ≤ idLimit) : (pointed.renumber n).record.Fits := by
  have hpage : 1 ≤ pageLimit := by decide
  refine ⟨hpage, fun m hm => ?_, fun m hm => ?_⟩
  · obtain rfl := List.mem_singleton.mp hm
    exact hpage
  · obtain rfl := List.mem_singleton.mp hm
    change 0 + n ≤ idLimit
    omega

/-- Two runs that find records with nothing in common but pages, and a run after three others. -/
theorem output_depends_on_pages_found_pointing :
    let run := Launch.plain true pointing
    let files₁ := sideFileOnly plainText
    let files₂ := sideFileOnly doubledText
    previousRecord files₁ run.job.config.auxFile = .ok (some plainRecord) ∧
    previousRecord files₂ run.job.config.auxFile = .ok (some doubledRecord) ∧
    SamePages (some plainRecord) (some doubledRecord) ∧
    files₁.SameBut run.job.config.auxFile files₂ ∧
    ∃ pages,
      (run.job.runWithin 4 files₁ 20 run.layout run.data).Yields 20 pointed pages ∧
      (run.job.runWithin 4 files₂ 30 run.layout run.data).Yields 30 pointed pages ∧
      (run.job.runWithin 4 (filesAfter 4 files₁ (series run.job run.layout run.data [20, 1, 3])) 1
        run.layout run.data).Yields 1 pointed pages := by
  intro run files₁ files₂
  have h₁ : previousRecord files₁ run.job.config.auxFile = .ok (some plainRecord) := by
    have hread : files₁.readText run.job.config.auxFile = .ok plainText := by decide +kernel
    exact previousRecord_of_readText hread (by decide +kernel)
  have h₂ : previousRecord files₂ run.job.config.auxFile = .ok (some doubledRecord) := by
    have hread : files₂.readText run.job.config.auxFile = .ok doubledText := by decide +kernel
    exact previousRecord_of_readText hread (by decide +kernel)
  have hpages : SamePages (some plainRecord) (some doubledRecord) := by
    refine .present rfl fun name => ?_
    by_cases hname : "a" = name
    · simp [JobRecord.pageOf?, plainRecord, doubledRecord, hname]
    · simp [JobRecord.pageOf?, plainRecord, doubledRecord, hname]
  have hfiles : files₁.SameBut run.job.config.auxFile files₂ := by
    have hwrite : files₁.write run.job.config.auxFile doubledText = some files₂ := by decide +kernel
    exact FileTree.sameBut_write hwrite
  have hresult : (run.job.runWithin 4 files₁ 20 run.layout run.data).result.toOption =
      some (pointed.renumber 20) := by
    decide +kernel
  refine ⟨h₁, h₂, hpages, hfiles, ?_⟩
  obtain ⟨fault, hfault, -⟩ | ⟨summary, pages, hyields₁, hyields₂, hstable⟩ :=
    output_depends_on_pages_found 4 run.job run.layout run.data files₁ files₂ 20 30 _ _ h₁ h₂ hpages
      hfiles
  · rw [hfault] at hresult
    cases hresult
  · rw [hyields₁.result] at hresult
    obtain rfl : summary = pointed := RunSummary.renumber_injective 20 (Option.some.inj hresult)
    refine ⟨pages, hyields₁, hyields₂, hstable (samePages_of_map_eq rfl rfl) _ (fun _ n hn => ?_) 1⟩
    refine RunSummary.pagesReadBack_of_fits (namesAreText_pointed n)
      (fits_pointed (Nat.le_trans (m := 20) ?_ (by decide)))
    simp only [List.mem_cons, List.not_mem_nil, or_false] at hn
    omega

end Job

end PageGrid
