import PageGrid.Proofs.Files
import PageGrid.Proofs.References
import PageGrid.Proofs.Restoration

/-!
# One run after the other

Runs of the same job find each other's markers in the side file. A run looks at the file once, before it
applies rules, and writes it once, after it has applied them all, so the file is never between two
states: it is what the last run has left that succeeded and was to write it, and failures and runs that
do not write it pass without a trace.

What is in the file is the table of markers of that run and nothing that it had found there itself. The
run that reads it starts with these markers in place of its own, and puts its own in front of them one
by one.

That the text of a record is read as the record is proved elsewhere under an assumption about lengths;
here it is a hypothesis on the one record that is read.

## Main definitions

* `Job.Launch` — a run that is to be made;
* `Job.filesAfter`, `Job.lastSaved?` — what a series of runs leaves;
* `RunSummary.TakenUpBy`, `Layout.MeansLatest` — what names mean at the start of a run and in the course
  of it.

## Main results

* `Job.runWithin_eq_ok`, `Job.files_of_failure` — when a run writes the side file;
* `Job.filesAfter_spec` — what a series of runs leaves in the side file;
* `Job.side_file_carries_one_run` — what the next run makes of it.
-/

namespace PageGrid

deriving instance DecidableEq for Marker, JobRecord, RunSummary

/-- What a run leaves for the next one. -/
def RunSummary.record (summary : RunSummary) : JobRecord := ⟨summary.lastPage, summary.markers⟩

/-- The text of what a run leaves is read as it was written. -/
def RunSummary.ReadsBack (summary : RunSummary) : Prop :=
  JobRecord.parse summary.record.render = some summary.record

/-- Every name means the marker of an earlier run that has it, if there is one, and nothing else; the
number of pages is that of the earlier run. -/
structure RunSummary.TakenUpBy (summary : RunSummary) (r : References) : Prop where
  resolve? : ∀ name m, r.resolve? name = some m ↔ m ∈ summary.markers ∧ m.name = name
  lastPage : r.previousLastPage = some summary.lastPage

/-- The markers are the latest ones of each name among those that have been set, up to their pages. -/
def RunSummary.ListsLatest (summary : RunSummary) (ms : List Marker) : Prop :=
  ∀ name, match References.latest? ms name with
    | some m => ∃ page, { m with page } ∈ summary.markers
    | none => ∀ m ∈ summary.markers, m.name ≠ name

/-- On the way from the first layout to the second one, markers have been set. A name means the latest
of them that has it, whose page may have been corrected since, and without any of them it means what it
meant before. The number of pages of the previous run is the same. -/
def Layout.MeansLatest (l k : Layout) : Prop :=
  k.references.previousLastPage = l.references.previousLastPage ∧
  ∃ ms, l.Sets ms k ∧ ∀ name,
    match References.latest? ms name with
    | some m => ∃ page, k.references.resolve? name = some { m with page }
    | none => k.references.resolve? name = l.references.resolve? name

theorem References.Follows.listsLatest {previous : Option JobRecord} {ms : List Marker}
    {r : References} (h : Follows previous ms r) (lastPage : Nat) :
    RunSummary.ListsLatest ⟨r.current, lastPage⟩ ms := by
  intro name
  cases hm : latest? ms name with
  | some m =>
    obtain ⟨page, hpage⟩ := h.set name m hm
    exact ⟨page, List.mem_of_find?_eq_some hpage⟩
  | none =>
    intro m hmem
    simpa using List.find?_eq_none.mp (h.unset name hm) m hmem

theorem Layout.meansLatest_of_reaches {l k : Layout} {previous : Option JobRecord}
    (hl : l.references = .start previous) (h : l.Reaches k) : l.MeansLatest k := by
  obtain ⟨ms, hms⟩ := exists_sets h
  have hfollows := hms.follows hl
  refine ⟨?_, ms, hms, fun name => ?_⟩
  · rw [References.previousLastPage, hfollows.previous_eq, hl]
    rfl
  · rw [hl]
    exact hfollows.resolve? name

/-- As soon as a marker is set, its name means this marker. -/
theorem Layout.resolve?_setMarker (l : Layout) (name : String) (isTarget : Bool)
    (shift : Option Float) :
    (l.setMarker name isTarget shift).2.references.resolve? name =
      some ⟨name, l.currentPageNumber, l.nextId, isTarget, shift⟩ := by
  have hcurrent := References.current?_set l.references
    ⟨name, l.currentPageNumber, l.nextId, isTarget, shift⟩ name
  rw [if_pos rfl] at hcurrent
  rw [References.resolve?, setMarker, hcurrent, Option.some_or]

namespace Job

variable {job : Job} {files files' : FileTree} {nextId depth : Nat} {layout data path : String}
  {sink : PageSink}

/-! ### One run -/

/-- A run that succeeds has applied its rules to the end, and has written the side file if it is to. -/
structure Completes (depth : Nat) (job : Job) (files : FileTree) (nextId : Nat) (layout data : String)
    (sink : PageSink) (rules : Rule) (document : Xml.Document) (s t : Session) (outcome : RunOutcome)
    (summary : RunSummary) : Prop where
  result : outcome.result = .ok summary
  begins : Begins job files nextId layout data rules document s
  runWith : (program depth rules document.root.name).runWith (job.setting files document sink) s =
    (.ok (), t)
  summary_eq : summary = ⟨t.layout.references.current, t.layout.pageCount⟩
  save : save job.config files t.layout = some outcome.files

/-- A run fails and leaves the files alone, or it completes. -/
theorem runWithin_cases (depth : Nat) (job : Job) (files : FileTree) (nextId : Nat)
    (layout data : String) (sink : PageSink) :
    (∃ fault, (job.runWithin depth files nextId layout data sink).result = .error fault ∧
      (job.runWithin depth files nextId layout data sink).files = files) ∨
    ∃ rules document s t summary, Completes depth job files nextId layout data sink rules document s t
      (job.runWithin depth files nextId layout data sink) summary := by
  unfold runWithin
  dsimp only
  cases hprevious : previousRecord files job.config.auxFile with
  | error fault => exact .inl ⟨_, rfl, rfl⟩
  | ok previous =>
    dsimp only
    cases hsources : sources job.config layout data with
    | error fault => exact .inl ⟨_, rfl, rfl⟩
    | ok found =>
      obtain ⟨rules, document⟩ := found
      dsimp only
      rcases hrun : (program depth rules document.root.name).runWith (job.setting files document sink)
        _ with ⟨fault | _, t⟩
      · exact .inl ⟨_, rfl, rfl⟩
      · dsimp only
        split
        · exact .inl ⟨_, rfl, rfl⟩
        · next hsave =>
          exact .inr ⟨rules, document, _, t, _, rfl, ⟨previous, hprevious, hsources, rfl⟩, hrun, rfl,
            hsave⟩

theorem runWithin_eq_ok {summary : RunSummary}
    (h : (job.runWithin depth files nextId layout data sink).result = .ok summary) :
    ∃ rules document s t, Completes depth job files nextId layout data sink rules document s t
      (job.runWithin depth files nextId layout data sink) summary := by
  obtain ⟨fault, hresult, -⟩ | ⟨rules, document, s, t, found, hcompletes⟩ :=
    runWithin_cases depth job files nextId layout data sink
  · cases h.symm.trans hresult
  · cases h.symm.trans hcompletes.result
    exact ⟨rules, document, s, t, hcompletes⟩

/-- **A run that fails leaves the files as they were.** -/
theorem files_of_failure {fault : Fault}
    (h : (job.runWithin depth files nextId layout data sink).result = .error fault) :
    (job.runWithin depth files nextId layout data sink).files = files := by
  obtain ⟨_, -, hfiles⟩ | ⟨_, _, _, _, _, hcompletes⟩ :=
    runWithin_cases depth job files nextId layout data sink
  · exact hfiles
  · cases h.symm.trans hcompletes.result

theorem save_of_not_writeAux {c : Config} {l : Layout} (hwrite : c.writeAux = false)
    (h : save c files l = some files') : files' = files := by
  simp only [save, hwrite, Bool.false_eq_true, if_false, Option.some.injEq] at h
  exact h.symm

theorem readText_save {c : Config} {l : Layout} (hwrite : c.writeAux = true)
    (h : save c files l = some files') :
    files'.readText c.auxFile = .ok (l.references.record l.pageCount).render := by
  simp only [save, hwrite, if_true] at h
  exact FileTree.readText_write h

theorem previousRecord_of_readText {text : String} {record : JobRecord}
    (hread : files.readText path = .ok text) (hparse : JobRecord.parse text = some record) :
    previousRecord files path = .ok (some record) := by
  simp only [previousRecord, hread, hparse]

theorem Begins.references_eq {rules : Rule} {document : Xml.Document} {s : Session}
    (h : Begins job files nextId layout data rules document s) :
    ∃ previous, previousRecord files job.config.auxFile = .ok previous ∧
      s.layout.references = .start previous := by
  obtain ⟨previous, hprevious, -, rfl⟩ := h
  exact ⟨previous, hprevious, rfl⟩

/-- The layout at the end of a program is one that changes lead to. -/
theorem Begins.reaches {rules : Rule} {document : Xml.Document} {s : Session}
    (h : Begins job files nextId layout data rules document s) (depth : Nat) (sink : PageSink) :
    s.layout.Reaches ((program depth rules document.root.name).runWith
      (job.setting files document sink) s).2.layout := by
  have heffect : Action.EffectOf True (program depth rules document.root.name)
      (job.setting files document sink) s := h.effect (Interpreter.tame_execute depth) sink
  exact heffect.reaches

theorem Begins.takenUpBy {rules : Rule} {document : Xml.Document} {s : Session}
    {saved : RunSummary} (h : Begins job files nextId layout data rules document s)
    (hrecord : previousRecord files job.config.auxFile = .ok (some saved.record))
    (hsaved : References.InOrder saved.markers) : saved.TakenUpBy s.layout.references := by
  obtain ⟨previous, hprevious, hs⟩ := h.references_eq
  obtain rfl := Except.ok.inj (hrecord.symm.trans hprevious)
  rw [hs]
  exact ⟨fun name m => References.resolve?_start_eq_some hsaved saved.lastPage, rfl⟩

/-- The markers that a run leaves are those that it has set itself. -/
theorem Begins.listsLatest {rules : Rule} {document : Xml.Document} {s : Session}
    {summary : RunSummary} (h : Begins job files nextId layout data rules document s)
    (hresult : (job.runWithin depth files nextId layout data sink).result = .ok summary) :
    ∃ ms, s.layout.Sets ms ((program depth rules document.root.name).runWith
      (job.setting files document sink) s).2.layout ∧ summary.ListsLatest ms := by
  obtain ⟨previous, -, hs⟩ := h.references_eq
  obtain ⟨ms, hms⟩ := Layout.exists_sets (h.reaches depth sink)
  refine ⟨ms, hms, ?_⟩
  obtain ⟨rules', document', s', t, hcompletes⟩ := runWithin_eq_ok hresult
  obtain ⟨rfl, rfl, rfl⟩ := h.unique hcompletes.begins
  rw [hcompletes.runWith] at hms
  rw [hcompletes.summary_eq]
  exact (hms.follows hs).listsLatest t.layout.pageCount

theorem inOrder_markers {summary : RunSummary}
    (h : (job.runWithin depth files nextId layout data sink).result = .ok summary) :
    References.InOrder summary.markers := by
  obtain ⟨rules, document, s, t, hcompletes⟩ := runWithin_eq_ok h
  have hreaches := hcompletes.begins.reaches depth sink
  rw [hcompletes.runWith] at hreaches
  obtain ⟨previous, -, hs⟩ := hcompletes.begins.references_eq
  rw [hcompletes.summary_eq]
  exact Layout.inOrder_reaches hreaches (by rw [hs]; exact .nil)

/-! ### Series of runs -/

/-- A run that is to be made. -/
structure Launch where
  job : Job
  layout : String
  data : String
  /-- The number of the first marker. -/
  nextId : Nat
  /-- Where the pages go. -/
  sink : PageSink := .memory

namespace Launch

/-- The run, given the files that it finds. -/
def outcome (depth : Nat) (files : FileTree) (run : Launch) : RunOutcome :=
  run.job.runWithin depth files run.nextId run.layout run.data run.sink

/-- What the run leaves in the side file, `none` if it leaves the file alone. -/
def saved? (depth : Nat) (files : FileTree) (run : Launch) : Option RunSummary :=
  if run.job.config.writeAux then (run.outcome depth files).result.toOption else none

/-- The run gets to apply these rules to this document, and it begins with this session. -/
def Begins (files : FileTree) (run : Launch) (rules : Rule) (document : Xml.Document) (s : Session) :
    Prop :=
  Job.Begins run.job files run.nextId run.layout run.data rules document s

variable {run : Launch}

/-- **A run that fails or does not write the side file leaves the files as they were.** -/
theorem files_of_saved?_eq_none (h : run.saved? depth files = none) :
    (run.outcome depth files).files = files := by
  cases hresult : (run.outcome depth files).result with
  | error fault => exact files_of_failure hresult
  | ok summary =>
    obtain ⟨_, _, _, _, hcompletes⟩ := runWithin_eq_ok hresult
    refine save_of_not_writeAux ?_ hcompletes.save
    cases hwrite : run.job.config.writeAux with
    | false => rfl
    | true => simp [saved?, hwrite, hresult, Except.toOption] at h

theorem result_of_saved? {summary : RunSummary} (h : run.saved? depth files = some summary) :
    run.job.config.writeAux = true ∧ (run.outcome depth files).result = .ok summary := by
  cases hwrite : run.job.config.writeAux with
  | false => simp [saved?, hwrite] at h
  | true =>
    refine ⟨rfl, ?_⟩
    cases hresult : (run.outcome depth files).result with
    | error fault => simp [saved?, hwrite, hresult, Except.toOption] at h
    | ok found =>
      simp only [saved?, hwrite, if_true, hresult, Except.toOption, Option.some.injEq] at h
      rw [h]

/-- **A run that succeeds and writes the side file leaves its own markers there.** -/
theorem readText_of_saved? {summary : RunSummary} (h : run.saved? depth files = some summary) :
    (run.outcome depth files).files.readText run.job.config.auxFile = .ok summary.record.render := by
  obtain ⟨hwrite, hresult⟩ := result_of_saved? h
  obtain ⟨_, _, _, _, hcompletes⟩ := runWithin_eq_ok hresult
  rw [hcompletes.summary_eq]
  exact readText_save hwrite hcompletes.save

end Launch

/-- The files after a series of runs. -/
def filesAfter (depth : Nat) : FileTree → List Launch → FileTree
  | files, [] => files
  | files, run :: runs => filesAfter depth (run.outcome depth files).files runs

/-- What the last of the runs has left that has written the side file, if any has. -/
def lastSaved? (depth : Nat) : FileTree → List Launch → Option RunSummary
  | _, [] => none
  | files, run :: runs =>
    (lastSaved? depth (run.outcome depth files).files runs).or (run.saved? depth files)

variable {runs : List Launch}

theorem filesAfter_cons (depth : Nat) (files : FileTree) (run : Launch) (runs : List Launch) :
    filesAfter depth files (run :: runs) = filesAfter depth (run.outcome depth files).files runs :=
  (rfl)

theorem lastSaved?_cons (depth : Nat) (files : FileTree) (run : Launch) (runs : List Launch) :
    lastSaved? depth files (run :: runs) =
      (lastSaved? depth (run.outcome depth files).files runs).or (run.saved? depth files) := (rfl)

/-- What is in the side file after a series of runs: what was there before, or what the last run has
left that has written it. -/
theorem filesAfter_spec (depth : Nat) (hruns : ∀ run ∈ runs, run.job.config.auxFile = path)
    (files : FileTree) :
    match lastSaved? depth files runs with
    | none => filesAfter depth files runs = files
    | some saved => (filesAfter depth files runs).readText path = .ok saved.record.render ∧
        References.InOrder saved.markers := by
  induction runs generalizing files with
  | nil => rfl
  | cons run runs ih =>
    rw [List.forall_mem_cons] at hruns
    have hrest := ih hruns.2 (run.outcome depth files).files
    rw [lastSaved?_cons, filesAfter_cons]
    cases hlater : lastSaved? depth (run.outcome depth files).files runs with
    | some saved =>
      rw [hlater] at hrest
      exact hrest
    | none =>
      rw [hlater] at hrest
      dsimp only at hrest
      rw [Option.none_or, hrest]
      cases hsaved : run.saved? depth files with
      | none => exact Launch.files_of_saved?_eq_none hsaved
      | some saved =>
        have hread := Launch.readText_of_saved? hsaved
        rw [hruns.1] at hread
        exact ⟨hread, inOrder_markers (Launch.result_of_saved? hsaved).2⟩

/-- **The side file carries one run over to the next.** A run that fails, or that does not write the
side file, leaves all files as they were. After a series of runs the next one finds in the side file what
the last run has left that succeeded and wrote it: each name means the marker of that run that has it,
and the number of pages is that of that run. While rules are applied, a name means the marker that has
been set for it last, from the moment in which it is set, and until then what it meant at the start; and
the markers that the run leaves are those that it has set itself. -/
theorem side_file_carries_one_run (depth : Nat) (files : FileTree) (path : String)
    (runs : List Launch) (next : Launch) (hruns : ∀ run ∈ runs, run.job.config.auxFile = path)
    (hnext : next.job.config.auxFile = path) :
    let before := filesAfter depth files runs
    let outcome := next.outcome depth before
    (outcome.result.toOption = none ∨ next.job.config.writeAux = false → outcome.files = before) ∧
    (match lastSaved? depth files runs with
      | none => before = files
      | some saved => saved.ReadsBack →
          previousRecord before path = .ok (some saved.record) ∧
          ∀ rules document s, next.Begins before rules document s →
            saved.TakenUpBy s.layout.references) ∧
    ∀ rules document s, next.Begins before rules document s →
      let last := ((program depth rules document.root.name).runWith
        (next.job.setting before document next.sink) s).2.layout
      s.layout.Reaches last ∧
      (∀ summary, outcome.result = .ok summary →
        ∃ ms, s.layout.Sets ms last ∧ summary.ListsLatest ms) ∧
      ∀ l, s.layout.Reaches l →
        s.layout.MeansLatest l ∧
        ∀ name isTarget shift, (l.setMarker name isTarget shift).2.references.resolve? name =
          some ⟨name, l.currentPageNumber, l.nextId, isTarget, shift⟩ := by
  intro before outcome
  refine ⟨fun h => Launch.files_of_saved?_eq_none ?_, ?_, fun rules document s hbegins => ?_⟩
  · obtain hfails | hwrite := h
    · simp only [Launch.saved?, outcome] at hfails ⊢
      rw [hfails, ite_self]
    · simp only [Launch.saved?, hwrite, Bool.false_eq_true, if_false]
  · have hfound := filesAfter_spec depth hruns files
    cases hsaved : lastSaved? depth files runs with
    | none =>
      rw [hsaved] at hfound
      exact hfound
    | some saved =>
      rw [hsaved] at hfound
      intro hreads
      have hrecord := previousRecord_of_readText hfound.1 hreads
      exact ⟨hrecord, fun rules document s hbegins =>
        hbegins.takenUpBy (by rw [hnext]; exact hrecord) hfound.2⟩
  · obtain ⟨previous, -, hs⟩ := hbegins.references_eq
    exact ⟨hbegins.reaches depth next.sink, fun summary hresult => hbegins.listsLatest hresult,
      fun l hl => ⟨Layout.meansLatest_of_reaches hs hl, l.resolve?_setMarker⟩⟩

/-- A run of the job with the default settings, and no data. -/
def Launch.plain (writeAux : Bool) (rules : String) : Launch :=
  { job := ⟨{ writeAux }, 0.5, []⟩
    layout := "<Layout xmlns='" ++ Rule.layoutNamespace ++ "'>" ++ rules ++ "</Layout>"
    data := "<data/>"
    nextId := 7 }

/-- Rules that set a marker. -/
def marking : String := "<Record element='data'><Mark select=\"'a'\"/></Record>"

/-- A run that sets a marker, and one that sets another marker and fails at its end, as its page is
refused. -/
def twoRuns : List Launch :=
  [.plain true marking,
    { Launch.plain true ("<Record element='data'><Mark select=\"'b'\"/>" ++
        "<PlaceObject><Box width='1' height='1'/></PlaceObject></Record>") with sink := .full }]

/-- What the first of the runs leaves. -/
def oneMarker : RunSummary := ⟨[⟨"a", 1, 7, false, none⟩], 0⟩

/-- The failed run leaves the marker of the first one to the next one, and so does a run that does not
write the side file. -/
theorem side_file_carries_one_run_twoRuns :
    (∀ run ∈ twoRuns, run.job.config.auxFile = "./gridpress-aux.xml") ∧
    lastSaved? 3 ⟨[], []⟩ twoRuns = some oneMarker ∧ oneMarker.ReadsBack ∧
    ((Launch.plain false marking).outcome 3 (filesAfter 3 ⟨[], []⟩ twoRuns)).files =
      filesAfter 3 ⟨[], []⟩ twoRuns ∧
    ∃ (next : Launch) (rules : Rule) (document : Xml.Document) (s : Session) (summary : RunSummary)
        (ms : List Marker),
      next.Begins (filesAfter 3 ⟨[], []⟩ twoRuns) rules document s ∧
      oneMarker.TakenUpBy s.layout.references ∧
      (next.outcome 3 (filesAfter 3 ⟨[], []⟩ twoRuns)).result = .ok summary ∧
      summary.ListsLatest ms ∧
      s.layout.MeansLatest ((program 3 rules document.root.name).runWith
        (next.job.setting (filesAfter 3 ⟨[], []⟩ twoRuns) document next.sink) s).2.layout := by
  have hpath : ∀ run ∈ twoRuns, run.job.config.auxFile = "./gridpress-aux.xml" := by
    decide +kernel
  have hsaved : lastSaved? 3 ⟨[], []⟩ twoRuns = some oneMarker := by decide +kernel
  have hreads : oneMarker.ReadsBack := by
    unfold RunSummary.ReadsBack
    decide +kernel
  have hsilent := (side_file_carries_one_run 3 ⟨[], []⟩ _ twoRuns (.plain false marking) hpath
    (by decide +kernel)).1 (.inr rfl)
  refine ⟨hpath, hsaved, hreads, hsilent, .plain true marking, ?_⟩
  have hsucceeds : ((Launch.plain true marking).outcome 3
      (filesAfter 3 ⟨[], []⟩ twoRuns)).result.toOption.isSome = true := by
    decide +kernel
  have hnext : (Launch.plain true marking).job.config.auxFile = "./gridpress-aux.xml" := by
    decide +kernel
  generalize Launch.plain true marking = next at hsucceeds hnext ⊢
  have hcarries := side_file_carries_one_run 3 ⟨[], []⟩ _ twoRuns next hpath hnext
  rw [hsaved] at hcarries
  generalize filesAfter 3 ⟨[], []⟩ twoRuns = before at hsucceeds hcarries ⊢
  cases hresult : (next.outcome 3 before).result with
  | error fault =>
    rw [hresult] at hsucceeds
    cases hsucceeds
  | ok summary =>
    obtain ⟨-, hfound, hduring⟩ := hcarries
    obtain ⟨rules, document, s, t, hcompletes⟩ := runWithin_eq_ok hresult
    obtain ⟨hreaches, hlists, hmeans⟩ := hduring rules document s hcompletes.begins
    obtain ⟨ms, -, hms⟩ := hlists summary hresult
    exact ⟨rules, document, s, summary, ms, hcompletes.begins,
      (hfound hreads).2 rules document s hcompletes.begins, rfl, hms, (hmeans _ hreaches).1⟩

end Job

end PageGrid
