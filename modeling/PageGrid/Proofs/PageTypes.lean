import PageGrid.Proofs.Restoration

/-!
# Declared page types

The table of page types lists declarations in their order, and of several declarations under one name
only the last one counts. The fallback type is declared before all others, and that is all there is to
it: a rule that declares a type under its name replaces it, together with the test that always holds.

So a search can come back with nothing, even if every test holds that always holds, and this happens in
a run exactly where a rule has taken the fallback away. While no rule does that, the fallback stays the
first entry of the table.

## Main definitions

* `PageTypes.declared` — the table after a series of declarations;
* `PageTypes.latest` — the declarations that count.

## Main results

* `PageTypes.types_declared` — the table consists of the declarations that count;
* `Effect.pageTypes`, `Effect.noType` — what rules do to the table, and when they stop for it;
* `fallback_until_redeclared` — what becomes of the fallback.
-/

namespace PageGrid

namespace PageTypes

variable {α : Type} {margins : Margins α} {p : PageTypes α} {t : PageType α} {ts : List (PageType α)}

/-! ### Declarations -/

/-- The fallback type. -/
def fallback (margins : Margins α) : PageType α :=
  { name := defaultPageType, test := "true()", margins, areas := [] }

/-- The table after a series of declarations. -/
def declared (margins : Margins α) (ts : List (PageType α)) : PageTypes α :=
  ts.foldl register (initial margins)

/-- Of several declarations under one name the last one. -/
def latest : List (PageType α) → List (PageType α)
  | [] => []
  | t :: ts => if ts.any (·.name = t.name) then latest ts else t :: latest ts

theorem mem_of_mem_latest (h : t ∈ latest ts) : t ∈ ts := by
  induction ts with
  | nil => cases h
  | cons first rest ih =>
    rw [latest] at h
    split at h
    · exact .tail _ (ih h)
    · rcases List.mem_cons.mp h with rfl | h
      · exact .head _
      · exact .tail _ (ih h)

/-- Each name is kept. -/
theorem exists_mem_latest (h : t ∈ ts) : ∃ t' ∈ latest ts, t'.name = t.name := by
  induction ts generalizing t with
  | nil => cases h
  | cons first rest ih =>
    rw [latest]
    split
    · next hlater =>
      rcases List.mem_cons.mp h with rfl | h
      · obtain ⟨u, hu, hname⟩ := List.any_eq_true.mp hlater
        obtain ⟨v, hv, hvname⟩ := ih hu
        exact ⟨v, hv, hvname.trans (by simpa using hname)⟩
      · exact ih h
    · rcases List.mem_cons.mp h with rfl | h
      · exact ⟨t, .head _, rfl⟩
      · obtain ⟨u, hu, hname⟩ := ih h
        exact ⟨u, .tail _ hu, hname⟩

theorem nodup_latest (ts : List (PageType α)) : ((latest ts).map (·.name)).Nodup := by
  induction ts with
  | nil => exact .nil
  | cons first rest ih =>
    rw [latest]
    split
    · exact ih
    · next hlast =>
      refine List.nodup_cons.mpr ⟨fun hmem => ?_, ih⟩
      obtain ⟨u, hu, hname⟩ := List.mem_map.mp hmem
      exact hlast (List.any_eq_true.mpr ⟨u, mem_of_mem_latest hu, by simpa using hname⟩)

/-- One more declaration drops an earlier one under its name. -/
theorem latest_append (ts : List (PageType α)) (t : PageType α) :
    latest (ts ++ [t]) = (latest ts).filter (·.name ≠ t.name) ++ [t] := by
  induction ts with
  | nil => rfl
  | cons first rest ih =>
    rw [List.cons_append, latest, latest, List.any_append, ih]
    by_cases hlater : rest.any (·.name = first.name) = true
    · rw [if_pos hlater, if_pos (by rw [hlater]; rfl)]
    · by_cases hname : t.name = first.name
      · simp [hlater, hname]
      · simp [hlater, hname, Ne.symm hname]

theorem types_foldl_register (ts' : List (PageType α)) (hp : p.types = latest ts') :
    (ts.foldl register p).types = latest (ts' ++ ts) := by
  induction ts generalizing p ts' with
  | nil => rw [List.append_nil]; exact hp
  | cons t rest ih =>
    have hnext : (p.register t).types = latest (ts' ++ [t]) := by
      rw [latest_append, ← hp]
      rfl
    rw [List.foldl_cons, ih (ts' ++ [t]) hnext, List.append_assoc]
    rfl

/-- **The table** consists of the declarations that count, of which the fallback is the first. -/
theorem types_declared (margins : Margins α) (ts : List (PageType α)) :
    (declared margins ts).types = latest (fallback margins :: ts) :=
  types_foldl_register [fallback margins] rfl

/-- There is always a type under the name of the fallback. -/
theorem exists_default (margins : Margins α) (ts : List (PageType α)) :
    ∃ t ∈ (declared margins ts).types, t.name = defaultPageType := by
  rw [types_declared]
  exact exists_mem_latest (.head ts)

/-! ### Search -/

theorem isSome_firstEligible (test : PageType α → Bool) (ts : List (PageType α)) :
    (firstEligible (m := Id) (fun t => pure (test t)) ts).isSome = ts.any test := by
  induction ts with
  | nil => rfl
  | cons first rest ih =>
    cases hfirst : test first with
    | true =>
      simp only [firstEligible, hfirst, pure_bind, if_true, List.any_cons, Bool.true_or]
      rfl
    | false => simpa [firstEligible, hfirst] using ih

/-- A search finds a type for each test that accepts what always holds iff there is a type of which it
always holds. -/
theorem isSome_select_iff (p : PageTypes α) :
    (∀ test : PageType α → Bool, (∀ t, t.test = "true()" → test t = true) →
      (p.select (m := Id) fun t => pure (test t)).isSome = true) ↔
    ∃ t ∈ p.types, t.test = "true()" := by
  simp only [select, isSome_firstEligible, List.any_eq_true, candidates, List.mem_reverse]
  constructor
  · intro h
    obtain ⟨t, ht, htest⟩ := h (fun t => t.test = "true()") fun t htest => by simpa using htest
    exact ⟨t, ht, by simpa using htest⟩
  · rintro ⟨t, ht, htest⟩ test hall
    exact ⟨t, ht, hall t htest⟩

end PageTypes

/-! ### Runs -/

namespace Layout

variable {l l' : Layout}

theorem Step.pageTypes (h : Step l l') :
    l'.pageTypes = l.pageTypes ∨ ∃ type, l'.pageTypes = l.pageTypes.register type := by
  cases h with
  | change h =>
    cases h with
    | setGrid | record | mark | losePage => exact .inl rfl
    | register type => exact .inr ⟨type, rfl⟩
    | openPage _ _ h =>
      obtain ⟨page, -, rfl⟩ := openPage_eq_ok.mp h
      exact .inl rfl
    | finishPage =>
      rw [Layout.finishPage]
      split <;> exact .inl rfl
    | grid =>
      rw [setTargetGrid]
      split <;> exact .inl rfl
    | place h =>
      simp only [Layout.place] at h
      split at h
      · cases h
        exact .inl rfl
      · cases h
        exact .inl rfl
      · cases h
  | startGroup h =>
    obtain ⟨grid, rfl⟩ := startGroup_eq_ok h
    exact .inl rfl
  | endGroup =>
    rw [Layout.endGroup]
    split <;> exact .inl rfl

/-- Steps declare page types and do nothing else to the table. -/
theorem Reaches.pageTypes (h : l.Reaches l') :
    ∃ ts : List (PageType Float), l'.pageTypes = ts.foldl PageTypes.register l.pageTypes := by
  induction h with
  | refl => exact ⟨[], rfl⟩
  | tail _ hstep ih =>
    obtain ⟨ts, hts⟩ := ih
    obtain hkept | ⟨type, hdeclared⟩ := hstep.pageTypes
    · exact ⟨ts, hkept.trans hts⟩
    · exact ⟨ts ++ [type], by rw [hdeclared, hts, List.foldl_append]; rfl⟩

end Layout

/-- **No eligible type.** Where rules stop because no page type is eligible, no type of the table has the
test that always holds. -/
theorem Session.Effect.noType {reports : Prop} {s t : Session} {fault : Option Fault}
    (h : Effect reports s fault t) :
    ∀ f ∈ fault, f.cause = .noPageType →
      ∀ type ∈ t.layout.pageTypes.types, type.test ≠ "true()" := by
  induction h with
  | refl | log | assign | change => nofun
  | stop s hcause =>
    intro f hf hnone
    cases hf
    exact hcause.noType hnone
  | trans _ _ _ ih => exact ih
  | scope _ _ ih => exact ih
  | @group _ t _ _ _ _ _ ih =>
    intro f hf hnone
    have hended : t.layout.endGroup.2.pageTypes = t.layout.pageTypes := by
      rw [Layout.endGroup]
      split <;> rfl
    rw [hended]
    exact ih f hf hnone
  | @report s t raised _ _ _ _ ih =>
    intro f hf hnone
    cases hf
    exact ih raised rfl hnone

namespace Job

variable {job : Job} {files : FileTree} {nextId depth : Nat} {layout data : String} {sink : PageSink}

/-- A run that stops because no page type is eligible is stopped by its rules, when a type of the
fallback's name with another test has been declared. -/
theorem redeclared_of_noPageType {fault : Fault}
    (h : (job.runWithin depth files nextId layout data sink).result = .error fault)
    (hcause : fault.cause = .noPageType) :
    ∃ rules document s t raised ts, Begins job files nextId layout data rules document s ∧
      (program depth rules document.root.name).runWith (job.setting files document sink) s =
        (.error raised, t) ∧
      t.layout.pageTypes = PageTypes.declared job.config.margins ts ∧
      (∀ type ∈ t.layout.pageTypes.types, type.test ≠ "true()") ∧
      ∃ type ∈ t.layout.pageTypes.types,
        type.name = defaultPageType ∧ type.test ≠ "true()" := by
  have hending := ending_runWithin depth job files nextId layout data sink
  generalize job.runWithin depth files nextId layout data sink = outcome at h hending
  cases hending with
  | refused _ hrefused _ =>
    cases h
    obtain rfl := hcause
    exact absurd .noType hrefused
  | @stopped rules document s t raised hbegins hrun =>
    cases h
    have heffect := hbegins.effect (Interpreter.tame_execute depth) sink
    rw [Action.EffectOf, ← program_eq, hrun] at heffect
    have hnone := heffect.noType raised rfl hcause
    obtain ⟨ts, hts⟩ := heffect.reaches.pageTypes
    have hstart : s.layout.pageTypes = .initial job.config.margins := by
      obtain ⟨previous, -, -, rfl⟩ := hbegins
      rfl
    rw [hstart] at hts
    obtain ⟨type, htype, hname⟩ := PageTypes.exists_default job.config.margins ts
    rw [PageTypes.declared, ← hts] at htype
    exact ⟨rules, document, s, t, raised, ts, hbegins, hrun, hts, hnone, type, htype, hname,
      hnone type htype⟩
  | unsaved _ _ =>
    cases h
    cases hcause
  | finished _ _ hresult _ => cases hresult.symm.trans h

end Job

/-- **The fallback stays until it is declared anew.** After any declarations, each name occurs once, and
the table consists of the last declaration of each name in their order, with the fallback in front of
them unless its name has been declared. A search finds a type, for each test that accepts the types
whose test always holds, exactly if there is such a type. And a run in which no page type is eligible
has declared a type of the fallback's name with another test, and none that always holds. -/
theorem fallback_until_redeclared (margins : Margins Float) (ts : List (PageType Float)) :
    ((PageTypes.declared margins ts).types.map (·.name)).Nodup ∧
    (PageTypes.declared margins ts).types =
      (if ts.any (·.name = defaultPageType) then PageTypes.latest ts
        else PageTypes.fallback margins :: PageTypes.latest ts) ∧
    ((∀ test : PageType Float → Bool, (∀ t, t.test = "true()" → test t = true) →
        ((PageTypes.declared margins ts).select (m := Id) fun t => pure (test t)).isSome = true) ↔
      ∃ t ∈ (PageTypes.declared margins ts).types, t.test = "true()") ∧
    ∀ (depth : Nat) (job : Job) (files : FileTree) (nextId : Nat) (layout data : String)
      (sink : PageSink) (fault : Fault),
      (job.runWithin depth files nextId layout data sink).result = .error fault →
      fault.cause = .noPageType →
      ∃ rules document s t raised ts, Job.Begins job files nextId layout data rules document s ∧
        (Job.program depth rules document.root.name).runWith (job.setting files document sink) s =
          (.error raised, t) ∧
        t.layout.pageTypes = PageTypes.declared job.config.margins ts ∧
        (∀ type ∈ t.layout.pageTypes.types, type.test ≠ "true()") ∧
        ∃ type ∈ t.layout.pageTypes.types,
          type.name = defaultPageType ∧ type.test ≠ "true()" := by
  refine ⟨?_, ?_, PageTypes.isSome_select_iff _,
    fun _ _ _ _ _ _ _ _ h hcause => Job.redeclared_of_noPageType h hcause⟩
  · rw [PageTypes.types_declared]
    exact PageTypes.nodup_latest _
  · rw [PageTypes.types_declared]
    rfl

/-- Layout rules that declare a type under the name of the fallback, for which no data is eligible, and
place a box. -/
def redeclaringRules : String :=
  "<Layout xmlns='" ++ Rule.layoutNamespace ++ "'>" ++
    "<Pagetype name='Default Page' test='false()'/>" ++
    "<Record element='data'><PlaceObject><Box width='1' height='1'/></PlaceObject></Record></Layout>"

/-- A run with these rules stops because no page type is eligible. -/
theorem noPageType_redeclaringRules :
    ∃ fault, (Job.runWithin 3 ⟨{}, 0.5, []⟩ ⟨[], []⟩ 1 redeclaringRules "<data/>").result =
      .error fault ∧ fault.cause = .noPageType := by
  have hstops : (match (Job.runWithin 3 ⟨{}, 0.5, []⟩ ⟨[], []⟩ 1 redeclaringRules "<data/>").result with
      | .error ⟨.noPageType, _⟩ => true
      | _ => false) = true := by
    decide +kernel
  split at hstops
  · next hresult => exact ⟨_, hresult, rfl⟩
  · cases hstops

theorem fallback_until_redeclared_redeclaringRules :
    (PageTypes.declared (.all 10) [⟨"A", "true()", .all 5, []⟩, ⟨"B", "1", .all 5, []⟩,
        ⟨"A", "false()", .all 5, []⟩] : PageTypes Float).types =
      [PageTypes.fallback (.all 10), ⟨"B", "1", .all 5, []⟩, ⟨"A", "false()", .all 5, []⟩] ∧
    ((PageTypes.declared (.all 10) [] : PageTypes Float).select (m := Id) fun t =>
      pure (decide (t.test = "true()"))).isSome = true ∧
    ∃ (fault : Fault) (t : Session),
      (Job.runWithin 3 ⟨{}, 0.5, []⟩ ⟨[], []⟩ 1 redeclaringRules "<data/>").result = .error fault ∧
      fault.cause = .noPageType ∧
      ∃ type ∈ t.layout.pageTypes.types, type.name = defaultPageType ∧ type.test ≠ "true()" := by
  obtain ⟨-, -, hsearch, hruns⟩ := fallback_until_redeclared (.all 10) []
  obtain ⟨fault, hresult, hcause⟩ := noPageType_redeclaringRules
  obtain ⟨_, _, _, t, _, _, -, -, -, -, hredeclared⟩ := hruns _ _ _ _ _ _ _ fault hresult hcause
  refine ⟨(fallback_until_redeclared (.all 10) _).2.1, ?_, fault, t, hresult, hcause, hredeclared⟩
  exact hsearch.mpr ⟨_, .head _, rfl⟩ _ fun t htest => by simpa using htest

/-- The fallback is lost where its name is declared with another test. Then a search finds no type for a
test that accepts the types whose test always holds, and a run fails in which every test yields a truth
value. -/
theorem fallback_lost :
    let types : PageTypes Float :=
      PageTypes.declared (.all 10) [⟨defaultPageType, "false()", .all 10, []⟩]
    types.types.head? ≠ some (PageTypes.fallback (.all 10)) ∧
    types.select (m := Id) (fun t => pure (decide (t.test = "true()"))) = none ∧
    ∃ fault, (Job.runWithin 3 ⟨{}, 0.5, []⟩ ⟨[], []⟩ 1 redeclaringRules "<data/>").result =
      .error fault ∧ fault.message = "No page type is eligible for the current data" := by
  refine ⟨by decide, rfl, ?_⟩
  obtain ⟨fault, hresult, hcause⟩ := noPageType_redeclaringRules
  exact ⟨fault, hresult, by rw [Fault.message, hcause]; rfl⟩

end PageGrid
