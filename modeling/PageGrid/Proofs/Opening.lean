import PageGrid.Proofs.Change
import PageGrid.Proofs.Quiet

/-!
# Opening pages

A rule that needs a grid opens a page first, if there is neither a page nor a group. That can fail,
since the test of a page type can fail and a page type can ask for more than the page has, but a
failure leaves no trace in the layout. So there are three exits, and `EnsureTarget` says for each
what it leaves.

Two faults arise here only, and what the layout is like says why: a page is being created already, or
no page type is eligible, and then no page type has the test that holds of any data.

## Main definitions

* `Layout.Explains` — the layout allows a fault in the creation of a page;
* `Action.EnsureTarget` — the exits of `ensureTarget`.

## Main results

* `ensureTarget_exit` — there are no other exits;
* `openGroups_ensureTarget` — opening a page does not touch groups.
-/

namespace PageGrid

/-- Pages are created in each other only where one is being created already, and no page type is
eligible only where none has the test that always holds. -/
structure Layout.Explains (l : Layout) (cause : FaultCause) : Prop where
  nested : cause = .nestedPageCreation → l.creating = true
  noType : cause = .noPageType → ∀ type ∈ l.pageTypes.types, type.test ≠ "true()"

theorem Layout.explains {l : Layout} {cause : FaultCause} (h : ¬ cause.OfPageCreation) :
    l.Explains cause :=
  ⟨fun hc => absurd (hc ▸ .nested) h, fun hc => absurd (hc ▸ .noType) h⟩

namespace Action

variable {α : Type} {setting : Setting} {s t : Session}

/-! ### Selecting a page type -/

theorem mem_of_firstEligible {focus : Focus} {types : List (PageType Float)} {type : PageType Float}
    (h : (PageTypes.firstEligible (isEligible focus) types).runWith setting s =
      (.ok (some type), t)) :
    type ∈ types := by
  induction types generalizing s with
  | nil => cases h
  | cons first rest ih =>
    obtain ⟨eligible, u, -, h⟩ := runWith_bind_eq_ok.mp h
    cases eligible with
    | true =>
      cases h
      exact .head _
    | false => exact .tail _ (ih h)

theorem mem_of_selectPageType {focus : Focus} {type : PageType Float}
    (h : (selectPageType focus).runWith setting s = (.ok type, t)) :
    type ∈ s.layout.pageTypes.types := by
  rw [selectPageType, runWith_bind_of_ok runWith_layout] at h
  obtain ⟨selected, u, hs, h⟩ := runWith_bind_eq_ok.mp h
  cases selected with
  | none => cases h
  | some type' =>
    cases h
    exact List.mem_reverse.mp (mem_of_firstEligible hs)

theorem parse_true : Expr.parse "true()" = .ok (.call "true" []) := rfl

/-- The test that always holds. -/
theorem runWith_isEligible_true {focus : Focus} {type : PageType Float} (h : type.test = "true()") :
    (isEligible focus type).runWith setting s = (.ok true, s) := by
  rw [isEligible, h, evaluate, parse_true]
  rfl

/-- Where no type is eligible, none has the test that always holds. -/
theorem test_ne_of_firstEligible {focus : Focus} {types : List (PageType Float)}
    (h : (PageTypes.firstEligible (isEligible focus) types).runWith setting s = (.ok none, t)) :
    ∀ type ∈ types, type.test ≠ "true()" := by
  induction types generalizing s with
  | nil => nofun
  | cons first rest ih =>
    obtain ⟨eligible, u, hfirst, h⟩ := runWith_bind_eq_ok.mp h
    cases eligible with
    | true => cases h
    | false =>
      refine List.forall_mem_cons.mpr ⟨fun htest => ?_, ih h⟩
      cases (runWith_isEligible_true htest).symm.trans hfirst

/-- Selecting a page type leaves remarks at most, and a fault tells that no type is eligible only where
none has the test that always holds. -/
theorem selectPageType_exit (focus : Focus) (setting : Setting) (s : Session) :
    Session.Remarked s ((selectPageType focus).runWith setting s).2 ∧
      ∀ f, ((selectPageType focus).runWith setting s).1 = .error f →
        ∃ cause, f = .ofCause cause ∧ cause ≠ .nestedPageCreation ∧
          (cause = .noPageType → ∀ type ∈ s.layout.pageTypes.types, type.test ≠ "true()") := by
  rw [selectPageType, runWith_bind_of_ok runWith_layout, runWith_bind, PageTypes.select]
  have hasked := quiet_firstEligible focus s.layout.pageTypes.candidates setting s
  rcases hs : (PageTypes.firstEligible (isEligible focus) s.layout.pageTypes.candidates).runWith
    setting s with ⟨fault | selected, u⟩
  all_goals rw [hs] at hasked
  · refine ⟨hasked.remarked, fun f hf => ?_⟩
    cases hf
    obtain ⟨cause, hcause, rfl⟩ := hasked.fresh fault rfl
    exact ⟨cause, rfl, fun hc => absurd (hc ▸ .nested) hcause, (Layout.explains hcause).noType⟩
  · cases selected with
    | some type =>
      refine ⟨hasked.remarked, fun f hf => ?_⟩
      cases hf
    | none =>
      refine ⟨hasked.remarked, fun f hf => ?_⟩
      cases hf
      exact ⟨_, rfl, nofun, fun _ type hm => test_ne_of_firstEligible hs type (List.mem_reverse.mpr hm)⟩

/-! ### Exits -/

/-- The exits of `ensureTarget`: something to put content on is there, a page of a declared type is
opened, or there is a fault and the layout stays as it is, which explains the fault. -/
inductive EnsureTarget (s : Session) : Except Fault Unit → Session → Prop
  | present : s.layout.hasTarget = true → EnsureTarget s (.ok ()) s
  | opened {type : PageType Float} {l : Layout} {t : Session} :
      s.layout.hasTarget = false → type ∈ s.layout.pageTypes.types →
        s.layout.openPage type = .ok l → Session.Remarked { s with layout := l } t →
          EnsureTarget s (.ok ()) t
  | failed {cause : FaultCause} {t : Session} :
      s.layout.hasTarget = false → s.layout.Explains cause → Session.Remarked s t →
        EnsureTarget s (.error (.ofCause cause)) t

/-- What `installPage` does if the open page is taken. -/
theorem runWith_installPage_of_taken (h : s.layout.isTaken setting.sink = true)
    (type : PageType Float) :
    (installPage type).runWith setting s =
      match s.layout.installPage type with
      | (.ok _, l) => (.ok (), Session.logging { s with layout := l } l.pageNotice)
      | (.error e, l) => (.error (.ofCause (.grid e)), { s with layout := l }) := by
  rw [installPage, runWith_bind_of_ok (runWith_finishPage_of_taken h), layout_bind, Layout.installPage]
  cases s.layout.finishPage.openPage type <;> rfl

/-- What `installPage` does on a layout without an open page. -/
theorem runWith_installPage (hp : s.layout.page = none) (type : PageType Float) :
    (installPage type).runWith setting s =
      match s.layout.openPage type with
      | .ok l => (.ok (), Session.logging { s with layout := l } l.pageNotice)
      | .error e => (.error (.ofCause (.grid e)), s) := by
  have ht : s.layout.isTaken setting.sink = true := by simp [Layout.isTaken, hp]
  have hf : s.layout.finishPage = s.layout := by simp [Layout.finishPage, hp]
  rw [runWith_installPage_of_taken ht, Layout.installPage, hf]
  cases s.layout.openPage type <;> rfl

theorem runWith_beginPage (h : s.layout.creating = false) :
    beginPage.runWith setting s =
      (.ok (), { s with layout := { s.layout with creating := true } }) := by
  rw [beginPage, runWith_bind_of_ok runWith_layout, h]
  rfl

theorem runWith_beginPage_of_creating (h : s.layout.creating = true) :
    beginPage.runWith setting s = (.error (.ofCause .nestedPageCreation), s) := by
  rw [beginPage, runWith_bind_of_ok runWith_layout, h]
  rfl

/-- The page that is selected is opened, or the layout stays as it is. -/
theorem runWith_installSelected (focus : Focus) (hp : s.layout.page = none) {r : Except Fault Unit}
    (h : (selectPageType focus >>= installPage).runWith setting s = (r, t)) :
    (∃ cause, r = .error (.ofCause cause) ∧ cause ≠ .nestedPageCreation ∧
        (cause = .noPageType → ∀ type ∈ s.layout.pageTypes.types, type.test ≠ "true()") ∧
        Session.Remarked s t) ∨
      ∃ type l, r = .ok () ∧ type ∈ s.layout.pageTypes.types ∧ s.layout.openPage type = .ok l ∧
        Session.Remarked { s with layout := l } t := by
  rw [runWith_bind] at h
  obtain ⟨hu, hfault⟩ := selectPageType_exit focus setting s
  rcases hs : (selectPageType focus).runWith setting s with ⟨fault | type, u⟩
  all_goals rw [hs] at h hu hfault
  · cases h
    obtain ⟨cause, rfl, hcause, hnone⟩ := hfault fault rfl
    exact .inl ⟨cause, rfl, hcause, hnone, hu⟩
  · obtain ⟨entries, hentries, rfl⟩ := hu
    replace h : (installPage type).runWith setting (s.logging entries) = (r, t) := h
    rw [runWith_installPage (show (s.logging entries).layout.page = none from hp)] at h
    cases ho : s.layout.openPage type with
    | error e =>
      rw [show (s.logging entries).layout.openPage type = .error e from ho] at h
      cases h
      exact .inl ⟨_, rfl, nofun, nofun, entries, hentries, rfl⟩
    | ok l =>
      rw [show (s.logging entries).layout.openPage type = .ok l from ho] at h
      cases h
      refine .inr ⟨type, l, rfl, mem_of_selectPageType hs, ho, entries ++ l.pageNotice,
        hentries.append l.remarks_pageNotice, ?_⟩
      rw [← Session.logging_logging]
      rfl

/-- **Exits.** -/
theorem ensureTarget_exit (focus : Focus) (setting : Setting) (s : Session) :
    EnsureTarget s ((ensureTarget focus).runWith setting s).1
      ((ensureTarget focus).runWith setting s).2 := by
  rw [ensureTarget, runWith_bind_of_ok runWith_layout]
  cases ht : s.layout.hasTarget with
  | true => exact .present ht
  | false =>
    simp only [Bool.false_eq_true, ↓reduceIte]
    cases hc : s.layout.creating with
    | true =>
      rw [runWith_bind, runWith_beginPage_of_creating hc]
      exact .failed ht ⟨fun _ => hc, nofun⟩ (refl_of Session.Remarked s)
    | false =>
      rw [runWith_bind_of_ok (runWith_beginPage hc), endPage, runWith_followedBy_modifyLayout]
      have hp := (Layout.hasTarget_eq_false.mp ht).2
      -- the end of the creation restores the flag, which nothing in between reads
      have hflag : { s.layout with creating := false } = s.layout := by rw [← hc]
      generalize hs : ({ s with layout := { s.layout with creating := true } } : Session) = s'
      have hp' : s'.layout.page = none := by rw [← hs]; exact hp
      rcases hr : (selectPageType focus >>= installPage).runWith setting s' with ⟨r, t⟩
      obtain ⟨cause, rfl, hcause, hnone, entries, hentries, rfl⟩ |
          ⟨type, l, rfl, hm, ho, entries, hentries, rfl⟩ := runWith_installSelected focus hp' hr
      · subst hs
        refine .failed ht ⟨(absurd · hcause), hnone⟩ ⟨entries, hentries, ?_⟩
        simp only [Session.logging, hflag]
      · subst hs
        obtain ⟨page, hpage, rfl⟩ := Layout.openPage_eq_ok.mp ho
        refine .opened ht hm (Layout.openPage_eq_ok.mpr ⟨page, hpage, rfl⟩)
          ⟨entries, hentries, ?_⟩
        simp only [Session.logging, ← hc]

theorem ensureTarget_eq_ok {focus : Focus}
    (h : (ensureTarget focus).runWith setting s = (.ok (), t)) :
    s.layout.hasTarget = true ∧ t = s ∨
      ∃ type l, s.layout.hasTarget = false ∧ type ∈ s.layout.pageTypes.types ∧
        s.layout.openPage type = .ok l ∧ Session.Logged { s with layout := l } t := by
  have hexit := ensureTarget_exit focus setting s
  rw [h] at hexit
  cases hexit with
  | present ht => exact .inl ⟨ht, rfl⟩
  | opened ht hm ho hl => exact .inr ⟨_, _, ht, hm, ho, hl.logged⟩

/-- Opening a page does not touch groups. -/
theorem openGroups_ensureTarget (focus : Focus) (setting : Setting) (s : Session) :
    ((ensureTarget focus).runWith setting s).2.layout.openGroups = s.layout.openGroups := by
  have hexit := ensureTarget_exit focus setting s
  generalize (ensureTarget focus).runWith setting s = x at hexit ⊢
  obtain ⟨r, t⟩ := x
  cases hexit with
  | present => rfl
  | opened _ _ ho hl =>
    obtain ⟨page, -, rfl⟩ := Layout.openPage_eq_ok.mp ho
    rw [hl.logged.layout_eq]
  | failed _ _ hl => rw [hl.logged.layout_eq]

end Action

end PageGrid
