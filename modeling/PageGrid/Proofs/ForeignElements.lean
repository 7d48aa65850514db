import PageGrid.Proofs.AlikeCommands
import PageGrid.Proofs.Stability

/-!
# Layout documents without foreign elements

A layout document may have elements of other namespaces in it, for other programs or as notes. Taking them
out makes no difference to a run, unless one of them is looked at: below a choice, a group, a page type or
an area, child elements are found by their local names alone, and a value rule that has any child element
does not read its text.

Two runs are compared at whatever depths they succeed. That depths make no difference, and that the
number which markers count from makes none, is known for each of the documents, so it is enough to compare
two runs from one number, the second of which has levels to spare.

## Main results

* `Job.runWithin_of_alike` — a run with rules that are alike;
* `Job.foreign_elements_skipped` — runs with and without foreign elements;
* `Job.foreign_element_applied` — a foreign element that is not skipped.
-/

namespace PageGrid

/-! ### Rules can be compared -/

namespace Xml

mutual

/-- Nodes can be compared. -/
def Node.decEq : (n m : Node) → Decidable (n = m)
  | .text s, .text t => decidable_of_iff (s = t) (by simp)
  | .text _, .element .. => isFalse nofun
  | .element .., .text _ => isFalse nofun
  | .element tag children, .element tag' children' =>
    have := Node.decEqAll children children'
    decidable_of_iff (tag = tag' ∧ children = children') (by simp)

/-- Lists of nodes can be compared. -/
def Node.decEqAll : (ns ms : List Node) → Decidable (ns = ms)
  | [], [] => isTrue rfl
  | [], _ :: _ => isFalse nofun
  | _ :: _, [] => isFalse nofun
  | n :: ns, m :: ms =>
    have := Node.decEq n m
    have := Node.decEqAll ns ms
    decidable_of_iff (n = m ∧ ns = ms) (by simp)

end

instance : DecidableEq Node := Node.decEq

deriving instance DecidableEq for Element

end Xml

instance (r r' : Rule) : Decidable (r.Alike r') := inferInstanceAs (Decidable (r.core = r'.core))

namespace Job

variable {job : Job} {files : FileTree} {depth further nextId : Nat} {L L' data : String}
  {R R' : Rule} {summary : RunSummary}

/-! ### Runs with rules that are alike -/

/-- Rules that are alike ask for the same version of the engine. -/
theorem sources_of_alike (hL : Rule.compile L = .ok R) (hL' : Rule.compile L' = .ok R')
    (h : R.Alike R') (c : Config) (data : String) :
    sources c L' data = (sources c L data).map fun found => (R', found.2) := by
  rw [sources, sources, hL, hL']
  simp only [bind, Except.bind, Except.mapError]
  rw [h.attribute?_eq]
  cases R.attribute? "version" with
  | none => cases Xml.Document.parse data <;> rfl
  | some required =>
    dsimp only
    cases c.ignoreVersion with
    | true => cases Xml.Document.parse data <;> rfl
    | false =>
      cases Version.check required Version.engine with
      | error mismatch => rfl
      | ok _ => cases Xml.Document.parse data <;> rfl

/-- A run with rules that are alike succeeds as well, if it has levels to spare, and yields the same. -/
theorem runWithin_of_alike (hL : Rule.compile L = .ok R) (hL' : Rule.compile L' = .ok R')
    (h : R.Alike R') (hdepth : depth < further)
    (hresult : (job.runWithin depth files nextId L data).result = .ok summary) :
    (job.runWithin further files nextId L' data).result = .ok summary ∧
      (job.runWithin further files nextId L' data).pages =
        (job.runWithin depth files nextId L data).pages := by
  obtain ⟨rules, document, s, t, hcompletes⟩ := runWithin_eq_ok hresult
  obtain ⟨previous, hprevious, hsources, hs⟩ := hcompletes.begins
  obtain rfl : R = rules := by
    have hfound := sources_of_alike hL hL rfl job.config data
    rw [hsources] at hfound
    exact (congrArg Prod.fst (Except.ok.inj hfound)).symm
  have hbegins' : Begins job files nextId L' data R' document s := by
    refine ⟨previous, hprevious, ?_, hs⟩
    rw [sources_of_alike hL hL' h, hsources]
    rfl
  obtain ⟨further, rfl⟩ := Nat.exists_eq_add_of_le' (Nat.lt_of_le_of_lt (Nat.zero_le _) hdepth)
  obtain ⟨-, _, _, hrun', -, p, log, -, rfl⟩ := same_program (P := fun _ => True)
    (Nat.le_of_lt_succ hdepth) h document.root.name trivial (refl_of Session.Alike s)
    hcompletes.runWith
  obtain ⟨hclosing, hpages⟩ := closing_runWithin hcompletes.begins depth .memory
  obtain ⟨hclosing', hpages'⟩ := closing_runWithin hbegins' (further + 1) .memory
  rw [hcompletes.runWith] at hclosing hpages
  rw [hrun'] at hclosing' hpages'
  exact ⟨hclosing'.trans (hclosing.symm.trans hresult), hpages'.trans hpages.symm⟩

/-! ### Runs without foreign elements -/

/-- What a run yields, a run with rules that are alike yields as well, whatever the number that its markers
count from. -/
theorem yields_of_alike (hL : Rule.compile L = .ok R) (hL' : Rule.compile L' = .ok R')
    (h : R.Alike R') (hdepth : depth < further)
    (hresult : (job.runWithin depth files nextId L data).result = .ok summary) :
    ∃ (found : RunSummary) (pages : List (FinishedPage Float)),
      (job.runWithin depth files nextId L data).Yields nextId found pages ∧
        ∀ n, (job.runWithin further files n L' data).Yields n found pages := by
  obtain ⟨_, _, _, _, hcompletes⟩ := runWithin_eq_ok hresult
  obtain ⟨p, hp, -, -⟩ := hcompletes.begins
  obtain ⟨result, pages, hall⟩ := exists_outcome depth L data hp
  have hyields (n : Nat) := hall files p n hp (.refl p) (.refl _ files)
  cases result with
  | error fault => cases (hyields nextId).1.symm.trans hresult
  | ok found =>
    refine ⟨found, pages, ⟨(hyields nextId).1, (hyields nextId).2⟩, fun n => ?_⟩
    obtain ⟨hsame, hpages⟩ := runWithin_of_alike hL hL' h hdepth (hyields n).1
    exact ⟨hsame, hpages.trans (hyields n).2⟩

/-- **Foreign elements have no effect** where none is looked at. Let `R` be the rules of a layout document in
which no foreign element has the name of a part of the layout rule that it is in, and none hides a text
that would be read. Let `R'` be rules that commands cannot tell from what is left of `R` without foreign
elements and everything below them. Then a run with `R` succeeds, at some depth, iff one with `R'` does, and
both yield the same pages, the same last page and the same markers, up to the numbers that the markers of
each count from. -/
theorem foreign_elements_skipped (job : Job) (files : FileTree) (L L' data : String) (R R' : Rule)
    (n n' : Nat) (hL : Rule.compile L = .ok R) (hL' : Rule.compile L' = .ok R')
    (hpurged : R.purged.Alike R') (hskips : R.skipsForeign = true) :
    ((∃ depth summary, (job.runWithin depth files n L data).result = .ok summary) ↔
      ∃ depth summary, (job.runWithin depth files n' L' data).result = .ok summary) ∧
    ∀ depth depth' summary summary',
      (job.runWithin depth files n L data).result = .ok summary →
      (job.runWithin depth' files n' L' data).result = .ok summary' →
      ∃ (found : RunSummary) (pages : List (FinishedPage Float)),
        (job.runWithin depth files n L data).Yields n found pages ∧
          (job.runWithin depth' files n' L' data).Yields n' found pages := by
  have h : R.Alike R' := (Rule.core_purged hskips).symm.trans hpurged
  refine ⟨⟨?_, ?_⟩, fun depth depth' summary summary' hresult hresult' => ?_⟩
  · rintro ⟨depth, summary, hresult⟩
    obtain ⟨found, pages, -, hyields⟩ := yields_of_alike hL hL' h (Nat.lt_succ_self depth) hresult
    exact ⟨_, _, (hyields n').result⟩
  · rintro ⟨depth, summary, hresult⟩
    obtain ⟨found, pages, -, hyields⟩ := yields_of_alike hL' hL h.symm (Nat.lt_succ_self depth) hresult
    exact ⟨_, _, (hyields n).result⟩
  · -- both are compared with a run of the second document that is deep enough for either
    obtain ⟨found, pages, hfound, hyields⟩ :=
      yields_of_alike hL hL' h (Nat.lt_succ_of_le (Nat.le_max_left depth depth')) hresult
    obtain ⟨hsame, hpages⟩ :=
      runWithin_of_alike hL' hL' rfl (Nat.lt_succ_of_le (Nat.le_max_right depth depth')) hresult'
    refine ⟨found, pages, hfound, ?_, ?_⟩
    · exact hresult'.trans (hsame.symm.trans (hyields n').result)
    · exact hpages.symm.trans (hyields n').pages

/-- The rules of a plain run; a text that is none has no rules. -/
def rulesOf (rules : String) : Rule :=
  (Rule.compile (Launch.plain true rules).layout).toOption.getD (.bare Rule.rootName [] [])

/-- Rules with notes between them. -/
def annotated : String :=
  "<x:note xmlns:x='urn:x'><Mark select=\"'b'\"/></x:note>" ++
    "<Record element='data'><Switch><note xmlns='urn:x'/><Case test='true()'>" ++
      "<Mark select=\"'a'\"/></Case></Switch></Record>"

/-- The same rules without notes. -/
def unannotated : String :=
  "<Record element='data'><Switch><Case test='true()'><Mark select=\"'a'\"/></Case></Switch></Record>"

/-- The marker that is set, counted from zero. -/
def markedOnce : RunSummary := ⟨[⟨"a", 1, 0, false, none⟩], 0⟩

/-- The notes have no effect on the one marker that is set. -/
theorem foreign_elements_skipped_annotated :
    let run := Launch.plain true annotated
    let run' := Launch.plain true unannotated
    Rule.compile run.layout = .ok (rulesOf annotated) ∧
    Rule.compile run'.layout = .ok (rulesOf unannotated) ∧
    (rulesOf annotated).purged.Alike (rulesOf unannotated) ∧
    (rulesOf annotated).skipsForeign = true ∧
    ∃ pages,
      (run.job.runWithin 4 ⟨[], []⟩ 7 run.layout run.data).Yields 7 markedOnce pages ∧
      (run.job.runWithin 5 ⟨[], []⟩ 9 run'.layout run.data).Yields 9 markedOnce pages := by
  intro run run'
  obtain ⟨hL, hL', hpurged, hskips, hsucceeds, hsucceeds'⟩ :
      Rule.compile run.layout = .ok (rulesOf annotated) ∧
        Rule.compile run'.layout = .ok (rulesOf unannotated) ∧
        (rulesOf annotated).purged.Alike (rulesOf unannotated) ∧
        (rulesOf annotated).skipsForeign = true ∧
        (run.job.runWithin 4 ⟨[], []⟩ 7 run.layout run.data).result.toOption =
          some (markedOnce.renumber 7) ∧
        (run.job.runWithin 5 ⟨[], []⟩ 9 run'.layout run.data).result.toOption =
          some (markedOnce.renumber 9) := by
    decide +kernel
  refine ⟨hL, hL', hpurged, hskips, ?_⟩
  have hresult := Action.eq_ok_of_toOption hsucceeds
  obtain ⟨found, pages, hyields, hyields'⟩ := (foreign_elements_skipped run.job ⟨[], []⟩ run.layout
    run'.layout run.data _ _ 7 9 hL hL' hpurged hskips).2 4 5 _ _ hresult
      (Action.eq_ok_of_toOption hsucceeds')
  obtain rfl : found = markedOnce :=
    RunSummary.renumber_injective 7 (Except.ok.inj (hyields.result.symm.trans hresult))
  exact ⟨pages, hyields, hyields'⟩

/-- Rules with a foreign element that has the name of a branch. -/
def foreignBranch : String :=
  "<Record element='data'><Switch><x:Case xmlns:x='urn:x' test='true()'>" ++
    "<PlaceObject><Box width='1' height='1'/></PlaceObject></x:Case></Switch></Record>"

/-- The same rules without the foreign element. -/
def noBranch : String := "<Record element='data'><Switch/></Record>"

/-- **A foreign element that is applied.** Foreign elements can make a difference: one with the name of a
branch is taken for a branch, and what is in it comes to a page. -/
theorem foreign_element_applied :
    ¬ ∀ (job : Job) (files : FileTree) (L L' data : String) (R R' : Rule) (n n' : Nat),
      Rule.compile L = .ok R → Rule.compile L' = .ok R' → R.purged.Alike R' →
        ∀ depth depth' summary summary',
          (job.runWithin depth files n L data).result = .ok summary →
          (job.runWithin depth' files n' L' data).result = .ok summary' →
          ∃ (found : RunSummary) (pages : List (FinishedPage Float)),
            (job.runWithin depth files n L data).Yields n found pages ∧
              (job.runWithin depth' files n' L' data).Yields n' found pages := by
  intro h
  obtain ⟨hL, hL', hpurged, hsucceeds, hsucceeds'⟩ :
      Rule.compile (Launch.plain true foreignBranch).layout = .ok (rulesOf foreignBranch) ∧
        Rule.compile (Launch.plain true noBranch).layout = .ok (rulesOf noBranch) ∧
        (rulesOf foreignBranch).purged.Alike (rulesOf noBranch) ∧
        ((Launch.plain true foreignBranch).outcome 6 ⟨[], []⟩).result.toOption = some ⟨[], 1⟩ ∧
        ((Launch.plain true noBranch).outcome 6 ⟨[], []⟩).result.toOption = some ⟨[], 0⟩ := by
    decide +kernel
  have hresult : ((Launch.plain true foreignBranch).outcome 6 ⟨[], []⟩).result = .ok ⟨[], 1⟩ :=
    Action.eq_ok_of_toOption hsucceeds
  have hresult' : ((Launch.plain true noBranch).outcome 6 ⟨[], []⟩).result = .ok ⟨[], 0⟩ :=
    Action.eq_ok_of_toOption hsucceeds'
  obtain ⟨found, pages, hyields, hyields'⟩ := h (Launch.plain true foreignBranch).job ⟨[], []⟩ _ _ "<data/>"
    (rulesOf foreignBranch) (rulesOf noBranch) 7 7 hL hL' hpurged 6 6 _ _ hresult hresult'
  -- the last pages differ
  have hlast : found.lastPage = 1 :=
    congrArg RunSummary.lastPage (Except.ok.inj (hyields.result.symm.trans hresult))
  have hlast' : found.lastPage = 0 :=
    congrArg RunSummary.lastPage (Except.ok.inj (hyields'.result.symm.trans hresult'))
  omega

end Job

end PageGrid
