import PageGrid.Files

/-!
# A file that has been written

A path is followed from directory to directory, and writing a file leaves every directory where it is.
So a path that leads to the place of the file before it is written still leads there afterwards, and
what is read there is what has been written.

## Main results

* `FileTree.isDirectory_write` — directories stay;
* `FileTree.readText_write` — what has been written is read.
-/

namespace PageGrid.FileTree

variable {t t' : FileTree} {path text component : String} {place p q : FilePlace}

/-- Writing puts a text at the place that the path leads to, where no directory is. -/
theorem write_eq_some (h : t.write path text = some t') :
    ∃ place, t.resolve path = .ok place ∧ t.isDirectory place = false ∧
      t' = { t with
        entries := (place, .file (.text text)) :: t.entries.filter fun (p, _) => p ≠ place } := by
  rw [write] at h
  split at h
  · cases h
  · next place hplace =>
    split at h
    · cases h
    · next hdirectory =>
      cases h
      exact ⟨place, hplace, Bool.eq_false_iff.mpr hdirectory, rfl⟩

/-- A directory is an entry of its own or a way to another entry. -/
theorem isDirectory_iff : t.isDirectory p = true ↔
    p = [] ∨ ∃ q e, (q, e) ∈ t.entries ∧ p <+: q ∧ (q.length ≠ p.length ∨ e = .directory) := by
  simp [isDirectory]

/-- **Directories stay** where they are when a file is written. -/
theorem isDirectory_write (h : t.write path text = some t') (hp : t.isDirectory p = true) :
    t'.isDirectory p = true := by
  obtain ⟨place, -, hplace, rfl⟩ := write_eq_some h
  rw [isDirectory_iff] at hp ⊢
  obtain rfl | ⟨q, e, hmem, hprefix, hway⟩ := hp
  · exact .inl rfl
  · refine .inr ?_
    by_cases hq : q = place
    · -- what the file replaces was no directory, so the directory is on the way to it
      subst hq
      have hne : q.length ≠ p.length := by
        intro hlength
        have hsame : p = q := hprefix.eq_of_length hlength.symm
        have hdirectory : t.isDirectory q = true :=
          isDirectory_iff.mpr (.inr ⟨q, e, hmem, List.prefix_refl q, by simpa [hsame] using hway⟩)
        exact absurd hdirectory (by rw [hplace]; exact Bool.false_ne_true)
      exact ⟨q, _, .head _, hprefix, .inl hne⟩
    · exact ⟨q, e, .tail _ (List.mem_filter.mpr ⟨hmem, by simpa using hq⟩), hprefix, hway⟩

theorem enter_eq_ok (h : t.enter p component = .ok q) : t.isDirectory p = true := by
  cases hp : t.isDirectory p with
  | true => rfl
  | false =>
    rw [enter, hp] at h
    split at h <;> cases h

/-- A step from a directory depends on nothing else in the tree. -/
theorem enter_of_isDirectory (ht : t.isDirectory p = true) (ht' : t'.isDirectory p = true) :
    t'.enter p component = t.enter p component := by
  simp [enter, exists?, ht, ht']

/-- In a tree with all the directories of another one, steps lead where they led. -/
theorem foldlM_enter_mono (h : ∀ p, t.isDirectory p = true → t'.isDirectory p = true)
    (components : List String) (hp : components.foldlM t.enter p = .ok q) :
    components.foldlM t'.enter p = .ok q := by
  induction components generalizing p with
  | nil => exact hp
  | cons component components ih =>
    rw [List.foldlM_cons] at hp ⊢
    cases hstep : t.enter p component with
    | error e =>
      rw [hstep] at hp
      cases hp
    | ok next =>
      have hdirectory := enter_eq_ok hstep
      rw [hstep] at hp
      rw [enter_of_isDirectory hdirectory (h p hdirectory), hstep]
      exact ih hp

/-- A path leads where it led in a tree with fewer directories. -/
theorem resolve_mono (hworking : t'.workingDirectory = t.workingDirectory)
    (h : ∀ p, t.isDirectory p = true → t'.isDirectory p = true) (hp : t.resolve path = .ok q) :
    t'.resolve path = .ok q := by
  rw [resolve] at hp ⊢
  split at hp
  · cases hp
  · next hempty =>
    rw [if_neg hempty, hworking]
    exact foldlM_enter_mono h _ hp

/-- A path leads where it led before the file was written. -/
theorem resolve_write (h : t.write path text = some t') {other : String}
    (hp : t.resolve other = .ok q) : t'.resolve other = .ok q := by
  have hworking : t'.workingDirectory = t.workingDirectory := by
    obtain ⟨place, -, -, rfl⟩ := write_eq_some h
    rfl
  exact resolve_mono hworking (fun _ => isDirectory_write h) hp

/-- **What has been written is read.** -/
theorem readText_write (h : t.write path text = some t') : t'.readText path = .ok text := by
  obtain ⟨place, hplace, -, ht'⟩ := write_eq_some h
  have hentry : t'.entry? place = some (.file (.text text)) := by
    rw [ht', entry?]
    simp
  rw [readText, content, resolve_write h hplace]
  simp [hentry, FileContent.toText?]

end PageGrid.FileTree
