import Mathlib.Data.List.Induction
import PageGrid.Config
import PageGrid.Proofs.Files
import PageGrid.Proofs.Variation

/-!
# File trees that differ in the side file

Two runs of a job may find different side files in trees that are otherwise the same. The one thing
besides the side file that a run reads from the tree while it lays out is an image, and its path could be
any, also one that leads to the side file. But the name of a side file ends in a way that no image has,
and the name of a file is the last component of every path that leads to its place, apart from steps that
stay in place or lead upward. So nothing that a run makes of the tree depends on the side file.

## Main definitions

* `FileTree.SameBut` — two trees differ at most in the file at a path;
* `FilePath.lastName?` — the component of a path that decides about its extension.

## Main results

* `FileTree.lastName_of_resolve` — which name a path can have that leads to a place;
* `Config.extension?_of_resolve` — no path to the side file has the extension of an image;
* `FileTree.SameBut.sameImages` — the trees give the same images;
* `FileTree.sameBut_write` — writing the side file changes nothing else.
-/

namespace PageGrid

/-! ### Names -/

namespace FilePath

/-- The last component that leads to another place. -/
def lastName? (path : String) : Option String :=
  ((components path).filter fun c => c ≠ "" ∧ c ≠ ".").getLast?

/-- The extension of a name in lower case. -/
def nameExtension? (name : String) : Option String :=
  match name.toList.reverse.dropWhile (· != '.') with
  | _ :: _ :: _ =>
    some (String.ofList ((name.toList.reverse.takeWhile (· != '.')).reverse.map Char.toLower))
  | _ => none

theorem extension?_eq (path : String) : extension? path = (lastName? path).bind nameExtension? := by
  rw [extension?, lastName?]
  cases ((components path).filter fun c => c ≠ "" ∧ c ≠ ".").getLast? <;> rfl

theorem components_ne_nil (path : String) : components path ≠ [] := by
  have hsplit : ∀ cs, components.split cs ≠ [] := by
    intro cs
    cases cs with
    | nil => exact List.cons_ne_nil _ _
    | cons c cs =>
      rw [components.split]
      split
      · exact List.cons_ne_nil _ _
      · split <;> exact List.cons_ne_nil _ _
  rw [components]
  simpa using hsplit path.toList

/-- Characters without a slash at the end of a path are the end of its last component. -/
theorem split_append {ending : List Char} (h : '/' ∉ ending) (cs : List Char) :
    ∃ before last, components.split (cs ++ ending) = before ++ [last ++ ending] := by
  induction cs with
  | nil =>
    refine ⟨[], [], ?_⟩
    induction ending with
    | nil => rfl
    | cons c ending ih =>
      rw [List.mem_cons, not_or] at h
      have hrest := ih h.2
      rw [List.nil_append, List.nil_append] at hrest ⊢
      simp [components.split, Ne.symm h.1, hrest]
  | cons c cs ih =>
    obtain ⟨before, last, hsplit⟩ := ih
    rw [List.cons_append, components.split, hsplit]
    split
    · exact ⟨[] :: before, last, rfl⟩
    · cases before with
      | nil => exact ⟨[], c :: last, rfl⟩
      | cons part parts => exact ⟨(c :: part) :: parts, last, rfl⟩

/-- The last name of a path ends as the path does. -/
theorem lastName?_append (start : String) {ending : String} (hslash : '/' ∉ ending.toList)
    (hlength : 2 ≤ ending.length) : ∃ name, lastName? (start ++ ending) = some (name ++ ending) := by
  obtain ⟨before, last, hsplit⟩ := split_append hslash start.toList
  refine ⟨String.ofList last, ?_⟩
  have hends : String.ofList (last ++ ending.toList) = String.ofList last ++ ending := by
    rw [String.ofList_append, String.ofList_toList]
  have hlong : 2 ≤ (String.ofList last ++ ending).length := by
    rw [String.length_append]
    omega
  rw [lastName?, components, String.toList_append, hsplit, List.map_append, List.filter_append,
    List.map_singleton, hends]
  generalize String.ofList last ++ ending = name at hlong
  have hkeep : [name].filter (fun c => c ≠ "" ∧ c ≠ ".") = [name] := by
    have hempty : name ≠ "" := by
      rintro rfl
      exact absurd hlong (by decide)
    have hdot : name ≠ "." := by
      rintro rfl
      exact absurd hlong (by decide)
    simp [hempty, hdot]
  rw [hkeep, List.getLast?_concat]

end FilePath

/-! ### Places -/

namespace FileTree

variable {t t' : FileTree} {path other text component : String} {place p q : FilePlace}

/-- What leads to a directory are directories. -/
theorem isDirectory_of_below (h : p <+: q) (hq : t.isDirectory q = true) : t.isDirectory p = true := by
  rw [isDirectory_iff] at hq ⊢
  obtain rfl | ⟨r, e, hmem, hprefix, hway⟩ := hq
  · exact .inl (List.prefix_nil.mp h)
  · by_cases hpq : p = q
    · subst hpq
      exact .inr ⟨r, e, hmem, hprefix, hway⟩
    · have hlength : p.length < q.length :=
        Nat.lt_of_le_of_ne h.length_le fun heq => hpq (h.eq_of_length heq)
      have hle : q.length ≤ r.length := hprefix.length_le
      exact .inr ⟨r, e, hmem, h.trans hprefix, .inl (by omega)⟩

/-- A step from a directory stays, leads upward, or leads to the name of the component. -/
theorem enter_cases (h : t.enter p component = .ok q) :
    (component = "" ∨ component = ".") ∧ q = p ∨ component = ".." ∧ q = p.dropLast ∨
      component ≠ "" ∧ component ≠ "." ∧ component ≠ ".." ∧ q = p ++ [component] := by
  have hp := enter_eq_ok h
  simp only [enter, exists?, hp, Bool.true_or, Bool.not_true, Bool.false_eq_true, if_false] at h
  split at h
  · next hstay => exact .inl ⟨hstay, (Except.ok.inj h).symm⟩
  · next hstay =>
    rw [not_or] at hstay
    split at h
    · next hup => exact .inr (.inl ⟨hup, (Except.ok.inj h).symm⟩)
    · next hup => exact .inr (.inr ⟨hstay.1, hstay.2, hup, (Except.ok.inj h).symm⟩)

/-- The steps to a place, the last of them on its own. -/
theorem foldlM_enter_concat {components : List String}
    (h : (components ++ [component]).foldlM t.enter p = .ok place) :
    ∃ q, components.foldlM t.enter p = .ok q ∧ t.enter q component = .ok place := by
  rw [List.foldlM_append] at h
  cases hq : components.foldlM t.enter p with
  | error e =>
    rw [hq] at h
    cases h
  | ok q =>
    rw [hq] at h
    refine ⟨q, rfl, ?_⟩
    change (t.enter q component >>= pure) = .ok place at h
    rwa [bind_pure] at h

/-- The name of a place that steps lead to, if the last of them that leads anywhere does not lead
upward. -/
theorem lastName_of_foldlM {components : List String} {name : String}
    (h : components.foldlM t.enter p = .ok place)
    (hname : (components.filter fun c => c ≠ "" ∧ c ≠ ".").getLast? = some name) :
    name = ".." ∨ ∃ q, place = q ++ [name] := by
  induction components using List.reverseRecOn generalizing place with
  | nil => cases hname
  | append_singleton components component ih =>
    obtain ⟨q, hcomponents, hstep⟩ := foldlM_enter_concat h
    rw [List.filter_append] at hname
    obtain ⟨hstay, rfl⟩ | ⟨rfl, -⟩ | ⟨hempty, hdot, -, rfl⟩ := enter_cases hstep
    · refine ih hcomponents ?_
      have hnone : [component].filter (fun c => c ≠ "" ∧ c ≠ ".") = [] := by
        obtain rfl | rfl := hstay <;> rfl
      rwa [hnone, List.append_nil] at hname
    · rw [show [".."].filter (fun c => c ≠ "" ∧ c ≠ ".") = [".."] from rfl,
        List.getLast?_concat] at hname
      exact .inl (Option.some.inj hname).symm
    · have hall : [component].filter (fun c => c ≠ "" ∧ c ≠ ".") = [component] := by
        simp [hempty, hdot]
      rw [hall, List.getLast?_concat] at hname
      exact .inr ⟨q, by rw [Option.some.inj hname]⟩

/-- **The name of a place** is the last name of a path that leads to it, if the last name does not lead
upward. -/
theorem lastName_of_resolve {name : String} (h : t.resolve path = .ok place)
    (hname : FilePath.lastName? path = some name) : name = ".." ∨ ∃ q, place = q ++ [name] := by
  rw [resolve] at h
  split at h
  · cases h
  · exact lastName_of_foldlM h hname

/-- What is no directory is below one. -/
theorem parent_of_resolve (h : t.resolve path = .ok place) (hplace : t.isDirectory place = false) :
    ∃ q name, place = q ++ [name] ∧ t.isDirectory q = true := by
  rw [resolve] at h
  split at h
  · cases h
  · obtain hnil | ⟨components, component, hcomponents⟩ :=
      List.eq_nil_or_concat (FilePath.components path)
    · exact absurd hnil (FilePath.components_ne_nil path)
    · rw [hcomponents, List.concat_eq_append] at h
      obtain ⟨q, -, hstep⟩ := foldlM_enter_concat h
      have hq := enter_eq_ok hstep
      obtain ⟨-, rfl⟩ | ⟨-, rfl⟩ | ⟨-, -, -, rfl⟩ := enter_cases hstep
      · rw [hq] at hplace
        cases hplace
      · rw [isDirectory_of_below q.dropLast_prefix hq] at hplace
        cases hplace
      · exact ⟨q, component, rfl, hq⟩

/-! ### Trees that are the same but for one file -/

/-- The trees differ at most in the file that the path leads to. They have the same directories. -/
structure SameBut (path : String) (t t' : FileTree) : Prop where
  workingDirectory : t'.workingDirectory = t.workingDirectory
  isDirectory : ∀ p, t'.isDirectory p = t.isDirectory p
  entry? : ∀ p, t.resolve path ≠ .ok p → t'.entry? p = t.entry? p

namespace SameBut

/-- A path leads to the same place in both trees. -/
theorem resolve_eq_ok_iff (h : SameBut path t t') :
    t'.resolve other = .ok p ↔ t.resolve other = .ok p := by
  constructor
  · exact resolve_mono h.workingDirectory.symm fun q hq => (h.isDirectory q).symm.trans hq
  · exact resolve_mono h.workingDirectory fun q hq => (h.isDirectory q).trans hq

/-- A path leads to a place in both trees, or nowhere in either. -/
theorem resolve_cases (h : SameBut path t t') (other : String) :
    (∃ e e', t.resolve other = .error e ∧ t'.resolve other = .error e') ∨
      ∃ p, t.resolve other = .ok p ∧ t'.resolve other = .ok p := by
  cases hp : t.resolve other with
  | ok p => exact .inr ⟨p, rfl, h.resolve_eq_ok_iff.mpr hp⟩
  | error e =>
    cases hp' : t'.resolve other with
    | ok p => cases hp.symm.trans (h.resolve_eq_ok_iff.mp hp')
    | error e' => exact .inl ⟨e, e', rfl, rfl⟩

theorem refl (path : String) (t : FileTree) : SameBut path t t := ⟨rfl, fun _ => rfl, fun _ _ => rfl⟩

theorem trans {t'' : FileTree} (h : SameBut path t t') (h' : SameBut path t' t'') :
    SameBut path t t'' where
  workingDirectory := h'.workingDirectory.trans h.workingDirectory
  isDirectory p := (h'.isDirectory p).trans (h.isDirectory p)
  entry? p hp :=
    (h'.entry? p fun hp' => hp (h.resolve_eq_ok_iff.mp hp')).trans (h.entry? p hp)

end SameBut

/-- There is no new directory after a file has been written: a way to the file leads through the directory
that it is in. -/
theorem isDirectory_of_write (h : t.write path text = some t') (hp : t'.isDirectory p = true) :
    t.isDirectory p = true := by
  obtain ⟨place, hresolve, hplace, ht'⟩ := write_eq_some h
  rw [isDirectory_iff] at hp
  obtain rfl | ⟨q, e, hmem, hprefix, hway⟩ := hp
  · exact isDirectory_iff.mpr (.inl rfl)
  · rw [ht', List.mem_cons] at hmem
    obtain heq | hmem := hmem
    · obtain ⟨rfl, rfl⟩ := Prod.mk.inj heq
      obtain ⟨parent, name, rfl, hparent⟩ := parent_of_resolve hresolve hplace
      have hne : (parent ++ [name]).length ≠ p.length := by simpa using hway
      refine isDirectory_of_below ?_ hparent
      obtain rfl | hbelow := List.prefix_concat_iff.mp hprefix
      · exact absurd rfl hne
      · exact hbelow
    · exact isDirectory_iff.mpr (.inr ⟨q, e, (List.mem_filter.mp hmem).1, hprefix, hway⟩)

/-- At other places there is what there was. -/
theorem entry?_write (h : t.write path text = some t') (hne : t.resolve path ≠ .ok p) :
    t'.entry? p = t.entry? p := by
  obtain ⟨place, hresolve, -, ht'⟩ := write_eq_some h
  have hp : p ≠ place := fun heq => hne (heq ▸ hresolve)
  rw [ht', entry?, entry?, List.find?_cons_of_neg (by simpa using Ne.symm hp), List.find?_filter]
  refine congrArg (fun test => (t.entries.find? test).map (·.2)) (funext fun x => ?_)
  by_cases hx : x.1 = p
  · simp [hx, hp]
  · simp [hx]

/-- **Writing a file changes nothing else.** -/
theorem sameBut_write (h : t.write path text = some t') : SameBut path t t' where
  workingDirectory := by
    obtain ⟨place, -, -, ht'⟩ := write_eq_some h
    rw [ht']
  isDirectory _ := Bool.eq_iff_iff.mpr ⟨isDirectory_of_write h, isDirectory_write h⟩
  entry? _ := entry?_write h

namespace SameBut

theorem isSome_write (h : SameBut path t t') (text text' : String) :
    (t'.write path text').isSome = (t.write path text).isSome := by
  rw [write, write]
  obtain ⟨e, e', he, he'⟩ | ⟨place, hp, hp'⟩ := h.resolve_cases path
  · rw [he, he']
  · rw [hp, hp']
    dsimp only
    rw [h.isDirectory place]
    split <;> rfl

/-- The content of a file elsewhere. -/
theorem content_eq (h : SameBut path t t') (hp : t.resolve other = .ok p)
    (hne : t.resolve path ≠ .ok p) : t'.content other = t.content other := by
  rw [content, content, h.resolve_eq_ok_iff.mpr hp, hp]
  dsimp only
  rw [h.entry? p hne, h.isDirectory p]

end SameBut

theorem isFile_of_resolve (hp : t.resolve path = .ok p) (ho : t.resolve other = .ok p) :
    t.isFile other = t.isFile path := by
  rw [isFile, isFile, content, content, hp, ho]

theorem isFile_of_resolve_eq_error {e : ReadFault} (hp : t.resolve path = .error e) :
    t.isFile path = false := by
  rw [isFile, content, hp]
  rfl

namespace SameBut

/-- There is a file at a path in both trees or in neither, if that is so for the one file. -/
theorem isFile_eq (h : SameBut path t t') (hfile : t'.isFile path = t.isFile path) (other : String) :
    t'.isFile other = t.isFile other := by
  obtain ⟨e, e', he, he'⟩ | ⟨p, ho, ho'⟩ := h.resolve_cases other
  · rw [isFile_of_resolve_eq_error he, isFile_of_resolve_eq_error he']
  · by_cases hp : t.resolve path = .ok p
    · rw [isFile_of_resolve hp ho, ← hfile]
      exact isFile_of_resolve (h.resolve_eq_ok_iff.mpr hp) ho'
    · rw [isFile, isFile, h.content_eq ho hp]

theorem find?_eq (h : SameBut path t t') (hfile : t'.isFile path = t.isFile path)
    (directories : List String) (name : String) :
    t'.find? directories name = t.find? directories name := by
  rw [find?, find?, h.isFile_eq hfile name]
  split
  · rfl
  · split
    · rfl
    · refine congrArg directories.findSome? (funext fun directory => ?_)
      dsimp only
      rw [h.isFile_eq hfile (FilePath.join directory name)]
      obtain ⟨e, e', he, he'⟩ | ⟨p, ho, ho'⟩ := h.resolve_cases (FilePath.join directory name)
      · rw [he, he']
      · rw [ho, ho']

end SameBut

end FileTree

/-! ### Images -/

theorem ImageFile.size?_eq_none {t : FileTree} {path : String} {resolution : Float}
    (h : ∀ bytes, pixels? path bytes = none) : size? t path resolution = none := by
  rw [size?]
  split
  · rfl
  · rw [h, Option.map_none]

namespace Config

variable {t t' : FileTree} {other : String} {place : FilePlace}

/-- The side file has a name that ends like no image. -/
theorem lastName?_auxFile (c : Config) :
    ∃ name, FilePath.lastName? c.auxFile = some (name ++ "-aux.xml") := by
  have hslash : '/' ∉ "-aux.xml".toList := by decide
  rw [auxFile, FilePath.join]
  split
  · exact FilePath.lastName?_append _ hslash (by decide)
  · split
    · rw [← String.append_assoc]
      exact FilePath.lastName?_append _ hslash (by decide)
    · rw [← String.append_assoc]
      exact FilePath.lastName?_append _ hslash (by decide)

theorem nameExtension?_aux (name : String) :
    FilePath.nameExtension? (name ++ "-aux.xml") = some "xml" := by
  have hreverse : (name ++ "-aux.xml").toList.reverse =
      'l' :: 'm' :: 'x' :: '.' :: 'x' :: ("-au".toList.reverse ++ name.toList.reverse) := by
    rw [String.toList_append, List.reverse_append]
    rfl
  rw [FilePath.nameExtension?, hreverse]
  rfl

/-- **No path to the side file has the extension of an image.** -/
theorem extension?_of_resolve {c : Config} (hside : t.resolve c.auxFile = .ok place)
    (h : t.resolve other = .ok place) :
    FilePath.extension? other = none ∨ FilePath.extension? other = some "" ∨
      FilePath.extension? other = some "xml" := by
  obtain ⟨name, hname⟩ := c.lastName?_auxFile
  rw [FilePath.extension?_eq]
  cases hother : FilePath.lastName? other with
  | none => exact .inl rfl
  | some last =>
    obtain rfl | ⟨q, hq⟩ := FileTree.lastName_of_resolve h hother
    · exact .inr (.inl (by decide))
    · obtain hup | ⟨q', hq'⟩ := FileTree.lastName_of_resolve hside hname
      · have hlength := congrArg String.length hup
        rw [String.length_append] at hlength
        rw [show "-aux.xml".length = 8 from rfl, show "..".length = 2 from rfl] at hlength
        omega
      · have hsame : last = name ++ "-aux.xml" := by
          have := hq.symm.trans hq'
          simpa using (List.append_inj' this rfl).2
        rw [Option.bind_some, hsame, nameExtension?_aux]
        exact .inr (.inr rfl)

end Config

/-- **Trees that differ in the side file give the same images**, if there is one in both or in neither. -/
theorem FileTree.SameBut.sameImages {c : Config} {t t' : FileTree} (h : SameBut c.auxFile t t')
    (hfile : t'.isFile c.auxFile = t.isFile c.auxFile) : t.SameImages t' := by
  refine ⟨h.find?_eq hfile, fun path resolution => ?_⟩
  obtain ⟨e, e', he, he'⟩ | ⟨place, hp, -⟩ := h.resolve_cases path
  · rw [ImageFile.size?, ImageFile.size?, content, content, he, he']
  · by_cases hside : t.resolve c.auxFile = .ok place
    · have hnone : ∀ bytes, ImageFile.pixels? path bytes = none := by
        intro bytes
        rw [ImageFile.pixels?]
        obtain hext | hext | hext := Config.extension?_of_resolve hside hp
        · rw [hext]
        · rw [hext]
          rfl
        · rw [hext]
          rfl
      rw [ImageFile.size?_eq_none hnone, ImageFile.size?_eq_none hnone]
    · rw [ImageFile.size?, ImageFile.size?, h.content_eq hp hside]

end PageGrid
