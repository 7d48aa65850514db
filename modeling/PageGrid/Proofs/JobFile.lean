import PageGrid.JobFile
import PageGrid.Proofs.Decimal
import PageGrid.Proofs.Xml.Loose

/-!
# The side file is read as it was written

The file of a record is written and read with a codec for flat documents, of which nothing is known but
its laws. A field of an element is the value that was given for it, since the codec undoes its own
escaping; a marker is thus read from its element field by field, whatever its name is made of, and a
record from the elements of its markers in their order. What is written for a number is made of
characters that any document may contain.

Whole numbers are read as they were written. A length is read as some number in any case; that it is the
same one is assumed of those that occur in the record.

## Main definitions

* `JobRecord.NamesAreText`, `JobRecord.Fits`, `JobRecord.ShiftsReadBack` — what is asked of a record;
* `JobRecord.reread` — what is read from the file of a record.

## Main results

* `JobRecord.exists_write_reread` — a file is read as what it was written for, up to shifts;
* `JobRecord.exists_write_read` — the file of a record stands for that record and no other.
-/

namespace PageGrid

open Xml (Codec FlatDocument FlatTag IsText IsWord LooseNode)

/-- The marker as it is read from its element. -/
def Marker.reread (m : Marker) : Marker :=
  { m with shift := m.shift.bind fun x => Decimal.readFloat (Decimal.plain x).toList }

/-- The record as it is read from its file. -/
def JobRecord.reread (r : JobRecord) : JobRecord := { r with markers := r.markers.map Marker.reread }

namespace JobFile

variable {name : String} {tag : FlatTag} {m : Marker} {ms : List Marker} {r : JobRecord}

/-! ### Values -/

theorem isText_of_isDigit {cs : List Char} (h : ∀ c ∈ cs, c.isDigit = true) : IsText cs := by
  intro c hc
  have hcode := Text.toNat_of_isDigit (h c hc)
  have hlow : 0x20 ≤ c.toNat := by omega
  have hnone : c.toNat ≠ 0xFFFE ∧ c.toNat ≠ 0xFFFF := by omega
  simp [Xml.isChar, hlow, hnone]

theorem isText_digits (n : Nat) : IsText (Decimal.digits n) :=
  isText_of_isDigit fun _ => Decimal.isDigit_of_mem_digits

theorem isText_plain (x : Float) : IsText (Decimal.plain x).toList := by
  intro c hc
  obtain hdigit | hother := Decimal.mem_plain hc
  · exact isText_of_isDigit (List.forall_mem_singleton.mpr hdigit) c (List.mem_singleton_self c)
  · exact (by decide : IsText "-.NaNinf".toList) c hother

theorem isText_flag (b : Bool) : IsText (flag b) := by
  cases b <;> decide

theorem readFlag_flag (b : Bool) : readFlag (flag b) = some b := by
  cases b <;> decide

/-- A number that is read at all has some text. -/
theorem readShift_of_readFloat {cs : List Char} {x : Float} (h : Decimal.readFloat cs = some x) :
    readShift cs = some (some x) := by
  have hne : cs ≠ [] := by
    rintro rfl
    cases h
  simp [readShift, hne, h]

/-! ### Tags -/

theorem isWord_mark : IsWord "mark".toList := by decide

theorem isWord_auxiliary : IsWord "auxiliary".toList := by decide

theorem isWord_lastpage : IsWord "lastpage".toList := by decide

theorem proper_markTag (hname : IsText m.name.toList) : (markTag m).Proper IsText := by
  have hfields : ∀ a ∈ [("name", m.name.toList), ("page", Decimal.digits m.page),
      ("id", Decimal.digits m.id), ("pdftarget", flag m.isTarget)], IsText a.2 := by
    simp [hname, isText_digits, isText_flag]
  obtain ⟨name, page, id, isTarget, _ | x⟩ := m
  · exact ⟨isWord_mark, by simp [markTag]; decide, hfields, by simp [markTag]⟩
  · refine ⟨isWord_mark, by simp [markTag]; decide, ?_, by simp [markTag]⟩
    exact List.forall_mem_append.mpr ⟨hfields, List.forall_mem_singleton.mpr (isText_plain x)⟩

theorem proper_rootTag (r : JobRecord) : (rootTag r).Proper IsText where
  name := isWord_auxiliary
  names := List.forall_mem_singleton.mpr isWord_lastpage
  values := List.forall_mem_singleton.mpr (isText_digits _)
  nodup := List.nodup_singleton _

theorem proper_document (h : ∀ m ∈ r.markers, IsText m.name.toList) : (document r).Proper IsText where
  root := proper_rootTag r
  leaves := List.forall_mem_map.mpr fun m hm => proper_markTag (h m hm)

/-! ### Elements -/

section Lawful

variable {codec : Codec} (hcodec : codec.Lawful)

include hcodec

/-- The attributes of an element are those that it was written with. -/
theorem attributes_escape (h : tag.Proper IsText) :
    codec.attributes (tag.mapValues codec.escape).attributes.text =
      some (tag.mapValues codec.escape).attributes :=
  hcodec.attributes_text (h.mapValues fun _ => hcodec.isQuotable_escape)

/-- A field of what was written has the value that was given for it. -/
theorem field_escape {α : Type} (h : tag.Proper IsText) (absent : Option α)
    (read : List Char → Option α) :
    field codec (tag.mapValues codec.escape).attributes name absent read =
      match tag.attributes.find? fun (n, _) => n = name with
      | some (_, value) => read value
      | none => absent := by
  simp only [field, FlatTag.mapValues, List.find?_map, Function.comp_def]
  cases hfind : tag.attributes.find? fun (n, _) => n = name with
  | none => rfl
  | some a => simp [hcodec.unescape_escape (h.values a (List.mem_of_find?_eq_some hfind))]

/-- **A marker is read from its element**, up to the number that its shift is read as. -/
theorem readMark_escape (hname : IsText m.name.toList) (hpage : m.page ≤ pageLimit)
    (hid : m.id ≤ idLimit) :
    readMark codec ((markTag m).mapValues codec.escape).attributes.text = some m.reread := by
  have htag := proper_markTag hname
  rw [readMark, attributes_escape hcodec htag]
  simp only [Option.bind_eq_bind, Option.bind_some, field_escape hcodec htag]
  obtain ⟨name, page, id, isTarget, _ | x⟩ := m
  · simp [markTag, Decimal.readNat_digits hpage, Decimal.readNat_digits hid, readFlag_flag,
      Marker.reread]
  · obtain ⟨y, hy⟩ := Option.isSome_iff_exists.mp (Decimal.isSome_readFloat_plain x)
    simp [markTag, Decimal.readNat_digits hpage, Decimal.readNat_digits hid, readFlag_flag,
      readShift_of_readFloat hy, Marker.reread, hy]

end Lawful

/-- Nodes that are elements of markers are read one by one. -/
theorem readMarks_map {codec : Codec} {f : Marker → FlatTag}
    (h : ∀ m ∈ ms, readMark codec (f m).attributes.text = some m.reread) :
    readMarks codec (ms.map fun m => (f m).node []) = some (ms.map Marker.reread) := by
  induction ms with
  | nil => rfl
  | cons m ms ih =>
    rw [List.forall_mem_cons] at h
    have hrest := ih h.2
    simp only [List.map_cons, FlatTag.node, readMarks, h.1] at hrest ⊢
    simp [hrest]

/-- **A record is read from its document**, up to the numbers that shifts are read as. -/
theorem readRoot_document {codec : Codec} (hcodec : codec.Lawful) (hlast : r.lastPage ≤ pageLimit)
    (h : ∀ m ∈ r.markers,
      readMark codec ((markTag m).mapValues codec.escape).attributes.text = some m.reread) :
    readRoot codec ((document r).mapValues codec.escape).node = some r.reread := by
  let nodes := r.markers.map fun m => ((markTag m).mapValues codec.escape).node []
  have hnode : ((document r).mapValues codec.escape).node =
      ((rootTag r).mapValues codec.escape).node nodes := by
    simp [document, FlatDocument.mapValues, FlatDocument.node, nodes, Function.comp_def]
  have hall : ∀ n ∈ nodes, isMark n = true := List.forall_mem_map.mpr fun m _ => rfl
  have hfrom : nodes.dropWhile (!isMark ·) = nodes := by
    cases hnodes : nodes with
    | nil => rfl
    | cons n ns => simp [hall n (hnodes ▸ List.mem_cons_self ..)]
  have hto : nodes.dropWhile isMark = [] := List.dropWhile_eq_nil_iff.mpr hall
  have htake : nodes.takeWhile isMark = nodes := List.takeWhile_eq_self_iff.mpr hall
  have hmarks : readMarks codec nodes = some (r.markers.map Marker.reread) := readMarks_map h
  rw [hnode, FlatTag.node, readRoot, attributes_escape hcodec (proper_rootTag r)]
  simp only [Option.bind_eq_bind, Option.bind_some, field_escape hcodec (proper_rootTag r)]
  simp [rootTag, Decimal.readNat_digits hlast, hfrom, hto, htake, hmarks, JobRecord.reread]

end JobFile

namespace JobRecord

/-- The names of the markers are made of characters that documents may contain. -/
def NamesAreText (r : JobRecord) : Prop := ∀ m ∈ r.markers, IsText m.name.toList

/-- The numbers of the record are within their limits. -/
structure Fits (r : JobRecord) : Prop where
  lastPage : r.lastPage ≤ pageLimit
  page : ∀ m ∈ r.markers, m.page ≤ pageLimit
  id : ∀ m ∈ r.markers, m.id ≤ idLimit

/-- The lengths in the record are read as they are written. -/
def ShiftsReadBack (r : JobRecord) : Prop :=
  ∀ m ∈ r.markers, ∀ x ∈ m.shift, Decimal.readFloat (Decimal.plain x).toList = some x

theorem reread_of_shiftsReadBack {r : JobRecord} (h : r.ShiftsReadBack) : r.reread = r := by
  have hmarker : ∀ m ∈ r.markers, m.reread = m := by
    intro m hm
    have hshift := h m hm
    rw [Marker.reread]
    obtain ⟨name, page, id, isTarget, _ | x⟩ := m
    · rfl
    · simp only [Option.bind_some, hshift x rfl]
  rw [reread, List.map_congr_left hmarker, List.map_id']

section Lawful

variable {codec : Codec} (hcodec : codec.Lawful)

include hcodec

/-- A record can be written, and its file is read as that record, up to the numbers that shifts are
read as. -/
theorem exists_write_reread (r : JobRecord) (hnames : r.NamesAreText) (hfits : r.Fits) :
    ∃ text, r.write codec = some text ∧ read codec text = some r.reread := by
  have hproper := JobFile.proper_document hnames
  have hmarks : ∀ m ∈ r.markers, JobFile.readMark codec
      ((JobFile.markTag m).mapValues codec.escape).attributes.text = some m.reread :=
    fun m hm => JobFile.readMark_escape hcodec (hnames m hm) (hfits.page m hm) (hfits.id m hm)
  obtain ⟨text, hwrite, hmarkup⟩ := hcodec.write_markup hproper
  have hread : codec.read (text ++ ['\n']) =
      some ((JobFile.document r).mapValues codec.escape).node :=
    hcodec.read_markup (hproper.mapValues fun _ => hcodec.isQuotable_escape) hmarkup
  refine ⟨String.ofList (text ++ ['\n']), by rw [write, hwrite, Option.map_some], ?_⟩
  rw [read, String.toList_ofList, hread, Option.bind_some]
  exact JobFile.readRoot_document hcodec hfits.lastPage hmarks

/-- **The file of a record stands for that record**: it can be written, and it is read as the same number
of pages and the same markers in the same order, whatever their names are made of. -/
theorem exists_write_read (r : JobRecord) (hnames : r.NamesAreText) (hfits : r.Fits)
    (hshifts : r.ShiftsReadBack) :
    ∃ text, r.write codec = some text ∧ read codec text = some r := by
  have hreread := reread_of_shiftsReadBack hshifts
  simpa only [hreread] using exists_write_reread hcodec r hnames hfits

end Lawful

/-- Names made of what a writer has to be careful with, and a shift. -/
def awkward : JobRecord where
  lastPage := 4294967295
  markers :=
    [⟨" <a href=\"#1\"> & \t'b'/>\r\n", 1, 18446744073709551615, true, some (-12.25)⟩,
      ⟨"", 2, 0, false, none⟩, ⟨"&lt;é😀", 3, 7, true, some 0.1⟩]

/-- Quotes, brackets, ampersands and blanks in names, and an empty name. -/
theorem exists_write_read_awkward :
    Xml.Loose.codec.Lawful ∧ awkward.NamesAreText ∧ awkward.Fits ∧ awkward.ShiftsReadBack ∧
      ∃ text, awkward.write Xml.Loose.codec = some text ∧
        read Xml.Loose.codec text = some awkward := by
  have hcodec := Xml.Loose.codec_lawful
  have hnames : awkward.NamesAreText := by
    unfold NamesAreText
    decide +kernel
  have hfits : awkward.Fits := ⟨by decide +kernel, by decide +kernel, by decide +kernel⟩
  have hshifts : awkward.ShiftsReadBack := by
    unfold ShiftsReadBack
    decide +kernel
  exact ⟨hcodec, hnames, hfits, hshifts, exists_write_read hcodec awkward hnames hfits hshifts⟩

/-- A file in loose markup is read as the record that it was written for, up to the numbers that shifts
are read as. -/
theorem parse_render_reread (r : JobRecord) (hnames : r.NamesAreText) (hfits : r.Fits) :
    parse r.render = some r.reread := by
  obtain ⟨text, hwrite, hread⟩ := exists_write_reread Xml.Loose.codec_lawful r hnames hfits
  have htext : r.write Xml.Loose.codec = some r.render := rfl
  rw [htext, Option.some.injEq] at hwrite
  rwa [← hwrite] at hread

end JobRecord

end PageGrid
