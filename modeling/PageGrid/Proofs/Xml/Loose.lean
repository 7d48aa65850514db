import Mathlib.Data.List.Nodup
import Mathlib.Data.List.ReduceOption
import PageGrid.Proofs.Text.Scan
import PageGrid.Proofs.Xml.Codec
import PageGrid.Xml.Loose

/-!
# The loose codec is lawful

The reader splits a tag from the text behind it before it looks at the attributes, and it ends a tag at
the first closing bracket outside quotes. What a writer puts into a tag therefore has to be `Inert`: it
may open and close quotes, but leaves none open and shows no bracket outside of them. Inert texts are
closed under concatenation, so a tag is inert because each of its attributes is.

Between tags the reader drops what is blank. Elements on lines of their own are thus read as if they
stood side by side.

## Main definitions

* `Inert` — a text that does not end a tag;
* `piece` — one step of the reader through the content of an element.

## Main results

* `element_empty`, `element_content` — the two forms of an element are read as they are written;
* `attributes_text`, `content_leaves` — attributes, and elements between blanks;
* `codec_lawful` — the laws of a codec.
-/

namespace PageGrid.Xml.Loose

open Text (Scan Ahead)

variable {c d : Char} {name cs rest s t u : List Char}

/-! ### Words -/

theorem ne_of_isAlpha (hd : d.isAlpha = false) (hc : c.isAlpha = true) : c ≠ d := by
  rintro rfl
  exact absurd hc (by rw [hd]; exact Bool.false_ne_true)

theorem isAsciiBlank_of_isAlpha (hc : c.isAlpha = true) : Text.isAsciiBlank c = false := by
  simp [Text.isAsciiBlank, ne_of_isAlpha (d := ' ') (by decide) hc,
    ne_of_isAlpha (d := '\t') (by decide) hc, ne_of_isAlpha (d := '\n') (by decide) hc,
    ne_of_isAlpha (d := '\r') (by decide) hc]

end PageGrid.Xml.Loose

namespace PageGrid.Xml.IsWord

open Text (Ahead)

variable {name s : List Char}

/-- A property that all letters have is one of the character a word begins with. -/
theorem ahead {P : Char → Prop} (h : IsWord name) (hP : ∀ c : Char, c.isAlpha = true → P c) :
    Ahead P (name ++ s) := by
  obtain ⟨hne, hall⟩ := h
  cases name with
  | nil => exact absurd rfl hne
  | cons c name => exact Ahead.cons_iff.mpr (hP c (hall c (List.mem_cons_self ..)))

/-- A word has no prefix. -/
theorem localName (h : IsWord name) : Loose.localName name = String.ofList name := by
  have hcolon : name.dropWhile (· != ':') = [] := by
    rw [List.dropWhile_eq_nil_iff]
    intro c hc
    simpa using Loose.ne_of_isAlpha (by decide) (h.2 c hc)
  simp only [Loose.localName, hcolon]

end PageGrid.Xml.IsWord

namespace PageGrid.Xml.Loose

open Text (Scan Ahead)

variable {c d : Char} {name cs rest s t u : List Char}

/-! ### Characters of a text -/

theorem textChar_plain (hc : c ≠ '&') : textChar (c :: s) = some (c, s) := by
  have hnone : Scan.char '&' (c :: s) = none := Scan.char_eq_none (Ahead.cons_iff.mpr hc)
  simp [textChar, hnone, Scan.satisfy, hc]

theorem textChar_reference (name : List Char) (hname : ∀ d ∈ name, d ≠ ';')
    (h : entity? name = some c) :
    textChar ('&' :: (name ++ ';' :: s)) = some (c, s) := by
  have hrun : Scan.takeWhile (· != ';') (name ++ ';' :: s) = some (name, ';' :: s) :=
    Scan.takeWhile_append (by simpa using hname) (by simp)
  simp [textChar, hrun, h]

/-- A text without ampersands stands for itself. -/
theorem unescape_plain (hcs : ∀ c ∈ cs, c ≠ '&') : unescape cs = some cs := by
  have hruns : Scan.Runs textChar cs cs [] := by
    induction cs with
    | nil => exact .stop rfl
    | cons c cs ih =>
      rw [List.forall_mem_cons] at hcs
      exact .next (textChar_plain hcs.1) (by simp) (ih hcs.2)
  simp only [unescape, Scan.all, hruns.many]

/-! ### Inside a tag -/

/-- A text inside a tag that does not end it: what follows is read as if it were not there. -/
def Inert (cs : List Char) : Prop :=
  ∀ rest, tagText none (cs ++ rest) = (tagText none rest).map fun (t, r) => (cs ++ t, r)

namespace Inert

theorem nil : Inert [] := fun rest => by
  simp

theorem append (hs : Inert s) (ht : Inert t) : Inert (s ++ t) := fun rest => by
  rw [List.append_assoc, hs, ht, Option.map_map]
  simp only [Function.comp_def, List.append_assoc]

theorem singleton (hc : c ≠ '>') (hdouble : c ≠ '"') (hsingle : c ≠ '\'') : Inert [c] :=
  fun rest => by
  simp [tagText, hc, hdouble, hsingle]

theorem of_forall (h : ∀ c ∈ cs, c ≠ '>' ∧ c ≠ '"' ∧ c ≠ '\'') : Inert cs := by
  induction cs with
  | nil => exact nil
  | cons c cs ih =>
    rw [List.forall_mem_cons] at h
    obtain ⟨⟨hc, hdouble, hsingle⟩, h⟩ := h
    exact append (singleton hc hdouble hsingle) (ih h)

theorem of_isWord (h : IsWord name) : Inert name :=
  of_forall fun c hc => ⟨ne_of_isAlpha (by decide) (h.2 c hc), ne_of_isAlpha (by decide) (h.2 c hc),
    ne_of_isAlpha (by decide) (h.2 c hc)⟩

theorem flatMap {α : Type} {f : α → List Char} {as : List α} (h : ∀ a ∈ as, Inert (f a)) :
    Inert (as.flatMap f) := by
  induction as with
  | nil => exact nil
  | cons a as ih =>
    rw [List.forall_mem_cons] at h
    exact append h.1 (ih h.2)

/-- The closing quote ends what the opening one began. -/
theorem tagText_quoted (h : ∀ c ∈ cs, c ≠ '"') (rest : List Char) :
    tagText (some '"') (cs ++ '"' :: rest) =
      (tagText none rest).map fun (t, r) => (cs ++ '"' :: t, r) := by
  induction cs with
  | nil => simp [tagText]
  | cons c cs ih =>
    rw [List.forall_mem_cons] at h
    simp [tagText, h.1, ih h.2, Function.comp_def]

/-- Between double quotes anything but a double quote may stand. -/
theorem quoted (h : ∀ c ∈ cs, c ≠ '"') : Inert ('"' :: (cs ++ ['"'])) := fun rest => by
  simp [tagText, tagText_quoted h, Function.comp_def]

/-- An inert text in front of the closing bracket is all of the tag. -/
theorem tagText (h : Inert cs) (rest : List Char) :
    tagText none (cs ++ '>' :: rest) = some (cs, rest) := by
  rw [h]
  simp [Loose.tagText]

end Inert

/-! ### Elements -/

section Element

variable {content : Scan (List LooseNode)} {attributes : List Char} {children : List LooseNode}

/-- The name ends where the attributes begin. -/
theorem takeWhile_name (hname : IsWord name)
    (hattributes : Ahead (Text.isAsciiBlank · = true) attributes) :
    (name ++ attributes).takeWhile (!Text.isAsciiBlank ·) = name := by
  rw [Text.takeWhile_append_of_ahead (hattributes.mono fun c hc => by simp [hc]),
    List.takeWhile_eq_self_iff]
  intro c hc
  rw [isAsciiBlank_of_isAlpha (hname.2 c hc)]
  rfl

/-- Where a name follows the opening bracket, an element begins. -/
theorem notNext_name (hname : IsWord name) :
    Scan.notNext (fun c => c == '/' || c == '!' || c == '?') (name ++ s) = some ((), name ++ s) := by
  obtain ⟨hne, hall⟩ := hname
  cases name with
  | nil => exact absurd rfl hne
  | cons c name =>
    have hc := hall c (List.mem_cons_self ..)
    simp [Scan.notNext, ne_of_isAlpha (d := '/') (by decide) hc,
      ne_of_isAlpha (d := '!') (by decide) hc, ne_of_isAlpha (d := '?') (by decide) hc]

/-- **An element without content** is read with its attributes as they are written. -/
theorem element_empty (hname : IsWord name) (hblank : Ahead (Text.isAsciiBlank · = true) attributes)
    (hattributes : Inert attributes) :
    element content ('<' :: (name ++ (attributes ++ '/' :: '>' :: rest))) =
      some (.element (String.ofList name) attributes [], rest) := by
  have hinside : Inert (name ++ attributes ++ ['/']) :=
    (Inert.of_isWord hname |>.append hattributes).append
      (Inert.singleton (by decide) (by decide) (by decide))
  have htag : tagText none (name ++ (attributes ++ '/' :: '>' :: rest)) =
      some (name ++ attributes ++ ['/'], rest) := by
    simpa using hinside.tagText rest
  simp [element, notNext_name hname, htag, takeWhile_name hname hblank, hname.localName]

/-- **An element with content** is read with its attributes as they are written. -/
theorem element_content (hname : IsWord name) (hblank : Ahead (Text.isAsciiBlank · = true) attributes)
    (hattributes : Inert attributes) (hlast : (name ++ attributes).getLast? ≠ some '/')
    (hcontent : content rest = some (children, t)) (hend : endTag name t = some ((), u)) :
    element content ('<' :: (name ++ (attributes ++ '>' :: rest))) =
      some (.element (String.ofList name) attributes children, u) := by
  have htag : tagText none (name ++ (attributes ++ '>' :: rest)) = some (name ++ attributes, rest) := by
    simpa using ((Inert.of_isWord hname).append hattributes).tagText rest
  have hclosed : ((name ++ attributes).getLast? == some '/') = false := by simpa using hlast
  simp only [element, Scan.bind_apply, Scan.char_cons, Option.bind_some, notNext_name hname, htag,
    hclosed, Bool.false_eq_true, if_false, takeWhile_name hname hblank, hname.localName,
    List.drop_left, Scan.seqLeft_apply, Scan.pure_apply, hcontent, hend, Option.map_some]

theorem endTag_name (hname : IsWord name) :
    endTag name ('<' :: '/' :: (name ++ '>' :: rest)) = some ((), rest) := by
  have hbracket : Ahead ((· != '>') · = false) ('>' :: rest) := by simp
  have hinside : (name ++ '>' :: rest).takeWhile (· != '>') = name := by
    rw [Text.takeWhile_append_of_ahead hbracket, List.takeWhile_eq_self_iff]
    exact fun c hc => by simpa using ne_of_isAlpha (by decide) (hname.2 c hc)
  have hrest : (name ++ '>' :: rest).dropWhile (· != '>') = '>' :: rest := by
    rw [Text.dropWhile_append_of_ahead hbracket, List.dropWhile_eq_nil_iff.mpr, List.nil_append]
    exact fun c hc => by simpa using ne_of_isAlpha (by decide) (hname.2 c hc)
  have htrim : (name.reverse.dropWhile Text.isAsciiBlank).reverse = name := by
    rw [Text.dropWhile_of_ahead, List.reverse_reverse]
    intro c hc
    exact isAsciiBlank_of_isAlpha (hname.2 c (List.mem_reverse.mp (List.mem_of_mem_head? hc)))
  simp [endTag, hinside, hrest, htrim]

/-! ### Content -/

/-- One step through the content of an element: a node, or something that is no node. -/
def piece (content : Scan (List LooseNode)) : Scan (Option LooseNode) :=
  (passive *> pure none) <|> characters <|> verbatim <|> (some <$> element content)

theorem content_succ (fuel : Nat) :
    Loose.content (fuel + 1) = (do
      let nodes ← Scan.many (piece (Loose.content fuel))
      return nodes.reduceOption) := rfl

/-- Neither a comment nor an instruction begins where the next character is none of theirs. -/
theorem passive_eq_none (h : Ahead (fun c => c ≠ '!' ∧ c ≠ '?') s) : passive ('<' :: s) = none := by
  cases s with
  | nil => rfl
  | cons c s =>
    rw [Ahead.cons_iff] at h
    simp [passive, h.1, h.2]

theorem verbatim_eq_none (h : Ahead (· ≠ '!') s) : verbatim ('<' :: s) = none := by
  cases s with
  | nil => rfl
  | cons c s =>
    rw [Ahead.cons_iff] at h
    simp [verbatim, Ne.symm h]

theorem characters_eq_none : characters ('<' :: s) = none := by
  simp [characters, Scan.takeWhile1]

/-- Blanks between tags are no node. -/
theorem piece_blanks (hne : cs ≠ []) (hcs : ∀ c ∈ cs, Text.isAsciiBlank c = true) :
    piece content (cs ++ '<' :: s) = some (none, '<' :: s) := by
  have hplain : ∀ d : Char, Text.isAsciiBlank d = false → ∀ c ∈ cs, c ≠ d := by
    rintro d hd c hc rfl
    exact absurd (hcs c hc) (by rw [hd]; exact Bool.false_ne_true)
  have hrun : Scan.takeWhile1 (· != '<') (cs ++ '<' :: s) = some (cs, '<' :: s) :=
    Scan.takeWhile1_append hne (by simpa using hplain '<' (by decide)) (by simp)
  have hpassive : passive (cs ++ '<' :: s) = none := by
    cases cs with
    | nil => exact absurd rfl hne
    | cons c cs => simp [passive, hplain '<' (by decide) c (List.mem_cons_self ..)]
  simp [piece, hpassive, characters, hrun, unescape_plain (hplain '&' (by decide))]
  exact hcs

/-- Where a name follows the opening bracket, the next node is an element. -/
theorem piece_element (hname : IsWord name) :
    piece content ('<' :: (name ++ s)) = (some <$> element content) ('<' :: (name ++ s)) := by
  have hpassive : passive ('<' :: (name ++ s)) = none :=
    passive_eq_none (hname.ahead fun c hc =>
      ⟨ne_of_isAlpha (by decide) hc, ne_of_isAlpha (by decide) hc⟩)
  have hverbatim : verbatim ('<' :: (name ++ s)) = none :=
    verbatim_eq_none (hname.ahead fun c hc => ne_of_isAlpha (by decide) hc)
  simp [piece, hpassive, hverbatim, characters_eq_none]

/-- The content of an element ends at an end tag. -/
theorem piece_endTag : piece content ('<' :: '/' :: s) = none := by
  have hpassive : passive ('<' :: '/' :: s) = none := passive_eq_none (by simp)
  have hverbatim : verbatim ('<' :: '/' :: s) = none := verbatim_eq_none (by simp)
  simp [piece, hpassive, hverbatim, characters_eq_none, element, Scan.notNext]

/-! ### Escaped values -/

theorem textChar_escapeChar (c : Char) (s : List Char) : textChar (escapeChar c ++ s) = some (c, s) := by
  unfold escapeChar
  split
  · next h => exact h ▸ textChar_reference "lt".toList (Text.forall_mem_of_all rfl) rfl
  · split
    · next h => exact h ▸ textChar_reference "gt".toList (Text.forall_mem_of_all rfl) rfl
    · split
      · next h => exact h ▸ textChar_reference "amp".toList (Text.forall_mem_of_all rfl) rfl
      · next hamp =>
        split
        · next h => exact h ▸ textChar_reference "quot".toList (Text.forall_mem_of_all rfl) rfl
        · exact textChar_plain hamp

theorem escapeChar_ne_nil (c : Char) : escapeChar c ≠ [] := by
  unfold escapeChar
  split_ifs <;> simp

/-- **Resolving references undoes escaping**, whatever the text. -/
theorem unescape_escape (cs : List Char) : unescape (escape cs) = some cs := by
  have hruns : Scan.Runs textChar (escape cs) cs [] := by
    induction cs with
    | nil => exact .stop rfl
    | cons c cs ih =>
      have hlength : (escape cs).length < (escapeChar c ++ escape cs).length := by
        have := List.length_pos_iff.mpr (escapeChar_ne_nil c)
        rw [List.length_append]
        omega
      exact .next (textChar_escapeChar c _) hlength ih
  simp only [unescape, Scan.all, hruns.many]

theorem isQuotable_escapeChar (c : Char) : IsQuotable (escapeChar c) := by
  unfold escapeChar
  split_ifs with hlt hgt hamp hquote
  · exact Text.forall_mem_of_all (by decide)
  · exact Text.forall_mem_of_all (by decide)
  · exact Text.forall_mem_of_all (by decide)
  · exact Text.forall_mem_of_all (by decide)
  · exact List.forall_mem_singleton.mpr ⟨hquote, hlt⟩

theorem isQuotable_escape (cs : List Char) : IsQuotable (escape cs) := by
  intro c hc
  obtain ⟨d, -, hc⟩ := List.mem_flatMap.mp hc
  exact isQuotable_escapeChar d c hc

end Element

/-! ### Attributes -/

section Attributes

variable {n : String} {value : List Char} {as : LooseAttributes}

theorem text_cons (n : String) (value : List Char) (as : LooseAttributes) :
    LooseAttributes.text ((n, value) :: as) =
      ' ' :: (n.toList ++ '=' :: '"' :: (value ++ '"' :: as.text)) := by
  simp [LooseAttributes.text]

theorem ahead_text (as : LooseAttributes) : Ahead (Text.isAsciiBlank · = true) as.text := by
  cases as with
  | nil => exact Ahead.nil
  | cons a as => exact Ahead.cons_iff.mpr rfl

/-- Attributes end with a quote. -/
theorem eq_quote_of_getLast?_text (as : LooseAttributes) : ∀ c ∈ as.text.getLast?, c = '"' := by
  induction as with
  | nil => exact nofun
  | cons a as ih =>
    have hlast : (LooseAttributes.text (a :: as)).getLast? =
        some ((LooseAttributes.text as).getLast?.getD '"') := by
      simp [text_cons a.1 a.2, List.getLast?_cons, List.getLast?_append]
    rw [hlast]
    cases htext : (LooseAttributes.text as).getLast? with
    | none => simp
    | some c => simpa using ih c htext

theorem inert_text (hnames : ∀ a ∈ as, IsWord a.1.toList) (hvalues : ∀ a ∈ as, IsQuotable a.2) :
    Inert as.text := by
  refine Inert.flatMap fun a ha => ?_
  have hblank : Inert [' '] := Inert.singleton (by decide) (by decide) (by decide)
  have heq : Inert ['='] := Inert.singleton (by decide) (by decide) (by decide)
  have hquoted : Inert ('"' :: (a.2 ++ ['"'])) := Inert.quoted fun c hc => (hvalues a ha c hc).1
  simpa using hblank.append ((Inert.of_isWord (hnames a ha)).append (heq.append hquoted))

/-- An attribute is read up to its second quote. -/
theorem attribute?_text (hname : IsWord n.toList) (hvalue : IsQuotable value) (rest : List Char) :
    attribute? (' ' :: (n.toList ++ '=' :: '"' :: (value ++ '"' :: rest))) =
      some ((n.toList, value), rest) := by
  have hblanks : (' ' :: (n.toList ++ '=' :: '"' :: (value ++ '"' :: rest))).dropWhile
      Text.isAsciiBlank = n.toList ++ '=' :: '"' :: (value ++ '"' :: rest) := by
    have hstart : Ahead (Text.isAsciiBlank · = false)
        (n.toList ++ '=' :: '"' :: (value ++ '"' :: rest)) :=
      hname.ahead fun c hc => isAsciiBlank_of_isAlpha hc
    simpa [List.dropWhile_cons, show Text.isAsciiBlank ' ' = true from rfl]
      using Text.dropWhile_of_ahead hstart
  have hrun : Scan.takeWhile1 (fun c => c != '=' && !Text.isAsciiBlank c)
      (n.toList ++ '=' :: '"' :: (value ++ '"' :: rest)) =
        some (n.toList, '=' :: '"' :: (value ++ '"' :: rest)) := by
    refine Scan.takeWhile1_append hname.1 (fun c hc => ?_) (by simp)
    have hc := hname.2 c hc
    simp [ne_of_isAlpha (d := '=') (by decide) hc, isAsciiBlank_of_isAlpha hc]
  have hquote : Text.isAsciiBlank '"' = false := rfl
  have hvalue : Scan.takeWhile (· != '"') (value ++ '"' :: rest) = some (value, '"' :: rest) :=
    Scan.takeWhile_append (fun c hc => by simpa using (hvalue c hc).1) (by simp)
  simp [attribute?, Scan.blanks, hblanks, hrun, Scan.padded_char (c := '=') rfl, hquote, hvalue]

theorem eraseDups_of_nodup {α : Type} [BEq α] [LawfulBEq α] {as : List α} (h : as.Nodup) :
    as.eraseDups = as := by
  induction as with
  | nil => rfl
  | cons a as ih =>
    rw [List.nodup_cons] at h
    have hfilter : as.filter (fun b => !b == a) = as := by
      rw [List.filter_eq_self]
      rintro b hb
      have : b ≠ a := fun e => h.1 (e ▸ hb)
      simpa using this
    rw [List.eraseDups_cons, hfilter, ih h.2]

/-- **Attributes are read as they were written**, if no name occurs twice. -/
theorem attributes_text (hnames : ∀ a ∈ as, IsWord a.1.toList) (hvalues : ∀ a ∈ as, IsQuotable a.2)
    (hnodup : (as.map (·.1)).Nodup) : attributes as.text = some as := by
  have hruns : Scan.Runs attribute? as.text (as.map fun a => (a.1.toList, a.2)) [] := by
    clear hnodup
    induction as with
    | nil => exact .stop rfl
    | cons a as ih =>
      rw [List.forall_mem_cons] at hnames hvalues
      rw [text_cons a.1 a.2]
      refine .next (attribute?_text hnames.1 hvalues.1 _) ?_ (ih hnames.2 hvalues.2)
      simp
      omega
  have hchars : (as.map (·.1.toList)).Nodup := by
    have := hnodup.map (f := String.toList) fun _ _ => String.toList_injective
    rwa [List.map_map] at this
  have hlocal : as.map (fun a => (localName a.1.toList, a.2)) = as := by
    conv_rhs => rw [← List.map_id as]
    refine List.map_congr_left fun a ha => ?_
    rw [(hnames a ha).localName, String.ofList_toList]
    rfl
  simp [attributes, Scan.all, hruns.many, Scan.blanks, Function.comp_def,
    eraseDups_of_nodup hchars, hlocal]

end Attributes

/-! ### Elements between blanks -/

section Leaves

variable {content : Scan (List LooseNode)} {tag : FlatTag} {tags : List FlatTag}
  {nodes : List (Option LooseNode)}

theorem piece_tag (h : tag.Proper IsQuotable) (rest : List Char) :
    piece content ('<' :: (tag.text ++ '/' :: '>' :: rest)) = some (some (tag.node []), rest) := by
  rw [FlatTag.text, List.append_assoc, piece_element h.name, Scan.map_apply,
    element_empty h.name (ahead_text _) (inert_text h.names h.values), String.ofList_toList]
  rfl

/-- Blanks in front of an element may be there or not. -/
theorem runs_blanks (hblanks : ∀ c ∈ cs, Text.isAsciiBlank c = true)
    (h : Scan.Runs (piece content) ('<' :: s) nodes rest) :
    ∃ nodes', Scan.Runs (piece content) (cs ++ '<' :: s) nodes' rest ∧
      nodes'.reduceOption = nodes.reduceOption := by
  cases cs with
  | nil => exact ⟨nodes, h, rfl⟩
  | cons c cs =>
    have hpiece : piece content (c :: cs ++ '<' :: s) = some (none, '<' :: s) :=
      piece_blanks (List.cons_ne_nil c cs) hblanks
    exact ⟨none :: nodes, .next hpiece (Scan.length_lt_cons_append c cs _) h,
      List.reduceOption_cons_of_none nodes⟩

/-- Elements between blanks are read up to the end tag behind them. -/
theorem runs_leaves (content : Scan (List LooseNode)) (h : Leaves tags cs)
    (hproper : ∀ t ∈ tags, t.Proper IsQuotable) (s : List Char) :
    ∃ nodes, Scan.Runs (piece content) (cs ++ '<' :: '/' :: s) nodes ('<' :: '/' :: s) ∧
      nodes.reduceOption = tags.map (·.node []) := by
  induction h with
  | nil hblanks => exact runs_blanks hblanks (.stop piece_endTag)
  | @cons blanks text t ts hblanks hrest ih =>
    rw [List.forall_mem_cons] at hproper
    obtain ⟨nodes, hruns, hnodes⟩ := ih hproper.2
    have hnext : Scan.Runs (piece content)
        ('<' :: (t.text ++ '/' :: '>' :: (text ++ '<' :: '/' :: s))) (some (t.node []) :: nodes)
        ('<' :: '/' :: s) := by
      refine .next (piece_tag hproper.1 _) ?_ hruns
      simp
      omega
    obtain ⟨nodes', hruns', hnodes'⟩ := runs_blanks hblanks hnext
    refine ⟨nodes', by simpa using hruns', ?_⟩
    rw [hnodes', List.reduceOption_cons_of_some, hnodes, List.map_cons]

/-- **The content of an element** is the elements in it, whatever blanks are between them. -/
theorem content_leaves (fuel : Nat) (h : Leaves tags cs) (hproper : ∀ t ∈ tags, t.Proper IsQuotable)
    (s : List Char) :
    Loose.content (fuel + 1) (cs ++ '<' :: '/' :: s) =
      some (tags.map (·.node []), '<' :: '/' :: s) := by
  obtain ⟨nodes, hruns, hnodes⟩ := runs_leaves (Loose.content fuel) h hproper s
  simp [content_succ, hruns.many, hnodes]

end Leaves

/-! ### Documents -/

/-- A text that begins with the tag of its root is read from there. -/
theorem root_name (fuel : Nat) (hname : IsWord name) (s : List Char) :
    root fuel ('<' :: (name ++ s)) = element (content fuel) ('<' :: (name ++ s)) := by
  have hpassive : passive ('<' :: (name ++ s)) = none :=
    passive_eq_none (hname.ahead fun c hc =>
      ⟨ne_of_isAlpha (by decide) hc, ne_of_isAlpha (by decide) hc⟩)
  have hblanks : Scan.blanks ('<' :: (name ++ s)) = some ((), '<' :: (name ++ s)) := by
    simp [Scan.blanks, Text.isAsciiBlank]
  have hmany : Scan.many (Scan.blanks *> passive) ('<' :: (name ++ s)) =
      some ([], '<' :: (name ++ s)) :=
    Scan.Runs.many (.stop (by rw [Scan.seqRight_apply, hblanks, Option.bind_some, hpassive]))
  rw [root, Scan.bind_apply, hmany, Option.bind_some, Scan.bind_apply, hblanks, Option.bind_some]

/-- A text without byte order mark is read from its first character. -/
theorem parse_of_root {node : LooseNode} (rest : List Char) (hmark : Ahead (· ≠ '\uFEFF') cs)
    (h : ∀ fuel, root (fuel + 1) cs = some (node, rest)) : parse cs = some node := by
  unfold parse
  split
  · simp at hmark
  · simp only [h, Option.map_some]

/-- A tag does not end with a slash. -/
theorem getLast?_text_ne {tag : FlatTag} (hname : IsWord tag.name.toList) :
    (tag.name.toList ++ tag.attributes.text).getLast? ≠ some '/' := by
  rw [List.getLast?_append]
  cases htext : tag.attributes.text.getLast? with
  | some c => simp [eq_quote_of_getLast?_text _ c htext]
  | none =>
    intro hslash
    exact absurd (hname.2 '/' (List.mem_of_getLast? hslash)) (by decide)

/-- **Markup of a document is read as that document.** -/
theorem parse_markup {document : FlatDocument} (hproper : document.Proper IsQuotable)
    (h : Markup document cs) : parse (cs ++ ['\n']) = some document.node := by
  have hname := hproper.root.name
  have hinert := inert_text hproper.root.names hproper.root.values
  refine parse_of_root ['\n'] ?_ fun fuel => ?_
  · cases h with
    | empty => exact Ahead.cons_iff.mpr (by decide)
    | content => exact Ahead.cons_iff.mpr (by decide)
  cases h with
  | @empty tag =>
    have hread : element (content (fuel + 1))
        ('<' :: (tag.name.toList ++ (tag.attributes.text ++ '/' :: '>' :: ['\n']))) =
          some (.element (String.ofList tag.name.toList) tag.attributes.text [], ['\n']) :=
      element_empty hname (ahead_text _) hinert
    simpa [FlatTag.text, FlatTag.node, FlatDocument.node, root_name _ hname] using hread
  | @content tag tags text hleaves =>
    have hend : endTag tag.name.toList ('<' :: '/' :: (tag.name.toList ++ ['>', '\n'])) =
        some ((), ['\n']) :=
      endTag_name hname
    have hread := element_content hname (ahead_text _) hinert (getLast?_text_ne hname)
      (content_leaves fuel hleaves hproper.leaves _) hend
    simpa [FlatTag.text, FlatTag.node, FlatDocument.node, root_name _ hname] using hread

theorem leaves_lines (tags : List FlatTag) :
    Leaves tags (tags.flatMap (fun t => "\n  <".toList ++ t.text ++ "/>".toList) ++ ['\n']) := by
  induction tags with
  | nil => exact .nil (Text.forall_mem_of_all (by decide))
  | cons t tags ih =>
    have hblanks : ∀ c ∈ ['\n', ' ', ' '], Text.isAsciiBlank c = true :=
      Text.forall_mem_of_all (by decide)
    have hleaves : Leaves (t :: tags) _ := .cons hblanks ih
    simpa using hleaves

/-- **The writer makes markup.** -/
theorem markup_layout (document : FlatDocument) : Markup document (layout document) := by
  obtain ⟨tag, tags⟩ := document
  cases tags with
  | nil => exact .empty
  | cons t tags =>
    have hmarkup : Markup ⟨tag, t :: tags⟩ _ := .content (leaves_lines (t :: tags))
    simpa [layout] using hmarkup

/-- **The loose codec is lawful.** -/
theorem codec_lawful : codec.Lawful where
  isQuotable_escape _ := isQuotable_escape _
  unescape_escape _ := unescape_escape _
  write_markup _ := ⟨_, rfl, markup_layout _⟩
  read_markup := parse_markup
  attributes_text h := attributes_text h.names h.values h.nodup

end PageGrid.Xml.Loose
