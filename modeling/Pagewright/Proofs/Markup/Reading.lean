/-
  How a reader takes markup that is put together from pieces.

  * `Reads loose cs ns`: in an element that is `loose` or not, the characters
    `cs` are taken from one tag to another and add the nodes `ns`;
  * `Fills loose cs ns`: the same for all that stands between the tags of an
    element, which may end in text;
  * one lemma for each way to put pieces together: one behind the other
    (`Reads.append`, `Reads.fills`), behind blank text (`Reads.indent`), inside
    an element (`Fills.element`), in a comment (`reads_comment`).
-/
import Mathlib.Tactic.Common
import Pagewright.Proofs.Markup.Document

namespace Pagewright.Markup

open Scanner

/-! ## Scanning -/

namespace Scanner

@[simp] theorem run_nil (s : Scanner) : s.run [] = s := rfl

@[simp] theorem run_cons (s : Scanner) (c : Char) (cs : List Char) :
    s.run (c :: cs) = (s.step c).run cs := rfl

@[simp] theorem run_append (s : Scanner) (cs ds : List Char) :
    s.run (cs ++ ds) = (s.run cs).run ds := List.foldl_append

variable {ts : List Token}

/-- A scanner that keeps every character of a text in its mode. -/
theorem run_keep (m : List Char → Mode) {cs : List Char}
    (h : ∀ raw, ∀ c ∈ cs, step ⟨m raw, ts⟩ c = ⟨m (raw ++ [c]), ts⟩) (raw : List Char) :
    run ⟨m raw, ts⟩ cs = ⟨m (raw ++ cs), ts⟩ := by
  induction cs generalizing raw with
  | nil => simp
  | cons c cs ih =>
    rw [run_cons, h raw c (by simp), ih fun r d hd => h r d (by simp [hd]), List.append_assoc,
      List.singleton_append]

theorem run_text {cs : List Char} (h : '<' ∉ cs) (raw : List Char) :
    run ⟨.text raw, ts⟩ cs = ⟨.text (raw ++ cs), ts⟩ :=
  run_keep .text (fun _ _ hc => if_neg (ne_of_mem_of_not_mem hc h)) raw

theorem run_name {cs : List Char} (h : ∀ c ∈ cs, isNameChar c) (n : List Char) :
    run ⟨.name n, ts⟩ cs = ⟨.name (n ++ cs), ts⟩ :=
  run_keep .name (fun _ c hc => if_pos (h c hc)) n

theorem run_closingName {cs : List Char} (h : ∀ c ∈ cs, isNameChar c) (n : List Char) :
    run ⟨.closingName n, ts⟩ cs = ⟨.closingName (n ++ cs), ts⟩ := by
  refine run_keep .closingName (fun n c hc => ?_) n
  have hgt : c ≠ '>' := by rintro rfl; exact absurd (h _ hc) (by decide)
  simp only [step, if_neg hgt, if_pos (h c hc), goto]

theorem run_attrName {cs : List Char} (h : ∀ c ∈ cs, isAttrChar c) (tag : Tag) (n : List Char) :
    run ⟨.attrName tag n, ts⟩ cs = ⟨.attrName tag (n ++ cs), ts⟩ :=
  run_keep (.attrName tag) (fun _ c hc => if_pos (h c hc)) n

theorem run_value {cs : List Char} (h : '"' ∉ cs) (tag : Tag) (n raw : List Char) :
    run ⟨.value tag n raw, ts⟩ cs = ⟨.value tag n (raw ++ cs), ts⟩ :=
  run_keep (.value tag n) (fun _ _ hc => if_neg (ne_of_mem_of_not_mem hc h)) raw

theorem run_comment {cs : List Char} (h : '>' ∉ cs) (raw : List Char) :
    run ⟨.comment raw, ts⟩ cs = ⟨.comment (raw ++ cs), ts⟩ :=
  run_keep .comment (fun _ _ hc => if_neg fun h' => ne_of_mem_of_not_mem hc h h'.1) raw

end Scanner

/-! ## Tags -/

/-- Whether a text can stand as a name: it is not empty, and all its characters
    are ones of a name. -/
def isName (p : Char → Bool) (s : String) : Bool := s ≠ "" && s.toList.all p

theorem ne_of_isName {p : Char → Bool} {s : String} (h : isName p s) : s.toList ≠ [] := by
  simp only [isName, Bool.and_eq_true, decide_eq_true_eq] at h
  exact mt String.toList_eq_nil_iff.1 h.1

theorem all_of_isName {p : Char → Bool} {s : String} (h : isName p s) : ∀ c ∈ s.toList, p c := by
  simp only [isName, Bool.and_eq_true, List.all_eq_true] at h
  exact h.2

/-- The name of an element as it stands in a tag. -/
structure TagName where
  text : String
  named : isName isNameChar text

/-- An attribute as it is written: its name and, between quotation marks, its
    value. -/
structure RawAttr where
  name : String
  value : Option String
  no_quote : ∀ v ∈ value, '"' ∉ v.toList
  named : isName isAttrChar name

namespace RawAttr

variable (r : RawAttr)

/-- The characters of an attribute, with the space before it. -/
def written : List Char :=
  ' ' :: r.name.toList ++
    match r.value with
    | some v => ['=', '"'] ++ v.toList ++ ['"']
    | none => []

/-- What an attribute is read as. -/
def toAttr : Attr :=
  match r.value with
  | some v => .ofRaw r.name v
  | none => ⟨r.name, none⟩

end RawAttr

/-- A start tag without its end. -/
def startText (tag : TagName) (attrs : List RawAttr) : List Char :=
  '<' :: tag.text.toList ++ attrs.flatMap RawAttr.written

/-- An end tag. -/
def endText (tag : TagName) : List Char := ['<', '/'] ++ tag.text.toList ++ ['>']

/-- A scanner inside a start tag that has been read as `tag` so far: whatever
    ends a name is next taken between attributes. -/
def Scanner.Inside (s : Scanner) (tag : Tag) (ts : List Token) : Prop :=
  ∀ c, c = ' ' ∨ c = '/' ∨ c = '>' → s.step c = between ⟨.gap tag, ts⟩ tag c

theorem inside_gap (tag : Tag) (ts : List Token) : Inside ⟨.gap tag, ts⟩ tag ts := by
  rintro c (rfl | rfl | rfl) <;> rfl

theorem inside_name (n : List Char) (ts : List Token) :
    Inside ⟨.name n, ts⟩ ⟨String.ofList n, []⟩ ts := by
  rintro c (rfl | rfl | rfl) <;> rfl

theorem inside_attrName (tag : Tag) (n : List Char) (ts : List Token) :
    Inside ⟨.attrName tag n, ts⟩ (tag.add ⟨String.ofList n, none⟩) ts := by
  rintro c (rfl | rfl | rfl) <;> rfl

theorem Scanner.Inside.run_attr {s : Scanner} {tag : Tag} {ts : List Token} (h : s.Inside tag ts)
    (r : RawAttr) : (s.run r.written).Inside (tag.add r.toAttr) ts := by
  obtain ⟨c, n, hn⟩ := List.exists_cons_of_ne_nil (ne_of_isName r.named)
  -- the space and the name lead into the name of an attribute
  have hname : s.run (' ' :: r.name.toList) = ⟨.attrName tag r.name.toList, ts⟩ := by
    have hc : isAttrChar c := all_of_isName r.named c (by simp [hn])
    have hgap : s.step ' ' = ⟨.gap tag, ts⟩ := h ' ' (Or.inl rfl)
    have hstep : step ⟨.gap tag, ts⟩ c = ⟨.attrName tag [c], ts⟩ := if_pos hc
    rw [run_cons, hgap, hn, run_cons, hstep,
      run_attrName fun d hd => all_of_isName r.named d (by simp [hn, hd])]
    rfl
  cases hv : r.value with
  | none =>
    simp only [RawAttr.written, RawAttr.toAttr, hv]
    rw [List.append_nil, hname]
    simpa using inside_attrName tag r.name.toList ts
  | some v =>
    have hopen : run ⟨.attrName tag r.name.toList, ts⟩ ['=', '"'] =
        ⟨.value tag r.name.toList [], ts⟩ := rfl
    simp only [RawAttr.written, RawAttr.toAttr, hv]
    rw [run_append, hname, run_append, run_append, hopen, run_value (r.no_quote v hv)]
    simpa [step, goto] using inside_gap _ ts

theorem Scanner.Inside.run_attrs {s : Scanner} {tag : Tag} {ts : List Token} (h : s.Inside tag ts)
    (rs : List RawAttr) :
    (s.run (rs.flatMap RawAttr.written)).Inside
      ⟨tag.name, tag.attrs ++ rs.map RawAttr.toAttr⟩ ts := by
  induction rs generalizing s tag with
  | nil => simpa using h
  | cons r rs ih =>
    rw [List.flatMap_cons, run_append]
    simpa [Tag.add] using ih (h.run_attr r)

section
variable (tag : TagName) (rs : List RawAttr) (raw : List Char) (ts : List Token)

/-- The tag that a start tag is read as. -/
abbrev readTag : Tag := ⟨tag.text, rs.map RawAttr.toAttr⟩

theorem run_startText :
    (run ⟨.text raw, ts⟩ (startText tag rs)).Inside (readTag tag rs) (ts ++ textTokens raw) := by
  obtain ⟨c, n, hn⟩ := List.exists_cons_of_ne_nil (ne_of_isName tag.named)
  have hc : isNameChar c := all_of_isName tag.named c (by simp [hn])
  have h₁ : c ≠ '/' := by rintro rfl; exact absurd hc (by decide)
  have h₂ : c ≠ '!' := by rintro rfl; exact absurd hc (by decide)
  have hopen : step ⟨.text raw, ts⟩ '<' = ⟨.opened, ts ++ textTokens raw⟩ := rfl
  have hstep : step ⟨.opened, ts ++ textTokens raw⟩ c = ⟨.name [c], ts ++ textTokens raw⟩ := by
    simp only [step, if_neg h₁, if_neg h₂, if_pos hc, goto]
  rw [startText, List.cons_append, run_cons, hopen, run_append, hn, run_cons, hstep,
    run_name fun d hd => all_of_isName tag.named d (by simp [hn, hd])]
  have hinside := (inside_name ([c] ++ n) (ts ++ textTokens raw)).run_attrs rs
  rw [List.singleton_append, ← hn, String.ofList_toList, List.nil_append] at hinside
  rwa [List.singleton_append, ← hn]

theorem run_opening :
    run ⟨.text raw, ts⟩ (startText tag rs ++ ['>']) =
      ⟨.text [], ts ++ textTokens raw ++ [.opening (readTag tag rs)]⟩ := by
  rw [run_append, run_cons, run_startText tag rs raw ts '>' (by simp)]
  rfl

theorem run_selfClosing :
    run ⟨.text raw, ts⟩ (startText tag rs ++ [' ', '/', '>']) =
      ⟨.text [], ts ++ textTokens raw ++ [.selfClosing (readTag tag rs)]⟩ := by
  rw [run_append, run_cons, run_startText tag rs raw ts ' ' (by simp)]
  rfl

theorem run_endText :
    run ⟨.text raw, ts⟩ (endText tag) =
      ⟨.text [], ts ++ textTokens raw ++ [.closing tag.text]⟩ := by
  have hopen : run ⟨.text raw, ts⟩ ['<', '/'] = ⟨.closingName [], ts ++ textTokens raw⟩ := rfl
  rw [endText, run_append, run_append, hopen, run_closingName (all_of_isName tag.named)]
  simp [step, emit]

end

theorem run_commentText {cs : List Char} (h : '>' ∉ cs) (raw : List Char) (ts : List Token) :
    run ⟨.text raw, ts⟩ (['<', '!', '-', '-'] ++ cs ++ ['-', '-', '>']) =
      ⟨.text [], ts ++ textTokens raw ++ [.comment (String.ofList cs)]⟩ := by
  have hopen : run ⟨.text raw, ts⟩ ['<', '!', '-', '-'] = ⟨.comment [], ts ++ textTokens raw⟩ :=
    rfl
  have hcs : '>' ∉ cs ++ ['-', '-'] := by simpa using h
  have hclose : step ⟨.comment (cs ++ ['-', '-']), ts ++ textTokens raw⟩ '>' =
      ⟨.text [], ts ++ textTokens raw ++ [.comment (String.ofList cs)]⟩ := by
    have hdrop : (cs ++ ['-', '-']).dropLast.dropLast = cs := by
      rw [List.dropLast_append_of_ne_nil (by simp), List.dropLast_append_of_ne_nil (by simp)]
      simp
    have hend : '>' = '>' ∧ ['-', '-'] <:+ cs ++ ['-', '-'] := ⟨rfl, List.suffix_append _ _⟩
    show (if _ then _ else _) = _
    rw [if_pos hend, hdrop]; rfl
  have hsplit : ['<', '!', '-', '-'] ++ cs ++ ['-', '-', '>'] =
      ['<', '!', '-', '-'] ++ ((cs ++ ['-', '-']) ++ ['>']) := by simp
  rw [hsplit, run_append, hopen, run_append, run_comment hcs, List.nil_append, run_cons, hclose,
    run_nil]

/-! ## Pieces -/

namespace Assembly

variable (b : Assembly)

theorem placeAll_append (ts us : List Token) :
    b.placeAll (ts ++ us) = (b.placeAll ts).bind fun b' => b'.placeAll us := by
  simp [placeAll, List.foldlM_append]

@[simp] theorem placeAll_nil : b.placeAll [] = some b := rfl

@[simp] theorem placeAll_singleton (t : Token) : b.placeAll [t] = b.place t := by
  simp [placeAll]

@[simp] theorem isLoose_push (ns : List Node) : (b.push ns).isLoose = b.isLoose := rfl

@[simp] theorem push_nil : b.push [] = b := by simp [push]

@[simp] theorem push_push (ns ms : List Node) : (b.push ns).push ms = b.push (ns ++ ms) := by
  simp [push]

end Assembly

/-- Text that makes no node: none at all, or blank text between the parts of a
    block. -/
def Ignorable (loose : Bool) (raw : List Char) : Prop :=
  raw = [] ∨ loose = true ∧ ∀ c ∈ raw, isSpace c

theorem not_mem_of_isSpace {raw : List Char} (h : ∀ c ∈ raw, isSpace c) {d : Char}
    (hd : isSpace d = false) : d ∉ raw := fun hm => by simp [h d hm] at hd

theorem placeAll_ignorable {b : Assembly} {raw : List Char} (h : Ignorable b.isLoose raw) :
    b.placeAll (textTokens raw) = some b := by
  rcases h with rfl | ⟨hl, hs⟩
  · rfl
  · unfold textTokens
    split_ifs
    · rfl
    · have hd : Html.decodeChars raw = raw :=
        Html.decodeChars_of_not_mem (not_mem_of_isSpace hs (by decide))
      have hall : raw.all isSpace := List.all_eq_true.2 hs
      simp [Assembly.place, Html.decode, hd, hl, hall]

/-- The characters `cs` lead from one tag to another and add the nodes `ns`. -/
def Reads (loose : Bool) (cs : List Char) (ns : List Node) : Prop :=
  ∀ raw, Ignorable loose raw → ∃ us : List Token,
    (∀ ts, run ⟨.text raw, ts⟩ cs = ⟨.text [], ts ++ us⟩) ∧
    ∀ b : Assembly, b.isLoose = loose → b.placeAll us = some (b.push ns)

/-- The characters `cs` stand between two tags, and add the nodes `ns`; they may
    end in text. -/
def Fills (loose : Bool) (cs : List Char) (ns : List Node) : Prop :=
  ∃ (us : List Token) (raw : List Char),
    (∀ ts, run ⟨.text [], ts⟩ cs = ⟨.text raw, ts ++ us⟩) ∧
    ∀ b : Assembly, b.isLoose = loose → b.placeAll (us ++ textTokens raw) = some (b.push ns)

variable {loose : Bool} {cs ds : List Char} {ns ms : List Node}

theorem Reads.append (h : Reads loose cs ns) (h' : Reads loose ds ms) :
    Reads loose (cs ++ ds) (ns ++ ms) := by
  intro raw hraw
  obtain ⟨us, hrun, hplace⟩ := h raw hraw
  obtain ⟨us', hrun', hplace'⟩ := h' [] (Or.inl rfl)
  refine ⟨us ++ us', fun ts => ?_, fun b hb => ?_⟩
  · rw [run_append, hrun, hrun', List.append_assoc]
  · rw [Assembly.placeAll_append, hplace b hb, Option.bind_some, hplace' _ (by simpa using hb),
      Assembly.push_push]

theorem Reads.fills (h : Reads loose cs ns) (h' : Fills loose ds ms) :
    Fills loose (cs ++ ds) (ns ++ ms) := by
  obtain ⟨us, hrun, hplace⟩ := h [] (Or.inl rfl)
  obtain ⟨us', raw, hrun', hplace'⟩ := h'
  refine ⟨us ++ us', raw, fun ts => ?_, fun b hb => ?_⟩
  · rw [run_append, hrun, hrun', List.append_assoc]
  · rw [List.append_assoc, Assembly.placeAll_append, hplace b hb, Option.bind_some,
      hplace' _ (by simpa using hb), Assembly.push_push]

/-- Blank text before a tag is passed over in a block. -/
theorem Reads.indent (h : Reads true cs ns) {blank : List Char} (hb : ∀ c ∈ blank, isSpace c) :
    Reads true (blank ++ cs) ns := by
  intro raw hraw
  have hall : Ignorable true (raw ++ blank) := by
    rcases hraw with rfl | ⟨-, hraw⟩
    · exact Or.inr ⟨rfl, by simpa using hb⟩
    · exact Or.inr ⟨rfl, fun c hc => (List.mem_append.1 hc).elim (hraw c) (hb c)⟩
  obtain ⟨us, hrun, hplace⟩ := h _ hall
  refine ⟨us, fun ts => ?_, hplace⟩
  rw [run_append, run_text (not_mem_of_isSpace hb (by decide)), hrun]

theorem fills_nil (loose : Bool) : Fills loose [] [] := by
  refine ⟨[], [], fun ts => ?_, fun b _ => ?_⟩
  · rw [run_nil, List.append_nil]
  · rw [List.nil_append, placeAll_ignorable (Or.inl rfl), Assembly.push_nil]

theorem fills_blank (hb : ∀ c ∈ cs, isSpace c) : Fills true cs [] := by
  refine ⟨[], cs, fun ts => ?_, fun b hl => ?_⟩
  · rw [run_text (not_mem_of_isSpace hb (by decide)), List.nil_append, List.append_nil]
  · rw [List.nil_append, placeAll_ignorable (Or.inr ⟨hl, hb⟩), Assembly.push_nil]

theorem Reads.body (h : Reads loose cs ns) : Fills loose cs ns := by
  simpa using h.fills (fills_nil loose)

/-- A text that is written without angle brackets is one node, as it is read. -/
theorem fills_raw (hcs : '<' ∉ cs) {s : String} (hs : Html.decode (String.ofList cs) = s)
    (hne : cs = [] ↔ s = "") : Fills false cs (textNodes s) := by
  refine ⟨[], cs, fun ts => ?_, fun b hl => ?_⟩
  · rw [run_text hcs, List.nil_append, List.append_nil]
  · unfold textTokens textNodes
    by_cases h : cs = []
    · rw [if_pos h, if_pos (hne.1 h)]
      simp
    · rw [if_neg h, if_neg (mt hne.2 h), hs]
      simp [Assembly.place, hl]

/-- An escaped text is one node, as it was given. -/
theorem fills_escape (s : String) : Fills false (Html.escape s).toList (textNodes s) := by
  refine fills_raw ?_ ?_ ?_
  · rw [Html.toList_escape]
    exact Html.not_mem_escapeChars (by decide) _
  · rw [String.ofList_toList, Html.decode_escape]
  · rw [Html.toList_escape, Html.escapeChars_eq_nil, String.toList_eq_nil_iff]

/-- So it is behind a space. -/
theorem fills_space_escape (s : String) :
    Fills false (' ' :: (Html.escape s).toList) [.text (" " ++ s)] := by
  have hread : Html.decode (String.ofList (' ' :: (Html.escape s).toList)) = " " ++ s := by
    rw [Html.decode, String.toList_ofList, Html.decodeChars_cons (by decide), Html.toList_escape,
      Html.decodeChars_escapeChars, String.ofList_cons, String.ofList_toList]
    rfl
  have hne : " " ++ s ≠ "" := by
    rw [Ne, ← String.toList_inj]
    simp
  have hlt : '<' ∉ ' ' :: (Html.escape s).toList := by
    rw [Html.toList_escape, List.mem_cons, not_or]
    exact ⟨by decide, Html.not_mem_escapeChars (by decide) _⟩
  have hfill := fills_raw hlt hread ⟨fun h => absurd h (by simp), fun h => absurd h hne⟩
  rwa [textNodes, if_neg hne] at hfill

section
variable (tag : TagName) (rs : List RawAttr)

/-- An element is read with all that stands between its tags. -/
theorem Fills.element {inner : Bool} (h : Fills inner cs ns)
    (hb : isBlock tag.text = inner) (loose : Bool := true) :
    Reads loose (startText tag rs ++ ['>'] ++ cs ++ endText tag)
      [.element tag.text (rs.map RawAttr.toAttr) ns] := by
  intro raw hraw
  obtain ⟨us, raw', hrun, hplace⟩ := h
  refine ⟨textTokens raw ++ [.opening (readTag tag rs)] ++ (us ++ textTokens raw') ++
    [.closing tag.text], fun ts => ?_, fun b hl => ?_⟩
  · rw [run_append, run_append, run_opening, hrun, run_endText]
    simp only [List.append_assoc]
  · have hopen : b.place (.opening (readTag tag rs)) =
        some ⟨(readTag tag rs, b.here) :: b.above, []⟩ := rfl
    have hinner := hplace ⟨(readTag tag rs, b.here) :: b.above, []⟩ hb
    rw [Assembly.placeAll_append, Assembly.placeAll_append, Assembly.placeAll_append,
      placeAll_ignorable (by rwa [hl]), Option.bind_some, Assembly.placeAll_singleton, hopen,
      Option.bind_some, hinner, Option.bind_some, Assembly.placeAll_singleton]
    simp [Assembly.place, Assembly.push]

/-- A tag that closes itself is an element without children. -/
theorem reads_selfClosing (loose : Bool := true) :
    Reads loose (startText tag rs ++ [' ', '/', '>'])
      [.element tag.text (rs.map RawAttr.toAttr) []] := by
  intro raw hraw
  refine ⟨textTokens raw ++ [.selfClosing (readTag tag rs)], fun ts => ?_, fun b hb => ?_⟩
  · rw [run_selfClosing, List.append_assoc]
  · rw [Assembly.placeAll_append, placeAll_ignorable (by rwa [hb]), Option.bind_some,
      Assembly.placeAll_singleton]
    rfl

/-- An element with nothing but an escaped text in it. -/
theorem reads_textElement (s : String) (hb : isBlock tag.text = false)
    (loose : Bool := true) :
    Reads loose (startText tag rs ++ ['>'] ++ (Html.escape s).toList ++ endText tag)
      [.element tag.text (rs.map RawAttr.toAttr) (textNodes s)] :=
  (fills_escape s).element tag rs hb loose

/-- An element with nothing in it. -/
theorem reads_emptyElement (hb : isBlock tag.text = false) :
    Reads true (startText tag rs ++ ['>'] ++ endText tag)
      [.element tag.text (rs.map RawAttr.toAttr) []] := by
  simpa using (fills_nil false).element tag rs hb

end

/-- A comment is one node. -/
theorem reads_comment (h : '>' ∉ cs) (loose : Bool) :
    Reads loose (['<', '!', '-', '-'] ++ cs ++ ['-', '-', '>']) [.comment (String.ofList cs)] := by
  intro raw hraw
  refine ⟨textTokens raw ++ [.comment (String.ofList cs)], fun ts => ?_, fun b hb => ?_⟩
  · rw [run_commentText h, List.append_assoc]
  · rw [Assembly.placeAll_append, placeAll_ignorable (by rwa [hb]), Option.bind_some,
      Assembly.placeAll_singleton]
    rfl

/-- Pieces one behind the other. -/
theorem Fills.prepend {α : Type} {f : α → List Char} {g : α → List Node} {xs : List α}
    (hx : ∀ x ∈ xs, Reads loose (f x) (g x)) (h : Fills loose ds ms) :
    Fills loose (xs.flatMap f ++ ds) (xs.flatMap g ++ ms) := by
  induction xs with
  | nil => exact h
  | cons x xs ih =>
    rw [List.flatMap_cons, List.flatMap_cons, List.append_assoc, List.append_assoc]
    exact (hx x (by simp)).fills (ih fun y hy => hx y (by simp [hy]))

/-- Elements one behind the other. -/
theorem fills_elements {α : Type} {f : α → List Char} {g : α → Node} {xs : List α}
    (hx : ∀ x ∈ xs, Reads loose (f x) [g x]) : Fills loose (xs.flatMap f) (xs.map g) := by
  simpa [← List.map_eq_flatMap] using (fills_nil loose).prepend hx

/-- A text that fills a document is read as the nodes it adds. -/
theorem Fills.read {s : String} (h : Fills true s.toList ns) : read s = some ns := by
  obtain ⟨us, raw, hrun, hplace⟩ := h
  have htokens : tokenize s = some (us ++ textTokens raw) := by
    rw [tokenize, hrun []]
    simp
  rw [Markup.read, htokens, Option.bind_some, forest, hplace {} rfl]
  simp [Assembly.push]

end Pagewright.Markup
