/-
  Reading texts of a template: the six character references are taken back.

  * `decode` replaces every reference by its character, from left to right;
  * `decode_escape`: an escaped text is read as it was;
  * an escaped text holds none of the characters that end it: no angle bracket
    and no quotation mark;
  * `toList_escapeComment`: in a comment, it gets spaces in certain gaps;
  * `inSequence_eq_atOnce`: passes that never write a character of a later pass
    come to one substitution, so their order is what makes them safe;
  * `escape_lossless`: the six passes are one substitution, part by part, with an
    ampersand at the start of each reference and nowhere else, and no two texts
    are escaped alike.
-/
import Mathlib.Tactic.Common
import Pagewright.Proofs.Text.Gaps
import Pagewright.Text.Html

namespace Pagewright.Html

open Text

/-! ## Character references -/

/-- The characters with every reference replaced by what it stands for. -/
def decodeChars : List Char → List Char
  | '&' :: 'a' :: 'm' :: 'p' :: ';' :: cs => '&' :: decodeChars cs
  | '&' :: 'l' :: 't' :: ';' :: cs => '<' :: decodeChars cs
  | '&' :: 'g' :: 't' :: ';' :: cs => '>' :: decodeChars cs
  | '&' :: 'q' :: 'u' :: 'o' :: 't' :: ';' :: cs => '"' :: decodeChars cs
  | '&' :: '#' :: '3' :: '9' :: ';' :: cs => '\x27' :: decodeChars cs
  | '&' :: '#' :: '6' :: '4' :: ';' :: cs => '@' :: decodeChars cs
  | c :: cs => c :: decodeChars cs
  | [] => []

/-- A text with every reference replaced by what it stands for. -/
def decode (s : String) : String := String.ofList (decodeChars s.toList)

theorem decodeChars_cons {c : Char} (h : c ≠ '&') (cs : List Char) :
    decodeChars (c :: cs) = c :: decodeChars cs := by
  rw [decodeChars.eq_def]
  split <;> simp_all

theorem decodeChars_of_not_mem {cs : List Char} (h : '&' ∉ cs) : decodeChars cs = cs := by
  induction cs with
  | nil => rfl
  | cons c cs ih =>
    obtain ⟨hc, hcs⟩ := not_or.1 (mt List.mem_cons.2 h)
    rw [decodeChars_cons (Ne.symm hc), ih hcs]

theorem decodeChars_entity_append (c : Char) (cs : List Char) :
    decodeChars (entity c ++ cs) = c :: decodeChars cs := by
  unfold entity
  split_ifs with h₁ h₂ h₃ h₄ h₅ h₆
  · rw [h₁]; rfl
  · rw [h₂]; rfl
  · rw [h₃]; rfl
  · rw [h₄]; rfl
  · rw [h₅]; rfl
  · rw [h₆]; rfl
  · exact decodeChars_cons h₁ cs

theorem escapeChars_cons (c : Char) (cs : List Char) :
    escapeChars (c :: cs) = entity c ++ escapeChars cs := by
  rw [escapeChars_eq_flatMap, escapeChars_eq_flatMap, List.flatMap_cons]

theorem decodeChars_escapeChars_append (cs ds : List Char) :
    decodeChars (escapeChars cs ++ ds) = cs ++ decodeChars ds := by
  rw [escapeChars_eq_flatMap]
  induction cs with
  | nil => rfl
  | cons c cs ih =>
    rw [List.flatMap_cons, List.append_assoc, decodeChars_entity_append, ih, List.cons_append]

theorem decodeChars_escapeChars (cs : List Char) : decodeChars (escapeChars cs) = cs := by
  simpa [decodeChars] using decodeChars_escapeChars_append cs []

@[simp] theorem toList_escape (s : String) : (escape s).toList = escapeChars s.toList := by
  simp [escape]

theorem escape_append (s t : String) : escape (s ++ t) = escape s ++ escape t := by
  apply String.toList_inj.1
  simp [escapeChars_append]

/-- **An escaped text is read as it was.** -/
theorem decode_escape (s : String) : decode (escape s) = s := by
  simp [decode, decodeChars_escapeChars]

/-- So is one between apostrophes. -/
theorem decode_quoted (s : String) : decode ("'" ++ escape s ++ "'") = "'" ++ s ++ "'" := by
  have hchars : ("'" ++ escape s ++ "'").toList = '\x27' :: (escapeChars s.toList ++ ['\x27']) := by
    simp
  apply String.toList_inj.1
  rw [decode, String.toList_ofList, hchars, decodeChars_cons (by decide),
    decodeChars_escapeChars_append]
  simp [decodeChars]

/-! ## Characters that an escaped text does not hold -/

/-- A character that is always written as a reference. -/
def isReserved (c : Char) : Bool := c ∈ ['<', '>', '"', '\x27', '@']

theorem not_mem_entity {r : Char} (hr : isReserved r) (c : Char) : r ∉ entity c := by
  simp only [isReserved, List.mem_cons, List.not_mem_nil, or_false, decide_eq_true_eq] at hr
  unfold entity
  split_ifs with h₁ h₂ h₃ h₄ h₅ h₆ <;> rcases hr with rfl | rfl | rfl | rfl | rfl <;>
    simp_all [eq_comm]

theorem not_mem_escapeChars {r : Char} (hr : isReserved r) (cs : List Char) :
    r ∉ escapeChars cs := by
  rw [escapeChars_eq_flatMap]
  intro h
  obtain ⟨c, -, hc⟩ := List.mem_flatMap.1 h
  exact not_mem_entity hr c hc

theorem escapeChars_eq_nil {cs : List Char} : escapeChars cs = [] ↔ cs = [] := by
  constructor
  · intro h
    have := decodeChars_escapeChars cs
    rw [h] at this
    exact this.symm
  · rintro rfl; rfl

/-! ## Texts in comments -/

/-- The gaps of a comment that get a space: those behind a hyphen with another hyphen
    behind it, or nothing. -/
def needsSpace (c : Char) (next : Option Char) : Bool :=
  c == '-' && (next == none || next == some '-')

/-- A space that is put in front of a hyphen is the one behind the hyphen before. -/
theorem spaceHyphens_eq (hyphen : Bool) (cs : List Char) :
    spaceHyphens hyphen cs =
      (if hyphen && needsSpace '-' cs.head? then [' '] else []) ++ fillGaps needsSpace ' ' cs := by
  induction cs generalizing hyphen with
  | nil => cases hyphen <;> rfl
  | cons c cs ih =>
    rw [spaceHyphens, ih, ih, fillGaps_cons]
    by_cases hc : c = '-'
    · subst hc
      have hgap : needsSpace '-' (some '-') := rfl
      cases hyphen <;> by_cases hnext : needsSpace '-' cs.head? <;> simp [hgap, hnext]
    · simp [needsSpace, hc]

/-- **The spaces of a comment** stand between adjacent hyphens and behind a last one. -/
theorem toList_escapeComment (s : String) :
    (escapeComment s).toList = fillGaps needsSpace ' ' (escape s).toList := by
  rw [escapeComment, String.toList_ofList, spaceHyphens_eq, toList_escape, Bool.false_and,
    if_neg Bool.false_ne_true, List.nil_append]

theorem mem_escapeComment {c : Char} {s : String} (h : c ∈ (escapeComment s).toList) :
    c = ' ' ∨ c ∈ (escape s).toList := by
  rw [toList_escapeComment] at h
  exact mem_fillGaps h

/-- A text for a comment holds no reserved character either, so nothing in it could end
    the comment. -/
theorem not_mem_escapeComment {r : Char} (hr : isReserved r) (s : String) :
    r ∉ (escapeComment s).toList := by
  intro h
  rcases mem_escapeComment h with rfl | h
  · exact absurd hr (by decide)
  · exact not_mem_escapeChars hr _ (toList_escape s ▸ h)

/-! ## The passes and their order -/

/-- A character for each pass with what is written for it, in order. -/
def references : List (Char × String) :=
  [('&', "&amp;"), ('<', "&lt;"), ('>', "&gt;"), ('"', "&quot;"), ('\x27', "&#39;"),
    ('@', "&#64;")]

/-- Every pass goes over the whole of what the passes before it have left. -/
def inSequence (passes : List (Char × String)) (cs : List Char) : List Char :=
  passes.foldl (fun written pass => substitute pass.1 pass.2 written) cs

/-- What is written for one character if it is looked up once. -/
def writtenFor (passes : List (Char × String)) (c : Char) : List Char :=
  ((passes.lookup c).map String.toList).getD [c]

/-- Every character is looked up once, and what is written for it is left alone. -/
def atOnce (passes : List (Char × String)) (cs : List Char) : List Char :=
  cs.flatMap (writtenFor passes)

theorem inSequence_append (passes : List (Char × String)) (cs ds : List Char) :
    inSequence passes (cs ++ ds) = inSequence passes cs ++ inSequence passes ds := by
  induction passes generalizing cs ds with
  | nil => rfl
  | cons pass passes ih =>
    simp only [inSequence, List.foldl_cons] at ih ⊢
    rw [substitute_append, ih]

theorem inSequence_of_not_mem {passes : List (Char × String)} {cs : List Char}
    (h : ∀ pass ∈ passes, pass.1 ∉ cs) : inSequence passes cs = cs := by
  induction passes with
  | nil => rfl
  | cons pass passes ih =>
    obtain ⟨hpass, hrest⟩ := List.forall_mem_cons.1 h
    rw [inSequence, List.foldl_cons, substitute_of_not_mem hpass]
    exact ih hrest

theorem inSequence_singleton {passes : List (Char × String)}
    (h : passes.Pairwise fun pass later => later.1 ∉ pass.2.toList) (c : Char) :
    inSequence passes [c] = writtenFor passes c := by
  induction passes with
  | nil => rfl
  | cons pass passes ih =>
    obtain ⟨hlater, hrest⟩ := List.pairwise_cons.1 h
    obtain ⟨d, w⟩ := pass
    rw [inSequence, List.foldl_cons, writtenFor, List.lookup_cons]
    by_cases hc : c = d
    · -- The later passes find nothing in what is written here.
      subst hc
      have hwritten : substitute c w [c] = w.toList := by simp [substitute]
      rw [hwritten, beq_self_eq_true]
      exact inSequence_of_not_mem hlater
    · rw [substitute_of_not_mem (by simpa using Ne.symm hc), beq_eq_false_iff_ne.2 hc]
      exact ih hrest

/-- **Passes that never write a character of a later one are a single
    substitution.** -/
theorem inSequence_eq_atOnce {passes : List (Char × String)}
    (h : passes.Pairwise fun pass later => later.1 ∉ pass.2.toList) (cs : List Char) :
    inSequence passes cs = atOnce passes cs := by
  induction cs with
  | nil => exact inSequence_of_not_mem fun _ _ => List.not_mem_nil
  | cons c cs ih =>
    rw [← List.singleton_append, inSequence_append, inSequence_singleton h, ih]
    simp [atOnce]

theorem references_in_order :
    references.Pairwise fun pass later => later.1 ∉ pass.2.toList := by decide

/-- With the ampersand last, a text would be escaped twice. -/
example : inSequence [('<', "&lt;"), ('&', "&amp;")] ['<'] = "&amp;lt;".toList := by decide

/-! ## Ampersands -/

/-- Each reference begins with an ampersand and holds no other. -/
theorem references_begin :
    ∀ r ∈ references, r.2.toList = '&' :: r.2.toList.tail ∧ '&' ∉ r.2.toList.tail := by decide

theorem reference_mem {c : Char} {w : String} (h : references.lookup c = some w) :
    (c, w) ∈ references := by
  obtain ⟨l₁, l₂, happend, -⟩ := List.lookup_eq_some_iff.1 h
  simp [happend]

/-- An ampersand in what is written for one character is the first of a reference. -/
theorem ampersand_in_writtenFor {c : Char} {before behind : List Char}
    (h : writtenFor references c = before ++ '&' :: behind) :
    ∃ r ∈ references, r.2.toList = '&' :: behind := by
  cases hc : references.lookup c with
  | none =>
    -- A character that is written as it is would be the ampersand, which is not one.
    have hmem : '&' ∈ writtenFor references c := by rw [h]; simp
    rw [writtenFor, hc] at hmem
    obtain rfl : '&' = c := by simpa using hmem
    exact absurd hc (by decide)
  | some w =>
    rw [writtenFor, hc] at h
    obtain ⟨hbegin, htail⟩ := references_begin _ (reference_mem hc)
    have hsplit : '&' :: w.toList.tail = before ++ '&' :: behind := hbegin.symm.trans h
    cases before with
    | nil => exact ⟨_, reference_mem hc, hbegin.trans hsplit⟩
    | cons d before =>
      refine absurd ?_ htail
      rw [(List.cons.inj hsplit).2]
      simp

theorem ampersand_in_atOnce {cs before behind : List Char}
    (h : atOnce references cs = before ++ '&' :: behind) :
    ∃ r ∈ references, r.2.toList <+: '&' :: behind := by
  induction cs generalizing before with
  | nil => simp [atOnce] at h
  | cons c cs ih =>
    rw [atOnce, List.flatMap_cons] at h
    obtain ⟨more, -, hrest⟩ | ⟨rest, hc, hbehind⟩ := List.append_eq_append_iff.1 h
    · exact ih hrest
    · cases rest with
      | nil => exact @ih [] hbehind.symm
      | cons d rest =>
        obtain ⟨rfl, hbehind⟩ := List.cons.inj hbehind
        obtain ⟨r, hr, hwritten⟩ := ampersand_in_writtenFor hc
        exact ⟨r, hr, by rw [hwritten, hbehind]; exact List.prefix_append _ _⟩

/-! ## What escaping does to a text -/

theorem escapeChars_eq_inSequence (cs : List Char) :
    escapeChars cs = inSequence references cs := rfl

theorem escapeChars_eq_atOnce (cs : List Char) : escapeChars cs = atOnce references cs := by
  rw [escapeChars_eq_inSequence, inSequence_eq_atOnce references_in_order]

theorem escape_injective {s t : String} (h : escape s = escape t) : s = t := by
  rw [← decode_escape s, h, decode_escape]

/-- **Escaping loses nothing.**  The six passes are one substitution, which goes part
    by part; what they write holds no character that is reserved, each of its
    ampersands begins one of the six references, and the references taken back from
    left to right give the text as it was, whatever looked like a reference in it. -/
theorem escape_lossless (s : String) :
    (escape s).toList = inSequence references s.toList ∧
      inSequence references s.toList = atOnce references s.toList ∧
      (∀ t, escape (s ++ t) = escape s ++ escape t) ∧
      (∀ c ∈ ['<', '>', '"', '\x27', '@'], c ∉ (escape s).toList) ∧
      (∀ before behind, (escape s).toList = before ++ '&' :: behind →
        ∃ r ∈ references, r.2.toList <+: '&' :: behind) ∧
      decode (escape s) = s ∧
      ∀ t, escape s = escape t → s = t := by
  refine ⟨?_, inSequence_eq_atOnce references_in_order _, escape_append s, ?_, ?_,
    decode_escape s, fun t => escape_injective⟩
  · rw [toList_escape, escapeChars_eq_inSequence]
  · intro c hc
    rw [toList_escape]
    exact not_mem_escapeChars (by simpa [isReserved] using hc) _
  · intro before behind h
    rw [toList_escape, escapeChars_eq_atOnce] at h
    exact ampersand_in_atOnce h

end Pagewright.Html
