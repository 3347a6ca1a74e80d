/-
  Comments, and the tags that are written into them.

  * `readComment?` reads a comment the way browsers do: it ends at the first `-->` or
    `--!>`, or right where it begins;
  * `HyphensApart`: no two hyphens are adjacent and none is last.  The spaces of a comment
    see to that (`hyphensApart_fillGaps`), and a text that is so gets none
    (`fillGaps_of_hyphensApart`);
  * `untilEnd?_append`: an end of a comment needs a `>`, so without one in front of it a
    `-->` is the first;
  * `unknown_within_comment` puts this together: nothing in the tag of an unknown
    component ends the comment that it is written into.
-/
import Mathlib.Tactic.Common
import Pagewright.Markup
import Pagewright.Proofs.Text.Entities

namespace Pagewright

open Text

namespace Html

/-! ## Reading comments -/

/-- What stands behind the end of a comment, if one begins here. -/
def behindEnd? : List Char → Option (List Char)
  | '-' :: '-' :: '>' :: rest => some rest
  | '-' :: '-' :: '!' :: '>' :: rest => some rest
  | _ => none

/-- The characters up to the first end of a comment, and those behind it. -/
def untilEnd? : List Char → Option (List Char × List Char)
  | [] => none
  | c :: cs =>
    match behindEnd? (c :: cs) with
    | some rest => some ([], rest)
    | none => (untilEnd? cs).map fun p => (c :: p.1, p.2)

/-- What a comment at the beginning of a text says, and what stands behind it.  The two
    short forms are comments without a text. -/
def readComment? (s : String) : Option (String × String) :=
  match s.toList with
  | '<' :: '!' :: '-' :: '-' :: '>' :: rest => some ("", String.ofList rest)
  | '<' :: '!' :: '-' :: '-' :: '-' :: '>' :: rest => some ("", String.ofList rest)
  | '<' :: '!' :: '-' :: '-' :: cs =>
    (untilEnd? cs).map fun p => (String.ofList p.1, String.ofList p.2)
  | _ => none

/-- An end of a comment reaches to a `>`: what has none in front of a `-->` does not begin
    with one. -/
theorem behindEnd?_eq_none {c : Char} {cs : List Char} (h : '>' ∉ c :: cs) (rest : List Char) :
    behindEnd? (c :: cs ++ '-' :: '-' :: '>' :: rest) = none := by
  rw [behindEnd?.eq_def]
  split
  · next heq =>
    match cs with
    | [] | [_] => simp at heq
    | _ :: _ :: _ => simp_all
  · next heq =>
    match cs with
    | [] | [_] | [_, _] => simp at heq
    | _ :: _ :: _ :: _ => simp_all
  · rfl

theorem untilEnd?_append {cs : List Char} (h : '>' ∉ cs) (rest : List Char) :
    untilEnd? (cs ++ '-' :: '-' :: '>' :: rest) = some (cs, rest) := by
  induction cs with
  | nil => rfl
  | cons c cs ih =>
    rw [List.cons_append, untilEnd?, ← List.cons_append, behindEnd?_eq_none h,
      ih (List.not_mem_of_not_mem_cons h)]
    rfl

/-- **A comment ends at the first `-->`** if there is no `>` in front of it. -/
theorem readComment?_append {s : String} (h : '>' ∉ s.toList) (rest : String) :
    readComment? ("<!--" ++ s ++ "-->" ++ rest) = some (s, rest) := by
  have hchars : ("<!--" ++ s ++ "-->" ++ rest).toList =
      '<' :: '!' :: '-' :: '-' :: (s.toList ++ '-' :: '-' :: '>' :: rest.toList) := by
    simp
  rw [readComment?, hchars]
  split
  · next heq =>
    match hs : s.toList with
    | [] => simp [hs] at heq
    | _ :: _ => simp_all
  · next heq =>
    match hs : s.toList with
    | [] | [_] => simp [hs] at heq
    | _ :: _ :: _ => simp_all
  · next cs _ _ heq =>
    have hcs : s.toList ++ '-' :: '-' :: '>' :: rest.toList = cs := by simpa using heq
    rw [← hcs, untilEnd?_append h]
    simp
  · next hno => exact absurd rfl (hno _)

/-! ## Hyphens -/

/-- No two hyphens are adjacent, and none is last. -/
def HyphensApart (cs : List Char) : Prop := ¬['-', '-'] <:+: cs ∧ cs.getLast? ≠ some '-'

theorem hyphensApart_cons {c : Char} {cs : List Char} :
    HyphensApart (c :: cs) ↔ ¬needsSpace c cs.head? ∧ HyphensApart cs := by
  rw [HyphensApart, HyphensApart, doubled_cons]
  cases cs with
  | nil => simp [needsSpace]
  | cons d cs =>
    rw [List.getLast?_cons_cons, List.head?_cons, needsSpace]
    simp only [Option.some.injEq, Option.beq_none, Option.isNone_some, Option.some_beq_some,
      Bool.false_or, Bool.and_eq_true, beq_iff_eq]
    tauto

/-- The spaces of a comment part its hyphens from each other and from what follows. -/
theorem hyphensApart_fillGaps (cs : List Char) : HyphensApart (fillGaps needsSpace ' ' cs) := by
  induction cs with
  | nil => simp [HyphensApart]
  | cons c cs ih =>
    rw [fillGaps_cons]
    split_ifs with h
    · have hspace : HyphensApart (' ' :: fillGaps needsSpace ' ' cs) :=
        hyphensApart_cons.2 ⟨by simp [needsSpace], ih⟩
      exact hyphensApart_cons.2 ⟨by simp [needsSpace], hspace⟩
    · rw [List.singleton_append, hyphensApart_cons, head?_fillGaps]
      exact ⟨h, ih⟩

/-- Hyphens that are apart get no spaces. -/
theorem fillGaps_of_hyphensApart {cs : List Char} (h : HyphensApart cs) :
    fillGaps needsSpace ' ' cs = cs :=
  fillGaps_eq_self (fun _ _ => hyphensApart_cons.1) h

theorem hyphensApart_escapeComment (s : String) : HyphensApart (escapeComment s).toList := by
  rw [toList_escapeComment]
  exact hyphensApart_fillGaps _

/-- A text for a comment is written without spaces exactly if its hyphens are apart. -/
theorem escapeComment_eq_escape_iff (s : String) :
    escapeComment s = escape s ↔ HyphensApart (escape s).toList := by
  constructor
  · intro h
    rw [← h]
    exact hyphensApart_escapeComment s
  · intro h
    rw [← String.toList_inj, toList_escapeComment, fillGaps_of_hyphensApart h]

example : escapeComment "<!--" = "&lt;!- - " := by decide

end Html

/-! ## Unknown components -/

open Html

namespace Component

theorem render_unknown (d : Nat) (a : Attributes) (cs : List Component) (tag : String) :
    render d (node { a with kind := .unknown tag } cs) =
      "<!-- Unknown component: " ++ escapeComment tag ++ " -->" := by
  rw [render, template]
  simp [Attributes.shape, Template.render, Segment.render, String.append_assoc]

/-- **An unknown tag stays in its comment.**  For a comment it is escaped as any text, with
    spaces behind the hyphens that another one or nothing follows, and only there.  It then
    holds no angle bracket, no two hyphens in a row and no hyphen at its end; and what a
    reader takes for the comment ends where the emitter ends it, whatever comes behind. -/
theorem unknown_within_comment (tag : String) :
    '<' ∉ (escapeComment tag).toList ∧ '>' ∉ (escapeComment tag).toList ∧
      HyphensApart (escapeComment tag).toList ∧
      (∀ (d : Nat) (a : Attributes) (cs : List Component) (rest : String),
        readComment? (render d (node { a with kind := .unknown tag } cs) ++ rest) =
          some (" Unknown component: " ++ escapeComment tag ++ " ", rest)) ∧
      (escapeComment tag).toList = fillGaps needsSpace ' ' (escape tag).toList ∧
      (escapeComment tag = escape tag ↔ HyphensApart (escape tag).toList) := by
  refine ⟨not_mem_escapeComment (by decide) tag, not_mem_escapeComment (by decide) tag,
    hyphensApart_escapeComment tag, ?_, toList_escapeComment tag,
    escapeComment_eq_escape_iff tag⟩
  intro d a cs rest
  have hgt : '>' ∉ (" Unknown component: " ++ escapeComment tag ++ " ").toList := by
    simpa using not_mem_escapeComment (by decide) tag
  have hparts : "<!-- Unknown component: " ++ escapeComment tag ++ " -->" =
      "<!--" ++ (" Unknown component: " ++ escapeComment tag ++ " ") ++ "-->" := by
    apply String.toList_inj.1
    simp
  rw [render_unknown, hparts, readComment?_append hgt]

end Component

end Pagewright
