/-
  Neighbours in a text, and what is put between them.

  * `doubled_cons`, `doubled_append`: where a character stands twice in a row;
  * `fillGaps` puts a character into every chosen gap.  All gaps are those of the text as
    it is given, so that none depends on what is put into another;
  * `fillGaps_cons`: the same from left to right;
  * `doubled_fillGaps`: other characters stand twice in a row as before;
  * `fillGaps_eq_self`: where no gap is chosen, nothing changes.
-/
import Mathlib.Tactic.Common

namespace Pagewright

/-! ## Doubled characters -/

section
variable {b c : Char} {xs ys cs : List Char}

theorem doubled_cons : [b, b] <:+: c :: cs ↔ (b = c ∧ cs.head? = some b) ∨ [b, b] <:+: cs := by
  rw [List.infix_cons_iff, List.cons_prefix_cons]
  cases cs with
  | nil => simp
  | cons d cs => simp [eq_comm]

theorem doubled_append_of_not_mem (h : b ∉ xs) : [b, b] <:+: xs ++ ys ↔ [b, b] <:+: ys := by
  induction xs with
  | nil => rfl
  | cons x xs ih =>
    obtain ⟨hx, hxs⟩ := not_or.1 (mt List.mem_cons.2 h)
    rw [List.cons_append, doubled_cons, ih hxs]
    simp [hx]

theorem doubled_append (h : ys.head? ≠ some b) :
    [b, b] <:+: xs ++ ys ↔ [b, b] <:+: xs ∨ [b, b] <:+: ys := by
  induction xs with
  | nil => simp
  | cons x xs ih =>
    have hhead : (xs ++ ys).head? = some b ↔ xs.head? = some b := by
      cases xs with
      | nil => simpa using h
      | cons => rfl
    rw [List.cons_append, doubled_cons, doubled_cons, ih, hhead, or_assoc]

end

namespace Text

/-! ## Gaps -/

/-- The text with `filler` in each gap that is chosen: the gap behind a character is told
    by that character and the next one, if there is one. -/
def fillGaps (chosen : Char → Option Char → Bool) (filler : Char) (cs : List Char) : List Char :=
  cs.zipIdx.flatMap fun p => if chosen p.1 cs[p.2 + 1]? then [p.1, filler] else [p.1]

section
variable {chosen : Char → Option Char → Bool} {filler : Char}

@[simp] theorem fillGaps_nil : fillGaps chosen filler [] = [] := rfl

theorem fillGaps_cons (c : Char) (cs : List Char) :
    fillGaps chosen filler (c :: cs) =
      (if chosen c cs.head? then [c, filler] else [c]) ++ fillGaps chosen filler cs := by
  rw [fillGaps, List.zipIdx_cons, List.flatMap_cons, List.zipIdx_succ, List.flatMap_map]
  simp only [Nat.zero_add, List.getElem?_cons_succ, ← List.head?_eq_getElem?]
  rfl

theorem head?_fillGaps (cs : List Char) : (fillGaps chosen filler cs).head? = cs.head? := by
  cases cs with
  | nil => rfl
  | cons c cs =>
    rw [fillGaps_cons]
    split_ifs <;> rfl

theorem mem_fillGaps {d : Char} {cs : List Char} (h : d ∈ fillGaps chosen filler cs) :
    d = filler ∨ d ∈ cs := by
  induction cs with
  | nil => exact Or.inr h
  | cons c cs ih =>
    rw [fillGaps_cons, List.mem_append] at h
    rcases h with h | h
    · have hpair : d = c ∨ d = filler := by
        split_ifs at h
        · simpa using h
        · exact Or.inl (List.mem_singleton.1 h)
      rcases hpair with rfl | hfiller
      · exact Or.inr List.mem_cons_self
      · exact Or.inl hfiller
    · exact (ih h).imp_right (List.mem_cons_of_mem c)

/-- Characters that are not parted stay next to each other, and no others come to. -/
theorem doubled_fillGaps {b : Char} (hfiller : b ≠ filler) (hgap : ∀ next, ¬chosen b next)
    (cs : List Char) : [b, b] <:+: fillGaps chosen filler cs ↔ [b, b] <:+: cs := by
  induction cs with
  | nil => rfl
  | cons c cs ih =>
    rw [fillGaps_cons]
    split_ifs with h
    · have hc : b ≠ c := by
        rintro rfl
        exact hgap _ h
      rw [List.cons_append, List.singleton_append, doubled_cons, doubled_cons, doubled_cons, ih]
      simp [hc, hfiller]
    · rw [List.singleton_append, doubled_cons, doubled_cons, ih, head?_fillGaps]

/-- A text is left as it is if something that is true of it, and then of all that is behind
    its first character, rules out the first gap. -/
theorem fillGaps_eq_self {P : List Char → Prop}
    (hP : ∀ c cs, P (c :: cs) → ¬chosen c cs.head? ∧ P cs) {cs : List Char} (h : P cs) :
    fillGaps chosen filler cs = cs := by
  induction cs with
  | nil => rfl
  | cons c cs ih =>
    obtain ⟨hc, hcs⟩ := hP c cs h
    rw [fillGaps_cons, if_neg hc, ih hcs, List.singleton_append]

end

end Text

end Pagewright
