/-
  Texts as blocks of lines.

  * `blocksOf` takes a text apart at its blank lines; texts that have none, parted by one
    each, are its blocks (`blocksOf_intercalate`);
  * `between?`: what stands in a text between a beginning and an ending.
-/
import Mathlib.Tactic.Common
import Pagewright.Proofs.Text.Lines

namespace Pagewright

/-! ## Blocks of lines -/

namespace Text

/-- The lines of a text that consists of texts parted by line feeds. -/
theorem linesOf_lines {ls : List String} (hne : ls ≠ []) (h : ∀ l ∈ ls, '\n' ∉ l.toList) :
    linesOf (lines ls) = ls := by
  induction ls with
  | nil => exact absurd rfl hne
  | cons l ls ih =>
    obtain ⟨hl, hls⟩ := List.forall_mem_cons.1 h
    cases ls with
    | nil => rw [lines, String.intercalate_singleton, linesOf_of_not_mem hl]
    | cons l' ls =>
      have hrest : linesOf ("\n".intercalate (l' :: ls)) = l' :: ls := ih (by simp) hls
      rw [lines, String.intercalate_cons_cons, linesOf_append, hrest, linesOf_of_not_mem hl]
      rfl

/-- The blocks of a text: the lines before, between and behind its blank lines. -/
def blocksOf (s : String) : List (List String) := (linesOf s).splitOn ""

theorem linesOf_intercalate_blank (bs : List String) (hne : bs ≠ []) :
    linesOf ("\n\n".intercalate bs) = [""].intercalate (bs.map linesOf) := by
  induction bs with
  | nil => exact absurd rfl hne
  | cons b bs ih =>
    cases bs with
    | nil => rw [String.intercalate_singleton, List.map_singleton, List.intercalate_singleton]
    | cons c bs =>
      have hblank : b ++ "\n\n" ++ "\n\n".intercalate (c :: bs) =
          b ++ "\n" ++ ("" ++ "\n" ++ "\n\n".intercalate (c :: bs)) := by
        simp [← String.toList_inj]
      rw [String.intercalate_cons_cons, hblank, linesOf_append, linesOf_append, ih (by simp),
        List.map_cons (a := b), List.map_cons (a := c), List.intercalate_cons_cons,
        List.append_assoc]
      rfl

/-- Texts without blank lines that are parted by one each are the blocks. -/
theorem blocksOf_intercalate {bs : List String} (hne : bs ≠ []) (h : ∀ b ∈ bs, "" ∉ linesOf b) :
    blocksOf ("\n\n".intercalate bs) = bs.map linesOf := by
  rw [blocksOf, linesOf_intercalate_blank bs hne]
  exact List.splitOn_intercalate "" (List.forall_mem_map.2 h) (by simpa using hne)

/-- What stands in a text between a beginning and an ending. -/
def between? (front back s : String) : Option String :=
  let middle := String.ofList <|
    (s.toList.drop front.length).take (s.length - front.length - back.length)
  if s = front ++ middle ++ back then some middle else none

theorem between?_eq_some_iff {front back s middle : String} :
    between? front back s = some middle ↔ s = front ++ middle ++ back := by
  unfold between?
  dsimp only
  constructor
  · intro h
    split_ifs at h with hs
    rw [← Option.some.inj h]
    exact hs
  · rintro rfl
    have hmiddle : String.ofList (((front ++ middle ++ back).toList.drop front.length).take
        ((front ++ middle ++ back).length - front.length - back.length)) = middle := by
      have hlength : (front ++ middle ++ back).length - front.length - back.length =
          middle.toList.length := by
        simp only [String.length_append, String.length_toList]
        omega
      rw [hlength, String.toList_append, String.toList_append, List.append_assoc,
        ← String.length_toList (s := front), List.drop_left, List.take_left, String.ofList_toList]
    simp only [hmiddle, if_true]

end Text

end Pagewright
