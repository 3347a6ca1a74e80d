/-
  Texts taken apart at separators and put together again.
-/
import Mathlib.Tactic.Common
import Pagewright.Files.Path

namespace Pagewright.Path

variable {separator : Char}

theorem split_ne_nil (separator : Char) (cs : List Char) : split separator cs ≠ [] := by
  cases cs with
  | nil => simp [split]
  | cons c cs =>
    rw [split]
    split_ifs
    · simp
    · cases split separator cs <;> simp

theorem split_separator (cs : List Char) :
    split separator (separator :: cs) = [] :: split separator cs := by
  rw [split, if_pos rfl]

theorem split_cons {c : Char} (h : c ≠ separator) {cs w : List Char} {ws : List (List Char)}
    (hcs : split separator cs = w :: ws) : split separator (c :: cs) = (c :: w) :: ws := by
  rw [split, if_neg h, hcs]

theorem split_of_not_mem {w : List Char} (h : separator ∉ w) : split separator w = [w] := by
  induction w with
  | nil => rfl
  | cons c w ih =>
    rw [List.mem_cons, not_or] at h
    exact split_cons (Ne.symm h.1) (ih h.2)

/-- A separator parts a text wherever it stands. -/
theorem split_append (cs ds : List Char) :
    split separator (cs ++ separator :: ds) = split separator cs ++ split separator ds := by
  induction cs with
  | nil => rw [List.nil_append, split_separator]; rfl
  | cons c cs ih =>
    obtain ⟨w, ws, hcs⟩ := List.exists_cons_of_ne_nil (split_ne_nil separator cs)
    rw [hcs] at ih
    by_cases h : c = separator
    · subst h
      rw [List.cons_append, split_separator, split_separator, ih, hcs]
      rfl
    · rw [List.cons_append, split_cons h ih, split_cons h hcs]
      rfl

/-- The last part of a text is behind the last separator. -/
theorem split_append_last (cs : List Char) {w : List Char} (h : separator ∉ w) :
    ∃ ps p, split separator (cs ++ w) = ps ++ [p ++ w] := by
  induction cs with
  | nil => exact ⟨[], [], by rw [List.nil_append, split_of_not_mem h]; rfl⟩
  | cons c cs ih =>
    obtain ⟨ps, p, hp⟩ := ih
    by_cases hc : c = separator
    · subst hc
      exact ⟨[] :: ps, p, by rw [List.cons_append, split_separator, hp]; rfl⟩
    · cases ps with
      | nil => exact ⟨[], c :: p, by rw [List.cons_append, split_cons hc hp]; rfl⟩
      | cons q ps => exact ⟨(c :: q) :: ps, p, by rw [List.cons_append, split_cons hc hp]; rfl⟩

/-- Parts that are followed by separators are taken apart again. -/
theorem split_flatMap {last : List Char} (hlast : separator ∉ last) {parts : List (List Char)}
    (hparts : ∀ p ∈ parts, separator ∉ p) :
    split separator (parts.flatMap (· ++ [separator]) ++ last) = parts ++ [last] := by
  induction parts with
  | nil => exact split_of_not_mem hlast
  | cons p parts ih =>
    have hrest := ih fun q hq => hparts q (by simp [hq])
    rw [List.flatMap_cons, List.append_assoc, List.append_assoc, List.singleton_append,
      split_append, split_of_not_mem (hparts p (by simp)), hrest]
    rfl

theorem not_mem_of_mem_split {cs : List Char} : ∀ p ∈ split separator cs, separator ∉ p := by
  induction cs with
  | nil => simp [split]
  | cons c cs ih =>
    obtain ⟨w, ws, hcs⟩ := List.exists_cons_of_ne_nil (split_ne_nil separator cs)
    by_cases h : c = separator
    · subst h
      rw [split_separator]
      exact List.forall_mem_cons.2 ⟨List.not_mem_nil, ih⟩
    · rw [split_cons h hcs]
      rw [hcs] at ih
      obtain ⟨hw, hws⟩ := List.forall_mem_cons.1 ih
      exact List.forall_mem_cons.2 ⟨by simpa [hw] using Ne.symm h, hws⟩

/-- The parts of a text put together are the text. -/
theorem intercalate_split (cs : List Char) : [separator].intercalate (split separator cs) = cs := by
  induction cs with
  | nil => rfl
  | cons c cs ih =>
    obtain ⟨w, ws, hcs⟩ := List.exists_cons_of_ne_nil (split_ne_nil separator cs)
    by_cases h : c = separator
    · subst h
      rw [split_separator, hcs, List.intercalate_cons_cons, ← hcs, ih]
      rfl
    · rw [split_cons h hcs, List.intercalate_cons_cons_left, ← hcs, ih]

theorem split_intercalate {ps : List (List Char)} (hne : ps ≠ [])
    (h : ∀ p ∈ ps, separator ∉ p) : split separator ([separator].intercalate ps) = ps := by
  induction ps with
  | nil => exact absurd rfl hne
  | cons p ps ih =>
    cases ps with
    | nil => rw [List.intercalate_singleton, split_of_not_mem (h p (by simp))]
    | cons q ps =>
      rw [List.intercalate_cons_cons, List.append_assoc, List.singleton_append, split_append,
        split_of_not_mem (h p (by simp)), ih (by simp) fun r hr => h r (by simp [hr])]
      rfl

/-- The first parts of a text are the beginning of it. -/
theorem intercalate_mono {ps qs : List (List Char)} (h : ps <+: qs) :
    [separator].intercalate ps <+: [separator].intercalate qs := by
  induction ps generalizing qs with
  | nil => exact List.nil_prefix
  | cons p ps ih =>
    obtain ⟨rs, rfl⟩ := h
    cases ps with
    | nil =>
      cases rs with
      | nil => exact List.prefix_refl _
      | cons r rs =>
        rw [List.intercalate_singleton, List.cons_append, List.nil_append,
          List.intercalate_cons_cons, List.append_assoc]
        exact List.prefix_append _ _
    | cons q ps =>
      rw [List.cons_append, List.cons_append, List.intercalate_cons_cons,
        List.intercalate_cons_cons, List.prefix_append_right_inj]
      exact ih ⟨rs, rfl⟩

end Pagewright.Path
