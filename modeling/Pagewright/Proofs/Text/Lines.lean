/-
  Texts as lists of lines.

  * `linesOf` takes a text apart at its line feeds; a line feed parts a text
    wherever it stands (`linesOf_append`), and a text without any is one line
    (`linesOf_of_not_mem`);
  * texts that each end in a line feed are lines of their own (`linesOf_join`),
    and so are texts that each begin with one (`linesOf_hanging`);
  * `hang d` puts the space of `d` levels in front of every line but the first.
    It is what becomes of the lines of a text if that space is written behind
    each of its line feeds (`linesOf_substitute`).
-/
import Pagewright.Proofs.Files.Split
import Pagewright.Text.Basic

namespace Pagewright

/-! ## Parts -/

namespace Path

variable {separator : Char} {v w cs : List Char} {vs : List (List Char)}

/-- What stands in front of a text belongs to its first part. -/
theorem split_append_front (hw : separator ∉ w) (hcs : split separator cs = v :: vs) :
    split separator (w ++ cs) = (w ++ v) :: vs := by
  induction w with
  | nil => exact hcs
  | cons c w ih =>
    rw [List.mem_cons, not_or] at hw
    exact split_cons (Ne.symm hw.1) (ih hw.2)

/-- What is written behind each separator stands in front of every part but the
    first. -/
theorem split_substitute {s : String} (hs : separator ∉ s.toList)
    (hcs : split separator cs = v :: vs) :
    split separator (Text.substitute separator (String.singleton separator ++ s) cs) =
      v :: vs.map (s.toList ++ ·) := by
  induction cs generalizing v vs with
  | nil =>
    obtain ⟨rfl, rfl⟩ := List.cons.inj hcs
    rfl
  | cons c cs ih =>
    obtain ⟨u, us, hu⟩ := List.exists_cons_of_ne_nil (split_ne_nil separator cs)
    have hrest := ih hu
    rw [Text.substitute_cons]
    by_cases hc : c = separator
    · subst hc
      rw [split_separator, hu] at hcs
      obtain ⟨rfl, rfl⟩ := List.cons.inj hcs
      rw [if_pos rfl, String.toList_append, String.toList_singleton, List.append_assoc,
        List.singleton_append, split_separator, split_append_front hs hrest]
      rfl
    · rw [split_cons hc hu] at hcs
      obtain ⟨rfl, rfl⟩ := List.cons.inj hcs
      rw [if_neg hc, List.singleton_append, split_cons hc hrest]

end Path

namespace Text

/-! ## Lines -/

/-- The lines of a text: what stands before, between and behind its line feeds. -/
def linesOf (s : String) : List String := (Path.split '\n' s.toList).map String.ofList

variable {s t : String} {d : Nat}

theorem linesOf_ne_nil (s : String) : linesOf s ≠ [] := by
  rw [linesOf, ne_eq, List.map_eq_nil_iff]
  exact Path.split_ne_nil '\n' s.toList

/-- A text without line feeds is one line. -/
theorem linesOf_of_not_mem (h : '\n' ∉ s.toList) : linesOf s = [s] := by
  rw [linesOf, Path.split_of_not_mem h, List.map_singleton, String.ofList_toList]

/-- A line feed parts a text wherever it stands. -/
theorem linesOf_append (s t : String) : linesOf (s ++ "\n" ++ t) = linesOf s ++ linesOf t := by
  have hfeed : (s ++ "\n" ++ t).toList = s.toList ++ '\n' :: t.toList := by simp
  rw [linesOf, hfeed, Path.split_append, List.map_append]
  rfl

/-- Texts that each end in a line feed are the lines in front of what comes behind. -/
theorem linesOf_join {ls : List String} (h : ∀ l ∈ ls, '\n' ∉ l.toList) (t : String) :
    linesOf (String.join (ls.map (· ++ "\n")) ++ t) = ls ++ linesOf t := by
  induction ls with
  | nil => simp
  | cons l ls ih =>
    have hrest := ih fun l' hl' => h l' (by simp [hl'])
    rw [List.map_cons, String.join_cons, String.append_assoc, linesOf_append, hrest,
      linesOf_of_not_mem (h l (by simp))]
    rfl

/-- Texts that each begin with a line feed give their lines one after the other. -/
theorem linesOf_hanging (s : String) (ts : List String) :
    linesOf (s ++ String.join (ts.map ("\n" ++ ·))) = linesOf s ++ ts.flatMap linesOf := by
  induction ts generalizing s with
  | nil => simp
  | cons t ts ih =>
    have hfeed : s ++ String.join ((t :: ts).map ("\n" ++ ·)) =
        s ++ "\n" ++ (t ++ String.join (ts.map ("\n" ++ ·))) := by
      simp only [List.map_cons, String.join_cons, String.append_assoc]
    rw [hfeed, linesOf_append, ih, List.flatMap_cons]

/-! ## Indentation -/

theorem newline_notMem_indent (d : Nat) : '\n' ∉ (indent d).toList := by
  rw [toList_indent, List.mem_replicate]
  rintro ⟨-, h⟩
  exact absurd h (by decide)

/-- Lines with the space of `d` levels in front of each but the first. -/
def hang (d : Nat) : List String → List String
  | [] => []
  | l :: ls => l :: ls.map (indent d ++ ·)

/-- The space of `d` levels behind each line feed stands in front of every line
    but the first. -/
theorem linesOf_substitute (h : s.toList = substitute '\n' ("\n" ++ indent d) t.toList) :
    linesOf s = hang d (linesOf t) := by
  obtain ⟨w, ws, hw⟩ := List.exists_cons_of_ne_nil (Path.split_ne_nil '\n' t.toList)
  have hs : Path.split '\n' s.toList = w :: ws.map ((indent d).toList ++ ·) := by
    rw [h]
    exact Path.split_substitute (newline_notMem_indent d) hw
  rw [linesOf, linesOf, hs, hw, List.map_cons, List.map_cons, hang, List.map_map, List.map_map]
  congr 1
  refine List.map_congr_left fun v _ => ?_
  simp [← String.toList_inj]

/-- With that space in front of the first line too, it stands in front of all. -/
theorem linesOf_indent (h : linesOf s = hang d (linesOf t)) :
    linesOf (indent d ++ s) = (linesOf t).map (indent d ++ ·) := by
  obtain ⟨w, ws, hw⟩ := List.exists_cons_of_ne_nil (Path.split_ne_nil '\n' s.toList)
  obtain ⟨l, ls, hl⟩ := List.exists_cons_of_ne_nil (linesOf_ne_nil t)
  have hfront : linesOf (indent d ++ s) =
      (indent d ++ String.ofList w) :: ws.map String.ofList := by
    rw [linesOf, String.toList_append, Path.split_append_front (newline_notMem_indent d) hw,
      List.map_cons]
    simp [← String.toList_inj]
  rw [linesOf, hw, hl, hang, List.map_cons] at h
  obtain ⟨hfirst, hothers⟩ := List.cons.inj h
  rw [hfront, hl, List.map_cons, hfirst, hothers]

end Text

end Pagewright
