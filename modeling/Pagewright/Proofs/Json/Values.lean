/-
  Lists and maps are read back as they are written.

  * `separated`: what stands between the brackets of a list or an object, from
    the first value on or from a later one;
  * `reads_list`: a list is read back when its elements are, with one bracket less;
  * `reads_map`: the entries of a map are put one after the other;
  * `readDocument_of_reads`: a document that is one written value.
-/
import Pagewright.Proofs.Json.Scalars

namespace Pagewright.Json

/-! ## Separators -/

/-- Written values one behind the other; a comma stands before each, unless it is the first. -/
def separated (first : Bool) : List String → List Char
  | [] => []
  | w :: ws => (if first then [] else [',']) ++ w.toList ++ separated false ws

theorem toList_intercalate_comma (ws : List String) :
    (",".intercalate ws).toList = separated true ws := by
  have hrest : ∀ w ws, (",".intercalate (w :: ws)).toList = w.toList ++ separated false ws := by
    intro w ws
    induction ws generalizing w with
    | nil => simp [separated]
    | cons v vs ih =>
      rw [String.intercalate_cons_cons, String.toList_append, String.toList_append, ih]
      simp [separated]
  cases ws with
  | nil => rfl
  | cons w ws =>
    rw [hrest]
    rfl

theorem toList_writeList (ws : List String) :
    (writeList ws).toList = '[' :: (separated true ws ++ [']']) := by
  rw [writeList, String.toList_append, String.toList_append, toList_intercalate_comma]
  rfl

theorem begins_writeList (ws : List String) : Begins (writeList ws) :=
  ⟨'[', _, toList_writeList ws, rfl⟩

/-- A member of an object as it is written. -/
def member (m : String × String) : String := writeString m.1 ++ ":" ++ m.2

theorem toList_writeObject (ms : List (String × String)) :
    (writeObject ms).toList = '\x7b' :: (separated true (ms.map member) ++ ['\x7d']) := by
  rw [writeObject, String.toList_append, String.toList_append, toList_intercalate_comma]
  rfl

theorem begins_writeObject (ms : List (String × String)) : Begins (writeObject ms) :=
  ⟨'\x7b', _, toList_writeObject ms, rfl⟩

/-- Behind each value stands a comma or the closing bracket. -/
theorem follows_separated {d : Char} (hd : d ∈ [']', '\x7d']) (ws : List String)
    (rest : List Char) : Follows (separated false ws ++ d :: rest) := by
  cases ws with
  | nil => exact follows_cons (List.mem_cons_of_mem _ hd) rest
  | cons w ws => exact follows_cons List.mem_cons_self _

/-- No value is empty, so that there are rounds enough to read them all. -/
theorem length_le_separated {ws : List String} (h : ∀ w ∈ ws, Begins w) (first : Bool) :
    ws.length ≤ (separated first ws).length := by
  induction ws generalizing first with
  | nil => exact Nat.le_refl _
  | cons w ws ih =>
    obtain ⟨⟨c, cs, hcs, -⟩, hws⟩ := List.forall_mem_cons.1 h
    have hrest := ih hws false
    simp only [separated, hcs, List.length_append, List.length_cons]
    omega

/-! ## Lists -/

theorem nextElement_more {w : String} (hw : Begins w) (first : Bool) (s : List Char) :
    nextElement first ((if first then [] else [',']) ++ w.toList ++ s) =
      .ok (.more (w.toList ++ s)) := by
  obtain ⟨c, cs, hcs, hc⟩ := hw
  have hblank := skipBlanks_cons (isBlank_of_isValueStart hc)
  have hend : c ≠ ']' := by
    rintro rfl
    exact absurd hc (by decide)
  have hcomma := skipBlanks_cons (c := ',') rfl
  rw [hcs]
  cases first with
  | true => simp [nextElement, hblank, hend]
  | false => simp [nextElement, hblank, hend, hcomma]

variable {α : Type} {r : Reader α} {write : α → String}

theorem readElements_separated {vs : List α} (hr : ∀ v ∈ vs, Reads r (write v) v)
    (hw : ∀ v ∈ vs, Begins (write v)) (rest : List Char) (first : Bool) {fuel : Nat}
    (hfuel : vs.length < fuel) :
    readElements r first fuel (separated first (vs.map write) ++ ']' :: rest) = .ok (vs, rest) := by
  induction vs generalizing first fuel with
  | nil =>
    obtain ⟨fuel, rfl⟩ := Nat.exists_eq_succ_of_ne_zero (Nat.ne_zero_of_lt hfuel)
    rfl
  | cons v vs ih =>
    obtain ⟨fuel, rfl⟩ := Nat.exists_eq_succ_of_ne_zero (Nat.ne_zero_of_lt hfuel)
    obtain ⟨hv, hvs⟩ := List.forall_mem_cons.1 hr
    obtain ⟨hbegins, hws⟩ := List.forall_mem_cons.1 hw
    have hnext := nextElement_more hbegins first (separated false (vs.map write) ++ ']' :: rest)
    have hvalue := hv _ (follows_separated (d := ']') (by decide) (vs.map write) rest)
    have hrest := ih hvs hws false (Nat.lt_of_succ_lt_succ hfuel)
    rw [readElements, List.map_cons, separated, List.append_assoc, hnext]
    simp only [bind, Except.bind, hvalue, hrest]

/-- A list is read back when each of its elements is. -/
theorem reads_list {r : Nat → Reader α} {depth : Nat} {vs : List α}
    (hr : ∀ v ∈ vs, Reads (r depth) (write v) v) (hw : ∀ v ∈ vs, Begins (write v)) :
    Reads (readList (depth + 1) r) (writeList (vs.map write)) vs := by
  intro rest _
  have hlength := length_le_separated (List.forall_mem_map.2 hw) true
  rw [toList_writeList, List.cons_append, readList, skipBlanks_cons rfl]
  simp only [if_true, List.append_assoc, List.singleton_append]
  refine readElements_separated hr hw rest true ?_
  rw [List.length_map] at hlength
  rw [List.length_append]
  omega

/-! ## Objects -/

theorem nextKey_done (first : Bool) (s : List Char) :
    nextKey first ('\x7d' :: s) = .ok (.done s) := rfl

theorem nextKey_more (first : Bool) (s : List Char) :
    nextKey first ((if first then [] else [',']) ++ '"' :: s) = .ok (.more s) := by
  cases first <;> rfl

theorem passColon_colon (s : List Char) : passColon (':' :: s) = .ok s := rfl

theorem toList_member (m : String × String) :
    (member m).toList = '"' :: (m.1.toList.flatMap writeChar ++ '"' :: ':' :: m.2.toList) := by
  rw [member, String.toList_append, String.toList_append, toList_writeString]
  simp

theorem begins_member (m : String × String) : Begins (member m) := ⟨'"', _, toList_member m, rfl⟩

section
variable {σ : Type} {insert : σ → String → String → σ}

theorem readEntries_separated (ps : List (String × String)) (rest : List Char) (first : Bool)
    {fuel : Nat} (hfuel : ps.length < fuel) (acc : σ) :
    readEntries insert first fuel acc
      (separated first (ps.map fun p => member (p.1, writeString p.2)) ++ '\x7d' :: rest) =
      .ok (ps.foldl (fun acc p => insert acc p.1 p.2) acc, rest) := by
  induction ps generalizing first fuel acc with
  | nil =>
    obtain ⟨fuel, rfl⟩ := Nat.exists_eq_succ_of_ne_zero (Nat.ne_zero_of_lt hfuel)
    rfl
  | cons p ps ih =>
    obtain ⟨fuel, rfl⟩ := Nat.exists_eq_succ_of_ne_zero (Nat.ne_zero_of_lt hfuel)
    have hvalue := reads_string p.2 _ (follows_separated (d := '\x7d') (by decide)
      (ps.map fun p => member (p.1, writeString p.2)) rest)
    have hrest := ih false (Nat.lt_of_succ_lt_succ hfuel) (insert acc p.1 p.2)
    rw [readEntries, List.map_cons, separated, toList_member]
    simp only [List.append_assoc, List.cons_append]
    rw [nextKey_more]
    simp only [bind, Except.bind, scanString_writeString, passColon_colon, hvalue, hrest,
      List.foldl_cons]

/-- A map is read back by putting its entries one after the other. -/
theorem reads_map (depth : Nat) (empty : σ) (ps : List (String × String)) :
    Reads (readMap (depth + 1) empty insert) (writeObject (ps.map fun p => (p.1, writeString p.2)))
      (ps.foldl (fun acc p => insert acc p.1 p.2) empty) := by
  intro rest _
  rw [toList_writeObject, List.map_map, List.cons_append, readMap, skipBlanks_cons rfl]
  simp only [if_true, List.append_assoc, List.singleton_append]
  refine readEntries_separated ps rest true ?_ empty
  have hlength := length_le_separated
    (List.forall_mem_map.2 fun p (_ : p ∈ ps) => begins_member (p.1, writeString p.2)) true
  rw [List.length_map] at hlength
  rw [List.length_append]
  exact Nat.lt_succ_of_le (Nat.le_add_right_of_le hlength)

end

/-! ## Documents -/

theorem readDocument_of_reads {w : String} {v : α} (h : Reads r w v) :
    readDocument r w.toList = .ok v := by
  have hread := h [] follows_nil
  rw [List.append_nil] at hread
  rw [readDocument, hread]
  rfl

end Pagewright.Json
