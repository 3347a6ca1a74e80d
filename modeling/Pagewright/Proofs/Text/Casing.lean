/-
  What lower case and kebab case leave of a text.

  Letters become other letters, and one of them even two; none becomes one of the marks
  in front of the letters in ASCII.

  * `mem_lower`, `mem_kebab`: such a mark comes from the text, but for the hyphens that
    kebab case puts in;
  * `splitHumps_eq_fillGaps`: it puts one into every hump;
  * `kebab_eq_empty_iff`: only the empty text becomes empty.
-/
import Mathlib.Tactic.Common
import Pagewright.Proofs.Text.Gaps
import Pagewright.Text.Humps

namespace Pagewright.Text

/-! ## One character -/

/-- The ASCII characters in front of the letters, without the null character. -/
def IsMark (c : Char) : Prop := 0 < c.toNat ∧ c.toNat < 'A'.toNat

instance (c : Char) : Decidable (IsMark c) := inferInstanceAs (Decidable (_ ∧ _))

theorem toNat_ofNat_of_isMark {n : Nat} (h : IsMark (Char.ofNat n)) : (Char.ofNat n).toNat = n := by
  by_cases hn : n.isValidChar
  · rw [Char.ofNat, dif_pos hn]
    rfl
  · -- A number that is no code point is read as the null character.
    have hzero : (Char.ofNat n).toNat = 0 := by rw [Char.ofNat, dif_neg hn]; rfl
    exact absurd h.1 (by omega)

theorem CaseRun.image?_eq_some {n m : Nat} {runs : List CaseRun} (h : image? n runs = some m) :
    ∃ r ∈ runs, r.first ≤ n ∧ m = (n + r.shift).toNat := by
  induction runs with
  | nil => exact absurd h (by simp [image?])
  | cons r runs ih =>
    rw [image?] at h
    split_ifs at h with hr
    · exact ⟨r, List.mem_cons_self, hr.1, (Option.some.inj h).symm⟩
    · obtain ⟨r', hr', hm⟩ := ih h
      exact ⟨r', List.mem_cons_of_mem r hr', hm⟩

/-- All that the tables for lower case write lies behind the first letter. -/
theorem le_lowerRuns : ∀ r ∈ lowerRuns, (0x41 : Int) ≤ r.first + r.shift := by
  decide +kernel

theorem le_lowerSpellings : ∀ w ∈ lowerSpellings, w.2 ≠ [] ∧ ∀ n ∈ w.2, 0x41 ≤ n := by decide

theorem lowerSpelling_mem {n : Nat} {w : List Nat} (h : lowerSpellings.lookup n = some w) :
    (n, w) ∈ lowerSpellings := by
  obtain ⟨l₁, l₂, happend, -⟩ := List.lookup_eq_some_iff.1 h
  simp [happend]

/-- What holds of the first 128 characters holds of every ASCII character. -/
theorem of_ascii {P : Char → Prop} (h : ∀ n < 128, P (Char.ofNat n)) {c : Char}
    (hc : c.toNat < 128) : P c := by
  have hchar := h c.toNat hc
  rwa [Char.ofNat_toNat] at hchar

theorem toLower_of_isMark {c : Char} (hc : c.toNat < 128) (h : IsMark c.toLower) :
    c.toLower = c :=
  of_ascii (P := fun c => IsMark c.toLower → c.toLower = c) (by decide) hc h

/-- A mark is written for itself only. -/
theorem mem_lowerOf {c d : Char} (hd : IsMark d) (h : d ∈ lowerOf c) : d = c := by
  unfold lowerOf caseOf at h
  split at h
  · next hascii =>
    obtain rfl := List.mem_singleton.1 h
    exact toLower_of_isMark hascii hd
  · split at h
    · next w hw =>
      obtain ⟨n, hn, rfl⟩ := List.mem_map.1 h
      have hle := (le_lowerSpellings _ (lowerSpelling_mem hw)).2 n hn
      have hmark := hd.2
      rw [toNat_ofNat_of_isMark hd] at hmark
      exact absurd hmark (by simpa using hle)
    · rw [List.mem_singleton] at h
      cases himage : CaseRun.image? c.toNat lowerRuns with
      | none => rw [h, himage]; rfl
      | some m =>
        rw [himage] at h
        obtain rfl : d = Char.ofNat m := h
        obtain ⟨r, hr, hfirst, hm⟩ := CaseRun.image?_eq_some himage
        have hle := le_lowerRuns r hr
        have hmark : m < 0x41 := by
          have hmark := hd.2
          rw [toNat_ofNat_of_isMark hd] at hmark
          exact hmark
        omega

theorem lowerOf_ne_nil (c : Char) : lowerOf c ≠ [] := by
  unfold lowerOf caseOf
  split
  · simp
  · split
    · next w hw =>
      have hne := (le_lowerSpellings _ (lowerSpelling_mem hw)).1
      simpa using hne
    · simp

/-! ## Texts -/

theorem mem_lowerAfter {before cs : List Char} {d : Char} (hd : IsMark d)
    (h : d ∈ lowerAfter before cs) : d ∈ cs := by
  induction cs generalizing before with
  | nil => exact h
  | cons c cs ih =>
    rw [lowerAfter, List.mem_append] at h
    rcases h with h | h
    · split_ifs at h
      · obtain rfl := List.mem_singleton.1 h
        exact absurd hd (by decide)
      · obtain rfl := List.mem_singleton.1 h
        exact absurd hd (by decide)
      · rw [mem_lowerOf hd h]
        exact List.mem_cons_self
    · exact List.mem_cons_of_mem c (ih h)

/-- The marks in the lower case of a text are marks of the text. -/
theorem mem_lower {cs : List Char} {d : Char} (hd : IsMark d) (h : d ∈ lower cs) : d ∈ cs :=
  mem_lowerAfter hd h

theorem lower_eq_nil_iff {cs : List Char} : lower cs = [] ↔ cs = [] := by
  constructor
  · intro h
    cases cs with
    | nil => rfl
    | cons c cs =>
      rw [lower, lowerAfter, List.append_eq_nil_iff] at h
      have hfirst := h.1
      split_ifs at hfirst
      exact absurd hfirst (lowerOf_ne_nil c)
  · rintro rfl; rfl

/-! ## Kebab case -/

/-- A hump is the gap between a lower-case letter and an upper-case one. -/
def isHump (c : Char) (next : Option Char) : Bool := c.isLower && next.any Char.isUpper

/-- **No hump is missed**, although both letters of one are consumed before the next one
    is sought. -/
theorem splitHumps_eq_fillGaps (cs : List Char) : splitHumps cs = fillGaps isHump '-' cs := by
  fun_induction splitHumps cs with
  | case1 a b cs hump ih =>
    have hfirst : isHump a (b :: cs).head? := hump
    -- The second letter is upper case, so that no hump begins with it.
    have hsecond : ¬isHump b cs.head? := by
      intro h
      have hupper : 'A'.val ≤ b.val ∧ b.val ≤ 'Z'.val :=
        of_decide_eq_true (Bool.and_eq_true_iff.1 hump).2
      have hlower : 'a'.val ≤ b.val :=
        of_decide_eq_true (Bool.and_eq_true_iff.1 (Bool.and_eq_true_iff.1 h).1).1
      exact absurd (UInt32.le_trans hlower hupper.2) (by decide)
    rw [fillGaps_cons, fillGaps_cons, if_pos hfirst, if_neg hsecond, ih]
    rfl
  | case2 a b cs hump ih =>
    have hfirst : ¬isHump a (b :: cs).head? := hump
    rw [fillGaps_cons, if_neg hfirst, ih]
    rfl
  | case3 cs hcs =>
    cases cs with
    | nil => rfl
    | cons a cs =>
      cases cs with
      | nil => simp [fillGaps_cons, isHump]
      | cons b cs => exact absurd rfl (hcs a b cs)

theorem mem_splitHumps {d : Char} {cs : List Char} (h : d ∈ splitHumps cs) : d ∈ cs ∨ d = '-' := by
  rw [splitHumps_eq_fillGaps] at h
  exact (mem_fillGaps h).symm

theorem head?_splitHumps (cs : List Char) : (splitHumps cs).head? = cs.head? := by
  rw [splitHumps_eq_fillGaps, head?_fillGaps]

/-- The marks in kebab case are marks of the text as well, but for the hyphens. -/
theorem mem_kebab {s : String} {d : Char} (hd : IsMark d) (hhyphen : d ≠ '-')
    (h : d ∈ (kebab s).toList) : d ∈ s.toList := by
  rw [kebab, String.toList_ofList] at h
  exact (mem_splitHumps (mem_lower hd h)).resolve_right hhyphen

theorem kebab_eq_empty_iff {s : String} : kebab s = "" ↔ s = "" := by
  have hhumps : splitHumps s.toList = [] ↔ s.toList = [] := by
    rw [← List.head?_eq_none_iff, head?_splitHumps, List.head?_eq_none_iff]
  rw [← String.toList_eq_nil_iff, kebab, String.toList_ofList, lower_eq_nil_iff, hhumps,
    String.toList_eq_nil_iff]

end Pagewright.Text
