/-
  Names in camel case, and what kebab case makes of them.

  * `toList_kebab`: on ASCII, kebab case is a hyphen in every hump and a lower-case letter
    for every upper-case one, which done once more changes nothing (`kebab_kebab`);
  * `IsCamelName`: words of lower-case letters, each but the first behind an upper-case
    letter.  On these, `camel` takes kebab case back (`camel_kebab`);
  * `kebab_injOn`: so they are told apart in kebab case, as properties of a stylesheet
    (`nodup_properties`) and as elements of pages (`selector_injOn`);
  * `kebab_spec` puts this together.
-/
import Mathlib.Data.Set.Function
import Mathlib.Tactic.Common
import Pagewright.Component.Styles
import Pagewright.Proofs.Page.Names

namespace Pagewright

namespace Text

/-! ## Letters -/

section
variable {c : Char}

theorem isAlpha_of_isUpper (h : c.isUpper) : c.isAlpha := (Bool.or_eq_true _ _).mpr (Or.inl h)

theorem isAlpha_of_isLower (h : c.isLower) : c.isAlpha := (Bool.or_eq_true _ _).mpr (Or.inr h)

theorem ascii_of_isAlpha (h : c.isAlpha) : c.toNat < 128 :=
  ((isAlpha_iff c).1 h).isNameChar.ascii

theorem not_isLower_of_isUpper (h : c.isUpper) : ¬c.isLower :=
  of_ascii (P := fun c => c.isUpper → ¬c.isLower) (by decide)
    (ascii_of_isAlpha (isAlpha_of_isUpper h)) h

theorem not_isUpper_toLower (hc : c.toNat < 128) : ¬c.toLower.isUpper :=
  of_ascii (P := fun c => ¬c.toLower.isUpper) (by decide) hc

theorem toLower_of_not_isUpper (hc : c.toNat < 128) (h : ¬c.isUpper) : c.toLower = c :=
  of_ascii (P := fun c => ¬c.isUpper → c.toLower = c) (by decide) hc h

theorem isAlpha_toLower (h : c.isUpper) : c.toLower.isAlpha :=
  of_ascii (P := fun c => c.isUpper → c.toLower.isAlpha) (by decide)
    (ascii_of_isAlpha (isAlpha_of_isUpper h)) h

theorem toUpper_toLower (h : c.isUpper) : c.toLower.toUpper = c :=
  of_ascii (P := fun c => c.isUpper → c.toLower.toUpper = c) (by decide)
    (ascii_of_isAlpha (isAlpha_of_isUpper h)) h

end

/-! ## Kebab case on ASCII -/

section
variable {s : String}

theorem ascii_fillGaps {cs : List Char} (h : ∀ c ∈ cs, c.toNat < 128) :
    ∀ c ∈ fillGaps isHump '-' cs, c.toNat < 128 := by
  intro c hc
  rcases mem_fillGaps hc with rfl | hc
  · decide
  · exact h c hc

/-- Kebab case on ASCII, letter by letter. -/
theorem toList_kebab (h : ∀ c ∈ s.toList, c.toNat < 128) :
    (kebab s).toList = (fillGaps isHump '-' s.toList).map Char.toLower := by
  rw [kebab, String.toList_ofList, splitHumps_eq_fillGaps, lower_of_ascii (ascii_fillGaps h)]

/-- Without upper-case letters there is no hump. -/
theorem fillGaps_of_not_isUpper {cs : List Char} (h : ∀ c ∈ cs, ¬c.isUpper) :
    fillGaps isHump '-' cs = cs := by
  refine fillGaps_eq_self (P := fun cs => ∀ c ∈ cs, ¬c.isUpper) (fun c cs h => ?_) h
  obtain ⟨-, hcs⟩ := List.forall_mem_cons.1 h
  refine ⟨fun hhump => ?_, hcs⟩
  obtain ⟨d, hd, hupper⟩ := (Option.any_eq_true _ _).1 (Bool.and_eq_true_iff.1 hhump).2
  exact hcs d (List.mem_of_mem_head? hd) hupper

theorem map_toLower_of_not_isUpper {cs : List Char} (hcs : ∀ c ∈ cs, c.toNat < 128)
    (h : ∀ c ∈ cs, ¬c.isUpper) : cs.map Char.toLower = cs := by
  rw [List.map_congr_left fun c hc => toLower_of_not_isUpper (hcs c hc) (h c hc), List.map_id']

/-- A text in lower case stays as it is. -/
theorem kebab_eq_self (hs : ∀ c ∈ s.toList, c.toNat < 128) (h : ∀ c ∈ s.toList, ¬c.isUpper) :
    kebab s = s := by
  rw [← String.toList_inj, toList_kebab hs, fillGaps_of_not_isUpper h,
    map_toLower_of_not_isUpper hs h]

/-- **What is in kebab case stays as it is.** -/
theorem kebab_kebab (h : ∀ c ∈ s.toList, c.toNat < 128) : kebab (kebab s) = kebab s := by
  have hlower : ∀ c ∈ (kebab s).toList, ∃ d : Char, d.toNat < 128 ∧ d.toLower = c := by
    rw [toList_kebab h]
    intro c hc
    obtain ⟨d, hd, rfl⟩ := List.mem_map.1 hc
    exact ⟨d, ascii_fillGaps h d hd, rfl⟩
  apply kebab_eq_self
  · intro c hc
    obtain ⟨d, hd, rfl⟩ := hlower c hc
    exact of_ascii (P := fun c => c.toLower.toNat < 128) (by decide) hd
  · intro c hc
    obtain ⟨d, hd, rfl⟩ := hlower c hc
    exact not_isUpper_toLower hd

end

/-! ## Camel case -/

/-- The characters with each hyphen and the letter behind it as an upper-case letter. -/
def joinHumps : List Char → List Char
  | '-' :: c :: cs => if c.isAlpha then c.toUpper :: joinHumps cs else '-' :: joinHumps (c :: cs)
  | c :: cs => c :: joinHumps cs
  | [] => []

/-- A name in camel case: `background-color` becomes `backgroundColor`. -/
def camel (s : String) : String := String.ofList (joinHumps s.toList)

/-- A word of lower-case letters: `[a-z]+`. -/
def IsLowerWord (w : List Char) : Prop := w ≠ [] ∧ w.all Char.isLower

instance (w : List Char) : Decidable (IsLowerWord w) := inferInstanceAs (Decidable (_ ∧ _))

/-- Words one behind the other, each behind a letter of its own. -/
def capitalized (ps : List (Char × List Char)) : List Char := ps.flatMap fun p => p.1 :: p.2

theorem capitalized_cons (u : Char) (v : List Char) (ps : List (Char × List Char)) :
    capitalized ((u, v) :: ps) = u :: (v ++ capitalized ps) := rfl

/-- A name in camel case: `[a-z]+([A-Z][a-z]+)*`. -/
def IsCamelName (s : String) : Prop :=
  ∃ w ps, IsLowerWord w ∧ (∀ p ∈ ps, p.1.isUpper ∧ IsLowerWord p.2) ∧
    s.toList = w ++ capitalized ps

theorem joinHumps_cons {c : Char} (h : c ≠ '-') (cs : List Char) :
    joinHumps (c :: cs) = c :: joinHumps cs := by
  rw [joinHumps.eq_def]
  split <;> simp_all

theorem joinHumps_hyphen {c : Char} (h : c.isAlpha) (cs : List Char) :
    joinHumps ('-' :: c :: cs) = c.toUpper :: joinHumps cs := by
  rw [joinHumps, if_pos h]

theorem joinHumps_append {w : List Char} (h : '-' ∉ w) (cs : List Char) :
    joinHumps (w ++ cs) = w ++ joinHumps cs := by
  induction w with
  | nil => rfl
  | cons c w ih =>
    obtain ⟨hc, hw⟩ := not_or.1 (mt List.mem_cons.2 h)
    rw [List.cons_append, joinHumps_cons (Ne.symm hc), ih hw, List.cons_append]

/-- Between a word and an upper-case letter there is a hump, and the letter begins none. -/
theorem fillGaps_append {w : List Char} {u : Char} (hne : w ≠ []) (hw : ∀ c ∈ w, c.isLower)
    (hu : u.isUpper) (cs : List Char) :
    fillGaps isHump '-' (w ++ u :: cs) = w ++ '-' :: u :: fillGaps isHump '-' cs := by
  induction w with
  | nil => exact absurd rfl hne
  | cons a w ih =>
    obtain ⟨ha, hw⟩ := List.forall_mem_cons.1 hw
    cases w with
    | nil =>
      have hhump : isHump a (some u) := by simp [isHump, ha, hu]
      have hnone : ¬isHump u cs.head? := by simp [isHump, not_isLower_of_isUpper hu]
      simp [fillGaps_cons, hhump, hnone]
    | cons b w =>
      have hb : ¬b.isUpper := fun h => not_isLower_of_isUpper h (hw b List.mem_cons_self)
      have hnone : ¬isHump a (some b) := by simp [isHump, hb]
      rw [List.cons_append, fillGaps_cons, ih (List.cons_ne_nil b w) hw, List.cons_append,
        List.head?_cons, if_neg hnone]
      rfl

namespace IsLowerWord

variable {w : List Char}

theorem isLower (hw : IsLowerWord w) : ∀ c ∈ w, c.isLower := List.all_eq_true.1 hw.2

theorem not_isUpper (hw : IsLowerWord w) : ∀ c ∈ w, ¬c.isUpper :=
  fun c hc hupper => not_isLower_of_isUpper hupper (hw.isLower c hc)

theorem map_toLower (hw : IsLowerWord w) : w.map Char.toLower = w :=
  map_toLower_of_not_isUpper (fun c hc => ascii_of_isAlpha (isAlpha_of_isLower (hw.isLower c hc)))
    hw.not_isUpper

theorem hyphen_not_mem (hw : IsLowerWord w) : '-' ∉ w :=
  fun h => absurd (hw.isLower _ h) (by decide)

end IsLowerWord

/-- Between hyphens, words are put together again. -/
theorem joinHumps_fillGaps {w : List Char} {ps : List (Char × List Char)} (hw : IsLowerWord w)
    (hps : ∀ p ∈ ps, p.1.isUpper ∧ IsLowerWord p.2) :
    joinHumps ((fillGaps isHump '-' (w ++ capitalized ps)).map Char.toLower) =
      w ++ capitalized ps := by
  induction ps generalizing w with
  | nil =>
    have hend := joinHumps_append hw.hyphen_not_mem []
    rw [List.append_nil] at hend
    rw [capitalized, List.flatMap_nil, List.append_nil, fillGaps_of_not_isUpper hw.not_isUpper,
      hw.map_toLower, hend]
    exact List.append_nil w
  | cons p ps ih =>
    obtain ⟨u, v⟩ := p
    obtain ⟨⟨hu, hv⟩, hps⟩ := List.forall_mem_cons.1 hps
    have hhyphen : '-'.toLower = '-' := rfl
    rw [capitalized_cons, fillGaps_append hw.1 hw.isLower hu, List.map_append, List.map_cons,
      List.map_cons, hw.map_toLower, joinHumps_append hw.hyphen_not_mem, hhyphen,
      joinHumps_hyphen (isAlpha_toLower hu), toUpper_toLower hu, ih hv hps]

theorem IsCamelName.isAlpha {s : String} (h : IsCamelName s) : ∀ c ∈ s.toList, c.isAlpha := by
  obtain ⟨w, ps, hw, hps, hs⟩ := h
  have hword : ∀ {v : List Char}, IsLowerWord v → ∀ c ∈ v, c.isAlpha :=
    fun hv c hc => isAlpha_of_isLower (hv.isLower c hc)
  intro c hc
  rw [hs, List.mem_append] at hc
  rcases hc with hc | hc
  · exact hword hw c hc
  · obtain ⟨p, hp, hc⟩ := List.mem_flatMap.1 hc
    obtain ⟨hu, hv⟩ := hps p hp
    rcases List.mem_cons.1 hc with rfl | hc
    · exact isAlpha_of_isUpper hu
    · exact hword hv c hc

theorem IsCamelName.ascii {s : String} (h : IsCamelName s) : ∀ c ∈ s.toList, c.toNat < 128 :=
  fun c hc => ascii_of_isAlpha (h.isAlpha c hc)

/-- **From camel case to kebab case and back.** -/
theorem camel_kebab {s : String} (h : IsCamelName s) : camel (kebab s) = s := by
  have hascii := h.ascii
  obtain ⟨w, ps, hw, hps, hs⟩ := h
  rw [camel, toList_kebab hascii, hs, joinHumps_fillGaps hw hps, ← hs, String.ofList_toList]

/-- Names in camel case are told apart in kebab case. -/
theorem kebab_injOn : Set.InjOn kebab {s | IsCamelName s} :=
  Set.LeftInvOn.injOn fun _ => camel_kebab

end Text

open Text

/-! ## Properties and elements -/

/-- Distinct properties in camel case are distinct properties of the stylesheet. -/
theorem Styles.nodup_properties {styles : Styles}
    (h : ∀ p ∈ styles.entries, IsCamelName p.1) :
    (styles.entries.map fun p => kebab p.1).Nodup := by
  have hkeys : ∀ k ∈ styles.entries.map (·.1), IsCamelName k := List.forall_mem_map.2 h
  have hkebab := styles.nodup.map_on fun k hk l hl => kebab_injOn (hkeys k hk) (hkeys l hl)
  rwa [List.map_map] at hkebab

/-- Pages with distinct names in camel case are distinct elements. -/
theorem Page.selector_injOn : Set.InjOn Page.selector {s | IsCamelName s} := by
  intro p hp q hq h
  exact kebab_injOn hp hq ((String.append_right_inj _).1 h)

/-- **Kebab case misses no hump, and loses nothing of a name in camel case.**  On ASCII it
    is a hyphen in every hump and lower case for every letter, and what is in kebab case
    stays as it is.  The hyphens of a name in camel case can be taken back; so no two such
    properties of a component are one in its rule, and no two pages with such names are one
    element. -/
theorem kebab_spec :
    (∀ s : String, (∀ c ∈ s.toList, c.toNat < 128) →
      (kebab s).toList = (fillGaps isHump '-' s.toList).map Char.toLower ∧
        kebab (kebab s) = kebab s) ∧
    (∀ s, IsCamelName s → camel (kebab s) = s) ∧
    (∀ styles : Styles, (∀ p ∈ styles.entries, IsCamelName p.1) →
      (styles.entries.map fun p => kebab p.1).Nodup) ∧
    ∀ p q, IsCamelName p → IsCamelName q → p ≠ q → Page.selector p ≠ Page.selector q :=
  ⟨fun _ hs => ⟨toList_kebab hs, kebab_kebab hs⟩, fun _ => camel_kebab,
    fun _ => Styles.nodup_properties, fun _ _ hp hq => Page.selector_injOn.ne hp hq⟩

/-- Styles whose properties differ in a hump only. -/
def borderStyles : Styles := (Styles.empty.insert "borderTop" "1px").insert "bordertop" "2px"

theorem kebab_spec_borderTop :
    (∀ c ∈ "borderTop".toList, c.toNat < 128) ∧ kebab "borderTop" = "border-top" ∧
      kebab (kebab "borderTop") = kebab "borderTop" ∧ IsCamelName "borderTop" ∧
      IsCamelName "bordertop" ∧ camel (kebab "borderTop") = "borderTop" ∧
      (∀ p ∈ borderStyles.entries, IsCamelName p.1) ∧
      (borderStyles.entries.map fun p => kebab p.1).Nodup ∧
      Page.selector "borderTop" ≠ Page.selector "bordertop" := by
  have htop : IsCamelName "borderTop" :=
    ⟨"border".toList, [('T', "op".toList)], by decide +kernel, by decide +kernel, rfl⟩
  have hplain : IsCamelName "bordertop" :=
    ⟨"bordertop".toList, [], by decide +kernel, by decide +kernel, rfl⟩
  have hstyles : ∀ p ∈ borderStyles.entries, IsCamelName p.1 := by
    have hentries : borderStyles.entries = [("borderTop", "1px"), ("bordertop", "2px")] := by
      decide +kernel
    rw [hentries]
    simpa using ⟨htop, hplain⟩
  obtain ⟨hkebab, hcamel, hproperties, hselector⟩ := kebab_spec
  exact ⟨htop.ascii, by decide +kernel, (hkebab _ htop.ascii).2, htop, hplain, hcamel _ htop,
    hstyles, hproperties _ hstyles, hselector _ _ htop hplain (by decide)⟩

end Pagewright
