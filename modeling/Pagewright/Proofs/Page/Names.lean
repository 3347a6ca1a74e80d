/-
  The names that pages are emitted under.

  Page names are ASCII, so that both cases are taken letter by letter.

  * `IsPageName.kebab`, `IsPageName.route`: the element and the route of a page begin
    with a lower-case letter and go on with lower-case letters, digits, underscores
    and hyphens;
  * `IsPageName.pascal`: the class of a page begins with an upper-case letter and has
    no hyphen.
-/
import Mathlib.Tactic.Common
import Pagewright.Proofs.Text.Casing
import Pagewright.Proofs.Text.Tokens
import Pagewright.Proofs.Validation.Acceptance

namespace Pagewright

/-! ## Characters -/

/-- The lower-case letters of a page name. -/
def IsLower (c : Char) : Prop := 'a' ≤ c ∧ c ≤ 'z'

/-- The upper-case letters of a page name. -/
def IsUpper (c : Char) : Prop := 'A' ≤ c ∧ c ≤ 'Z'

/-- The characters of a page name in lower case. -/
def IsLowerNameChar (c : Char) : Prop := IsLower c ∨ ('0' ≤ c ∧ c ≤ '9') ∨ c = '_' ∨ c = '-'

instance (c : Char) : Decidable (IsLetter c) := inferInstanceAs (Decidable (_ ∨ _))
instance (c : Char) : Decidable (IsNameChar c) := inferInstanceAs (Decidable (_ ∨ _))
instance (c : Char) : Decidable (IsLower c) := inferInstanceAs (Decidable (_ ∧ _))
instance (c : Char) : Decidable (IsUpper c) := inferInstanceAs (Decidable (_ ∧ _))
instance (c : Char) : Decidable (IsLowerNameChar c) := inferInstanceAs (Decidable (_ ∨ _))

theorem IsNameChar.ascii {c : Char} (h : IsNameChar c) : c.toNat < 128 := by
  have hle : ∀ {b : Char}, b.toNat < 128 → c ≤ b → c.toNat < 128 := fun hb hcb =>
    Nat.lt_of_le_of_lt (UInt32.le_iff_toNat_le.1 hcb) hb
  rcases h with (⟨-, hz⟩ | ⟨-, hz⟩) | ⟨-, hz⟩ | rfl | rfl
  · exact hle (by decide) hz
  · exact hle (by decide) hz
  · exact hle (by decide) hz
  · decide
  · decide

/-- What holds of every ASCII character holds of the characters of a page name. -/
theorem IsNameChar.of_ascii {P : Char → Prop} (h : ∀ n < 128, P (Char.ofNat n)) {c : Char}
    (hc : IsNameChar c) : P c :=
  Text.of_ascii h hc.ascii

theorem IsNameChar.toLower {c : Char} (h : IsNameChar c) : IsLowerNameChar c.toLower :=
  IsNameChar.of_ascii (P := fun c => IsNameChar c → IsLowerNameChar c.toLower) (by decide) h h

theorem IsLetter.toLower {c : Char} (h : IsLetter c) : IsLower c.toLower :=
  IsNameChar.of_ascii (P := fun c => IsLetter c → IsLower c.toLower) (by decide) h.isNameChar h

theorem IsLetter.toUpper {c : Char} (h : IsLetter c) : IsUpper c.toUpper :=
  IsNameChar.of_ascii (P := fun c => IsLetter c → IsUpper c.toUpper) (by decide) h.isNameChar h

theorem IsNameChar.toUpper {c : Char} (h : IsNameChar c) : IsNameChar c.toUpper :=
  IsNameChar.of_ascii (P := fun c => IsNameChar c → IsNameChar c.toUpper) (by decide) h h

theorem IsNameChar.toUpper_ne_hyphen {c : Char} (h : IsNameChar c) (hc : c ≠ '-') :
    c.toUpper ≠ '-' :=
  IsNameChar.of_ascii (P := fun c => c ≠ '-' → c.toUpper ≠ '-') (by decide) h hc

/-! ## Kebab case -/

/-- A name in kebab case: `[a-z][a-z0-9_-]*`. -/
def IsKebabName (s : String) : Prop :=
  ∃ c cs, s.toList = c :: cs ∧ IsLower c ∧ ∀ d ∈ cs, IsLowerNameChar d

theorem IsLower.isLowerNameChar {c : Char} (h : IsLower c) : IsLowerNameChar c := Or.inl h

theorem IsKebabName.chars {s : String} (h : IsKebabName s) : ∀ c ∈ s.toList, IsLowerNameChar c := by
  obtain ⟨c, cs, hs, hc, hcs⟩ := h
  rw [hs]
  exact List.forall_mem_cons.2 ⟨hc.isLowerNameChar, hcs⟩

/-- A page name in kebab case. -/
theorem IsPageName.kebab {name : String} (h : IsPageName name) : IsKebabName (Text.kebab name) := by
  obtain ⟨c, cs, hname, hc, hcs⟩ := h
  have hhumps : ∀ d ∈ Text.splitHumps name.toList, IsNameChar d := by
    intro d hd
    rcases Text.mem_splitHumps hd with hd | rfl
    · rw [hname] at hd
      exact List.forall_mem_cons.2 ⟨hc.isNameChar, hcs⟩ d hd
    · decide
  have hfirst : (Text.splitHumps name.toList).head? = some c := by
    rw [Text.head?_splitHumps, hname]
    rfl
  obtain ⟨ds, hds⟩ := List.head?_eq_some_iff.1 hfirst
  rw [hds] at hhumps
  refine ⟨c.toLower, ds.map Char.toLower, ?_, hc.toLower, ?_⟩
  · rw [Text.kebab, String.toList_ofList, hds, Text.lower_of_ascii fun d hd => (hhumps d hd).ascii]
    rfl
  · intro d hd
    obtain ⟨e, he, rfl⟩ := List.mem_map.1 hd
    exact (hhumps e (List.mem_cons_of_mem c he)).toLower

/-- The route of a page: not even a page that is called `page` has an empty one. -/
theorem IsPageName.route {name : String} (h : IsPageName name) : IsKebabName (Page.route name) := by
  obtain ⟨c, cs, hkebab, hc, hcs⟩ := h.kebab
  unfold Page.route Text.withoutEnding
  split_ifs with hsuffix
  · obtain ⟨ds, hds⟩ := List.isSuffixOf_iff_suffix.1 hsuffix
    cases ds with
    | nil =>
      have hpage : "-page".toList = '-' :: "page".toList := rfl
      rw [List.nil_append, hpage, hkebab] at hds
      obtain rfl : '-' = c := (List.cons.inj hds).1
      exact absurd hc (by decide)
    | cons d ds =>
      rw [← hds] at hkebab ⊢
      obtain ⟨rfl, rfl⟩ := List.cons.inj hkebab
      refine ⟨d, ds, by simp, hc, fun e he => hcs e (List.mem_append_left _ he)⟩
  · exact ⟨c, cs, hkebab, hc, hcs⟩

theorem IsKebabName.ne_empty {s : String} (h : IsKebabName s) : s ≠ "" := by
  rintro rfl
  obtain ⟨c, cs, hs, -⟩ := h
  simp at hs

/-! ## Pascal case -/

namespace Text

/-- The characters of a page name in Pascal case. -/
theorem mem_capitalizeParts {start : Bool} {cs : List Char} (hcs : ∀ c ∈ cs, IsNameChar c)
    {d : Char} (hd : d ∈ capitalizeParts start cs) : IsNameChar d ∧ d ≠ '-' := by
  induction cs generalizing start with
  | nil => simp [capitalizeParts] at hd
  | cons c cs ih =>
    obtain ⟨hc, hcs⟩ := List.forall_mem_cons.1 hcs
    rw [capitalizeParts] at hd
    split_ifs at hd with hhyphen hstart
    · exact ih hcs hd
    · rw [upperOf_of_ascii hc.ascii, List.singleton_append, List.mem_cons] at hd
      rcases hd with rfl | hd
      · exact ⟨hc.toUpper, hc.toUpper_ne_hyphen hhyphen⟩
      · exact ih hcs hd
    · rw [List.singleton_append, List.mem_cons] at hd
      rcases hd with rfl | hd
      · exact ⟨hc, hhyphen⟩
      · exact ih hcs hd

end Text

/-- A name in Pascal case: `[A-Z][A-Za-z0-9_]*`. -/
def IsPascalName (s : String) : Prop :=
  ∃ c cs, s.toList = c :: cs ∧ IsUpper c ∧ ∀ d ∈ cs, IsNameChar d ∧ d ≠ '-'

/-- A page name in Pascal case. -/
theorem IsPageName.pascal {name : String} (h : IsPageName name) :
    IsPascalName (Text.pascal name) := by
  obtain ⟨c, cs, hname, hc, hcs⟩ := h
  have hhyphen : c ≠ '-' := by
    rintro rfl
    exact absurd hc (by decide)
  refine ⟨c.toUpper, Text.capitalizeParts false cs, ?_, hc.toUpper,
    fun d hd => Text.mem_capitalizeParts hcs hd⟩
  rw [Text.pascal, String.toList_ofList, hname, Text.capitalizeParts, if_neg hhyphen, if_pos rfl,
    Text.upperOf_of_ascii hc.isNameChar.ascii]
  rfl

theorem IsPascalName.append {s : String} (h : IsPascalName s) {t : String}
    (ht : t.toList.all fun d => IsNameChar d ∧ d ≠ '-') : IsPascalName (s ++ t) := by
  obtain ⟨c, cs, hs, hc, hcs⟩ := h
  refine ⟨c, cs ++ t.toList, by simp [hs], hc, fun d hd => ?_⟩
  exact (List.mem_append.1 hd).elim (hcs d)
    fun hd => of_decide_eq_true (List.all_eq_true.1 ht d hd)

/-- The class of a page. -/
theorem IsPageName.className {name : String} (h : IsPageName name) :
    IsPascalName (Page.className name) :=
  h.pascal.append (by decide)

theorem IsPascalName.isIdentifierChar {s : String} (h : IsPascalName s) :
    ∀ c ∈ s.toList, Script.isIdentifierChar c := by
  have hname : ∀ c, IsNameChar c → c ≠ '-' → Script.isIdentifierChar c := by
    intro c hc hhyphen
    simpa [isPageNameChar, Script.isIdentifierChar, hhyphen] using (isPageNameChar_iff c).2 hc
  obtain ⟨c, cs, hs, hc, hcs⟩ := h
  have hletter : IsNameChar c := Or.inl (Or.inl hc)
  have hhyphen : c ≠ '-' := by
    rintro rfl
    exact absurd hc (by decide)
  rw [hs]
  exact List.forall_mem_cons.2
    ⟨hname c hletter hhyphen, fun d hd => hname d (hcs d hd).1 (hcs d hd).2⟩

/-! ## In sources -/

section Sources

open Script

theorem IsPascalName.isWord {s : String} (h : IsPascalName s) : IsWord s := by
  refine ⟨?_, fun c hc => ?_⟩
  · rintro rfl
    obtain ⟨c, cs, hs, -⟩ := h
    simp at hs
  · simp [isWordChar, h.isIdentifierChar c hc]

/-- A character that needs no escape. -/
theorem IsNameChar.isPlain {c : Char} (h : IsNameChar c) :
    c ≠ '\x27' ∧ c ≠ '\\' ∧ Literal.script.isPlain c := by
  refine ⟨?_, ?_, ?_⟩
  · rintro rfl
    exact absurd h (by decide)
  · rintro rfl
    exact absurd h (by decide)
  · simp only [Literal.script, Bool.and_eq_true, decide_eq_true_eq]
    constructor <;> rintro rfl <;> exact absurd h (by decide)

theorem IsPageName.isPlain {s : String} (h : IsPageName s) : IsPlain s := by
  obtain ⟨c, cs, hs, hc, hcs⟩ := h
  intro d hd
  rw [hs] at hd
  exact (List.forall_mem_cons.2 ⟨hc.isNameChar, hcs⟩ d hd).isPlain

theorem IsKebabName.return_not_mem {s : String} (h : IsKebabName s) : '\r' ∉ s.toList :=
  fun hr => absurd (h.chars _ hr) (by decide)

theorem IsLowerNameChar.isNameChar {c : Char} (h : IsLowerNameChar c) : IsNameChar c :=
  h.imp_left Or.inr

theorem IsKebabName.isPlain {s : String} (h : IsKebabName s) : IsPlain s :=
  fun c hc => (h.chars c hc).isNameChar.isPlain

end Sources

end Pagewright
