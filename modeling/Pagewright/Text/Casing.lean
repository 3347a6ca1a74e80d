/-
  Lower and upper case of texts, by the full mappings of the Unicode standard.

  * `upperOf` and `lowerOf` map one character, possibly to several; on ASCII
    they are the usual shift (`lowerOf_of_ascii`, `upperOf_of_ascii`);
  * `lower` maps a text; the capital sigma becomes a final sigma where a word
    ends, which is the one place where the neighbours matter.
-/
import Pagewright.Text.Basic
import Pagewright.Text.CaseTable

namespace Pagewright.Text

/-! ## One character -/

/-- A character's mapping: ASCII by `ascii`, the rest by the tables. -/
def caseOf (ascii : Char → Char) (runs : List CaseRun) (spellings : List (Nat × List Nat))
    (c : Char) : List Char :=
  if c.toNat < 128 then [ascii c]
  else match spellings.lookup c.toNat with
    | some w => w.map Char.ofNat
    | none => [((CaseRun.image? c.toNat runs).map Char.ofNat).getD c]

/-- The lower case of a character on its own. -/
def lowerOf (c : Char) : List Char := caseOf Char.toLower lowerRuns lowerSpellings c

/-- The upper case of a character. -/
def upperOf (c : Char) : List Char := caseOf Char.toUpper upperRuns upperSpellings c

theorem lowerOf_of_ascii {c : Char} (h : c.toNat < 128) : lowerOf c = [c.toLower] := by
  simp [lowerOf, caseOf, h]

theorem upperOf_of_ascii {c : Char} (h : c.toNat < 128) : upperOf c = [c.toUpper] := by
  simp [upperOf, caseOf, h]

/-! ## Texts -/

/-- Whether the first character that is not ignorable is a cased one. -/
def meetsCased (cs : List Char) : Bool :=
  match cs.dropWhile (isIn caseIgnorable) with
  | [] => false
  | c :: _ => isIn cased c

/-- The lower case of `cs`, where `before` holds the characters in front of it,
    the nearest first.  A capital sigma is final if a cased character stands
    before it and none after it. -/
def lowerAfter (before : List Char) : List Char → List Char
  | [] => []
  | c :: cs =>
    (if c = 'Σ' then [if meetsCased before && !meetsCased cs then 'ς' else 'σ'] else lowerOf c)
      ++ lowerAfter (c :: before) cs

/-- The lower case of a text. -/
def lower (cs : List Char) : List Char := lowerAfter [] cs

theorem lowerAfter_of_ascii (before : List Char) {cs : List Char} (h : ∀ c ∈ cs, c.toNat < 128) :
    lowerAfter before cs = cs.map Char.toLower := by
  induction cs generalizing before with
  | nil => rfl
  | cons c cs ih =>
    have hc : c.toNat < 128 := h c (by simp)
    have hσ : c ≠ 'Σ' := by rintro rfl; exact absurd hc (by decide)
    simp [lowerAfter, hσ, lowerOf_of_ascii hc, ih (c :: before) fun d hd => h d (by simp [hd])]

/-- On ASCII, lower case is taken character by character. -/
theorem lower_of_ascii {cs : List Char} (h : ∀ c ∈ cs, c.toNat < 128) :
    lower cs = cs.map Char.toLower :=
  lowerAfter_of_ascii [] h

end Pagewright.Text
