/-
  Texts, flags and numbers are read back as they are written.

  * `Reads r w v`: the reader `r` takes the written value `w` off the front of
    whatever follows and gives the value `v`; behind a number nothing may follow
    that would go on with it (`Follows`);
  * `scanText_flatMap_writeChar`: escapes are taken back up to the closing
    quote, whatever stands behind it;
  * `Number.read_toDigits`: the digits of a number that fits are the number;
  * `reads_string`, `reads_bool`, `reads_uint32`, `Reads.some`: the scalars that
    values are made of.
-/
import Mathlib.Tactic.Common
import Pagewright.Json.Read
import Pagewright.Json.Write

namespace Pagewright.Json

/-! ## Reading back -/

/-- What may stand behind a value: nothing that would go on with a number. -/
def Follows (rest : List Char) : Prop :=
  ∀ c ∈ rest.head?, c.isDigit = false ∧ c ≠ '.' ∧ c ≠ 'e' ∧ c ≠ 'E'

theorem follows_nil : Follows [] := nofun

/-- A comma or a closing bracket ends every value. -/
theorem follows_cons {c : Char} (h : c ∈ [',', ']', '\x7d']) (rest : List Char) :
    Follows (c :: rest) := by
  intro d hd
  obtain rfl : c = d := by simpa using hd
  simp only [List.mem_cons, List.not_mem_nil, or_false] at h
  rcases h with rfl | rfl | rfl <;> decide

/-- A reader takes a written value off the front of what follows. -/
def Reads {α : Type} (r : Reader α) (w : String) (v : α) : Prop :=
  ∀ rest, Follows rest → r (w.toList ++ rest) = .ok (v, rest)

/-- The characters that a written value begins with; nothing is written as null. -/
def isValueStart (c : Char) : Bool := c ∈ ['"', '[', '\x7b', 't', 'f'] || c.isDigit

/-- A text that begins as a written value does. -/
def Begins (w : String) : Prop := ∃ c cs, w.toList = c :: cs ∧ isValueStart c

theorem isBlank_of_isValueStart {c : Char} (h : isValueStart c) : isBlank c = false := by
  by_contra hblank
  rw [Bool.not_eq_false, isBlank] at hblank
  simp only [Bool.or_eq_true, beq_iff_eq] at hblank
  rcases hblank with ((rfl | rfl) | rfl) | rfl <;> exact absurd h (by decide)

theorem skipBlanks_cons {c : Char} (h : isBlank c = false) (s : List Char) :
    skipBlanks (c :: s) = c :: s := by
  rw [skipBlanks, List.dropWhile_cons_of_neg (by simp [h])]

/-- A value that is read is read as one that may be missing. -/
theorem Reads.some {α : Type} {r : Reader α} {w : String} {v : α} (h : Reads r w v)
    (hw : Begins w) : Reads (readOption r) w (some v) := by
  intro rest hrest
  obtain ⟨c, cs, hcs, hc⟩ := hw
  have hnull : c ≠ 'n' := by
    rintro rfl
    exact absurd hc (by decide)
  have hread := h rest hrest
  rw [hcs, List.cons_append] at hread ⊢
  rw [readOption, skipBlanks_cons (isBlank_of_isValueStart hc)]
  simp only [hnull, if_false, hread]
  rfl

/-! ## Texts -/

theorem hexValue?_hexDigit {n : Nat} (h : n < 16) : hexValue? (Text.hexDigit n) = some n := by
  revert n
  decide

theorem utf8Size_hexDigit {n : Nat} (h : n < 16) : (Text.hexDigit n).utf8Size = 1 := by
  revert n
  decide

/-- The code of a control is read from its two digits. -/
theorem hexQuad_control {n : Nat} (h : n < 0x20) (s : List Char) :
    hexQuad ('0' :: '0' :: Text.hexDigit (n / 16) :: Text.hexDigit (n % 16) :: s) = .ok n := by
  have hhigh : n / 16 < 16 := by omega
  have hlow : n % 16 < 16 := Nat.mod_lt n (by decide)
  have hsize : '0'.utf8Size = 1 := rfl
  have hzero : hexValue? '0' = some 0 := rfl
  have hlength : byteLength ['0', '0', Text.hexDigit (n / 16), Text.hexDigit (n % 16)] = 4 := by
    simp [byteLength, utf8Size_hexDigit hhigh, utf8Size_hexDigit hlow, hsize]
  have hvalues : ['0', '0', Text.hexDigit (n / 16), Text.hexDigit (n % 16)].mapM hexValue? =
      some [0, 0, n / 16, n % 16] := by
    simp [hexValue?_hexDigit hhigh, hexValue?_hexDigit hlow, hzero]
  simp only [hexQuad, List.take_succ_cons, List.take_zero, hlength, hvalues, Nat.lt_irrefl,
    if_false]
  congr 1
  omega

theorem scanEscape_control {c : Char} (h : c.toNat < 0x20) (s : List Char) :
    scanEscape ('u' :: '0' :: '0' :: Text.hexDigit (c.toNat / 16) ::
      Text.hexDigit (c.toNat % 16) :: s) = .ok (c, 5) := by
  have htrailing : isTrailing c.toNat = false := by
    simp only [isTrailing, Bool.and_eq_false_iff, decide_eq_false_iff_not]
    omega
  have hleading : isLeading c.toNat = false := by
    simp only [isLeading, Bool.and_eq_false_iff, decide_eq_false_iff_not]
    omega
  rw [scanEscape, if_pos rfl, hexQuad_control h]
  simp [bind, Except.bind, htrailing, hleading, Char.ofNat_toNat]

theorem scanText_writeChar (c : Char) (s : List Char) :
    scanText 0 (writeChar c ++ s) = consResult c (scanText 0 s) := by
  unfold writeChar
  split_ifs with hquote hbackslash h₁ h₂ h₃ h₄ h₅ hcontrol
  -- a letter behind the backslash stands for each of the first seven
  iterate 7 · subst c; rfl
  · have hscan := scanEscape_control hcontrol s
    simp only [List.cons_append, List.nil_append]
    rw [scanText, if_neg (by decide), if_pos rfl, hscan]
    rfl
  · simp only [List.cons_append, List.nil_append]
    rw [scanText, if_neg hquote, if_neg hbackslash, if_neg hcontrol]

/-- A text is read up to its closing quote. -/
theorem scanText_flatMap_writeChar (cs s : List Char) :
    scanText 0 (cs.flatMap writeChar ++ '"' :: s) = .ok (cs, s) := by
  induction cs with
  | nil => rfl
  | cons c cs ih =>
    rw [List.flatMap_cons, List.append_assoc, scanText_writeChar, ih]
    rfl

theorem toList_writeString (s : String) :
    (writeString s).toList = '"' :: (s.toList.flatMap writeChar ++ ['"']) := by
  simp [writeString]

theorem begins_writeString (s : String) : Begins (writeString s) :=
  ⟨'"', _, toList_writeString s, rfl⟩

/-- A text whose opening quote has been read. -/
theorem scanString_writeString (s : String) (rest : List Char) :
    scanString (s.toList.flatMap writeChar ++ '"' :: rest) = .ok (s, rest) := by
  rw [scanString, scanText_flatMap_writeChar]
  simp [bind, Except.bind]

/-- A reader that takes a quote and goes on with a scanner. -/
theorem reads_of_scan {α : Type} {r : Reader α} {s : String} {v : α} (scan : Reader α)
    (hr : ∀ t, r ('"' :: t) = scan t)
    (hscan : ∀ rest, scan (s.toList.flatMap writeChar ++ '"' :: rest) = .ok (v, rest)) :
    Reads r (writeString s) v := by
  intro rest _
  rw [toList_writeString, List.cons_append, hr, List.append_assoc]
  exact hscan rest

theorem reads_string (s : String) : Reads readString (writeString s) s :=
  reads_of_scan scanString (fun _ => rfl) (scanString_writeString s)

/-- A variant is read from its name. -/
theorem reads_variant {α : Type} (depth : Nat) {variants : List (String × α)} {name : String}
    {v : α} (h : variants.lookup name = some v) :
    Reads (readVariant depth variants) (writeString name) v := by
  refine reads_of_scan (variant variants) (fun _ => rfl) fun rest => ?_
  rw [variant, scanString_writeString]
  simp [bind, Except.bind, h]

/-! ## Flags -/

theorem reads_bool (b : Bool) : Reads readBool (writeBool b) b := by
  intro rest _
  cases b <;> rfl

/-! ## Numbers -/

namespace Number

/-- Digits are taken as long as the number stays below the bound. -/
theorem takeDigits_append {bound : Nat} {ds : List Char} (hds : ∀ c ∈ ds, c.isDigit)
    {rest : List Char} (hrest : Follows rest) (n taken : Nat)
    (hbound : Nat.ofDigitChars 10 ds n < bound) :
    takeDigits bound n taken (ds ++ rest) =
      (Nat.ofDigitChars 10 ds n, taken + ds.length, rest) := by
  induction ds generalizing n taken with
  | nil =>
    cases rest with
    | nil => rfl
    | cons c rest =>
      have hc := (hrest c rfl).1
      simp [takeDigits, hc]
  | cons c ds ih =>
    obtain ⟨hc, hds⟩ := List.forall_mem_cons.1 hds
    have hcons : Nat.ofDigitChars 10 (c :: ds) n =
        Nat.ofDigitChars 10 ds (10 * n + digitValue c) := Nat.ofDigitChars_cons
    rw [hcons] at hbound ⊢
    have hle : 10 * n + digitValue c ≤ Nat.ofDigitChars 10 ds (10 * n + digitValue c) := by
      rw [Nat.ofDigitChars_eq_ofDigitChars_zero]
      exact Nat.le_trans (Nat.le_mul_of_pos_left _ (Nat.pow_pos (by decide)))
        (Nat.le_add_right _ _)
    have hnext : 10 * n + digitValue c < bound := Nat.lt_of_le_of_lt hle hbound
    rw [List.cons_append, takeDigits, if_pos (by simp [hc, hnext]), ih hds _ _ hbound,
      List.length_cons, Nat.add_assoc, Nat.add_comm 1]

/-- Only the number zero begins with the digit zero. -/
theorem eq_nil_of_toDigits_eq {n : Nat} {t : List Char} (h : Nat.toDigits 10 n = '0' :: t) :
    t = [] := by
  induction n using Nat.strongRecOn generalizing t with
  | ind n ih =>
    by_cases hn : n < 10
    · rw [Nat.toDigits_of_lt_base hn] at h
      exact (List.cons.inj h).2.symm
    · rw [Nat.toDigits_of_base_le (by decide) (by omega)] at h
      obtain ⟨d, u, hdu⟩ := List.exists_cons_of_ne_nil (Nat.toDigits_ne_nil (b := 10) (n := n / 10))
      rw [hdu, List.cons_append] at h
      obtain rfl := (List.cons.inj h).1
      obtain rfl := ih (n / 10) (by omega) hdu
      have hzero := Nat.ofDigitChars_ten_toDigits (n := n / 10)
      rw [hdu] at hzero
      have hquotient : 0 = n / 10 := hzero
      omega

/-- Digits are read as their number if it fits 64 bits and no zero stands in front. -/
theorem read_digits {ds : List Char} (hne : ds ≠ []) (hdigits : ∀ c ∈ ds, c.isDigit)
    (hzero : ∀ t, ds = '0' :: t → t = []) (hn : Nat.ofDigitChars 10 ds 0 < Nat.pow 2 64)
    {rest : List Char} (hrest : Follows rest) :
    Number.read true (ds ++ rest) = .ok (.natural (Nat.ofDigitChars 10 ds 0), rest) := by
  obtain ⟨c, t, rfl⟩ := List.exists_cons_of_ne_nil hne
  have htake := takeDigits_append hdigits hrest 0 0 hn
  have hbegins : beginsWithDigit rest = false := by
    cases rest with
    | nil => rfl
    | cons d rest => exact (hrest d rfl).1
  have hskip : skipDigits rest = rest := by
    cases rest with
    | nil => rfl
    | cons d rest => exact List.dropWhile_cons_of_neg (by simp [(hrest d rfl).1])
  have hbeyond : rest.takeWhile Char.isDigit = [] := by
    cases rest with
    | nil => rfl
    | cons d rest => exact List.takeWhile_cons_of_neg (by simp [(hrest d rfl).1])
  have hleading : ¬(c = '0' ∧ beginsWithDigit (t ++ rest) = true) := by
    rintro ⟨rfl, hdigit⟩
    obtain rfl := hzero t rfl
    rw [List.nil_append, hbegins] at hdigit
    cases hdigit
  rw [List.cons_append] at htake ⊢
  have hc := hdigits c List.mem_cons_self
  unfold Number.read
  simp only [htake, hskip, hbeyond, if_neg hleading, hc, Bool.not_true, Bool.false_eq_true,
    if_false]
  cases rest with
  | nil => rfl
  | cons d rest =>
    obtain ⟨-, hpoint, he, hE⟩ := hrest d rfl
    split
    · rename_i h
      exact absurd (List.cons.inj h).1 hpoint
    · simp [he, hE, ofWhole]

/-- The digits of a number that fits 64 bits are read as the number. -/
theorem read_toDigits {n : Nat} (hn : n < Nat.pow 2 64) {rest : List Char}
    (hrest : Follows rest) :
    Number.read true (Nat.toDigits 10 n ++ rest) = .ok (.natural n, rest) := by
  have hdigits : ∀ d ∈ Nat.toDigits 10 n, d.isDigit := fun d hd =>
    Nat.isDigit_of_mem_toDigits (by decide) (by decide) hd
  have hread := read_digits Nat.toDigits_ne_nil hdigits (fun t ht => eq_nil_of_toDigits_eq ht)
    (by rwa [Nat.ofDigitChars_ten_toDigits]) hrest
  rwa [Nat.ofDigitChars_ten_toDigits] at hread

end Number

theorem toList_toString_nat (n : Nat) : (toString n).toList = Nat.toDigits 10 n := by
  rw [Nat.toString_eq_ofList_toDigits, String.toList_ofList]

/-- A number begins with a digit. -/
theorem exists_digit_toString (n : Nat) :
    ∃ c cs, (toString n).toList = c :: cs ∧ c.isDigit := by
  obtain ⟨c, cs, hcs⟩ := List.exists_cons_of_ne_nil (Nat.toDigits_ne_nil (b := 10) (n := n))
  have hc : c ∈ Nat.toDigits 10 n := hcs ▸ List.mem_cons_self
  exact ⟨c, cs, (toList_toString_nat n).trans hcs,
    Nat.isDigit_of_mem_toDigits (by decide) (by decide) hc⟩

theorem isValueStart_of_isDigit {c : Char} (h : c.isDigit) : isValueStart c := by
  rw [isValueStart, h, Bool.or_true]

theorem begins_toString (n : Nat) : Begins (toString n) := by
  obtain ⟨c, cs, hcs, hc⟩ := exists_digit_toString n
  exact ⟨c, cs, hcs, isValueStart_of_isDigit hc⟩

theorem reads_uint32 (n : UInt32) : Reads readUInt32 (toString n.toNat) n := by
  intro rest hrest
  have hread := Number.read_toDigits (n := n.toNat) (Nat.lt_trans n.toNat_lt (by decide)) hrest
  obtain ⟨c, cs, hcs, hdigit⟩ := exists_digit_toString n.toNat
  have hminus : c ≠ '-' := by
    rintro rfl
    exact absurd hdigit (by decide)
  have hfits : Number.toUInt32 (.natural n.toNat) = .ok n := by
    rw [Number.toUInt32, if_pos n.toNat_lt]
    simp
  rw [← toList_toString_nat, hcs, List.cons_append] at hread
  rw [hcs, List.cons_append, readUInt32,
    skipBlanks_cons (isBlank_of_isValueStart (isValueStart_of_isDigit hdigit))]
  simp only [hminus, hdigit, false_or, if_true, if_false, hread]
  simp [bind, Except.bind, hfits]

end Pagewright.Json
