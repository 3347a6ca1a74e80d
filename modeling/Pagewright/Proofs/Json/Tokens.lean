/-
  Texts and numbers, spelled in any way.

  * `Gives x o rest`: the outcome `x` of a reader is the value `o`, if there is one,
    and `rest` is left; it is put together step by step like the reader;
  * `passText_quoted`, `Number.pass_unsigned`: each of them can be passed over;
  * `scanText_pieces`: a text is read as the characters that its pieces stand for, and
    refused if half of a surrogate pair is among them;
  * `Number.whole_of_read`: what is read as a whole number is written in digits only.
-/
import Mathlib.Tactic.Common
import Pagewright.Json.Skip
import Pagewright.Proofs.Json.Syntax
import Pagewright.Proofs.Json.Yields

namespace Pagewright.Json

/-! ## Outcomes -/

/-- The outcome of a reader: a value with what is left behind it, or none. -/
def Gives {α : Type} (x : Except Fault (α × List Char)) (o : Option α) (rest : List Char) : Prop :=
  ∀ v left, x = .ok (v, left) ↔ o = some v ∧ left = rest

namespace Gives

variable {α β : Type} {x : Except Fault (α × List Char)} {o : Option α} {rest rest' : List Char}

theorem accepted (v : α) (rest : List Char) : Gives (.ok (v, rest)) (some v) rest := by
  intro w left
  simp only [Except.ok.injEq, Prod.mk.injEq, Option.some.injEq, eq_comm (a := left)]

theorem refused (f : Fault) (rest : List Char) : Gives (α := α) (.error f) none rest := by
  intro v left
  simp

theorem map (h : Gives x o rest) (f : α → β) :
    Gives ((fun r => (f r.1, r.2)) <$> x) (o.map f) rest := by
  intro w left
  rw [map_ok_iff, Option.map_eq_some_iff]
  constructor
  · rintro ⟨⟨v, left'⟩, hx, heq⟩
    obtain ⟨rfl, rfl⟩ := Prod.mk.inj heq
    obtain ⟨ho, hleft⟩ := (h v left').1 hx
    exact ⟨⟨v, ho, rfl⟩, hleft⟩
  · rintro ⟨⟨v, ho, rfl⟩, hleft⟩
    exact ⟨(v, left), (h v left).2 ⟨ho, hleft⟩, rfl⟩

/-- One step after the other. -/
theorem bind (h : Gives x o rest) {f : α × List Char → Except Fault (β × List Char)}
    {F : α → Option β} (hf : ∀ v, Gives (f (v, rest)) (F v) rest') :
    Gives (x >>= f) (o.bind F) rest' := by
  intro w left
  rw [bind_ok_iff, Option.bind_eq_some_iff]
  constructor
  · rintro ⟨⟨v, left'⟩, hx, hw⟩
    obtain ⟨ho, rfl⟩ := (h v left').1 hx
    obtain ⟨hF, hleft⟩ := (hf v w left).1 hw
    exact ⟨⟨v, ho, hF⟩, hleft⟩
  · rintro ⟨⟨v, ho, hF⟩, hleft⟩
    exact ⟨(v, rest), (h v rest).2 ⟨ho, rfl⟩, (hf v w left).2 ⟨hF, hleft⟩⟩

end Gives

/-! ## Texts that are passed over -/

theorem HexDigit.utf8Size (d : HexDigit) : d.char.utf8Size = 1 := by
  obtain ⟨c, v, h⟩ := d
  have hle : c ≤ 'f' := by
    rw [hexValue?] at h
    split_ifs at h with h₀ h₁ h₂
    · exact Char.le_trans h₀.2 (by decide)
    · exact h₁.2
    · exact Char.le_trans h₂.2 (by decide)
  have hval : c.val ≤ 0x7f := UInt32.le_trans hle (by decide)
  exact if_pos hval

/-- The four digits of a code unit are its number. -/
theorem hexQuad_codeUnit (u : CodeUnit) (s : List Char) :
    hexQuad (u.chars ++ s) = .ok u.number := by
  have hlength : byteLength u.chars = 4 := by
    simp [byteLength, CodeUnit.chars, HexDigit.utf8Size]
  have hvalues : u.chars.mapM hexValue? =
      some [u.first.value, u.second.value, u.third.value, u.fourth.value] := by
    simp [CodeUnit.chars, HexDigit.spelled]
  have htake : (u.chars ++ s).take 4 = u.chars := rfl
  rw [hexQuad, htake, hlength, hvalues]
  rfl

/-- A piece of a text is passed over. -/
theorem passText_piece (p : Piece) (s : List Char) :
    passText 0 (p.written ++ s) = passText 0 s := by
  cases p with
  | plain c h =>
    obtain ⟨hquote, hbackslash, hcontrol⟩ := h
    rw [Piece.written, List.singleton_append, passText, if_neg hquote, if_neg hbackslash,
      if_neg hcontrol]
  | letter c d h =>
    have hu : c ≠ 'u' := by
      rintro rfl
      cases h
    have hescape : passEscape (c :: s) = .ok 1 := by simp [passEscape, hu, h]
    rw [Piece.written, List.cons_append, List.cons_append, List.nil_append, passText,
      if_neg (by decide), if_pos rfl, hescape]
    rfl
  | unit u =>
    have hescape : passEscape ('u' :: (u.chars ++ s)) = .ok 5 := by
      rw [passEscape, if_pos rfl, hexQuad_codeUnit]
      rfl
    rw [Piece.written, List.cons_append, List.cons_append, passText, if_neg (by decide),
      if_pos rfl, hescape]
    rfl

theorem passText_quoted (q : Quoted) (s : List Char) :
    passText 0 (q.inner ++ '"' :: s) = .ok s := by
  obtain ⟨ps⟩ := q
  rw [Quoted.inner]
  induction ps with
  | nil => rfl
  | cons p ps ih => rw [List.flatMap_cons, List.append_assoc, passText_piece, ih]

/-! ## Texts that are read -/

theorem Gives.consResult {x : Except Fault (List Char × List Char)} {o : Option (List Char)}
    {rest : List Char} (h : Gives x o rest) (c : Char) :
    Gives (consResult c x) (o.map (c :: ·)) rest := by
  have hmap : Json.consResult c x = (fun r => (c :: r.1, r.2)) <$> x := by
    rcases x with f | ⟨cs, s⟩ <;> rfl
  rw [hmap]
  exact h.map _

theorem scanText_plain {c : Char} (h : c ≠ '"' ∧ c ≠ '\\' ∧ ¬c.toNat < 0x20) (s : List Char) :
    scanText 0 (c :: s) = consResult c (scanText 0 s) := by
  rw [scanText, if_neg h.1, if_neg h.2.1, if_neg h.2.2]

theorem scanText_letter {c d : Char} (h : shortEscape? c = some d) (s : List Char) :
    scanText 0 ('\\' :: c :: s) = consResult d (scanText 0 s) := by
  have hu : c ≠ 'u' := by
    rintro rfl
    cases h
  have hescape : scanEscape (c :: s) = .ok (d, 1) := by simp [scanEscape, hu, h]
  rw [scanText, if_neg (by decide), if_pos rfl, hescape]
  rfl

/-- A code unit that is no half of a pair is a character. -/
theorem scanText_unit {u : CodeUnit} (ht : isTrailing u.number = false)
    (hl : isLeading u.number = false) (s : List Char) :
    scanText 0 ('\\' :: 'u' :: (u.chars ++ s)) =
      consResult (Char.ofNat u.number) (scanText 0 s) := by
  have hescape : scanEscape ('u' :: (u.chars ++ s)) = .ok (Char.ofNat u.number, 5) := by
    rw [scanEscape, if_pos rfl, hexQuad_codeUnit]
    simp [bind, Except.bind, ht, hl]
  rw [scanText, if_neg (by decide), if_pos rfl, hescape]
  rfl

/-- A leading half goes with a trailing one that follows. -/
theorem scanText_pair {u t : CodeUnit} (hu : isTrailing u.number = false)
    (hl : isLeading u.number) (ht : isTrailing t.number) (s : List Char) :
    scanText 0 ('\\' :: 'u' :: (u.chars ++ '\\' :: 'u' :: (t.chars ++ s))) =
      consResult (pairedChar u.number t.number) (scanText 0 s) := by
  have hhalf : trailingHalf ('\\' :: 'u' :: (t.chars ++ s)) = .ok t.number := by
    simp [trailingHalf, hexQuad_codeUnit, bind, Except.bind, ht]
  have hdrop : (u.chars ++ '\\' :: 'u' :: (t.chars ++ s)).drop 4 =
      '\\' :: 'u' :: (t.chars ++ s) := rfl
  have hescape : scanEscape ('u' :: (u.chars ++ '\\' :: 'u' :: (t.chars ++ s))) =
      .ok (pairedChar u.number t.number, 11) := by
    rw [scanEscape, if_pos rfl, hexQuad_codeUnit]
    simp only [bind, Except.bind, hu, hl, Bool.false_eq_true, if_false, if_true, hdrop, hhalf,
      pairedChar]
  rw [scanText, if_neg (by decide), if_pos rfl, hescape]
  rfl

/-- A half of a pair without its other half is refused. -/
theorem scanText_half {u : CodeUnit} {s : List Char}
    (h : isTrailing u.number ∨ isLeading u.number ∧ ∃ f, trailingHalf s = .error f) :
    ∃ f, scanText 0 ('\\' :: 'u' :: (u.chars ++ s)) = .error f := by
  have hescape : ∃ f, scanEscape ('u' :: (u.chars ++ s)) = .error f := by
    rw [scanEscape, if_pos rfl, hexQuad_codeUnit]
    have hdrop : (u.chars ++ s).drop 4 = s := rfl
    by_cases ht : isTrailing u.number
    · exact ⟨⟨.loneSurrogate, s, 0⟩, by simp [bind, Except.bind, ht, hdrop]⟩
    · obtain ⟨hl, f, hf⟩ := h.resolve_left ht
      exact ⟨f, by simp [bind, Except.bind, ht, hl, hdrop, hf]⟩
  obtain ⟨f, hf⟩ := hescape
  exact ⟨f, by rw [scanText, if_neg (by decide), if_pos rfl, hf]⟩

/-- Behind a leading half only a trailing one is taken. -/
theorem trailingHalf_error {ps : List Piece} {rest : List Char}
    (h : ∀ t ps', ps = .unit t :: ps' → isTrailing t.number = false) :
    ∃ f, trailingHalf (ps.flatMap Piece.written ++ '"' :: rest) = .error f := by
  rcases ps with _ | ⟨p, ps⟩
  · exact ⟨_, rfl⟩
  · rw [List.flatMap_cons, List.append_assoc]
    cases p with
    | plain c hc => exact ⟨_, by simp [Piece.written, trailingHalf, hc.2.1]; rfl⟩
    | letter c d hc =>
      have hu : c ≠ 'u' := by
        rintro rfl
        cases hc
      exact ⟨_, by simp [Piece.written, trailingHalf, hu]; rfl⟩
    | unit t =>
      have ht := h t ps rfl
      exact ⟨⟨.loneSurrogate, ps.flatMap Piece.written ++ '"' :: rest, 0⟩, by
        simp [Piece.written, trailingHalf, hexQuad_codeUnit, bind, Except.bind, ht]
        rfl⟩

/-- Pieces are read as the characters that they stand for. -/
theorem scanText_pieces (ps : List Piece) (rest : List Char) :
    Gives (scanText 0 (ps.flatMap Piece.written ++ '"' :: rest)) (charsOf? ps) rest := by
  have hrefused {x : Except Fault (List Char × List Char)} (hx : ∃ f, x = .error f) :
      Gives x none rest := by
    obtain ⟨f, rfl⟩ := hx
    exact Gives.refused f rest
  fun_induction charsOf? ps with
  | case1 => exact Gives.accepted [] rest
  | case2 c hc ps ih =>
    rw [List.flatMap_cons, List.append_assoc, Piece.written, List.singleton_append,
      scanText_plain hc]
    exact ih.consResult c
  | case3 c d hc ps ih =>
    rw [List.flatMap_cons, List.append_assoc, Piece.written, List.cons_append, List.cons_append,
      List.nil_append, scanText_letter hc]
    exact ih.consResult d
  | case4 u ps ht =>
    rw [List.flatMap_cons, List.append_assoc]
    exact hrefused (scanText_half (Or.inl ht))
  | case5 u hu hl t ps ht ih =>
    have hpair := scanText_pair (by simpa using hu) hl ht
      (ps.flatMap Piece.written ++ '"' :: rest)
    have hgives := ih.consResult (pairedChar u.number t.number)
    rw [← hpair] at hgives
    simpa [Piece.written] using hgives
  | case6 u hu hl t ps ht =>
    rw [List.flatMap_cons, List.append_assoc]
    refine hrefused (scanText_half (Or.inr ⟨hl, trailingHalf_error ?_⟩))
    rintro t' ps' ⟨⟩
    simpa using ht
  | case7 u ps hu hl hne =>
    rw [List.flatMap_cons, List.append_assoc]
    exact hrefused (scanText_half (Or.inr ⟨hl,
      trailingHalf_error fun t ps' h => absurd h (hne t ps')⟩))
  | case8 u ps hu hl ih =>
    have hunit := scanText_unit (by simpa using hu) (by simpa using hl)
      (ps.flatMap Piece.written ++ '"' :: rest)
    have hgives := ih.consResult (Char.ofNat u.number)
    rw [← hunit] at hgives
    simpa [Piece.written] using hgives

/-- A text is read as what it spells. -/
theorem scanString_quoted (q : Quoted) (rest : List Char) :
    Gives (scanString (q.inner ++ '"' :: rest)) q.value? rest :=
  (scanText_pieces q.pieces rest).map String.ofList

/-! ## Numbers that are passed over -/

namespace Number

theorem skipDigits_append {ds : List Char} (hds : ∀ c ∈ ds, c.isDigit) {s : List Char}
    (hs : beginsWithDigit s = false) : skipDigits (ds ++ s) = s := by
  have hkept : skipDigits s = s := by
    cases s with
    | nil => rfl
    | cons c s => exact List.dropWhile_cons_of_neg (by rw [show c.isDigit = false from hs]; decide)
  rw [skipDigits, List.dropWhile_append_of_pos hds]
  exact hkept

theorem beginsWithDigit_digits (ds : Digits) (s : List Char) :
    beginsWithDigit (ds.chars ++ s) = true := by
  obtain ⟨c, t, hct⟩ := List.exists_cons_of_ne_nil ds.nonempty
  rw [hct]
  exact ds.digit c (hct ▸ List.mem_cons_self)

end Number

theorem Follows.beginsWithDigit {rest : List Char} (h : Follows rest) :
    Number.beginsWithDigit rest = false := by
  cases rest with
  | nil => rfl
  | cons c rest => exact (h c rfl).1

namespace Numeral

variable (n : Numeral) {rest : List Char}

/-- Behind the fraction of a number no digit stands, and no point. -/
theorem exponentChars_head (hrest : Follows rest) :
    ∀ c ∈ (n.exponentChars ++ rest).head?, c.isDigit = false ∧ c ≠ '.' := by
  unfold exponentChars
  cases n.exponent with
  | none => exact fun c hc => ⟨(hrest c hc).1, (hrest c hc).2.1⟩
  | some e =>
    intro c hc
    obtain rfl : e.letter = c := by simpa using hc
    rcases e.letter_eq with h | h <;> rw [h] <;> decide

theorem beginsWithDigit_exponentChars (hrest : Follows rest) :
    Number.beginsWithDigit (n.exponentChars ++ rest) = false := by
  have hhead := n.exponentChars_head hrest
  cases hs : n.exponentChars ++ rest with
  | nil => rfl
  | cons c s => exact (hhead c (by rw [hs]; rfl)).1

theorem beginsWithDigit_fractionChars (hrest : Follows rest) :
    Number.beginsWithDigit (n.fractionChars ++ (n.exponentChars ++ rest)) = false := by
  have hexponent := n.beginsWithDigit_exponentChars hrest
  unfold fractionChars
  cases n.fraction with
  | none => exact hexponent
  | some ds => rfl

end Numeral

namespace Number

/-- What stands behind the digits in front of an exponent is passed over. -/
theorem pass_exponent (n : Numeral) {rest : List Char} (hrest : Follows rest) :
    (match n.exponentChars ++ rest with
      | [] => Except.ok (n.exponentChars ++ rest)
      | e :: v =>
        if e ≠ 'e' ∧ e ≠ 'E' then .ok (n.exponentChars ++ rest)
        else
          let w := if v.head? = some '-' ∨ v.head? = some '+' then v.tail else v
          if beginsWithDigit w then .ok (skipDigits w) else .error ⟨.invalidNumber, w, 1⟩) =
      (.ok rest : Except Fault (List Char)) := by
  unfold Numeral.exponentChars
  cases n.exponent with
  | none =>
    rw [List.nil_append]
    cases rest with
    | nil => rfl
    | cons c rest =>
      obtain ⟨-, -, he, hE⟩ := hrest c rfl
      exact if_pos ⟨he, hE⟩
  | some e =>
    have hletter : ¬(e.letter ≠ 'e' ∧ e.letter ≠ 'E') := fun h => e.letter_eq.elim h.1 h.2
    have hdigits := beginsWithDigit_digits e.digits rest
    have hskip := skipDigits_append e.digits.digit hrest.beginsWithDigit
    have hunsigned : (e.digits.chars ++ rest).head? ≠ some '-' ∧
        (e.digits.chars ++ rest).head? ≠ some '+' := by
      constructor <;> intro hhead <;> rw [beginsWithDigit, hhead] at hdigits <;> cases hdigits
    have hsign : (let v := e.sign.toList ++ (e.digits.chars ++ rest)
        if v.head? = some '-' ∨ v.head? = some '+' then v.tail else v) =
          e.digits.chars ++ rest := by
      cases hs : e.sign with
      | none => exact if_neg (not_or.2 hunsigned)
      | some c => rcases e.sign_eq c hs with rfl | rfl <;> rfl
    simp only [List.cons_append, List.append_assoc, if_neg hletter, hsign, hdigits, if_true, hskip]

theorem pass_unsigned (n : Numeral) {rest : List Char} (hrest : Follows rest) :
    pass (n.unsigned ++ rest) = .ok rest := by
  obtain ⟨c, t, hct, hc, ht⟩ := n.exists_cons
  have hbehind := n.beginsWithDigit_fractionChars hrest
  have hleading :
      ¬(c = '0' ∧ beginsWithDigit (t ++ (n.fractionChars ++ (n.exponentChars ++ rest)))) := by
    rintro ⟨rfl, hdigit⟩
    obtain rfl := n.leading t hct
    rw [List.nil_append, hbehind] at hdigit
    cases hdigit
  have hskip := skipDigits_append (List.forall_mem_cons.2 ⟨hc, ht⟩) hbehind
  have hexponent := n.exponentChars_head hrest
  have hpass := pass_exponent n hrest
  rw [Numeral.unsigned, hct, List.cons_append, List.cons_append, List.append_assoc,
    List.append_assoc, pass]
  rw [List.cons_append] at hskip
  simp only [hc, Bool.not_true, Bool.false_eq_true, if_false, if_neg hleading, hskip]
  unfold Numeral.fractionChars
  cases n.fraction with
  | none =>
    rw [List.nil_append]
    split
    next v hv => exact absurd rfl (hexponent '.' (by rw [hv]; rfl)).2
    next => exact hpass
  | some ds =>
    have hdigit := n.beginsWithDigit_exponentChars hrest
    simp only [List.cons_append, beginsWithDigit_digits, if_true,
      skipDigits_append ds.digit hdigit]
    exact hpass

end Number

/-! ## Numbers that are read -/

namespace Number

/-- Digits are taken from the front, and are the number. -/
theorem takeDigits_spec {bound n taken m k : Nat} {s left : List Char}
    (h : takeDigits bound n taken s = (m, k, left)) :
    ∃ ds, s = ds ++ left ∧ (∀ c ∈ ds, c.isDigit) ∧ m = Nat.ofDigitChars 10 ds n := by
  induction s generalizing n taken with
  | nil =>
    obtain ⟨rfl, hleft⟩ := Prod.mk.inj h
    exact ⟨[], (Prod.mk.inj hleft).2, List.forall_mem_nil _, rfl⟩
  | cons c s ih =>
    rw [takeDigits] at h
    split_ifs at h with hc
    · obtain ⟨ds, rfl, hds, rfl⟩ := ih h
      have hdigit : c.isDigit := (Bool.and_eq_true_iff.1 hc).1
      exact ⟨c :: ds, rfl, List.forall_mem_cons.2 ⟨hdigit, hds⟩, Nat.ofDigitChars_cons.symm⟩
    · obtain ⟨rfl, hleft⟩ := Prod.mk.inj h
      exact ⟨[], (Prod.mk.inj hleft).2, List.forall_mem_nil _, rfl⟩

/-- A number that is not whole. -/
def IsReal (x : Number) : Prop := ∃ bits, x = .real bits

theorem yields_ofParts (p : Bool) (digits : Nat) (e : Int) :
    Yields (ofParts p digits e) IsReal := by
  intro s x left h
  unfold ofParts at h
  split at h
  · obtain ⟨rfl, -⟩ := Prod.mk.inj (Except.ok.inj h)
    exact ⟨_, rfl⟩
  · cases h

theorem yields_exponent (p : Bool) (digits : Nat) (e : Int) :
    Yields (readExponent p digits e) IsReal := by
  intro s x left h
  unfold readExponent at h
  dsimp only at h
  split at h
  · cases h
  · split_ifs at h <;> first
      | exact yields_ofParts _ _ _ _ x left h
      | exact ⟨_, (Prod.mk.inj (Except.ok.inj h)).1.symm⟩

theorem yields_end (p : Bool) (digits : Nat) (e : Int) : Yields (readEnd p digits e) IsReal := by
  intro s x left h
  unfold readEnd at h
  split at h
  · split_ifs at h
    · exact yields_exponent _ _ _ _ x left h
    · exact yields_ofParts _ _ _ _ x left h
  · exact yields_ofParts _ _ _ _ x left h

theorem yields_fraction (p : Bool) (digits : Nat) (e : Int) :
    Yields (readFraction p digits e) IsReal := by
  intro s x left h
  unfold readFraction at h
  dsimp only at h
  split_ifs at h
  · exact yields_end _ _ _ _ x left h
  · exact yields_end _ _ _ _ x left h

/-- What is read as whole is all the digits there are, and nothing goes on with it. -/
theorem whole_of_read {p : Bool} {s left : List Char} {x : Number}
    (h : Number.read p s = .ok (x, left)) : IsReal x ∨
      ∃ ds, s = ds ++ left ∧ (∀ c ∈ ds, c.isDigit) ∧ x = ofWhole p (Nat.ofDigitChars 10 ds 0) ∧
        Follows left := by
  unfold Number.read at h
  split at h
  · cases h
  · rename_i c t
    split_ifs at h
    rcases hu : takeDigits (Nat.pow 2 64) 0 0 (c :: t) with ⟨m, k, u⟩
    obtain ⟨ds, hs, hds, rfl⟩ := takeDigits_spec hu
    rw [hu] at h
    dsimp only at h
    split at h
    · exact Or.inl (yields_fraction _ _ _ _ x left h)
    · rename_i hpoint
      split_ifs at h with hmore
      · exact Or.inl (yields_end _ _ _ _ x left h)
      · obtain ⟨rfl, rfl⟩ := Prod.mk.inj (Except.ok.inj h)
        simp only [not_or, not_not, List.length_eq_zero_iff] at hmore
        obtain ⟨hbeyond, he, hE⟩ := hmore
        have hleft : skipDigits u = u := by
          have hall := List.takeWhile_append_dropWhile (p := Char.isDigit) (l := u)
          rwa [hbeyond, List.nil_append] at hall
        rw [hleft] at hpoint he hE ⊢
        refine Or.inr ⟨ds, hs, hds, rfl, fun d hd => ⟨?_, ?_, ?_, ?_⟩⟩
        · cases u with
          | nil => cases hd
          | cons d' u =>
            obtain rfl := Option.some.inj hd
            by_contra hdigit
            rw [List.takeWhile_cons_of_pos (by simpa using hdigit)] at hbeyond
            cases hbeyond
        · rintro rfl
          obtain ⟨v, hv⟩ := List.head?_eq_some_iff.1 hd
          exact hpoint v hv
        · rintro rfl
          exact he hd
        · rintro rfl
          exact hE hd

/-- What is read as whole ends where the whole part of a numeral does. -/
theorem eq_of_whole (n : Numeral) {rest ds left : List Char} (hrest : Follows rest)
    (h : n.unsigned ++ rest = ds ++ left) (hds : ∀ c ∈ ds, c.isDigit) (hleft : Follows left) :
    ds = n.whole.chars ∧ n.fraction = none ∧ n.exponent = none ∧ left = rest := by
  have hbehind := n.beginsWithDigit_fractionChars hrest
  have htake {ds s : List Char} (hds : ∀ c ∈ ds, c.isDigit) (hs : beginsWithDigit s = false) :
      (ds ++ s).takeWhile Char.isDigit = ds := by
    have hend : s.takeWhile Char.isDigit = [] := by
      cases s with
      | nil => rfl
      | cons c s =>
        have hc : c.isDigit = false := hs
        exact List.takeWhile_cons_of_neg (by simp [hc])
    rw [List.takeWhile_append_of_pos hds, hend, List.append_nil]
  rw [Numeral.unsigned, List.append_assoc, List.append_assoc] at h
  have hwhole := congrArg (List.takeWhile Char.isDigit) h
  rw [htake n.whole.digit hbehind, htake hds hleft.beginsWithDigit] at hwhole
  subst hwhole
  have htail := List.append_cancel_left h
  have hfraction : n.fraction = none := by
    cases hf : n.fraction with
    | none => rfl
    | some f =>
      rw [Numeral.fractionChars, hf] at htail
      exact absurd rfl (hleft '.' (by rw [← htail]; rfl)).2.1
  rw [Numeral.fractionChars, hfraction, List.nil_append] at htail
  have hexponent : n.exponent = none := by
    cases he : n.exponent with
    | none => rfl
    | some e =>
      rw [Numeral.exponentChars, he] at htail
      obtain ⟨-, -, hne⟩ := hleft e.letter (by rw [← htail]; rfl)
      exact absurd e.letter_eq (not_or.2 hne)
  rw [Numeral.exponentChars, hexponent, List.nil_append] at htail
  exact ⟨rfl, hfraction, hexponent, htail.symm⟩

end Number

end Pagewright.Json
