/-
  Values are passed over whatever they are.

  * `resume`: what is done with the brackets that are open once a value has been
    passed over;
  * `Passes w`: from any stack of open brackets the value `w` is passed over in a
    number of rounds that its length bounds, and the rest is resumed;
  * `Layout.passes`: every value is, by induction on what it is, with the stack and
    the fuel left open;
  * `passValue_layout`: so no value is refused, however deep it is.
-/
import Pagewright.Proofs.Json.Tokens

namespace Pagewright.Json

/-! ## Rounds -/

/-- Goes on inside of the brackets that are open: with a value, behind its key if it is
    a member of an object. -/
def enter (fuel : Nat) (stack : List Bracket) (s : List Char) : Except Fault (List Char) :=
  match stack with
  | [] => .ok s
  | .list :: _ => passValues fuel stack s
  | .object :: _ => passKey s >>= passValues fuel stack

/-- Goes on behind a value: with the brackets that end there, and then with what is
    inside of the others. -/
def resume (fuel : Nat) (stack : List Bracket) (s : List Char) : Except Fault (List Char) :=
  passClosing true stack s >>= fun r => enter fuel r.1 r.2

theorem passValues_succ (fuel : Nat) (stack : List Bracket) (s : List Char) :
    passValues (fuel + 1) stack s = passStart s >>= fun r =>
      passClosing r.1.isNone (r.1.toList ++ stack) r.2 >>= fun r => enter fuel r.1 r.2 := rfl

section
variable {b : Bracket} {bs : List Bracket}

theorem not_isBlank_closing (b : Bracket) : isBlank b.closing = false := by
  cases b <;> rfl

theorem passClosing_gap (afterElement : Bool) (g : Gap) (s : List Char) :
    passClosing afterElement (b :: bs) (g.chars ++ s) = passClosing afterElement (b :: bs) s := by
  simp only [passClosing, skipBlanks_gap]

theorem passClosing_closing (afterElement : Bool) (s : List Char) :
    passClosing afterElement (b :: bs) (b.closing :: s) = passClosing true bs s := by
  simp [passClosing, skipBlanks_cons (not_isBlank_closing b)]

theorem passClosing_comma (s : List Char) :
    passClosing true (b :: bs) (',' :: s) = .ok (b :: bs, s) := by
  have hclosing : ',' ≠ b.closing := by cases b <;> decide
  simp [passClosing, skipBlanks_cons (c := ',') rfl, hclosing]

/-- At the start of a bracket nothing but blanks is skipped, unless it is closed. -/
theorem passClosing_first {c : Char} (hblank : isBlank c = false) (hc : c ≠ b.closing)
    (s : List Char) : passClosing false (b :: bs) (c :: s) = .ok (b :: bs, c :: s) := by
  simp [passClosing, skipBlanks_cons hblank, hc]

theorem resume_gap (fuel : Nat) (g : Gap) (s : List Char) :
    resume fuel (b :: bs) (g.chars ++ s) = resume fuel (b :: bs) s := by
  rw [resume, resume, passClosing_gap]

theorem resume_closing (fuel : Nat) (s : List Char) :
    resume fuel (b :: bs) (b.closing :: s) = resume fuel bs s := by
  rw [resume, resume, passClosing_closing]

theorem resume_comma (fuel : Nat) (s : List Char) :
    resume fuel (b :: bs) (',' :: s) = enter fuel (b :: bs) s := by
  rw [resume, passClosing_comma]
  rfl

end

/-- A value that is passed over from any stack, in rounds that its length bounds. -/
def Passes (w : List Char) : Prop :=
  ∃ n ≤ w.length, ∀ fuel stack (g : Gap) rest, Follows rest →
    passValues (fuel + n) stack (g.chars ++ (w ++ rest)) = resume fuel stack rest

/-- What stands in a bracket and is passed over there, whatever blanks are in front: an
    element of a list, or a member of an object. -/
def PassesIn (b : Bracket) (w : List Char) : Prop :=
  ∃ (g : Gap) (c : Char) (t : List Char), w = g.chars ++ c :: t ∧ isBlank c = false ∧
    c ≠ b.closing ∧ ∃ n ≤ w.length, ∀ fuel stack (g : Gap) rest, Follows rest →
      enter (fuel + n) (b :: stack) (g.chars ++ (c :: t ++ rest)) = resume fuel (b :: stack) rest

/-- A value without brackets takes one round. -/
theorem Passes.of_start {w : List Char} (hw : w ≠ [])
    (h : ∀ (g : Gap) rest, Follows rest → passStart (g.chars ++ (w ++ rest)) = .ok (none, rest)) :
    Passes w := by
  refine ⟨1, List.length_pos_iff.2 hw, fun fuel stack g rest hrest => ?_⟩
  rw [passValues_succ, h g rest hrest]
  rfl

/-! ## Brackets -/

section
variable {b : Bracket} {ws : List (List Char)}

theorem follows_closing (b : Bracket) (ws : List (List Char)) (rest : List Char) :
    Follows (commaed false ws ++ b.closing :: rest) := by
  cases b
  · exact follows_commaed (by decide) ws rest
  · exact follows_commaed (by decide) ws rest

/-- What follows an element is passed over up to the closing bracket. -/
theorem resume_commaed (h : ∀ w ∈ ws, PassesIn b w) :
    ∃ n ≤ (commaed false ws).length, ∀ fuel stack rest,
      resume (fuel + n) (b :: stack) (commaed false ws ++ b.closing :: rest) =
        resume fuel stack rest := by
  induction ws with
  | nil => exact ⟨0, Nat.le_refl _, fun fuel stack rest => resume_closing fuel rest⟩
  | cons w ws ih =>
    obtain ⟨hw, hws⟩ := List.forall_mem_cons.1 h
    obtain ⟨g, c, t, hwt, -, -, n, hn, hrounds⟩ := hw
    obtain ⟨m, hm, hrest⟩ := ih hws
    refine ⟨m + n, ?_, fun fuel stack rest => ?_⟩
    · simp only [commaed, List.length_append, Bool.false_eq_true, if_false, List.length_singleton]
      omega
    · have hcomma : commaed false (w :: ws) ++ b.closing :: rest =
          ',' :: (g.chars ++ (c :: t ++ (commaed false ws ++ b.closing :: rest))) := by
        simp [commaed, hwt]
      rw [hcomma, resume_comma, ← Nat.add_assoc, hrounds _ _ g _ (follows_closing b ws rest), hrest]

/-- The character that opens a bracket. -/
def Bracket.opening : Bracket → Char
  | list => '['
  | object => '\x7b'

theorem passStart_opening (b : Bracket) (g : Gap) (s : List Char) :
    passStart (g.chars ++ b.opening :: s) = .ok (some b, s) := by
  cases b <;> simp [passStart, skipBlanks_gap, Bracket.opening, skipBlanks_cons (c := '[') rfl,
    skipBlanks_cons (c := '\x7b') rfl]

/-- Whatever passes inside of a bracket, the bracket passes. -/
theorem Passes.bracket (h : ∀ w ∈ ws, PassesIn b w) (g : Gap) :
    Passes (b.opening :: (g.chars ++ (commaed true ws ++ [b.closing]))) := by
  have hstart (fuel : Nat) (stack : List Bracket) (g' : Gap) (rest : List Char) :
      passValues (fuel + 1) stack
        (g'.chars ++ (b.opening :: (g.chars ++ (commaed true ws ++ [b.closing])) ++ rest)) =
      passClosing false (b :: stack) (commaed true ws ++ b.closing :: rest) >>=
        fun r => enter fuel r.1 r.2 := by
    rw [List.cons_append, passValues_succ, passStart_opening, List.append_assoc, List.append_assoc,
      List.singleton_append]
    exact congrArg (· >>= fun r => enter fuel r.1 r.2) (passClosing_gap false g _)
  cases ws with
  | nil =>
    refine ⟨1, by simp, fun fuel stack g' rest _ => ?_⟩
    rw [hstart, commaed, List.nil_append, passClosing_closing]
    rfl
  | cons w ws =>
    obtain ⟨hw, hws⟩ := List.forall_mem_cons.1 h
    obtain ⟨gw, c, t, hwt, hblank, hc, n, hn, hrounds⟩ := hw
    obtain ⟨m, hm, hrest⟩ := resume_commaed hws
    refine ⟨m + n + 1, ?_, fun fuel stack g' rest _ => ?_⟩
    · simp only [commaed, List.length_cons, List.length_append, if_true]
      omega
    · have hcommaed : commaed true (w :: ws) ++ b.closing :: rest =
          gw.chars ++ (c :: t ++ (commaed false ws ++ b.closing :: rest)) := by
        simp [commaed, hwt]
      have hfirst := hrounds (fuel + m) stack .none _ (follows_closing b ws rest)
      rw [Nat.add_assoc] at hfirst
      rw [← Nat.add_assoc, hstart, hcommaed, passClosing_gap, List.cons_append,
        passClosing_first hblank hc, ← hrest fuel stack rest, ← hfirst]
      rfl

end

/-! ## Values -/

/-- An element of a list passes if its value does. -/
theorem PassesIn.element {j : Value} {p : Padded} (hlayout : Layout j p.core) (h : Passes p.core) :
    PassesIn .list p.written := by
  obtain ⟨n, hn, hrounds⟩ := h
  obtain ⟨c, t, hct, hc⟩ := hlayout.exists_cons
  refine ⟨p.before, c, t ++ p.after.chars, by rw [Padded.written, hct, List.cons_append],
    hc.not_isBlank, hc.ne (by decide), n, ?_, fun fuel stack g rest hrest => ?_⟩
  · simp only [Padded.written, List.length_append]
    omega
  · have hchars : c :: (t ++ p.after.chars) ++ rest = p.core ++ (p.after.chars ++ rest) := by
      simp [hct]
    rw [hchars, ← resume_gap fuel p.after]
    exact hrounds _ _ g _ (p.after.follows hrest)

/-- A key is passed over with its colon. -/
theorem passKey_quoted (q : Quoted) (g between : Gap) (s : List Char) :
    passKey (g.chars ++ (q.written ++ (between.chars ++ ':' :: s))) = .ok s := by
  have hcolon : passColon (between.chars ++ ':' :: s) = .ok s := by
    rw [passColon, skipBlanks_gap, skipBlanks_cons (c := ':') rfl]
    rfl
  rw [passKey, skipBlanks_gap, Quoted.written, List.cons_append, skipBlanks_cons (c := '"') rfl,
    List.append_assoc, List.singleton_append]
  simp only [if_true, passText_quoted]
  exact hcolon

/-- A member of an object passes if its value does. -/
theorem PassesIn.entry {e : Entry} (h : Passes e.text.core) : PassesIn .object e.written := by
  obtain ⟨n, hn, hrounds⟩ := h
  refine ⟨e.before, '"', e.key.inner ++ '"' :: (e.between.chars ++ ':' :: e.text.written), ?_, rfl,
    by decide, n, ?_, fun fuel stack g rest hrest => ?_⟩
  · simp [Entry.written, Quoted.written]
  · simp only [Entry.written, Padded.written, List.length_append, List.length_cons]
    omega
  · have hchars : g.chars ++ ('"' :: (e.key.inner ++ '"' :: (e.between.chars ++
        ':' :: e.text.written)) ++ rest) = g.chars ++ (e.key.written ++ (e.between.chars ++
          ':' :: (e.text.before.chars ++ (e.text.core ++ (e.text.after.chars ++ rest))))) := by
      simp [Quoted.written, Padded.written]
    rw [hchars, ← resume_gap fuel e.text.after]
    simp only [enter, passKey_quoted]
    exact hrounds _ _ e.text.before _ (e.text.after.follows hrest)

theorem passes_number (n : Numeral) : Passes n.written := by
  have hlayout := Layout.number n
  obtain ⟨c, t, hct, hc, -⟩ := n.exists_cons
  refine Passes.of_start ?_ fun g rest hrest => ?_
  · simp [Numeral.written, Numeral.unsigned, n.whole.nonempty]
  · have hpass := Number.pass_unsigned n hrest
    have hne (d : Char) (hd : d.isDigit = false) : c ≠ d := by
      rintro rfl
      rw [hc] at hd
      cases hd
    rw [passStart, hlayout.skipBlanks]
    cases hn : n.negative with
    | true => simp [Numeral.written, hn, hpass]
    | false =>
      have hwritten : n.written ++ rest = n.unsigned ++ rest := by simp [Numeral.written, hn]
      rw [hwritten] at *
      rw [Numeral.unsigned, hct, List.cons_append, List.cons_append] at hpass ⊢
      simp only [hne '[' rfl, hne '\x7b' rfl, hne '"' rfl, hne 'n' rfl, hne 't' rfl, hne 'f' rfl,
        hne '-' rfl, hc, if_true, if_false, hpass]
      rfl

theorem passes_text (q : Quoted) : Passes q.written := by
  have hlayout := Layout.text q
  refine Passes.of_start (List.cons_ne_nil _ _) fun g rest hrest => ?_
  have hwritten : q.written ++ rest = '"' :: (q.inner ++ '"' :: rest) := by simp [Quoted.written]
  rw [passStart, hlayout.skipBlanks, hwritten]
  simp [passText_quoted]

/-- **Every value passes**, however deep it is. -/
theorem Layout.passes {j : Value} {w : List Char} (h : Layout j w) : Passes w := by
  induction h with
  | null =>
    refine Passes.of_start (by decide) fun g rest _ => ?_
    rw [passStart, Layout.null.skipBlanks]
    rfl
  | flag b =>
    have hlayout := Layout.flag b
    refine Passes.of_start (by cases b <;> decide) fun g rest _ => ?_
    rw [passStart, hlayout.skipBlanks]
    cases b <;> rfl
  | number n => exact passes_number n
  | text q => exact passes_text q
  | list g es each ih =>
    exact Passes.bracket (b := .list)
      (List.forall_mem_map.2 fun e he => PassesIn.element (each e he) (ih e he)) g
  | object g es each ih =>
    exact Passes.bracket (b := .object)
      (List.forall_mem_map.2 fun e he => PassesIn.entry (ih e he)) g

/-- A value is passed over up to its end. -/
theorem passValue_layout {j : Value} {w : List Char} (h : Layout j w) (g : Gap) {rest : List Char}
    (hrest : Follows rest) : passValue (g.chars ++ (w ++ rest)) = .ok rest := by
  obtain ⟨n, hn, hrounds⟩ := h.passes
  obtain ⟨fuel, hfuel⟩ := Nat.exists_eq_add_of_le' (m := n)
    (n := (g.chars ++ (w ++ rest)).length + 1) (by simp only [List.length_append]; omega)
  rw [passValue, hfuel, hrounds fuel [] g rest hrest]
  rfl

end Pagewright.Json
