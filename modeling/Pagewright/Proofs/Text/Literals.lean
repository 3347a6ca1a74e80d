/-
  Reading texts in single quotes.

  A `Dialect` says which characters may stand for themselves in a literal, and what
  a character behind a backslash stands for.  `expression` is the dialect of the
  expressions in a template, `script` that of TypeScript sources.

  * `Dialect.step` takes one character, `Dialect.scan` reads a literal from behind
    its opening quote: its value, and what is left behind the closing one;
  * `scan_append`: characters that need no escape are read as they are;
  * `scan_cases`: a literal that is read was written without escapes and ends at its
    first quote, or it is longer than what it is read as;
  * `read_quoted_iff`: so a text that is merely put between quotes is read as it was
    exactly if it holds neither a quote nor a backslash;
  * `read_literal`: the literal of a text is read as the text without its carriage
    returns, which quotes alone would keep (`return_mem_of_scan`);
  * `read_literal_append`: these are all that a literal loses.
-/
import Mathlib.Tactic.Common
import Pagewright.Json.Scan
import Pagewright.Text.Script

namespace Pagewright.Literal

/-! ## Scanning -/

/-- The rules of a language for literals in single quotes. -/
structure Dialect where
  /-- Whether a character may stand for itself; quote and backslash never do. -/
  isPlain : Char → Bool
  /-- What a character behind a backslash stands for; `u` begins a number. -/
  escape? : Char → Option Char

/-- Where in a literal a scanner is. -/
inductive Mode where
  /-- Between characters. -/
  | plain
  /-- Behind a backslash. -/
  | escape
  /-- In a number to base sixteen: `n` so far, and before `more` digits and one. -/
  | number (more n : Nat)

/-- What a character in a literal does. -/
inductive Step where
  /-- It ends the literal. -/
  | close
  /-- It is part of an escape that goes on. -/
  | go (m : Mode)
  /-- It stands for a character, or is the last of an escape that does. -/
  | char (c : Char)
  /-- It may not stand here. -/
  | fault

/-- The character with a number; half of a surrogate pair is none. -/
def charOf? (n : Nat) : Option Char := if n.isValidChar then some (Char.ofNat n) else none

namespace Dialect

variable (D : Dialect)

/-- Takes one character. -/
def step : Mode → Char → Step
  | .plain, c =>
    if c = '\x27' then .close
    else if c = '\\' then .go .escape
    else if D.isPlain c then .char c
    else .fault
  | .escape, c =>
    if c = 'u' then .go (.number 3 0) else ((D.escape? c).map .char).getD .fault
  | .number more n, c =>
    match Json.hexValue? c, more with
    | none, _ => .fault
    | some v, 0 => ((charOf? (n * 16 + v)).map .char).getD .fault
    | some v, more + 1 => .go (.number more (n * 16 + v))

/-- The value of a literal and what is left behind its closing quote. -/
def scan : Mode → List Char → Option (List Char × List Char)
  | _, [] => none
  | m, c :: cs =>
    match D.step m c with
    | .close => some ([], cs)
    | .go m => scan m cs
    | .char d => (scan .plain cs).map fun r => (d :: r.1, r.2)
    | .fault => none

/-- What a text that begins with a literal is read as: the value of the literal,
    and what is left behind it. -/
def read (s : String) : Option (String × String) :=
  match s.toList with
  | '\x27' :: cs => (D.scan .plain cs).map fun r => (String.ofList r.1, String.ofList r.2)
  | _ => none

end Dialect

/-! ## Dialects -/

/-- The control character that a letter stands for behind a backslash. -/
def control? (c : Char) : Option Char :=
  if c = 'n' then some '\n'
  else if c = 'r' then some '\r'
  else if c = 't' then some '\t'
  else if c = 'f' then some '\x0c'
  else if c = 'v' then some '\x0b'
  else none

/-- Literals in the expressions of a template. -/
def expression : Dialect where
  isPlain _ := true
  escape? c := some ((control? c).getD c)

/-- Literals in TypeScript sources.  Line breaks must be escaped; numbers to other
    bases and with other digits than four are not read. -/
def script : Dialect where
  isPlain c := c ≠ '\n' && c ≠ '\r'
  escape? c :=
    if c = 'b' then some '\x08'
    else if c.isDigit || c ∈ ['x', '\n', '\r', '\u2028', '\u2029'] then none
    else some ((control? c).getD c)

variable {D : Dialect} {m : Mode} {c d : Char} {cs v rest : List Char}

/-! ## Single characters -/

theorem scan_of_go {m' : Mode} (h : D.step m c = .go m') :
    D.scan m (c :: cs) = D.scan m' cs := by
  rw [Dialect.scan, h]

theorem scan_of_char (h : D.step m c = .char d) (hcs : D.scan .plain cs = some (v, rest)) :
    D.scan m (c :: cs) = some (d :: v, rest) := by
  rw [Dialect.scan, h, hcs]
  rfl

theorem step_plain (hquote : c ≠ '\x27') (hslash : c ≠ '\\') (hplain : D.isPlain c) :
    D.step .plain c = .char c := by
  rw [Dialect.step, if_neg hquote, if_neg hslash, if_pos hplain]

theorem eq_of_step_plain_close (h : D.step .plain c = .close) : c = '\x27' := by
  rw [Dialect.step] at h
  split_ifs at h with hquote
  exact hquote

theorem eq_of_step_plain_char (h : D.step .plain c = .char d) :
    d = c ∧ c ≠ '\x27' ∧ c ≠ '\\' := by
  rw [Dialect.step] at h
  split_ifs at h with hquote hslash
  exact ⟨(Step.char.inj h).symm, hquote, hslash⟩

/-- What is read behind a character that is taken. -/
theorem scan_cons_cases (h : D.scan m (c :: cs) = some (v, rest)) :
    (D.step m c = .close ∧ v = [] ∧ rest = cs) ∨
      (∃ m', D.step m c = .go m' ∧ D.scan m' cs = some (v, rest)) ∨
      ∃ d w, D.step m c = .char d ∧ v = d :: w ∧ D.scan .plain cs = some (w, rest) := by
  rw [Dialect.scan] at h
  cases hstep : D.step m c with
  | close =>
    obtain ⟨rfl, rfl⟩ : [] = v ∧ cs = rest := by simpa [hstep] using h
    exact Or.inl ⟨rfl, rfl, rfl⟩
  | go m' => exact Or.inr (Or.inl ⟨m', rfl, by simpa [hstep] using h⟩)
  | char d =>
    simp only [hstep, Option.map_eq_some_iff, Prod.mk.injEq] at h
    obtain ⟨⟨w, rest⟩, hw, rfl, rfl⟩ := h
    exact Or.inr (Or.inr ⟨d, w, rfl, rfl, hw⟩)
  | fault => simp [hstep] at h

/-! ## Literals -/

/-- Characters that need no escape are read as they are. -/
theorem scan_append (h : ∀ c ∈ cs, c ≠ '\x27' ∧ c ≠ '\\' ∧ D.isPlain c) (rest : List Char) :
    D.scan .plain (cs ++ '\x27' :: rest) = some (cs, rest) := by
  induction cs with
  | nil => rfl
  | cons c cs ih =>
    obtain ⟨⟨hquote, hslash, hplain⟩, hcs⟩ := List.forall_mem_cons.1 h
    exact scan_of_char (step_plain hquote hslash hplain) (ih hcs)

/-- A literal is longer than what it is read as. -/
theorem length_scan (h : D.scan m cs = some (v, rest)) :
    v.length + rest.length < cs.length := by
  induction cs generalizing m v with
  | nil => simp [Dialect.scan] at h
  | cons c cs ih =>
    rcases scan_cons_cases h with ⟨-, rfl, rfl⟩ | ⟨m', -, hgo⟩ | ⟨d, w, -, rfl, hchar⟩
    · simp
    · exact Nat.lt_succ_of_lt (ih hgo)
    · have hlen := ih hchar
      simp only [List.length_cons]
      omega

/-- A literal that is read was written without escapes and ends at its first quote,
    or it is longer by more than the quote. -/
theorem scan_cases (h : D.scan .plain cs = some (v, rest)) :
    (cs = v ++ '\x27' :: rest ∧ ∀ c ∈ v, c ≠ '\x27' ∧ c ≠ '\\') ∨
      v.length + rest.length + 1 < cs.length := by
  induction cs generalizing v with
  | nil => simp [Dialect.scan] at h
  | cons c cs ih =>
    rcases scan_cons_cases h with ⟨hclose, rfl, rfl⟩ | ⟨m', -, hgo⟩ | ⟨d, w, hstep, rfl, hchar⟩
    · obtain rfl := eq_of_step_plain_close hclose
      exact Or.inl ⟨rfl, by simp⟩
    · exact Or.inr (Nat.succ_lt_succ (length_scan hgo))
    · obtain ⟨rfl, hplain⟩ := eq_of_step_plain_char hstep
      rcases ih hchar with ⟨rfl, hw⟩ | hlen
      · exact Or.inl ⟨rfl, List.forall_mem_cons.2 ⟨hplain, hw⟩⟩
      · right
        simp only [List.length_cons]
        omega

/-! ## Expressions -/

/-- An expression keeps a carriage return wherever it may stand. -/
theorem step_return (m : Mode) :
    expression.step m '\r' = .char '\r' ∨ expression.step m '\r' = .fault := by
  cases m with
  | plain | escape => exact Or.inl rfl
  | number more n => exact Or.inr rfl

/-- The carriage returns of a literal are in its value or left behind it. -/
theorem return_mem_of_scan (h : expression.scan m cs = some (v, rest)) (hr : '\r' ∈ cs) :
    '\r' ∈ v ∨ '\r' ∈ rest := by
  induction cs generalizing m v with
  | nil => simp at hr
  | cons c cs ih =>
    by_cases hc : c = '\r'
    · subst hc
      rcases step_return m with hstep | hstep
      · rcases scan_cons_cases h with ⟨hclose, -⟩ | ⟨m', hgo, -⟩ | ⟨d, w, hchar, rfl, -⟩
        · simp [hstep] at hclose
        · simp [hstep] at hgo
        · obtain rfl : '\r' = d := by simpa [hstep] using hchar
          exact Or.inl List.mem_cons_self
      · simp [Dialect.scan, hstep] at h
    · have hr : '\r' ∈ cs := (List.mem_cons.1 hr).resolve_left (Ne.symm hc)
      rcases scan_cons_cases h with ⟨-, -, rfl⟩ | ⟨m', -, hgo⟩ | ⟨d, w, -, rfl, hchar⟩
      · exact Or.inr hr
      · exact ih hgo hr
      · exact (ih hchar hr).imp_left (List.mem_cons_of_mem d)

/-- A text between quotes is read as it was exactly if it holds neither a quote nor
    a backslash. -/
theorem scan_expression_iff :
    expression.scan .plain (cs ++ ['\x27']) = some (cs, []) ↔ '\x27' ∉ cs ∧ '\\' ∉ cs := by
  constructor
  · intro h
    rcases scan_cases h with ⟨-, hplain⟩ | hlen
    · exact ⟨fun hmem => (hplain _ hmem).1 rfl, fun hmem => (hplain _ hmem).2 rfl⟩
    · simp at hlen
  · rintro ⟨hquote, hslash⟩
    refine scan_append (fun c hc => ⟨?_, ?_, rfl⟩) []
    · rintro rfl
      exact hquote hc
    · rintro rfl
      exact hslash hc

/-! ## Sources -/

/-- An escape of one character that stands for a character is read as it. -/
theorem scan_escaped (hu : c ≠ 'u') (hd : script.escape? c = some d)
    (hcs : script.scan .plain cs = some (v, rest)) :
    script.scan .plain ('\\' :: c :: cs) = some (d :: v, rest) := by
  have hescape : script.step .escape c = .char d := by
    rw [Dialect.step, if_neg hu, hd]
    rfl
  have hslash : script.step .plain '\\' = .go .escape := rfl
  rw [scan_of_go hslash]
  exact scan_of_char hescape hcs

/-- The literal of a text is read as the text without its carriage returns, whatever
    stands behind it. -/
theorem scan_escapeLiteralChars (cs rest : List Char) :
    script.scan .plain (Script.escapeLiteralChars cs ++ '\x27' :: rest) =
      some (cs.filter (· ≠ '\r'), rest) := by
  rw [Script.escapeLiteralChars_eq_flatMap]
  induction cs with
  | nil => rfl
  | cons c cs ih =>
    rw [List.flatMap_cons, List.append_assoc]
    unfold Script.literalChar
    split_ifs with hslash hquote hfeed hreturn
    · subst hslash
      exact scan_escaped (by decide) rfl ih
    · subst hquote
      exact scan_escaped (by decide) rfl ih
    · subst hfeed
      exact scan_escaped (by decide) rfl ih
    · subst hreturn
      exact ih
    · have hplain : script.isPlain c := by simp [script, hfeed, hreturn]
      rw [List.filter_cons_of_pos (by simpa using hreturn)]
      exact scan_of_char (step_plain hquote hslash hplain) ih

/-! ## Texts -/

theorem read_eq_some_iff {s v rest : String} :
    D.read ("'" ++ s) = some (v, rest) ↔
      D.scan .plain s.toList = some (v.toList, rest.toList) := by
  have hquote : ("'" ++ s).toList = '\x27' :: s.toList := by simp
  simp only [Dialect.read, hquote, Option.map_eq_some_iff, Prod.exists, Prod.mk.injEq]
  constructor
  · rintro ⟨w, left, hscan, rfl, rfl⟩
    simpa using hscan
  · intro hscan
    exact ⟨_, _, hscan, by simp, by simp⟩

/-- **A text between quotes is read as it was exactly if it holds neither a quote nor
    a backslash.** -/
theorem read_quoted_iff (s : String) :
    expression.read ("'" ++ s ++ "'") = some (s, "") ↔ '\x27' ∉ s.toList ∧ '\\' ∉ s.toList := by
  rw [String.append_assoc, read_eq_some_iff, ← scan_expression_iff]
  simp

/-- **The literal of a text is read as the text without its carriage returns.** -/
theorem read_literal (s : String) :
    script.read (Script.literal s) = some (String.ofList (s.toList.filter (· ≠ '\r')), "") := by
  rw [Script.literal, String.append_assoc, read_eq_some_iff]
  simpa [Script.escapeLiteral] using scan_escapeLiteralChars s.toList []

theorem filter_return {s : String} (h : '\r' ∉ s.toList) :
    String.ofList (s.toList.filter (· ≠ '\r')) = s := by
  have hkeep : s.toList.filter (· ≠ '\r') = s.toList := by
    refine List.filter_eq_self.2 fun c hc => decide_eq_true ?_
    rintro rfl
    exact h hc
  rw [hkeep, String.ofList_toList]

/-- **A text between quotes and its literal are read alike exactly if it holds no
    quote, no backslash and no carriage return.** -/
theorem read_literal_eq_iff (s : String) :
    script.read (Script.literal s) = expression.read ("'" ++ s ++ "'") ↔
      '\x27' ∉ s.toList ∧ '\\' ∉ s.toList ∧ '\r' ∉ s.toList := by
  rw [read_literal]
  constructor
  · intro h
    have hscan := h.symm
    rw [String.append_assoc, read_eq_some_iff] at hscan
    -- the quoted text would keep a carriage return, which its literal has lost
    have hreturn : '\r' ∉ s.toList := by
      intro hr
      rcases return_mem_of_scan hscan (by simp [hr]) with hr | hr <;> simp at hr
    rw [filter_return hreturn] at h
    obtain ⟨hquote, hslash⟩ := (read_quoted_iff s).1 h.symm
    exact ⟨hquote, hslash, hreturn⟩
  · rintro ⟨hquote, hslash, hreturn⟩
    rw [filter_return hreturn, (read_quoted_iff s).2 ⟨hquote, hslash⟩]

/-! ## What a literal keeps -/

theorem filter_return_eq_iff {s : String} :
    String.ofList (s.toList.filter (· ≠ '\r')) = s ↔ '\r' ∉ s.toList := by
  refine ⟨fun h hreturn => ?_, filter_return⟩
  rw [← h, String.toList_ofList] at hreturn
  exact of_decide_eq_true (List.mem_filter.1 hreturn).2 rfl

/-- The literal of a text is read up to its own closing quote. -/
theorem read_literal_front (s t : String) :
    script.read (Script.literal s ++ t) =
      some (String.ofList (s.toList.filter (· ≠ '\r')), t) := by
  have htext : Script.literal s ++ t = "'" ++ (Script.escapeLiteral s ++ "'" ++ t) := by
    simp only [Script.literal, String.append_assoc]
  rw [htext, read_eq_some_iff]
  simpa [Script.escapeLiteral] using scan_escapeLiteralChars s.toList t.toList

/-- A carriage return is written as nothing. -/
theorem escapeLiteralChars_filter (cs : List Char) :
    Script.escapeLiteralChars (cs.filter (· ≠ '\r')) = Script.escapeLiteralChars cs := by
  rw [Script.escapeLiteralChars_eq_flatMap, Script.escapeLiteralChars_eq_flatMap]
  induction cs with
  | nil => rfl
  | cons c cs ih =>
    by_cases h : c = '\r'
    · subst h
      exact ih
    · rw [List.filter_cons_of_pos (by simpa using h), List.flatMap_cons, ih, List.flatMap_cons]

/-- Texts are escaped alike exactly if they differ in carriage returns only. -/
theorem escapeLiteral_eq_iff {s t : String} :
    Script.escapeLiteral s = Script.escapeLiteral t ↔
      s.toList.filter (· ≠ '\r') = t.toList.filter (· ≠ '\r') := by
  constructor
  · intro h
    have hs := read_literal_front s ""
    rw [Script.literal, h, ← Script.literal, read_literal_front t ""] at hs
    exact String.ofList_injective (Prod.mk.inj (Option.some.inj hs)).1.symm
  · intro h
    rw [Script.escapeLiteral, Script.escapeLiteral, ← escapeLiteralChars_filter, h,
      escapeLiteralChars_filter]

/-- **A literal keeps all of its text but the carriage returns.**  Whatever stands behind
    it, it is read up to its own closing quote; the value is the text itself exactly if
    this has no carriage return.  Texts are escaped alike exactly if they differ in
    carriage returns only. -/
theorem read_literal_append (s t : String) :
    script.read (Script.literal s ++ t) =
        some (String.ofList (s.toList.filter (· ≠ '\r')), t) ∧
      (script.read (Script.literal s ++ t) = some (s, t) ↔ '\r' ∉ s.toList) ∧
      ∀ u : String, Script.escapeLiteral s = Script.escapeLiteral u ↔
        s.toList.filter (· ≠ '\r') = u.toList.filter (· ≠ '\r') := by
  refine ⟨read_literal_front s t, ?_, fun u => escapeLiteral_eq_iff⟩
  rw [read_literal_front, Option.some_inj, Prod.mk.injEq, filter_return_eq_iff]
  exact and_iff_left rfl

/-- **A carriage return is lost**: a text with one has the literal of the text without it. -/
theorem read_literal_return :
    script.read (Script.literal "a\rb") = some ("ab", "") ∧
      Script.escapeLiteral "a\rb" = Script.escapeLiteral "ab" ∧ "a\rb" ≠ "ab" := by
  decide +kernel

end Pagewright.Literal
