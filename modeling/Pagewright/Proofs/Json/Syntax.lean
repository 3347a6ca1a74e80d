/-
  The texts of JSON.

  A `Value` is what a text says, down to its tokens: texts are kept as they are
  spelled, and so are numbers.  Nothing is said of the blanks between tokens.

  * `Quoted`, `Numeral`: the tokens that have parts of their own;
  * `Quoted.value?`: the text that a quoted one stands for, unless half of a
    surrogate pair is in it;
  * `Layout j w`: the characters `w` write the value `j`, with any blanks between
    its tokens; `Document j s` allows for blanks in front and behind as well;
  * `layout_compact`: every value can be written, without blanks for one.

  Two texts differ in blanks only if they are layouts of one value.
-/
import Pagewright.Proofs.Json.Scalars

namespace Pagewright.Json

/-! ## Blanks -/

/-- The blanks between two tokens. -/
structure Gap where
  chars : List Char
  blank : ∀ c ∈ chars, isBlank c

/-- No blanks. -/
def Gap.none : Gap := ⟨[], nofun⟩

theorem skipBlanks_gap (g : Gap) (s : List Char) : skipBlanks (g.chars ++ s) = skipBlanks s :=
  List.dropWhile_append_of_pos g.blank

/-- Blanks behind a value do not go on with it. -/
theorem Gap.follows (g : Gap) {rest : List Char} (h : Follows rest) :
    Follows (g.chars ++ rest) := by
  obtain ⟨cs, hblank⟩ := g
  cases cs with
  | nil => exact h
  | cons c cs =>
    intro d hd
    obtain rfl : c = d := by simpa using hd
    have hc := hblank c List.mem_cons_self
    simp only [isBlank, Bool.or_eq_true, beq_iff_eq] at hc
    rcases hc with ((rfl | rfl) | rfl) | rfl <;> decide

/-! ## Texts -/

/-- A digit to base sixteen, with its value. -/
structure HexDigit where
  char : Char
  value : Nat
  spelled : hexValue? char = some value

/-- A code unit, in four digits. -/
structure CodeUnit where
  first : HexDigit
  second : HexDigit
  third : HexDigit
  fourth : HexDigit

namespace CodeUnit

variable (u : CodeUnit)

def chars : List Char := [u.first.char, u.second.char, u.third.char, u.fourth.char]

def number : Nat :=
  ((u.first.value * 16 + u.second.value) * 16 + u.third.value) * 16 + u.fourth.value

end CodeUnit

/-- A piece of a text between its quotes. -/
inductive Piece where
  /-- A character that stands for itself. -/
  | plain (c : Char) (stands : c ≠ '"' ∧ c ≠ '\\' ∧ ¬c.toNat < 0x20)
  /-- A letter behind a backslash, and the character that it stands for. -/
  | letter (c d : Char) (stands : shortEscape? c = some d)
  /-- A code unit behind a backslash. -/
  | unit (u : CodeUnit)

/-- A piece as it is written. -/
def Piece.written : Piece → List Char
  | plain c _ => [c]
  | letter c _ _ => ['\\', c]
  | unit u => '\\' :: 'u' :: u.chars

/-- The character of a surrogate pair. -/
def pairedChar (leading trailing : Nat) : Char :=
  Char.ofNat (0x10000 + (leading - 0xD800) * 0x400 + (trailing - 0xDC00))

/-- The characters that pieces stand for.  Half of a surrogate pair is none. -/
def charsOf? : List Piece → Option (List Char)
  | [] => some []
  | .plain c _ :: ps => (charsOf? ps).map (c :: ·)
  | .letter _ d _ :: ps => (charsOf? ps).map (d :: ·)
  | .unit u :: ps =>
    if isTrailing u.number then none
    else if isLeading u.number then
      match ps with
      | .unit t :: ps =>
        if isTrailing t.number then (charsOf? ps).map (pairedChar u.number t.number :: ·) else none
      | _ => none
    else (charsOf? ps).map (Char.ofNat u.number :: ·)

/-- A text as it is spelled between quotes. -/
structure Quoted where
  pieces : List Piece

namespace Quoted

/-- What stands behind the opening quote. -/
def inner (q : Quoted) : List Char := q.pieces.flatMap Piece.written

def written (q : Quoted) : List Char := '"' :: (q.inner ++ ['"'])

/-- The text that is spelled, if there is one. -/
def value? (q : Quoted) : Option String := (charsOf? q.pieces).map String.ofList

end Quoted

/-! ## Numbers -/

/-- One digit or more. -/
structure Digits where
  chars : List Char
  nonempty : chars ≠ []
  digit : ∀ c ∈ chars, c.isDigit

/-- The exponent of a number. -/
structure Exponent where
  letter : Char
  sign : Option Char
  digits : Digits
  letter_eq : letter = 'e' ∨ letter = 'E'
  sign_eq : ∀ c ∈ sign, c = '+' ∨ c = '-'

/-- A number as it is spelled. -/
structure Numeral where
  negative : Bool
  whole : Digits
  fraction : Option Digits
  exponent : Option Exponent
  /-- Only the number zero begins with the digit zero. -/
  leading : ∀ t, whole.chars = '0' :: t → t = []

namespace Numeral

/-- What may stand behind the whole part: a fraction, and an exponent. -/
def fractionChars (n : Numeral) : List Char :=
  match n.fraction with
  | some ds => '.' :: ds.chars
  | none => []

def exponentChars (n : Numeral) : List Char :=
  match n.exponent with
  | some e => e.letter :: (e.sign.toList ++ e.digits.chars)
  | none => []

/-- A number without its sign. -/
def unsigned (n : Numeral) : List Char := n.whole.chars ++ (n.fractionChars ++ n.exponentChars)

def written (n : Numeral) : List Char := (if n.negative then ['-'] else []) ++ n.unsigned

end Numeral

/-! ## Values -/

/-- What a text says, down to its tokens. -/
inductive Value where
  | null
  | flag (b : Bool)
  | number (n : Numeral)
  | text (q : Quoted)
  | list (es : List Value)
  | object (ms : List (Quoted × Value))

/-- Characters with the blanks around them. -/
structure Padded where
  before : Gap
  core : List Char
  after : Gap

def Padded.written (p : Padded) : List Char := p.before.chars ++ (p.core ++ p.after.chars)

/-- A member of an object with the blanks around its tokens. -/
structure Entry where
  before : Gap
  key : Quoted
  between : Gap
  value : Value
  text : Padded

namespace Entry

def written (e : Entry) : List Char :=
  e.before.chars ++ (e.key.written ++ (e.between.chars ++ ':' :: e.text.written))

def member (e : Entry) : Quoted × Value := (e.key, e.value)

end Entry

/-- Texts one behind the other; a comma stands before each, unless it is the first. -/
def commaed (first : Bool) : List (List Char) → List Char
  | [] => []
  | w :: ws => (if first then [] else [',']) ++ (w ++ commaed false ws)

/-- The characters of a value, with any blanks between its tokens. -/
inductive Layout : Value → List Char → Prop
  | null : Layout .null "null".toList
  | flag (b : Bool) : Layout (.flag b) (writeBool b).toList
  | number (n : Numeral) : Layout (.number n) n.written
  | text (q : Quoted) : Layout (.text q) q.written
  | list (g : Gap) (es : List (Value × Padded)) (each : ∀ e ∈ es, Layout e.1 e.2.core) :
      Layout (.list (es.map (·.1)))
        ('[' :: (g.chars ++ (commaed true (es.map (·.2.written)) ++ [']'])))
  | object (g : Gap) (es : List Entry) (each : ∀ e ∈ es, Layout e.value e.text.core) :
      Layout (.object (es.map Entry.member))
        ('\x7b' :: (g.chars ++ (commaed true (es.map Entry.written) ++ ['\x7d'])))

/-- A whole text that says a value. -/
def Document (j : Value) (s : List Char) : Prop := ∃ p : Padded, Layout j p.core ∧ s = p.written

/-! ## Texts without blanks -/

namespace Value

mutual

/-- A value as it is written without blanks. -/
def compact : Value → List Char
  | null => "null".toList
  | flag b => (writeBool b).toList
  | number n => n.written
  | text q => q.written
  | list es => '[' :: (commaed true (compactEach es) ++ [']'])
  | object ms => '\x7b' :: (commaed true (compactMembers ms) ++ ['\x7d'])

/-- Values without blanks, each on its own. -/
def compactEach : List Value → List (List Char)
  | [] => []
  | e :: es => compact e :: compactEach es

/-- Members without blanks, each on its own. -/
def compactMembers : List (Quoted × Value) → List (List Char)
  | [] => []
  | (q, j) :: ms => (q.written ++ ':' :: compact j) :: compactMembers ms

end

theorem compactEach_eq_map (es : List Value) : compactEach es = es.map compact := by
  induction es with
  | nil => rfl
  | cons e es ih => rw [compactEach, ih, List.map_cons]

theorem compactMembers_eq_map (ms : List (Quoted × Value)) :
    compactMembers ms = ms.map fun m => m.1.written ++ ':' :: m.2.compact := by
  induction ms with
  | nil => rfl
  | cons m ms ih =>
    obtain ⟨q, j⟩ := m
    rw [compactMembers, ih, List.map_cons]

end Value

/-- Characters without blanks around them. -/
def Padded.bare (w : List Char) : Padded := ⟨.none, w, .none⟩

/-- A member without blanks between its tokens. -/
def Entry.bare (m : Quoted × Value) : Entry := ⟨.none, m.1, .none, m.2, .bare m.2.compact⟩

open Value in
mutual

/-- Every value has a text. -/
theorem layout_compact : ∀ j : Value, Layout j j.compact
  | .null => .null
  | .flag b => .flag b
  | .number n => .number n
  | .text q => .text q
  | .list es => by
    have heach := layout_compactEach es
    have hlayout := Layout.list .none (es.map fun e => (e, Padded.bare e.compact))
      (List.forall_mem_map.2 heach)
    have hvalue : (es.map fun e => (e, Padded.bare e.compact)).map (·.1) = es := by
      rw [List.map_map]
      exact List.map_id es
    have hchars : (es.map fun e => (e, Padded.bare e.compact)).map (·.2.written) =
        compactEach es := by
      simp [compactEach_eq_map, Padded.written, Padded.bare, Gap.none]
    rw [hvalue, hchars] at hlayout
    exact hlayout
  | .object ms => by
    have heach := layout_compactMembers ms
    have hlayout := Layout.object .none (ms.map Entry.bare) (List.forall_mem_map.2 heach)
    have hvalue : (ms.map Entry.bare).map Entry.member = ms := by
      rw [List.map_map]
      exact List.map_id ms
    have hchars : (ms.map Entry.bare).map Entry.written = compactMembers ms := by
      simp [compactMembers_eq_map, Entry.written, Entry.bare, Padded.written, Padded.bare, Gap.none]
    rw [hvalue, hchars] at hlayout
    exact hlayout

theorem layout_compactEach : ∀ (es : List Value), ∀ e ∈ es, Layout e e.compact
  | [] => nofun
  | e :: es => List.forall_mem_cons.2 ⟨layout_compact e, layout_compactEach es⟩

theorem layout_compactMembers : ∀ (ms : List (Quoted × Value)), ∀ m ∈ ms, Layout m.2 m.2.compact
  | [] => nofun
  | (_, j) :: ms => List.forall_mem_cons.2 ⟨layout_compact j, layout_compactMembers ms⟩

end

theorem document_compact (j : Value) : Document j j.compact :=
  ⟨.bare j.compact, layout_compact j, by simp [Padded.written, Padded.bare, Gap.none]⟩

/-! ## First characters -/

/-- What a value begins with, as far as its kind tells. -/
def Value.begins : Value → Char → Prop
  | null, c => c = 'n'
  | flag _, c => c = 't' ∨ c = 'f'
  | number _, c => c = '-' ∨ c.isDigit
  | text _, c => c = '"'
  | list _, c => c = '['
  | object _, c => c = '\x7b'

theorem Numeral.exists_cons (n : Numeral) :
    ∃ c t, n.whole.chars = c :: t ∧ c.isDigit ∧ ∀ d ∈ t, d.isDigit := by
  obtain ⟨c, t, hct⟩ := List.exists_cons_of_ne_nil n.whole.nonempty
  obtain ⟨hc, ht⟩ := List.forall_mem_cons.1 (hct ▸ n.whole.digit)
  exact ⟨c, t, hct, hc, ht⟩

theorem Layout.exists_cons {j : Value} {w : List Char} (h : Layout j w) :
    ∃ c t, w = c :: t ∧ j.begins c := by
  cases h with
  | null => exact ⟨_, _, rfl, rfl⟩
  | flag b =>
    cases b with
    | true => exact ⟨'t', _, rfl, Or.inl rfl⟩
    | false => exact ⟨'f', _, rfl, Or.inr rfl⟩
  | number n =>
    obtain ⟨c, t, hct, hc, -⟩ := n.exists_cons
    rw [Numeral.written, Numeral.unsigned, hct]
    cases n.negative with
    | true => exact ⟨'-', _, rfl, Or.inl rfl⟩
    | false => exact ⟨c, _, rfl, Or.inr hc⟩
  | text q => exact ⟨_, _, rfl, rfl⟩
  | list g es each => exact ⟨_, _, rfl, rfl⟩
  | object g es each => exact ⟨_, _, rfl, rfl⟩

/-- The characters that values begin with. -/
theorem Value.begins.mem {j : Value} {c : Char} (h : j.begins c) :
    c ∈ ['n', 't', 'f', '-', '"', '[', '\x7b'] ∨ c.isDigit := by
  cases j <;> simp_all only [begins, List.mem_cons, List.not_mem_nil, or_false, or_true, true_or]
  case flag => rcases h with rfl | rfl <;> decide
  case number => exact h.imp_left fun h => by simp [h]

/-- A value begins with no blank, and with nothing that separates or closes. -/
theorem Value.begins.ne {j : Value} {c : Char} (h : j.begins c) {d : Char}
    (hd : d ∈ [' ', '\t', '\n', '\r', ',', ':', ']', '\x7d']) : c ≠ d := by
  rintro rfl
  have hnone : ∀ d ∈ [' ', '\t', '\n', '\r', ',', ':', ']', '\x7d'],
      d ∉ ['n', 't', 'f', '-', '"', '[', '\x7b'] ∧ ¬d.isDigit := by
    intro d hd
    simp only [List.mem_cons, List.not_mem_nil, or_false] at hd
    rcases hd with rfl | rfl | rfl | rfl | rfl | rfl | rfl | rfl <;> decide
  exact h.mem.elim (hnone c hd).1 (hnone c hd).2

theorem Value.begins.not_isBlank {j : Value} {c : Char} (h : j.begins c) : isBlank c = false := by
  simp only [isBlank, Bool.or_eq_false_iff, beq_eq_false_iff_ne]
  exact ⟨⟨⟨h.ne (by decide), h.ne (by decide)⟩, h.ne (by decide)⟩, h.ne (by decide)⟩

/-- Behind each value in brackets stands a comma or the closing bracket. -/
theorem follows_commaed {d : Char} (hd : d ∈ [']', '\x7d']) (ws : List (List Char))
    (rest : List Char) : Follows (commaed false ws ++ d :: rest) := by
  cases ws with
  | nil => exact follows_cons (List.mem_cons_of_mem _ hd) rest
  | cons w ws => exact follows_cons List.mem_cons_self _

/-- Neither the blanks behind an element nor the next one go on with it. -/
theorem Padded.follows_element (p : Padded) (ws : List (List Char)) (rest : List Char) :
    Follows (p.after.chars ++ (commaed false ws ++ ']' :: rest)) :=
  p.after.follows (follows_commaed (by decide) ws rest)

/-- Neither the blanks behind a member nor the next one go on with it. -/
theorem Padded.follows_member (p : Padded) (ws : List (List Char)) (rest : List Char) :
    Follows (p.after.chars ++ (commaed false ws ++ '\x7d' :: rest)) :=
  p.after.follows (follows_commaed (by decide) ws rest)

/-- In front of a value only blanks are skipped. -/
theorem Layout.skipBlanks {j : Value} {w : List Char} (h : Layout j w) (g : Gap) (s : List Char) :
    Json.skipBlanks (g.chars ++ (w ++ s)) = w ++ s := by
  obtain ⟨c, t, rfl, hc⟩ := h.exists_cons
  rw [skipBlanks_gap, List.cons_append, skipBlanks_cons hc.not_isBlank]

end Pagewright.Json
