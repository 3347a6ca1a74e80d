/-
  The tokens of TypeScript sources.

  A source is read from left to right: `step` takes one character, and `run` all of
  them.  Blanks are skipped, and what is neither a word nor a text in single quotes
  nor a known mark is a fault, comments and other quotes among them.

  * `Reads s ts`: in front of anything, `s` is read as `ts`;
  * `Reads.append`, `Reads.lines`, `ReadsApart.intercalate`: sources are read piece by
    piece;
  * `IsWord.reads`, `Reads.literal`, `Reads.quoted`: words and texts.
-/
import Mathlib.Data.List.Forall2
import Pagewright.Proofs.Text.Literals

namespace Pagewright.Script

/-! ## Tokens -/

/-- The pairs of brackets. -/
inductive Bracket where
  | round | square | curly
  deriving DecidableEq, Repr

/-- The tokens. -/
inductive Token where
  | word (s : String)
  /-- A text in single quotes, without its escapes. -/
  | text (s : String)
  | mark (c : Char)
  | opens (b : Bracket)
  | closes (b : Bracket)
  | fault
  deriving DecidableEq, Repr

/-- The characters of a word. -/
def isWordChar (c : Char) : Bool := isIdentifierChar c || c == '$'

/-- The token that a character is on its own. -/
def tokenOf (c : Char) : Token :=
  match c with
  | '(' => .opens .round
  | ')' => .closes .round
  | '[' => .opens .square
  | ']' => .closes .square
  | '\x7b' => .opens .curly
  | '\x7d' => .closes .curly
  | ',' | ';' | ':' | '=' | '*' | '@' => .mark c
  | _ => .fault

/-! ## Reading -/

/-- What a lexer is in, with what it has read of it. -/
inductive Within where
  | nothing
  | word (cs : List Char)
  | text (m : Literal.Mode) (cs : List Char)

/-- Takes a character in front of which a token may begin. -/
def begin (c : Char) : List Token × Within :=
  if c.isWhitespace then ([], .nothing)
  else if c = '\x27' then ([], .text .plain [])
  else if isWordChar c then ([], .word [c])
  else ([tokenOf c], .nothing)

/-- Takes a character: the tokens that it completes, and what it leads to. -/
def step : Within → Char → List Token × Within
  | .nothing, c => begin c
  | .word w, c =>
    if isWordChar c then ([], .word (w ++ [c]))
    else (.word (String.ofList w) :: (begin c).1, (begin c).2)
  | .text m v, c =>
    match Literal.script.step m c with
    | .close => ([.text (String.ofList v)], .nothing)
    | .go m => ([], .text m v)
    | .char d => ([], .text .plain (v ++ [d]))
    | .fault => ([.fault], .nothing)

/-- Takes characters: the tokens that they complete, and what they lead to. -/
def run : Within → List Char → List Token × Within
  | w, [] => ([], w)
  | w, c :: cs => ((step w c).1 ++ (run (step w c).2 cs).1, (run (step w c).2 cs).2)

/-- The tokens that the end of a source completes. -/
def Within.last : Within → List Token
  | nothing => []
  | word w => [.word (String.ofList w)]
  | text _ _ => [.fault]

/-- The tokens of a source. -/
def tokens (s : String) : List Token :=
  (run .nothing s.toList).1 ++ (run .nothing s.toList).2.last

theorem run_append (w : Within) (cs ds : List Char) :
    run w (cs ++ ds) =
      ((run w cs).1 ++ (run (run w cs).2 ds).1, (run (run w cs).2 ds).2) := by
  induction cs generalizing w with
  | nil => rfl
  | cons c cs ih => simp [run, ih]

/-! ## Pieces -/

/-- `s` is read as `ts` and leads to nothing that goes on behind it. -/
def Reads (s : String) (ts : List Token) : Prop := run .nothing s.toList = (ts, .nothing)

namespace Reads

variable {s t : String} {ts us : List Token}

theorem nil : Reads "" [] := rfl

theorem append (hs : Reads s ts) (ht : Reads t us) : Reads (s ++ t) (ts ++ us) := by
  unfold Reads at *
  rw [String.toList_append, run_append, hs, ht]

theorem tokens_append (h : Reads s ts) (t : String) : tokens (s ++ t) = ts ++ tokens t := by
  unfold Reads at h
  rw [tokens, String.toList_append, run_append, h, tokens, List.append_assoc]

theorem tokens (h : Reads s ts) : tokens s = ts := by
  have hs := h.tokens_append ""
  rwa [String.append_empty, show Script.tokens "" = [] from rfl, List.append_nil] at hs

end Reads

/-- A text that does not go on a word in front of it. -/
def IsApart (s : String) : Prop := ∃ c cs, s.toList = c :: cs ∧ ¬isWordChar c

theorem IsApart.append {s : String} (h : IsApart s) (t : String) : IsApart (s ++ t) := by
  obtain ⟨c, cs, hs, hc⟩ := h
  exact ⟨c, cs ++ t.toList, by simp [hs], hc⟩

/-- In front of what does not go on a word, `s` is read as `ts`. -/
def ReadsApart (s : String) (ts : List Token) : Prop :=
  ∀ t us, IsApart t → Reads t us → Reads (s ++ t) (ts ++ us)

theorem Reads.apart {s : String} {ts : List Token} (h : Reads s ts) : ReadsApart s ts :=
  fun _ _ _ ht => h.append ht

theorem Reads.append_apart {s t : String} {ts us : List Token} (hs : Reads s ts)
    (ht : ReadsApart t us) : ReadsApart (s ++ t) (ts ++ us) := by
  intro u vs hu hreads
  rw [String.append_assoc, List.append_assoc]
  exact hs.append (ht u vs hu hreads)

/-- Lines are read one after the other. -/
theorem Reads.lines {ls : List String} {tss : List (List Token)}
    (h : List.Forall₂ ReadsApart ls tss) :
    Reads (String.join (ls.map (· ++ "\n"))) tss.flatten := by
  have hfeed : IsApart "\n" := ⟨'\n', [], rfl, by decide⟩
  induction h with
  | nil => exact Reads.nil
  | cons hl hls ih =>
    have happend := (hl _ [] hfeed rfl).append ih
    simpa using happend

/-- Pieces are read with separators between them. -/
theorem ReadsApart.intercalate {w : String} {us : List Token} (hw : Reads w us)
    (hapart : IsApart w) {ls : List String} {tss : List (List Token)}
    (h : List.Forall₂ ReadsApart ls tss) : ReadsApart (w.intercalate ls) (us.intercalate tss) := by
  induction h with
  | nil => exact Reads.nil.apart
  | cons hl hls ih =>
    cases hls with
    | nil => simpa using hl
    | cons _ _ =>
      intro t ts ht hreads
      have hrest := hl _ _ (hapart.append _) (hw.append (ih t ts ht hreads))
      simpa [String.append_assoc] using hrest

theorem ReadsApart.map {α : Type} {f : α → String} {g : α → List Token} {xs : List α}
    (h : ∀ x ∈ xs, ReadsApart (f x) (g x)) : List.Forall₂ ReadsApart (xs.map f) (xs.map g) := by
  rw [List.forall₂_map_left_iff, List.forall₂_map_right_iff, List.forall₂_same]
  exact h

/-! ## Words -/

/-- A text that is one word. -/
def IsWord (s : String) : Prop := s ≠ "" ∧ ∀ c ∈ s.toList, isWordChar c

instance (s : String) : Decidable (IsWord s) := @instDecidableAnd _ _ _ (List.decidableBAll _ _)

/-- A word goes on as long as its characters do. -/
theorem run_word (w : List Char) {v : List Char} (hv : ∀ c ∈ v, isWordChar c) :
    run (.word w) v = ([], .word (w ++ v)) := by
  induction v generalizing w with
  | nil => rw [run, List.append_nil]
  | cons d v ih =>
    obtain ⟨hd, hv⟩ := List.forall_mem_cons.1 hv
    rw [run, step, if_pos hd, ih _ hv, List.append_assoc]
    rfl

theorem begin_word {c : Char} (h : isWordChar c) : begin c = ([], .word [c]) := by
  have hblank : ¬c.isWhitespace := by
    intro hc
    simp only [Char.isWhitespace, Bool.or_eq_true, decide_eq_true_eq] at hc
    rcases hc with ((rfl | rfl) | rfl) | rfl <;> revert h <;> decide
  have hquote : c ≠ '\x27' := by
    rintro rfl
    revert h
    decide
  rw [begin, if_neg hblank, if_neg hquote, if_pos h]

/-- A word is read where it does not go on. -/
theorem IsWord.reads {s : String} (hs : IsWord s) : ReadsApart s [.word s] := by
  intro t ts ⟨c, cs, htext, hc⟩ ht
  obtain ⟨hne, hchars⟩ := hs
  obtain ⟨d, v, hsv⟩ := List.exists_cons_of_ne_nil (mt String.toList_eq_nil_iff.1 hne)
  obtain ⟨hd, hv⟩ := List.forall_mem_cons.1 (hsv ▸ hchars)
  have hword : run .nothing s.toList = ([], .word s.toList) := by
    rw [hsv, run, step, begin_word hd, run_word [d] hv]
    rfl
  unfold Reads at *
  rw [htext] at ht
  rw [String.toList_append, run_append, hword, htext]
  simp only [run, step, if_neg hc] at ht ⊢
  simpa using Prod.ext_iff.1 ht

/-! ## Texts -/

/-- A literal is one token. -/
theorem run_text {m : Literal.Mode} {v w cs rest : List Char}
    (h : Literal.script.scan m cs = some (w, rest)) :
    run (.text m v) cs =
      (.text (String.ofList (v ++ w)) :: (run .nothing rest).1, (run .nothing rest).2) := by
  induction cs generalizing m v w with
  | nil => simp [Literal.Dialect.scan] at h
  | cons c cs ih =>
    rw [run, step]
    rcases Literal.scan_cons_cases h with ⟨hstep, rfl, rfl⟩ | ⟨m', hstep, hgo⟩ |
      ⟨d, w, hstep, rfl, hchar⟩
    · simp [hstep]
    · simp [hstep, ih hgo]
    · simp [hstep, ih hchar]

theorem Reads.of_scan {s v : String}
    (h : Literal.script.scan .plain (s.toList ++ ['\x27']) = some (v.toList, [])) :
    Reads ("'" ++ s ++ "'") [.text v] := by
  have htext : ("'" ++ s ++ "'").toList = '\x27' :: (s.toList ++ ['\x27']) := by simp
  have hopen : step .nothing '\x27' = ([], .text .plain []) := rfl
  rw [Reads, htext, run, hopen, run_text h]
  simp [run]

/-- The literal of a text is read as the text. -/
theorem Reads.literal {s : String} (h : '\r' ∉ s.toList) : Reads (literal s) [.text s] := by
  have hkeep := congrArg String.toList (Literal.filter_return h)
  rw [String.toList_ofList] at hkeep
  refine Reads.of_scan ?_
  rw [escapeLiteral, String.toList_ofList, Literal.scan_escapeLiteralChars, hkeep]

/-- A text that needs no escapes. -/
def IsPlain (s : String) : Prop :=
  ∀ c ∈ s.toList, c ≠ '\x27' ∧ c ≠ '\\' ∧ Literal.script.isPlain c

instance (s : String) : Decidable (IsPlain s) := List.decidableBAll _ _

theorem IsPlain.append {s t : String} (hs : IsPlain s) (ht : IsPlain t) : IsPlain (s ++ t) := by
  intro c hc
  rw [String.toList_append, List.mem_append] at hc
  exact hc.elim (hs c) (ht c)

/-- A text that needs no escapes is read as it is. -/
theorem Reads.quoted {s : String} (h : IsPlain s) : Reads ("'" ++ s ++ "'") [.text s] :=
  Reads.of_scan (Literal.scan_append h [])

/-- A text in quotes that belong to the pieces around it. -/
theorem Reads.enclosed {a b s : String} {ts us : List Token} (ha : Reads a ts) (hs : IsPlain s)
    (hb : Reads b us) : Reads ((a ++ "'") ++ s ++ ("'" ++ b)) (ts ++ [.text s] ++ us) := by
  have htext : (a ++ "'") ++ s ++ ("'" ++ b) = a ++ ("'" ++ s ++ "'") ++ b := by
    simp only [String.append_assoc]
  rw [htext]
  exact (ha.append (.quoted hs)).append hb

end Pagewright.Script
