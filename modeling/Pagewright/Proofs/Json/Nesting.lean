/-
  How deep written values nest.

  * `nesting w`: the greatest number of brackets that are open at once in the
    text `w`, told from its characters; brackets inside of texts do not count;
  * `Nests w n`: `w` closes what it opens and is `n` deep, wherever it stands;
  * `Closed w`: a written value, which nests in this sense;
  * `nesting_writeList`, `nesting_writeObject`: a list or an object is one
    deeper than the deepest of its values.
-/
import Pagewright.Proofs.Json.Values

namespace Pagewright.Json

/-- Where a character stands that is looked at: outside of all texts, inside of
    a text, or behind a backslash there. -/
inductive Quoting where
  | outside | inside | escaped
  deriving DecidableEq, Repr

/-- Where the character behind `c` stands. -/
def Quoting.next (c : Char) : Quoting → Quoting
  | outside => if c = '"' then inside else outside
  | inside => if c = '"' then outside else if c = '\\' then escaped else inside
  | escaped => inside

/-- How many brackets are open behind a character outside of all texts. -/
def openedBehind (opened : Nat) (c : Char) : Nat :=
  if c = '[' ∨ c = '\x7b' then opened + 1
  else if c = ']' ∨ c = '\x7d' then opened - 1
  else opened

/-- The greatest number of brackets that are open at once when `opened` of them
    are open in front. -/
def nestingFrom (q : Quoting) (opened : Nat) : List Char → Nat
  | [] => opened
  | c :: cs =>
    max opened (nestingFrom (q.next c) (if q = .outside then openedBehind opened c else opened) cs)

/-- The greatest number of lists and objects that are open at once in a text. -/
def nesting (w : String) : Nat := nestingFrom .outside 0 w.toList

theorem le_nestingFrom (q : Quoting) (opened : Nat) (cs : List Char) :
    opened ≤ nestingFrom q opened cs := by
  cases cs with
  | nil => exact Nat.le_refl _
  | cons c cs => exact Nat.le_max_left _ _

/-! ## Texts that close what they open -/

/-- A text that closes what it opens and is `n` deep. -/
def Nests (w : List Char) (n : Nat) : Prop :=
  ∀ opened rest,
    nestingFrom .outside opened (w ++ rest) = max (opened + n) (nestingFrom .outside opened rest)

theorem Nests.nesting_eq {w : String} {n : Nat} (h : Nests w.toList n) : nesting w = n := by
  have hnil := h 0 []
  rw [List.append_nil] at hnil
  rw [nesting, hnil]
  simp [nestingFrom]

theorem nests_nil : Nests [] 0 := by
  intro opened rest
  have hle := le_nestingFrom .outside opened rest
  rw [List.nil_append]
  omega

theorem Nests.append {v w : List Char} {m n : Nat} (hv : Nests v m) (hw : Nests w n) :
    Nests (v ++ w) (max m n) := by
  intro opened rest
  rw [List.append_assoc, hv, hw]
  omega

/-- What is written between brackets is one deeper. -/
theorem Nests.bracket {w : List Char} {n : Nat} (h : Nests w n) {o c : Char}
    (ho : o ∈ ['[', '\x7b']) (hc : c ∈ [']', '\x7d']) : Nests (o :: (w ++ [c])) (n + 1) := by
  intro opened rest
  have hle := le_nestingFrom .outside opened rest
  have hopens : Quoting.next o .outside = .outside ∧ openedBehind opened o = opened + 1 := by
    simp only [List.mem_cons, List.not_mem_nil, or_false] at ho
    rcases ho with rfl | rfl <;> exact ⟨rfl, rfl⟩
  have hcloses : Quoting.next c .outside = .outside ∧
      openedBehind (opened + 1) c = opened := by
    simp only [List.mem_cons, List.not_mem_nil, or_false] at hc
    rcases hc with rfl | rfl <;> exact ⟨rfl, rfl⟩
  rw [List.cons_append, nestingFrom, hopens.1, if_pos rfl, hopens.2, List.append_assoc, h,
    List.singleton_append, nestingFrom, hcloses.1, if_pos rfl, hcloses.2]
  omega

/-- Whether a character neither opens nor closes anything. -/
def isPlain (c : Char) : Bool := c ∉ ['"', '[', ']', '\x7b', '\x7d']

/-- A text without quotes and brackets. -/
theorem nests_plain {w : List Char} (h : w.all isPlain) : Nests w 0 := by
  induction w with
  | nil => exact nests_nil
  | cons c w ih =>
    intro opened rest
    obtain ⟨hc, hw⟩ := Bool.and_eq_true_iff.1 h
    simp only [isPlain, decide_eq_true_eq, List.mem_cons, List.not_mem_nil, or_false,
      not_or] at hc
    have hle := le_nestingFrom .outside opened rest
    have hrest := ih hw opened rest
    have hnext : Quoting.next c .outside = .outside := if_neg hc.1
    have hopened : openedBehind opened c = opened := by simp [openedBehind, hc]
    rw [List.cons_append, nestingFrom, hnext, if_pos rfl, hopened, hrest]
    omega

/-! ## Scalars -/

/-- Inside of a text nothing is opened. -/
theorem nestingFrom_quoted {q : Quoting} (hq : q ≠ .outside) (opened : Nat) (c : Char)
    (cs : List Char) : nestingFrom q opened (c :: cs) = nestingFrom (q.next c) opened cs := by
  rw [nestingFrom, if_neg hq, Nat.max_eq_right (le_nestingFrom _ _ _)]

theorem next_inside {c : Char} (hquote : c ≠ '"') (hbackslash : c ≠ '\\') :
    Quoting.next c .inside = .inside := by
  simp [Quoting.next, hquote, hbackslash]

theorem next_hexDigit {n : Nat} (h : n < 16) :
    Quoting.next (Text.hexDigit n) .inside = .inside := by
  revert n
  decide

theorem nestingFrom_inside_writeChar (c : Char) (opened : Nat) (rest : List Char) :
    nestingFrom .inside opened (writeChar c ++ rest) = nestingFrom .inside opened rest := by
  have hescape : ∀ d cs, nestingFrom .inside opened ('\\' :: d :: cs) =
      nestingFrom .inside opened cs := fun d cs => by
    rw [nestingFrom_quoted (by decide), show Quoting.next '\\' .inside = .escaped from rfl,
      nestingFrom_quoted (by decide), Quoting.next]
  unfold writeChar
  split_ifs with hquote hbackslash h₁ h₂ h₃ h₄ h₅ hcontrol
  -- a backslash and a letter stand for each of the first seven
  iterate 7 · exact hescape _ _
  · have hzero : Quoting.next '0' .inside = .inside := rfl
    have hhigh := next_hexDigit (n := c.toNat / 16) (by omega)
    have hlow := next_hexDigit (Nat.mod_lt c.toNat (by decide))
    simp only [List.cons_append, List.nil_append]
    rw [hescape, nestingFrom_quoted (by decide), hzero, nestingFrom_quoted (by decide), hzero,
      nestingFrom_quoted (by decide), hhigh, nestingFrom_quoted (by decide), hlow]
  · rw [List.singleton_append, nestingFrom_quoted (by decide), next_inside hquote hbackslash]

theorem nests_writeString (s : String) : Nests (writeString s).toList 0 := by
  intro opened rest
  have hle := le_nestingFrom .outside opened rest
  have hinside : ∀ cs : List Char,
      nestingFrom .inside opened (cs.flatMap writeChar ++ '"' :: rest) =
        nestingFrom .outside opened rest := by
    intro cs
    induction cs with
    | nil => exact nestingFrom_quoted (by decide) opened '"' rest
    | cons c cs ih =>
      rw [List.flatMap_cons, List.append_assoc, nestingFrom_inside_writeChar, ih]
  rw [toList_writeString, List.cons_append, List.append_assoc, List.singleton_append,
    nestingFrom, show Quoting.next '"' .outside = .inside from rfl, if_pos rfl,
    show openedBehind opened '"' = opened from rfl, hinside]
  omega

theorem nests_writeBool (b : Bool) : Nests (writeBool b).toList 0 := by
  cases b <;> exact nests_plain (by decide)

theorem nests_toString (n : Nat) : Nests (toString n).toList 0 := by
  refine nests_plain (List.all_eq_true.2 fun c hc => ?_)
  rw [toList_toString_nat] at hc
  have hdigit : c.isDigit := Nat.isDigit_of_mem_toDigits (by decide) (by decide) hc
  refine decide_eq_true fun hmem => ?_
  simp only [List.mem_cons, List.not_mem_nil, or_false] at hmem
  rcases hmem with rfl | rfl | rfl | rfl | rfl <;> exact absurd hdigit (by decide)

/-! ## Lists and objects -/

/-- A value that closes what it opens. -/
def Closed (w : String) : Prop := Nests w.toList (nesting w)

theorem Nests.closed {w : String} {n : Nat} (h : Nests w.toList n) : Closed w := by
  rw [Closed, h.nesting_eq]
  exact h

theorem closed_writeString (s : String) : Closed (writeString s) := (nests_writeString s).closed

theorem closed_writeBool (b : Bool) : Closed (writeBool b) := (nests_writeBool b).closed

theorem closed_toString (n : Nat) : Closed (toString n) := (nests_toString n).closed

/-- The greatest nesting among some values. -/
def deepest (ws : List String) : Nat := (ws.map nesting).foldr max 0

theorem deepest_le {ws : List String} {d : Nat} :
    deepest ws ≤ d ↔ ∀ w ∈ ws, nesting w ≤ d := by
  induction ws with
  | nil => simp [deepest]
  | cons w ws ih =>
    rw [List.forall_mem_cons, ← ih]
    exact Nat.max_le

theorem nests_separated {ws : List String} (h : ∀ w ∈ ws, Closed w) (first : Bool) :
    Nests (separated first ws) (deepest ws) := by
  induction ws generalizing first with
  | nil => exact nests_nil
  | cons w ws ih =>
    obtain ⟨hw, hws⟩ := List.forall_mem_cons.1 h
    have hcomma : Nests (if first then [] else [',']) 0 := by
      cases first <;> exact nests_plain (by decide)
    have hall := (hcomma.append hw).append (ih hws false)
    rwa [Nat.zero_max] at hall

theorem nests_writeList {ws : List String} (h : ∀ w ∈ ws, Closed w) :
    Nests (writeList ws).toList (deepest ws + 1) := by
  rw [toList_writeList]
  exact (nests_separated h true).bracket (by decide) (by decide)

theorem nests_member {m : String × String} (h : Closed m.2) :
    Nests (member m).toList (nesting m.2) := by
  have hcolon : Nests [':'] 0 := nests_plain (by decide)
  have hall := ((nests_writeString m.1).append hcolon).append h
  rw [Nat.max_self, Nat.zero_max] at hall
  rwa [member, String.toList_append, String.toList_append]

theorem nests_writeObject {ms : List (String × String)} (h : ∀ m ∈ ms, Closed m.2) :
    Nests (writeObject ms).toList (deepest (ms.map (·.2)) + 1) := by
  have hmember : ∀ m ∈ ms, nesting (member m) = nesting m.2 := fun m hm =>
    (nests_member (h m hm)).nesting_eq
  have hnesting : (ms.map member).map nesting = (ms.map (·.2)).map nesting := by
    simpa only [List.map_map, Function.comp_def] using List.map_congr_left hmember
  have hdeepest : deepest (ms.map member) = deepest (ms.map (·.2)) := by
    rw [deepest, hnesting, deepest]
  have hmembers : ∀ w ∈ ms.map member, Closed w :=
    List.forall_mem_map.2 fun m hm => (nests_member (h m hm)).closed
  rw [toList_writeObject, ← hdeepest]
  exact (nests_separated hmembers true).bracket (by decide) (by decide)

theorem closed_writeList {ws : List String} (h : ∀ w ∈ ws, Closed w) : Closed (writeList ws) :=
  (nests_writeList h).closed

theorem closed_writeStrings (ss : List String) : Closed (writeStrings ss) :=
  closed_writeList (List.forall_mem_map.2 fun s _ => closed_writeString s)

theorem closed_writeObject {ms : List (String × String)} (h : ∀ m ∈ ms, Closed m.2) :
    Closed (writeObject ms) := (nests_writeObject h).closed

/-- A list fits when there is a bracket for it and its values fit inside. -/
theorem nesting_writeList_le {ws : List String} (h : ∀ w ∈ ws, Closed w) {d : Nat} :
    nesting (writeList ws) ≤ d + 1 ↔ ∀ w ∈ ws, nesting w ≤ d := by
  rw [(nests_writeList h).nesting_eq, Nat.add_le_add_iff_right, deepest_le]

/-- An object fits when there is a bracket for it and its values fit inside. -/
theorem nesting_writeObject_le {ms : List (String × String)} (h : ∀ m ∈ ms, Closed m.2)
    {d : Nat} : nesting (writeObject ms) ≤ d + 1 ↔ ∀ m ∈ ms, nesting m.2 ≤ d := by
  rw [(nests_writeObject h).nesting_eq, Nat.add_le_add_iff_right, deepest_le, List.forall_mem_map]

/-- Brackets inside of a text do not count. -/
example : nesting (writeList [writeObject [("a", writeList [])], writeString "[["]) = 3 := by decide

theorem nesting_writeList_pos {ws : List String} (h : ∀ w ∈ ws, Closed w) :
    0 < nesting (writeList ws) := by
  rw [(nests_writeList h).nesting_eq]
  exact Nat.succ_pos _

theorem nesting_writeObject_pos {ms : List (String × String)} (h : ∀ m ∈ ms, Closed m.2) :
    0 < nesting (writeObject ms) := by
  rw [(nests_writeObject h).nesting_eq]
  exact Nat.succ_pos _

end Pagewright.Json
