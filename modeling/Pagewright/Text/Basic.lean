/-
  Texts as lists of characters: the small operations that every emitter shares.

  * `isIn ranges` is membership in a set given by ranges of code points;
  * `substitute c w` writes `w` for every `c`; on a concatenation it acts on
    each part (`substitute_append`);
  * `withoutEnding w s` takes one `w` off the end of `s`;
  * `lines` joins texts by line feeds, `indent` is the space before a nested line.
-/

namespace Pagewright

/-- Whether `c` lies in one of the ranges of code points, ends included. -/
def Text.isIn (ranges : List (Nat × Nat)) (c : Char) : Bool :=
  ranges.any fun r => r.1 ≤ c.toNat && c.toNat ≤ r.2

namespace Text

/-! ## Substitution -/

/-- The text `cs` with every `c` written as `w`. -/
def substitute (c : Char) (w : String) (cs : List Char) : List Char :=
  cs.flatMap fun d => if d = c then w.toList else [d]

@[simp] theorem substitute_nil (c : Char) (w : String) : substitute c w [] = [] := rfl

theorem substitute_cons (c : Char) (w : String) (d : Char) (cs : List Char) :
    substitute c w (d :: cs) = (if d = c then w.toList else [d]) ++ substitute c w cs := rfl

theorem substitute_append (c : Char) (w : String) (cs ds : List Char) :
    substitute c w (cs ++ ds) = substitute c w cs ++ substitute c w ds := by
  simp [substitute]

theorem substitute_of_not_mem {c : Char} {w : String} {cs : List Char} (h : c ∉ cs) :
    substitute c w cs = cs := by
  induction cs with
  | nil => rfl
  | cons d cs ih =>
    obtain ⟨hd, hcs⟩ := not_or.1 (mt List.mem_cons.2 h)
    rw [substitute_cons, if_neg (Ne.symm hd), ih hcs]; rfl

/-! ## Endings -/

/-- `s` without one `w` at its end, or `s` itself if it does not end in `w`. -/
def withoutEnding (w s : String) : String :=
  if w.toList.isSuffixOf s.toList then
    String.ofList (s.toList.take (s.toList.length - w.toList.length))
  else s

theorem withoutEnding_append (w s : String) : withoutEnding w (s ++ w) = s := by
  simp [withoutEnding]

/-! ## Lines -/

/-- The texts one below the other, without a line feed after the last. -/
def lines (ls : List String) : String := "\n".intercalate ls

/-- Two spaces for each level of nesting. -/
def indent (depth : Nat) : String := String.ofList (List.replicate (2 * depth) ' ')

@[simp] theorem toList_indent (depth : Nat) :
    (indent depth).toList = List.replicate (2 * depth) ' ' := by
  simp [indent]

end Text

end Pagewright
