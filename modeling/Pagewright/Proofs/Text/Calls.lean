/-
  Calls in the expressions of a template, and declarations of methods.

  * `Spot.step` takes one character of a source and keeps track of what is open:
    brackets, literals, and the holes of template literals;
  * `IsClosed`: a text that leaves nothing open, such as what a method is called with;
  * `enclosed_eq_some_iff`: what stands between a round bracket and the one that closes
    it is closed, and any closed text can stand there;
  * `readCall` reads a call, and reads no other text (`readCall_eq_some_iff`);
  * `readMethod` reads the declaration of a method that logs a text.  That of a
    handler is read if its method is a name (`readMethod_line`), and not if it is a
    call with something between its brackets (`readMethod_line_call`).
-/
import Pagewright.Interaction
import Pagewright.Proofs.Text.Tokens

namespace Pagewright.Script

open Text

/-! ## Names -/

/-- A word that can name a member of a class: it does not begin with a digit. -/
structure IsName (s : String) : Prop where
  word : IsWord s
  start : s.toList.head?.all (!·.isDigit)

instance (s : String) : Decidable (IsName s) :=
  decidable_of_iff (IsWord s ∧ s.toList.head?.all (!·.isDigit))
    ⟨fun h => ⟨h.1, h.2⟩, fun h => ⟨h.word, h.start⟩⟩

/-- The words that an expression in a template does not take for names. -/
def expressionWords : List String :=
  ["as", "else", "false", "if", "in", "let", "null", "this", "true", "typeof", "undefined", "var",
    "void"]

/-- The word that a text begins with, and what is left behind it. -/
def readName (cs : List Char) : Option (String × List Char) :=
  let name := String.ofList (cs.takeWhile isWordChar)
  if IsName name then some (name, cs.dropWhile isWordChar) else none

/-- A word goes up to the first character that is in none. -/
theorem IsWord.span_append {s : String} (h : IsWord s) {rest : List Char}
    (hrest : ∀ c ∈ rest.head?, ¬isWordChar c) :
    (s.toList ++ rest).takeWhile isWordChar = s.toList ∧
      (s.toList ++ rest).dropWhile isWordChar = rest := by
  have hend : rest.takeWhile isWordChar = [] ∧ rest.dropWhile isWordChar = rest := by
    cases rest with
    | nil => exact ⟨rfl, rfl⟩
    | cons c cs =>
      have hc : ¬isWordChar c := hrest c rfl
      exact ⟨List.takeWhile_cons_of_neg hc, List.dropWhile_cons_of_neg hc⟩
  rw [List.takeWhile_append_of_pos h.2, List.dropWhile_append_of_pos h.2, hend.1, hend.2,
    List.append_nil]
  exact ⟨rfl, rfl⟩

/-- A name is read where no character of a word follows. -/
theorem readName_append {name : String} (h : IsName name) {rest : List Char}
    (hrest : ∀ c ∈ rest.head?, ¬isWordChar c) :
    readName (name.toList ++ rest) = some (name, rest) := by
  obtain ⟨hword, hleft⟩ := h.word.span_append hrest
  rw [readName, hword, hleft, String.ofList_toList, if_pos h]

/-- What a name was read from. -/
theorem of_readName {name : String} {cs rest : List Char}
    (h : readName cs = some (name, rest)) : IsName name ∧ cs = name.toList ++ rest := by
  rw [readName] at h
  split_ifs at h with hname
  obtain ⟨rfl, rfl⟩ := Prod.mk.inj (Option.some.inj h)
  refine ⟨hname, ?_⟩
  rw [String.toList_ofList, List.takeWhile_append_dropWhile]

/-! ## What is open -/

/-- What literals stand between; `back` is for template literals. -/
inductive Quote where
  | single | double | back
  deriving DecidableEq

/-- A quote as it is written. -/
def Quote.char : Quote → Char
  | single => '\x27'
  | double => '"'
  | back => '\x60'

/-- The quote that a character is. -/
def quote? (c : Char) : Option Quote := [.single, .double, .back].find? fun q => q.char = c

/-- What has to be closed again. -/
inductive Opened where
  | bracket (b : Bracket)
  /-- A hole in a template literal. -/
  | hole
  deriving DecidableEq

/-- Where a reader is, with what is open around it. -/
inductive Spot where
  | code (os : List Opened)
  /-- In a literal, which ends at its quote. -/
  | literal (q : Quote) (os : List Opened)
  /-- Behind a backslash in a literal. -/
  | escape (q : Quote) (os : List Opened)
  /-- Behind a dollar sign in a template literal. -/
  | dollar (os : List Opened)
  deriving DecidableEq

namespace Spot

/-- Takes a character of a literal. -/
def stepLiteral (q : Quote) (os : List Opened) (c : Char) : Spot :=
  if c = q.char then code os
  else if c = '\\' then escape q os
  else if c = '$' ∧ q = .back then dollar os
  else literal q os

/-- Takes a bracket that closes. -/
def close (b : Bracket) : List Opened → Option Spot
  | .bracket b' :: os => if b' = b then some (code os) else none
  | .hole :: os => if b = .curly then some (literal .back os) else none
  | [] => none

/-- Takes a character. -/
def step : Spot → Char → Option Spot
  | code os, c =>
    match quote? c with
    | some q => some (literal q os)
    | none =>
      match tokenOf c with
      | .opens b => some (code (.bracket b :: os))
      | .closes b => close b os
      | _ => some (code os)
  | literal q os, c => some (stepLiteral q os c)
  | escape q os, _ => some (literal q os)
  | dollar os, c => some (if c = '\x7b' then code (.hole :: os) else stepLiteral .back os c)

/-- No round bracket closes where nothing is open. -/
theorem step_close : step (code []) ')' = none := rfl

/-- Behind a round bracket that opens, something is open. -/
theorem step_open_ne (s : Spot) : s.step '(' ≠ some (code []) := by
  have hliteral (q : Quote) (os : List Opened) : stepLiteral q os '(' = literal q os := by
    cases q <;> rfl
  cases s with
  | code os => exact fun h => nomatch h
  | literal q os =>
    rw [step, hliteral]
    exact fun h => nomatch h
  | escape q os => exact fun h => nomatch h
  | dollar os => exact fun h => nomatch h

end Spot

/-- A text that leaves nothing open. -/
def IsClosed (s : String) : Prop := s.toList.foldlM Spot.step (.code []) = some (.code [])

instance (s : String) : Decidable (IsClosed s) :=
  inferInstanceAs (Decidable (s.toList.foldlM Spot.step (.code []) = some (.code [])))

/-- A closed text does not end with a round bracket that opens. -/
theorem IsClosed.getLast?_ne {s : String} (h : IsClosed s) : s.toList.getLast? ≠ some '(' := by
  intro hlast
  obtain ⟨init, hs⟩ := List.getLast?_eq_some_iff.1 hlast
  rw [IsClosed, hs, List.foldlM_append] at h
  obtain ⟨spot, -, hstep⟩ := Option.bind_eq_some_iff.1 h
  have hopen : spot.step '(' = some (.code []) := by simpa using hstep
  exact spot.step_open_ne hopen

/-! ## Between brackets -/

/-- Reads up to the round bracket that closes where nothing else is open: what stands
    in front of it, and what is left behind it. -/
def enclosed : Spot → List Char → Option (List Char × List Char)
  | _, [] => none
  | s, c :: cs =>
    if s = .code [] ∧ c = ')' then some ([], cs)
    else (s.step c).bind fun s => (enclosed s cs).map fun r => (c :: r.1, r.2)

/-- What is read from a character that does not end it. -/
theorem enclosed_cons_eq_some_iff {s : Spot} {c : Char} {cs inner rest : List Char}
    (h : ¬(s = .code [] ∧ c = ')')) :
    enclosed s (c :: cs) = some (inner, rest) ↔
      ∃ spot inner', s.step c = some spot ∧ enclosed spot cs = some (inner', rest) ∧
        inner = c :: inner' := by
  rw [enclosed, if_neg h, Option.bind_eq_some_iff]
  refine exists_congr fun spot => ?_
  rw [Option.map_eq_some_iff]
  constructor
  · rintro ⟨hstep, ⟨inner', rest'⟩, hread, heq⟩
    obtain ⟨rfl, rfl⟩ := Prod.mk.inj heq
    exact ⟨inner', hstep, hread, rfl⟩
  · rintro ⟨inner', hstep, hread, rfl⟩
    exact ⟨hstep, (inner', rest), hread, rfl⟩

/-- What is read up to the bracket leaves nothing open, and any such text is read. -/
theorem enclosed_eq_some_iff {s : Spot} {cs inner rest : List Char} :
    enclosed s cs = some (inner, rest) ↔
      cs = inner ++ ')' :: rest ∧ inner.foldlM Spot.step s = some (.code []) := by
  induction cs generalizing s inner with
  | nil => simp [enclosed]
  | cons c cs ih =>
    by_cases hend : s = .code [] ∧ c = ')'
    · obtain ⟨rfl, rfl⟩ := hend
      have hread : enclosed (.code []) (')' :: cs) = some ([], cs) := if_pos ⟨rfl, rfl⟩
      rw [hread]
      cases inner with
      | nil => simp [eq_comm]
      | cons d inner =>
        -- the bracket would have to be part of a closed text
        refine iff_of_false (by simp) ?_
        rintro ⟨hcs, hinner⟩
        obtain ⟨rfl, -⟩ := List.cons.inj hcs
        rw [List.foldlM_cons, Spot.step_close] at hinner
        cases hinner
    · rw [enclosed_cons_eq_some_iff hend]
      constructor
      · rintro ⟨spot, inner', hstep, hread, rfl⟩
        obtain ⟨rfl, hinner⟩ := ih.1 hread
        refine ⟨rfl, ?_⟩
        rw [List.foldlM_cons, hstep]
        exact hinner
      · rintro ⟨hcs, hinner⟩
        cases inner with
        | nil => exact absurd ⟨Option.some.inj hinner, (List.cons.inj hcs).1⟩ hend
        | cons d inner =>
          obtain ⟨rfl, rfl⟩ := List.cons.inj hcs
          rw [List.foldlM_cons] at hinner
          obtain ⟨spot, hstep, hinner⟩ := Option.bind_eq_some_iff.1 hinner
          exact ⟨spot, inner, hstep, ih.2 ⟨rfl, hinner⟩, rfl⟩

/-- Reads a name, and what stands between round brackets right behind it. -/
def readHead (cs : List Char) : Option ((String × String) × List Char) :=
  match readName cs with
  | some (name, '(' :: cs) =>
    (enclosed (.code []) cs).map fun r => ((name, String.ofList r.1), r.2)
  | _ => none

theorem readHead_eq_some_iff {cs rest : List Char} {name inner : String} :
    readHead cs = some ((name, inner), rest) ↔
      cs = (name ++ "(" ++ inner ++ ")").toList ++ rest ∧ IsName name ∧ IsClosed inner := by
  constructor
  · intro h
    rw [readHead] at h
    split at h
    next name' cs' hname =>
      obtain ⟨⟨inner', rest'⟩, hread, heq⟩ := Option.map_eq_some_iff.1 h
      obtain ⟨hhead, rfl⟩ := Prod.mk.inj heq
      obtain ⟨rfl, rfl⟩ := Prod.mk.inj hhead
      obtain ⟨hmember, rfl⟩ := of_readName hname
      obtain ⟨rfl, hclosed⟩ := enclosed_eq_some_iff.1 hread
      refine ⟨by simp, hmember, ?_⟩
      rw [IsClosed, String.toList_ofList]
      exact hclosed
    next => cases h
  · rintro ⟨rfl, hname, hclosed⟩
    have htext : (name ++ "(" ++ inner ++ ")").toList ++ rest =
        name.toList ++ '(' :: (inner.toList ++ ')' :: rest) := by simp
    have hopen : ∀ c ∈ ('(' :: (inner.toList ++ ')' :: rest)).head?, ¬isWordChar c := by
      rintro c hc
      obtain rfl := Option.some.inj hc
      decide
    have hread := enclosed_eq_some_iff.2 ⟨(rfl : inner.toList ++ ')' :: rest = _), hclosed⟩
    rw [htext, readHead, readName_append hname hopen]
    simp [hread]

/-! ## Calls -/

/-- Reads an expression that calls a method: its name, and what it is called with. -/
def readCall (s : String) : Option (String × String) :=
  match readHead s.toList with
  | some (call, []) => if call.1 ∈ expressionWords then none else some call
  | _ => none

/-- A word with something closed between brackets is a call, unless it is kept. -/
theorem readCall_append {name arguments : String} (hname : IsName name)
    (hclosed : IsClosed arguments) : readCall (name ++ "(" ++ arguments ++ ")") =
      if name ∈ expressionWords then none else some (name, arguments) := by
  have hs : (name ++ "(" ++ arguments ++ ")").toList =
      (name ++ "(" ++ arguments ++ ")").toList ++ [] := (List.append_nil _).symm
  rw [readCall, readHead_eq_some_iff.2 ⟨hs, hname, hclosed⟩]

/-- **A call is a name, with something closed between round brackets.** -/
theorem readCall_eq_some_iff {s name arguments : String} :
    readCall s = some (name, arguments) ↔
      s = name ++ "(" ++ arguments ++ ")" ∧ IsName name ∧ name ∉ expressionWords ∧
        IsClosed arguments := by
  constructor
  · intro h
    rw [readCall] at h
    split at h
    next call hhead =>
      split_ifs at h with hkept
      obtain rfl := Option.some.inj h
      obtain ⟨hs, hname, hclosed⟩ := readHead_eq_some_iff.1 hhead
      rw [List.append_nil, String.toList_inj] at hs
      exact ⟨hs, hname, hkept, hclosed⟩
    next => cases h
  · rintro ⟨rfl, hname, hkept, hclosed⟩
    rw [readCall_append hname hclosed, if_neg hkept]

/-- A name alone is no call. -/
theorem readCall_name {name : String} (h : IsName name) : readCall name = none := by
  rw [Option.eq_none_iff_forall_ne_some]
  rintro ⟨name', arguments⟩ hread
  obtain ⟨hs, -⟩ := readCall_eq_some_iff.1 hread
  have hbracket : '(' ∈ name.toList := by simp [hs]
  exact absurd (h.word.2 _ hbracket) (by decide)

/-! ## Methods -/

/-- The declaration of a method that logs a text. -/
structure Method where
  name : String
  parameters : String
  logged : String
  deriving DecidableEq

/-- What the body of a method begins with, up to the text that it logs. -/
def bodyStart : List Char := " \x7b console.log('".toList

/-- Reads the body of a method that logs a text. -/
def readBody (cs : List Char) : Option String :=
  if bodyStart <+: cs then
    match Literal.script.scan .plain (cs.drop bodyStart.length) with
    | some (text, rest) => if rest = "); \x7d".toList then some (String.ofList text) else none
    | none => none
  else none

/-- Reads the declaration of a method.  One that is called `constructor` is none. -/
def readMethod (s : String) : Option Method :=
  match readHead s.toList with
  | some ((name, parameters), rest) =>
    if name = "constructor" then none
    else (readBody rest).map fun logged => ⟨name, parameters, logged⟩
  | none => none

/-- What the method of a component logs. -/
def clicked (id : String) : String := String.ofList (id.toList.filter (· ≠ '\r')) ++ " clicked"

/-- The body of the method of a component. -/
def handlerBody (id : String) : List Char :=
  (" \x7b console.log('" ++ escapeLiteral id ++ " clicked'); \x7d").toList

theorem readBody_handlerBody (id : String) : readBody (handlerBody id) = some (clicked id) := by
  have hends : " clicked'); \x7d".toList = " clicked".toList ++ '\x27' :: "); \x7d".toList := by
    decide
  have hbody : handlerBody id = bodyStart ++
      (escapeLiteralChars (id.toList ++ " clicked".toList) ++ '\x27' :: "); \x7d".toList) := by
    simp only [handlerBody, String.toList_append, escapeLiteral, String.toList_ofList,
      escapeLiteralChars_append, List.append_assoc]
    exact congrArg (fun l => bodyStart ++ (escapeLiteralChars id.toList ++ l)) hends
  have hlogged : String.ofList ((id.toList ++ " clicked".toList).filter (· ≠ '\r')) =
      clicked id := by
    rw [List.filter_append, String.ofList_append]
    rfl
  rw [hbody, readBody, if_pos (List.prefix_append _ _), List.drop_left,
    Literal.scan_escapeLiteralChars]
  simp only [if_true, hlogged]

/-- The body of a method does not begin with a bracket. -/
theorem readBody_open (cs : List Char) : readBody ('(' :: cs) = none := by
  have hstart : bodyStart.head? = some ' ' := by decide
  refine if_neg fun ⟨rest, hrest⟩ => ?_
  have hhead := congrArg List.head? hrest
  rw [List.head?_append, hstart] at hhead
  exact absurd (Option.some.inj hhead) (by decide)

/-! ## Handlers -/

/-- The line of a handler is its method, a list without parameters, and the body. -/
theorem toList_line (h : Handler) :
    h.line.toList = h.method.toList ++ '(' :: ')' :: handlerBody h.nodeId := by
  simp [Handler.line, handlerBody]

/-- **The line of a handler declares its method, if it is a name.** -/
theorem readMethod_line {h : Handler} (hname : IsName h.method) :
    readMethod h.line =
      if h.method = "constructor" then none else some ⟨h.method, "", clicked h.nodeId⟩ := by
  have hline : h.line.toList =
      (h.method ++ "(" ++ "" ++ ")").toList ++ handlerBody h.nodeId := by
    simp [toList_line]
  have hclosed : IsClosed "" := rfl
  rw [readMethod, readHead_eq_some_iff.2 ⟨hline, hname, hclosed⟩]
  simp only [readBody_handlerBody, Option.map_some]

/-- **The line of a handler whose method is a call declares nothing.** -/
theorem readMethod_line_call {h : Handler} {name arguments : String}
    (hmethod : h.method = name ++ "(" ++ arguments ++ ")") (hname : IsName name)
    (hclosed : IsClosed arguments) : readMethod h.line = none := by
  have hline : h.line.toList = (name ++ "(" ++ arguments ++ ")").toList ++
      '(' :: ')' :: handlerBody h.nodeId := by
    rw [toList_line, hmethod]
  rw [readMethod, readHead_eq_some_iff.2 ⟨hline, hname, hclosed⟩]
  simp only [readBody_open, Option.map_none, ite_self]

/-! ## Names of methods -/

/-- A text that does not end like an empty list is the name of its own method. -/
theorem methodName_of_not_suffix {action : String} (h : ¬"()".toList <:+ action.toList) :
    methodName action = action := by
  rw [methodName, withoutEnding, if_neg]
  rwa [List.isSuffixOf_iff_suffix]

theorem methodName_name {name : String} (h : IsName name) : methodName name = name := by
  refine methodName_of_not_suffix fun hsuffix => ?_
  have hbracket : ')' ∈ name.toList := hsuffix.subset (by decide)
  exact absurd (h.word.2 _ hbracket) (by decide)

/-- Only an empty list is taken off a call. -/
theorem methodName_call (name : String) {arguments : String} (h : IsClosed arguments) :
    methodName (name ++ "(" ++ arguments ++ ")") =
      if arguments = "" then name else name ++ "(" ++ arguments ++ ")" := by
  split_ifs with hempty
  · have hlist : name ++ "(" ++ arguments ++ ")" = name ++ "()" := by
      simp [hempty, ← String.toList_inj]
    rw [hlist]
    exact withoutEnding_append "()" name
  · refine methodName_of_not_suffix fun ⟨before, hbefore⟩ => h.getLast?_ne ?_
    obtain ⟨init, last, hlast⟩ : ∃ init last, arguments.toList = init ++ [last] :=
      (List.eq_nil_or_concat' arguments.toList).resolve_left (by simpa using hempty)
    have hends : before ++ ['('] ++ [')'] = name.toList ++ '(' :: init ++ [last] ++ [')'] := by
      simpa [hlast] using hbefore
    have heq := (List.append_inj' (List.append_cancel_right hends) rfl).2
    rw [hlast, List.getLast?_concat, List.singleton_inj.1 heq]

/-! ## Actions -/

/-- A name, and what stands between round brackets behind it, if they are there. -/
def callText (name : String) : Option String → String
  | none => name
  | some arguments => name ++ "(" ++ arguments ++ ")"

section
variable {name : String} {arguments : Option String} (hname : IsName name)
  (harguments : ∀ s ∈ arguments, IsClosed s)
include hname harguments

/-- An action is a call exactly if it has brackets, unless its word is kept. -/
theorem readCall_callText : readCall (callText name arguments) =
    if name ∈ expressionWords then none else arguments.map (name, ·) := by
  cases arguments with
  | none =>
    rw [callText, readCall_name hname]
    exact (ite_self none).symm
  | some s => exact readCall_append hname (harguments s rfl)

/-- The method of an action is its name exactly if nothing stands between the brackets. -/
theorem methodName_callText : methodName (callText name arguments) =
    if arguments.getD "" = "" then name else callText name arguments := by
  cases arguments with
  | none => exact methodName_name hname
  | some s => exact methodName_call name (harguments s rfl)

/-- **The method of an action is declared exactly if nothing stands between the
    brackets**, and if its name is not that of the constructor. -/
theorem readMethod_callText (id : String) :
    readMethod (Handler.line ⟨methodName (callText name arguments), id⟩) =
      if arguments.getD "" = "" ∧ name ≠ "constructor" then some ⟨name, "", clicked id⟩
      else none := by
  rw [methodName_callText hname harguments]
  by_cases hempty : arguments.getD "" = ""
  · rw [if_pos hempty, readMethod_line hname]
    simp only [hempty, true_and, ite_not]
  · rw [if_neg hempty, if_neg fun h => hempty h.1]
    cases arguments with
    | none => exact absurd rfl hempty
    | some s => exact readMethod_line_call rfl hname (harguments s rfl)

end

end Pagewright.Script
