/-
  What readers make of values.

  * `Interprets r D`: on every layout of a value the reader `r` yields what `D` says
    that the value is, up to the end of the value, and it refuses the values of which
    `D` says nothing;
  * `Value.asString`, `Value.asBool`, …: what a value is to the readers of texts, flags,
    numbers, lists and maps;
  * `interprets_string`, …, `interprets_map`: these readers see no more of a text than
    its value;
  * `Interprets.document`: nor does the reader of a whole document.
-/
import Pagewright.Proofs.Json.Passing
import Pagewright.Proofs.Json.Yields

namespace Pagewright.Json

/-- A reader that yields what `D` says, on every layout of a value, and leaves what
    stands behind it. -/
def Interprets {α : Type} (r : Reader α) (D : Value → Option α) : Prop :=
  ∀ ⦃j w⦄, Layout j w → ∀ (g : Gap) ⦃rest⦄, Follows rest →
    Gives (r (g.chars ++ (w ++ rest))) (D j) rest

variable {α : Type} {r : Reader α} {D : Value → Option α}

/-- A layout without blanks in front. -/
theorem Interprets.core (h : Interprets r D) {j : Value} {w rest : List Char} (hw : Layout j w)
    (hrest : Follows rest) : Gives (r (w ++ rest)) (D j) rest :=
  h hw .none hrest

/-- A reader that yields what its value makes of a `v`. -/
theorem Interprets.update {σ : Type} (h : Interprets r D) (set : α → σ → σ) (v : σ) :
    Interprets (fun s => r s >>= fun p => .ok (set p.1 v, p.2))
      fun j => ((D j).map set).map (· v) := by
  intro j w hw g rest hrest
  have hbind : ((D j).map set).map (· v) = (D j).bind fun x => some (set x v) := by
    cases D j <;> rfl
  dsimp only
  rw [hbind]
  exact (h hw g hrest).bind fun x => Gives.accepted (set x v) rest

/-! ## First characters -/

namespace Value.begins

variable {j : Value} {c : Char}

theorem null (h : j.begins 'n') : j = .null := by
  cases j <;> simp_all [begins]

theorem flag (h : j.begins c) (hc : c = 't' ∨ c = 'f') : ∃ b, j = .flag b := by
  cases j <;> rcases hc with rfl | rfl <;> simp_all [begins]

theorem number (h : j.begins c) (hc : c = '-' ∨ c.isDigit) : ∃ n, j = .number n := by
  cases j <;> simp_all [begins]
  case flag => rcases h with rfl | rfl <;> simp at hc

theorem text (h : j.begins '"') : ∃ q, j = .text q := by
  cases j <;> simp_all [begins]

theorem list (h : j.begins '[') : ∃ es, j = .list es := by
  cases j <;> simp_all [begins]

theorem object (h : j.begins '\x7b') : ∃ ms, j = .object ms := by
  cases j <;> simp_all [begins]

end Value.begins

/-! ## Scalars -/

namespace Value

/-- A value as a text. -/
def asString : Value → Option String
  | text q => q.value?
  | _ => none

/-- A value as a flag. -/
def asBool : Value → Option Bool
  | flag b => some b
  | _ => none

/-- A value as nothing. -/
def asUnit : Value → Option Unit
  | null => some ()
  | _ => none

/-- A value as a number of 32 bits: written in digits only, and small enough. -/
def asUInt32 : Value → Option UInt32
  | number n =>
    if n.negative = false ∧ n.fraction = none ∧ n.exponent = none ∧
        Nat.ofDigitChars 10 n.whole.chars 0 < Nat.pow 2 32 then
      some (Nat.ofDigitChars 10 n.whole.chars 0).toUInt32
    else none
  | _ => none

/-- A value that may be null. -/
def asOption (D : Value → Option α) : Value → Option (Option α)
  | null => some none
  | j => (D j).map some

end Value

open Value

theorem written_append (q : Quoted) (s : List Char) :
    q.written ++ s = '"' :: (q.inner ++ '"' :: s) := by
  simp [Quoted.written]

theorem interprets_string : Interprets readString asString := by
  intro j w hw g rest _
  rw [readString, hw.skipBlanks]
  by_cases hj : ∃ q, j = .text q
  · obtain ⟨q, rfl⟩ := hj
    cases hw
    rw [written_append]
    exact scanString_quoted q rest
  · obtain ⟨c, t, rfl, hc⟩ := hw.exists_cons
    have hne : c ≠ '"' := by
      rintro rfl
      exact hj hc.text
    have hnone : asString j = none := by cases j <;> first | rfl | exact absurd ⟨_, rfl⟩ hj
    rw [hnone, List.cons_append]
    simp only [if_neg hne]
    exact Gives.refused _ rest

theorem interprets_bool : Interprets readBool asBool := by
  intro j w hw g rest _
  rw [readBool, hw.skipBlanks]
  by_cases hj : ∃ b, j = .flag b
  · obtain ⟨b, rfl⟩ := hj
    cases hw
    cases b
    · exact Gives.accepted false rest
    · exact Gives.accepted true rest
  · obtain ⟨c, t, rfl, hc⟩ := hw.exists_cons
    have hne (d : Char) (hd : d = 't' ∨ d = 'f') : c ≠ d := by
      rintro rfl
      exact hj (hc.flag hd)
    have hnone : asBool j = none := by cases j <;> first | rfl | exact absurd ⟨_, rfl⟩ hj
    rw [hnone, List.cons_append]
    simp only [if_neg (hne 't' (Or.inl rfl)), if_neg (hne 'f' (Or.inr rfl))]
    exact Gives.refused _ rest

theorem interprets_unit : Interprets readUnit asUnit := by
  intro j w hw g rest _
  rw [readUnit, hw.skipBlanks]
  by_cases hj : j = .null
  · subst hj
    cases hw
    exact Gives.accepted () rest
  · obtain ⟨c, t, rfl, hc⟩ := hw.exists_cons
    have hne : c ≠ 'n' := by
      rintro rfl
      exact hj hc.null
    have hnone : asUnit j = none := by cases j <;> first | rfl | exact absurd rfl hj
    rw [hnone, List.cons_append]
    simp only [if_neg hne]
    exact Gives.refused _ rest

theorem interprets_option (h : Interprets r D) : Interprets (readOption r) (asOption D) := by
  intro j w hw g rest hrest
  rw [readOption, hw.skipBlanks]
  by_cases hj : j = .null
  · subst hj
    cases hw
    exact Gives.accepted none rest
  · have hread := (h.core hw hrest).map some
    obtain ⟨c, t, rfl, hc⟩ := hw.exists_cons
    have hne : c ≠ 'n' := by
      rintro rfl
      exact hj hc.null
    have hsome : asOption D j = (D j).map some := by cases j <;> first | rfl | exact absurd rfl hj
    rw [hsome, List.cons_append]
    simp only [if_neg hne]
    exact hread

/-! ## Numbers -/

/-- Takes a number that has been read for one of 32 bits. -/
def narrow (p : Number × List Char) : Except Fault (UInt32 × List Char) :=
  match p.1.toUInt32 with
  | .ok n => .ok (n, p.2)
  | .error cause => .error ⟨cause, p.2, 0⟩

theorem narrow_ok {x : Number} {s left : List Char} {v : UInt32}
    (h : narrow (x, s) = .ok (v, left)) :
    ∃ m, x = .natural m ∧ m < Nat.pow 2 32 ∧ v = m.toUInt32 ∧ left = s := by
  unfold narrow Number.toUInt32 at h
  cases x with
  | natural m =>
    dsimp only at h
    split_ifs at h with hm
    · obtain ⟨rfl, rfl⟩ := Prod.mk.inj (Except.ok.inj h)
      exact ⟨m, rfl, hm, rfl, rfl⟩
  | negative m => cases h
  | real bits => cases h

/-- A number without a sign is taken if it is written in digits only and fits. -/
theorem gives_unsigned (n : Numeral) {rest : List Char} (hrest : Follows rest)
    (hn : n.negative = false) :
    Gives (Number.read true (n.unsigned ++ rest) >>= narrow) (asUInt32 (.number n)) rest := by
  intro v left
  rw [bind_ok_iff, asUInt32]
  constructor
  · rintro ⟨⟨x, s⟩, hx, hnarrow⟩
    obtain ⟨m, rfl, hm, rfl, rfl⟩ := narrow_ok hnarrow
    rcases Number.whole_of_read hx with ⟨bits, hreal⟩ | ⟨ds, hs, hds, hwhole, hleft⟩
    · cases hreal
    · obtain rfl := Number.natural.inj hwhole
      obtain ⟨rfl, hfraction, hexponent, rfl⟩ := Number.eq_of_whole n hrest hs hds hleft
      rw [if_pos ⟨hn, hfraction, hexponent, hm⟩]
      exact ⟨rfl, rfl⟩
  · rintro ⟨hv, rfl⟩
    split_ifs at hv with hall
    obtain ⟨-, hfraction, hexponent, hm⟩ := hall
    obtain rfl := Option.some.inj hv
    have hunsigned : n.unsigned = n.whole.chars := by
      simp [Numeral.unsigned, Numeral.fractionChars, Numeral.exponentChars, hfraction, hexponent]
    rw [hunsigned]
    refine ⟨_, Number.read_digits n.whole.nonempty n.whole.digit n.leading
      (Nat.lt_trans hm (by decide)) hrest, ?_⟩
    simp only [narrow, Number.toUInt32, if_pos hm]

/-- A number below zero does not fit. -/
theorem gives_negative (s rest : List Char) :
    Gives (Number.read false s >>= narrow) none rest := by
  intro v left
  rw [bind_ok_iff]
  refine iff_of_false ?_ (by simp)
  rintro ⟨⟨x, t⟩, hx, hnarrow⟩
  obtain ⟨m, rfl, -⟩ := narrow_ok hnarrow
  rcases Number.whole_of_read hx with ⟨bits, hreal⟩ | ⟨ds, -, -, hwhole, -⟩
  · cases hreal
  · rw [Number.ofWhole, if_neg (by decide)] at hwhole
    split_ifs at hwhole

theorem interprets_uint32 : Interprets readUInt32 asUInt32 := by
  intro j w hw g rest hrest
  rw [readUInt32, hw.skipBlanks]
  by_cases hj : ∃ n, j = .number n
  · obtain ⟨n, rfl⟩ := hj
    cases hw
    cases hn : n.negative with
    | true =>
      have hnone : asUInt32 (.number n) = none := by simp [asUInt32, hn]
      have hwritten : n.written ++ rest = '-' :: (n.unsigned ++ rest) := by
        simp [Numeral.written, hn]
      rw [hnone, hwritten]
      simp only [true_or, if_true]
      exact gives_negative (n.unsigned ++ rest) rest
    | false =>
      have hread := gives_unsigned n hrest hn
      obtain ⟨c, t, hct, hc, -⟩ := n.exists_cons
      have hminus : c ≠ '-' := by
        rintro rfl
        exact absurd hc (by decide)
      have hwritten : n.written = c :: (t ++ (n.fractionChars ++ n.exponentChars)) := by
        simp [Numeral.written, Numeral.unsigned, hn, hct]
      have hunsigned : n.unsigned = c :: (t ++ (n.fractionChars ++ n.exponentChars)) := by
        simp [Numeral.unsigned, hct]
      rw [hunsigned] at hread
      rw [hwritten, List.cons_append]
      simp only [hc, or_true, if_true, if_neg hminus]
      exact hread
  · obtain ⟨c, t, rfl, hc⟩ := hw.exists_cons
    have hne : ¬(c = '-' ∨ c.isDigit) := fun hnumber => hj (hc.number hnumber)
    have hnone : asUInt32 j = none := by cases j <;> first | rfl | exact absurd ⟨_, rfl⟩ hj
    rw [hnone, List.cons_append]
    simp only [if_neg hne]
    exact Gives.refused _ rest

/-! ## Lists -/

/-- A value as a list; its elements may open one bracket less than the list. -/
def Value.asList (depth : Nat) (D : Nat → Value → Option α) : Value → Option (List α)
  | list es =>
    match depth with
    | 0 => none
    | depth + 1 => es.mapM (D depth)
  | _ => none

theorem nextElement_closing (first : Bool) (g : Gap) (s : List Char) :
    nextElement first (g.chars ++ ']' :: s) = .ok (.done s) := by
  simp [nextElement, skipBlanks_gap, skipBlanks_cons (c := ']') rfl]

theorem nextElement_value {j : Value} {w : List Char} (hw : Layout j w) (first : Bool)
    (g before : Gap) (s : List Char) :
    nextElement first
      (g.chars ++ ((if first then [] else [',']) ++ (before.chars ++ (w ++ s)))) =
        .ok (.more (w ++ s)) := by
  have hskip := hw.skipBlanks before s
  obtain ⟨c, t, rfl, hc⟩ := hw.exists_cons
  have hne : c ≠ ']' := hc.ne (by decide)
  cases first with
  | true =>
    simp only [nextElement, skipBlanks_gap, if_true, List.nil_append, hskip]
    simp [hne]
  | false =>
    simp only [nextElement, skipBlanks_gap, Bool.false_eq_true, if_false, List.singleton_append,
      skipBlanks_cons (c := ',') rfl, hskip]
    simp [hne]

/-- The elements of a list from one on, and what stands behind the list. -/
theorem commaed_elements (first : Bool) (e : Value × Padded) (es : List (Value × Padded))
    (s : List Char) :
    commaed first ((e :: es).map (·.2.written)) ++ s =
      (if first then [] else [',']) ++ (e.2.before.chars ++ (e.2.core ++ (e.2.after.chars ++
        (commaed false (es.map (·.2.written)) ++ s)))) := by
  simp [commaed, Padded.written]

/-- What stands between the brackets of a list, behind some blanks. -/
theorem readElements_commaed (h : Interprets r D) {es : List (Value × Padded)}
    (hes : ∀ e ∈ es, Layout e.1 e.2.core) (rest : List Char) (first : Bool) {fuel : Nat}
    (hfuel : es.length < fuel) (g : Gap) :
    Gives (readElements r first fuel
        (g.chars ++ (commaed first (es.map (·.2.written)) ++ ']' :: rest)))
      ((es.map (·.1)).mapM D) rest := by
  induction es generalizing first fuel g with
  | nil =>
    obtain ⟨fuel, rfl⟩ := Nat.exists_eq_succ_of_ne_zero (Nat.ne_zero_of_lt hfuel)
    rw [List.map_nil, commaed, List.nil_append, readElements, nextElement_closing]
    exact Gives.accepted [] rest
  | cons e es ih =>
    obtain ⟨fuel, rfl⟩ := Nat.exists_eq_succ_of_ne_zero (Nat.ne_zero_of_lt hfuel)
    obtain ⟨he, hes⟩ := List.forall_mem_cons.1 hes
    have hrest := ih hes false (Nat.lt_of_succ_lt_succ hfuel) e.2.after
    have hvalue := h.core he (e.2.follows_element (es.map (·.2.written)) rest)
    have hnext := nextElement_value he first g e.2.before
      (e.2.after.chars ++ (commaed false (es.map (·.2.written)) ++ ']' :: rest))
    rw [commaed_elements, readElements, hnext, List.map_cons, List.mapM_cons]
    exact hvalue.bind fun v => hrest.bind fun vs => Gives.accepted (v :: vs) rest

theorem length_le_commaed {ws : List (List Char)} (h : ∀ w ∈ ws, w ≠ []) (first : Bool) :
    ws.length ≤ (commaed first ws).length := by
  induction ws generalizing first with
  | nil => exact Nat.le_refl _
  | cons w ws ih =>
    obtain ⟨hw, hws⟩ := List.forall_mem_cons.1 h
    have hrest := ih hws false
    have hpos := List.length_pos_iff.2 hw
    simp only [commaed, List.length_append, List.length_cons]
    omega

theorem Padded.written_ne_nil {j : Value} {p : Padded} (h : Layout j p.core) : p.written ≠ [] := by
  obtain ⟨c, t, hct, -⟩ := h.exists_cons
  simp [Padded.written, hct]

theorem interprets_list {r : Nat → Reader α} {D : Nat → Value → Option α} {depth : Nat}
    (h : ∀ d, depth = d + 1 → Interprets (r d) (D d)) :
    Interprets (readList depth r) (Value.asList depth D) := by
  intro j w hw g rest hrest
  rw [readList, hw.skipBlanks]
  by_cases hj : ∃ es, j = .list es
  · obtain ⟨es, rfl⟩ := hj
    cases hw with
    | list g es each =>
      cases depth with
      | zero => exact Gives.refused _ rest
      | succ depth =>
        have hne : ∀ w ∈ es.map (·.2.written), w ≠ [] :=
          List.forall_mem_map.2 fun e he => Padded.written_ne_nil (each e he)
        have hlength := length_le_commaed hne true
        have hfuel : es.length <
            (g.chars ++ (commaed true (es.map (·.2.written)) ++ ']' :: rest)).length + 1 := by
          rw [List.length_map] at hlength
          simp only [List.length_append]
          omega
        have helements := readElements_commaed (h depth rfl) each rest true hfuel g
        simpa [Value.asList] using helements
  · obtain ⟨c, t, rfl, hc⟩ := hw.exists_cons
    have hne : c ≠ '[' := by
      rintro rfl
      exact hj hc.list
    have hnone : asList depth D j = none := by cases j <;> first | rfl | exact absurd ⟨_, rfl⟩ hj
    rw [hnone, List.cons_append]
    simp only [if_neg hne]
    exact Gives.refused _ rest

theorem getElem?_of_mapM {f : Value → Option α} {js : List Value} {vs : List α}
    (h : js.mapM f = some vs) {i : Nat} {j : Value} {v : α} (hj : js[i]? = some j)
    (hv : vs[i]? = some v) : f j = some v := by
  induction js generalizing vs i with
  | nil => simp at hj
  | cons k js ih =>
    rw [List.mapM_cons] at h
    obtain ⟨w, hw, h⟩ := Option.bind_eq_some_iff.1 h
    obtain ⟨ws, hws, h⟩ := Option.bind_eq_some_iff.1 h
    obtain rfl := Option.some.inj h
    cases i with
    | zero =>
      obtain rfl := Option.some.inj hj
      obtain rfl := Option.some.inj hv
      exact hw
    | succ i => exact ih hws hj hv

/-- What an element of a list is. -/
theorem exists_of_asList {depth : Nat} {D : Nat → Value → Option α} {js : List Value}
    {vs : List α} (h : (Value.list js).asList depth D = some vs) {i : Nat} {j : Value} {v : α}
    (hj : js[i]? = some j) (hv : vs[i]? = some v) : ∃ d, depth = d + 1 ∧ D d j = some v := by
  cases depth with
  | zero => cases h
  | succ d => exact ⟨d, rfl, getElem?_of_mapM h hj hv⟩

/-! ## Objects -/

theorem nextKey_closing (first : Bool) (g : Gap) (s : List Char) :
    nextKey first (g.chars ++ '\x7d' :: s) = .ok (.done s) := by
  simp [nextKey, skipBlanks_gap, skipBlanks_cons (c := '\x7d') rfl]

theorem nextKey_quoted (first : Bool) (g before : Gap) (q : Quoted) (s : List Char) :
    nextKey first
      (g.chars ++ ((if first then [] else [',']) ++ (before.chars ++ (q.written ++ s)))) =
        .ok (.more (q.inner ++ '"' :: s)) := by
  rw [written_append]
  cases first with
  | true => simp [nextKey, skipBlanks_gap, skipBlanks_cons (c := '"') rfl]
  | false =>
    simp [nextKey, skipBlanks_gap, skipBlanks_cons (c := '"') rfl, skipBlanks_cons (c := ',') rfl]

theorem passColon_gap (g : Gap) (s : List Char) : passColon (g.chars ++ ':' :: s) = .ok s := by
  rw [passColon, skipBlanks_gap, skipBlanks_cons (c := ':') rfl]
  rfl

/-- The entries of an object from one on, and what stands behind the object. -/
theorem commaed_entries (first : Bool) (e : Entry) (es : List Entry) (s : List Char) :
    commaed first ((e :: es).map Entry.written) ++ s =
      (if first then [] else [',']) ++ (e.before.chars ++ (e.key.written ++ (e.between.chars ++
        ':' :: (e.text.before.chars ++ (e.text.core ++ (e.text.after.chars ++
          (commaed false (es.map Entry.written) ++ s))))))) := by
  simp [commaed, Entry.written, Padded.written]

/-- The rounds that are allowed for an object are more than its entries. -/
theorem Entry.length_lt (g : Gap) (es : List Entry) (rest : List Char) :
    es.length <
      (g.chars ++ (commaed true (es.map Entry.written) ++ '\x7d' :: rest)).length + 1 := by
  have hne : ∀ w ∈ es.map Entry.written, w ≠ [] :=
    List.forall_mem_map.2 fun e _ => by simp [Entry.written]
  have hlength := length_le_commaed hne true
  rw [List.length_map] at hlength
  simp only [List.length_append]
  omega

/-! ## Maps -/

/-- A member of an object as a pair of texts. -/
def Value.asPair (m : Quoted × Value) : Option (String × String) :=
  m.1.value?.bind fun k => m.2.asString.map fun v => (k, v)

/-- A value as a map: its pairs are put one after the other. -/
def Value.asMap {σ : Type} (depth : Nat) (empty : σ) (insert : σ → String → String → σ) :
    Value → Option σ
  | object ms =>
    match depth with
    | 0 => none
    | _ + 1 => (ms.mapM asPair).map (·.foldl (fun acc p => insert acc p.1 p.2) empty)
  | _ => none

section
variable {σ : Type} {insert : σ → String → String → σ}

/-- Pairs are put one after the other. -/
theorem foldl_asPair_cons (m : Quoted × Value) (ms : List (Quoted × Value)) (acc : σ) :
    ((m :: ms).mapM Value.asPair).map (·.foldl (fun acc p => insert acc p.1 p.2) acc) =
      m.1.value?.bind fun k => m.2.asString.bind fun v =>
        (ms.mapM Value.asPair).map
          (·.foldl (fun acc p => insert acc p.1 p.2) (insert acc k v)) := by
  rw [List.mapM_cons, Value.asPair]
  cases m.1.value? with
  | none => rfl
  | some k =>
    cases m.2.asString with
    | none => rfl
    | some v => cases ms.mapM Value.asPair <;> rfl

/-- What stands between the brackets of a map, behind some blanks. -/
theorem readEntries_commaed {es : List Entry} (hes : ∀ e ∈ es, Layout e.value e.text.core)
    (rest : List Char) (first : Bool) {fuel : Nat} (hfuel : es.length < fuel) (g : Gap) (acc : σ) :
    Gives (readEntries insert first fuel acc
        (g.chars ++ (commaed first (es.map Entry.written) ++ '\x7d' :: rest)))
      (((es.map Entry.member).mapM Value.asPair).map
        (·.foldl (fun acc p => insert acc p.1 p.2) acc)) rest := by
  induction es generalizing first fuel g acc with
  | nil =>
    obtain ⟨fuel, rfl⟩ := Nat.exists_eq_succ_of_ne_zero (Nat.ne_zero_of_lt hfuel)
    rw [List.map_nil, commaed, List.nil_append, readEntries, nextKey_closing]
    exact Gives.accepted acc rest
  | cons e es ih =>
    obtain ⟨fuel, rfl⟩ := Nat.exists_eq_succ_of_ne_zero (Nat.ne_zero_of_lt hfuel)
    obtain ⟨he, hes⟩ := List.forall_mem_cons.1 hes
    have hvalue := interprets_string he e.text.before
      (e.text.follows_member (es.map Entry.written) rest)
    rw [commaed_entries, readEntries, nextKey_quoted, List.map_cons, foldl_asPair_cons]
    refine (scanString_quoted e.key _).bind fun k => ?_
    simp only [passColon_gap]
    exact hvalue.bind fun v =>
      ih hes false (Nat.lt_of_succ_lt_succ hfuel) e.text.after (insert acc k v)

theorem interprets_map (depth : Nat) (empty : σ) :
    Interprets (readMap depth empty insert) (Value.asMap depth empty insert) := by
  intro j w hw g rest _
  rw [readMap, hw.skipBlanks]
  by_cases hj : ∃ ms, j = .object ms
  · obtain ⟨ms, rfl⟩ := hj
    cases hw with
    | object g es each =>
      cases depth with
      | zero => exact Gives.refused _ rest
      | succ depth =>
        have hfuel := Entry.length_lt g es rest
        have hentries : Gives (readEntries insert true _ empty _) _ rest :=
          readEntries_commaed each rest true hfuel g empty
        simpa [Value.asMap] using hentries
  · obtain ⟨c, t, rfl, hc⟩ := hw.exists_cons
    have hne : c ≠ '\x7b' := by
      rintro rfl
      exact hj hc.object
    have hnone : Value.asMap depth empty insert j = none := by
      cases j <;> first | rfl | exact absurd ⟨_, rfl⟩ hj
    rw [hnone, List.cons_append]
    simp only [if_neg hne]
    exact Gives.refused _ rest

end

/-! ## Variants -/

/-- A value as one of some variants: its name, or an object with null under its name. -/
def Value.asVariant (depth : Nat) (variants : List (String × α)) : Value → Option α
  | text q => q.value?.bind (List.lookup · variants)
  | object [(q, j)] =>
    if depth = 0 then none
    else (q.value?.bind (List.lookup · variants)).bind fun v => j.asUnit.map fun _ => v
  | _ => none

theorem variant_quoted (variants : List (String × α)) (q : Quoted) (rest : List Char) :
    Gives (variant variants (q.inner ++ '"' :: rest)) (q.value?.bind (List.lookup · variants))
      rest := by
  refine (scanString_quoted q rest).bind fun name => ?_
  dsimp only
  cases variants.lookup name with
  | none => exact Gives.refused _ rest
  | some v => exact Gives.accepted v rest

/-- The variant of an object, and what stands behind its first member. -/
theorem gives_variant_object (variants : List (String × α)) {e : Entry} {s rest : List Char}
    (he : Layout e.value e.text.core) (hs : Follows s) {o : α → Option α}
    {f : α → List Char → Except Fault (α × List Char)} (hf : ∀ v, Gives (f v s) (o v) rest) :
    Gives
      (variant variants (e.key.inner ++ '"' :: (e.between.chars ++
          ':' :: (e.text.before.chars ++ (e.text.core ++ s)))) >>= fun p =>
        passColon p.2 >>= fun u => readUnit u >>= fun q => f p.1 q.2)
      ((e.key.value?.bind (List.lookup · variants)).bind fun v => e.value.asUnit.bind fun _ => o v)
      rest := by
  refine (variant_quoted variants e.key _).bind fun v => ?_
  rw [passColon_gap]
  exact (interprets_unit he e.text.before hs).bind fun _ => hf v

/-- The end of an object that names a variant. -/
def closeVariant (v : α) (s : List Char) : Except Fault (α × List Char) :=
  match skipBlanks s with
  | [] => .error ⟨.endOfObject, [], 0⟩
  | c :: t => if c = '\x7d' then .ok (v, t) else .error ⟨.expectedValue, c :: t, 0⟩

/-- An object names a variant if nothing stands behind its first member. -/
theorem gives_closeVariant (g : Gap) (es : List Entry) (v : α) (rest : List Char) :
    Gives (closeVariant v (g.chars ++ (commaed false (es.map Entry.written) ++ '\x7d' :: rest)))
      (if es = [] then some v else none) rest := by
  cases es with
  | nil =>
    rw [closeVariant, skipBlanks_gap, List.map_nil, commaed, List.nil_append,
      skipBlanks_cons (c := '\x7d') rfl]
    exact Gives.accepted v rest
  | cons e es =>
    rw [closeVariant, skipBlanks_gap, List.map_cons, commaed, List.append_assoc]
    exact Gives.refused _ rest

theorem asVariant_member {depth : Nat} (hdepth : depth ≠ 0) (variants : List (String × α))
    (e : Entry) (es : List Entry) :
    asVariant depth variants (.object ((e :: es).map Entry.member)) =
      (e.key.value?.bind (List.lookup · variants)).bind fun v => e.value.asUnit.bind fun _ =>
        if es = [] then some v else none := by
  cases es with
  | nil =>
    simp only [List.map_cons, List.map_nil, Entry.member, asVariant, if_neg hdepth, if_true]
    cases e.value.asUnit <;> rfl
  | cons e' es => simp [asVariant]

/-- The object of a variant, behind no blanks. -/
theorem readVariant_entries (depth : Nat) (variants : List (String × α)) {es : List Entry}
    (hes : ∀ e ∈ es, Layout e.value e.text.core) (g : Gap) (rest : List Char) :
    Gives (readVariant depth variants
        ('\x7b' :: (g.chars ++ (commaed true (es.map Entry.written) ++ '\x7d' :: rest))))
      (asVariant depth variants (.object (es.map Entry.member))) rest := by
  rw [readVariant, skipBlanks_cons (c := '\x7b') rfl]
  by_cases hdepth : depth = 0
  · have hnone : asVariant depth variants (.object (es.map Entry.member)) = none := by
      unfold asVariant
      split <;> simp_all
    rw [hnone]
    simp only [hdepth, if_true]
    exact Gives.refused _ rest
  · cases es with
    | nil =>
      have hclosed := nextKey_closing true g rest
      simp only [hdepth, if_false, commaed, List.map_nil, List.nil_append, hclosed]
      exact Gives.refused _ rest
    | cons e es =>
      obtain ⟨he, -⟩ := List.forall_mem_cons.1 hes
      have hfollows := e.text.follows_member (es.map Entry.written) rest
      have hvalue := gives_variant_object variants he hfollows fun v =>
        gives_closeVariant e.text.after es v rest
      rw [asVariant_member hdepth]
      simp only [hdepth, if_false]
      rw [commaed_entries, nextKey_quoted]
      exact hvalue

theorem interprets_variant (depth : Nat) (variants : List (String × α)) :
    Interprets (readVariant depth variants) (asVariant depth variants) := by
  intro j w hw g rest hrest
  rw [readVariant, hw.skipBlanks]
  by_cases hj : (∃ q, j = .text q) ∨ ∃ ms, j = .object ms
  · cases hw with
    | text q =>
      rw [written_append]
      exact variant_quoted variants q rest
    | object g es each =>
      have hobject := readVariant_entries depth variants each g rest
      rw [readVariant, skipBlanks_cons (c := '\x7b') rfl] at hobject
      rw [List.cons_append, List.append_assoc, List.append_assoc, List.singleton_append]
      exact hobject
    | null => simp at hj
    | flag b => simp at hj
    | number n => simp at hj
    | list g es each => simp at hj
  · obtain ⟨c, t, rfl, hc⟩ := hw.exists_cons
    have hquote : c ≠ '"' := by
      rintro rfl
      exact hj (Or.inl hc.text)
    have hbrace : c ≠ '\x7b' := by
      rintro rfl
      exact hj (Or.inr hc.object)
    have hnone : asVariant depth variants j = none := by
      cases j <;> first | rfl | simp at hj
    rw [hnone, List.cons_append]
    simp only [if_neg hquote, if_pos hbrace]
    exact Gives.refused _ rest

/-! ## Documents -/

/-- A whole text is read for the value that it says. -/
theorem Interprets.document (h : Interprets r D) {j : Value} {s : List Char} (hs : Document j s)
    (v : α) : readDocument r s = .ok v ↔ D j = some v := by
  obtain ⟨p, hlayout, rfl⟩ := hs
  have hread := h hlayout p.before (p.after.follows follows_nil)
  have hblanks : skipBlanks p.after.chars = [] := by
    rw [← List.append_nil p.after.chars, skipBlanks_gap]
    rfl
  rw [List.append_nil] at hread
  rw [readDocument, Padded.written, bind_ok_iff]
  constructor
  · rintro ⟨⟨u, left⟩, hu, hend⟩
    obtain ⟨hj, rfl⟩ := (hread u left).1 hu
    simp only [hblanks] at hend
    rw [hj, Except.ok.inj hend]
  · intro hj
    refine ⟨(v, p.after.chars), (hread v _).2 ⟨hj, rfl⟩, ?_⟩
    simp only [hblanks]

end Pagewright.Json
