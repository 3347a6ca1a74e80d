/-
  What a record makes of the members of an object.

  * `Record.known`: the field that a member is for, with its value; a member that no
    field has the label of is for none;
  * `Record.accept E`: the record that known members stand for, where `E f j` is what
    the value `j` of the field `f` changes; `acceptItems` is the same for a list;
  * `Record.ofValue`: what a value is to the reader of a record
    (`interprets_record`);
  * `accept_perm`: the order of members does not matter, if different fields change
    different things (`Independent`);
  * `ofValue_object_congr`: a record depends on the values of its known members only;
  * `exists_of_ofValue`: it has the value of each of its fields.
-/
import Pagewright.Json.Record
import Pagewright.Proofs.Json.Meaning

namespace Pagewright.Json

namespace Record

variable {φ σ : Type} [DecidableEq φ] (r : Record φ σ) (E : φ → Value → Option (σ → σ))

/-! ## Members -/

/-- The field that a member is for, with its value. -/
def known (m : Quoted × Value) : Option (φ × Value) :=
  (m.1.value?.bind r.field?).map (·, m.2)

/-- The record that known members make of `v`, those of `seen` having been given before. -/
def accept : List φ → σ → List (φ × Value) → Option σ
  | seen, v, [] => if r.missing? seen = none then some v else none
  | seen, v, m :: ks =>
    if m.1 ∈ seen then none else (E m.1 m.2).bind fun u => accept (m.1 :: seen) (u v) ks

/-- The record that the members of an object make of `v`. -/
def acceptMembers (seen : List φ) (v : σ) (ms : List (Quoted × Value)) : Option σ :=
  if ∀ m ∈ ms, m.1.value?.isSome then r.accept E seen v (ms.filterMap r.known) else none

/-- The record that values make of `v`, one for each field; the last of them may be missing. -/
def acceptItems : List φ → σ → List Value → Option σ
  | [], v, [] => some v
  | [], _, _ :: _ => none
  | f :: fs, v, [] => if r.presence f = .defaulted then acceptItems fs v [] else none
  | f :: fs, v, j :: js => (E f j).bind fun u => acceptItems fs (u v) js

/-- A value as a record. -/
def ofValue : Value → Option σ
  | .object ms => r.acceptMembers E [] r.blank ms
  | .list js => r.acceptItems E r.fields r.blank js
  | _ => none

variable {r E}

/-! ## Reading -/

/-- Members are put one after the other. -/
theorem acceptMembers_cons (seen : List φ) (v : σ) (m : Quoted × Value)
    (ms : List (Quoted × Value)) :
    r.acceptMembers E seen v (m :: ms) = m.1.value?.bind fun label =>
      match r.field? label with
      | none => r.acceptMembers E seen v ms
      | some f =>
        if f ∈ seen then none
        else (E f m.2).bind fun u => r.acceptMembers E (f :: seen) (u v) ms := by
  cases hlabel : m.1.value? with
  | none => simp [acceptMembers, hlabel]
  | some label =>
    have hall : (∀ m' ∈ m :: ms, m'.1.value?.isSome) ↔ ∀ m' ∈ ms, m'.1.value?.isSome := by
      simp [hlabel]
    cases hf : r.field? label with
    | none =>
      have hknown : r.known m = none := by simp [known, hlabel, hf]
      simp only [acceptMembers, hall, List.filterMap_cons_none hknown, Option.bind_some, hf]
    | some f =>
      have hknown : r.known m = some (f, m.2) := by simp [known, hlabel, hf]
      simp only [acceptMembers, hall, List.filterMap_cons_some hknown, accept, Option.bind_some, hf]
      by_cases hms : ∀ m' ∈ ms, m'.1.value?.isSome
      · simp only [if_pos hms]
      · simp [if_neg hms]

/-- What stands between the braces of a record, behind some blanks. -/
theorem readFields_commaed (h : ∀ f v, Interprets (r.read f v) fun j => (E f j).map (· v))
    {es : List Entry} (hes : ∀ e ∈ es, Layout e.value e.text.core) (rest : List Char)
    (first : Bool) {fuel : Nat} (hfuel : es.length < fuel) (g : Gap) (seen : List φ) (v : σ) :
    Gives (r.readFields first fuel seen v
        (g.chars ++ (commaed first (es.map Entry.written) ++ '\x7d' :: rest)))
      (r.acceptMembers E seen v (es.map Entry.member)) rest := by
  induction es generalizing first fuel g seen v with
  | nil =>
    obtain ⟨fuel, rfl⟩ := Nat.exists_eq_succ_of_ne_zero (Nat.ne_zero_of_lt hfuel)
    have hnil : r.acceptMembers E seen v [] = if r.missing? seen = none then some v else none := by
      simp [acceptMembers, accept]
    rw [List.map_nil, List.map_nil, hnil, commaed, List.nil_append, readFields, nextKey_closing]
    cases r.missing? seen with
    | none => exact Gives.accepted v rest
    | some f => exact Gives.refused _ rest
  | cons e es ih =>
    obtain ⟨fuel, rfl⟩ := Nat.exists_eq_succ_of_ne_zero (Nat.ne_zero_of_lt hfuel)
    obtain ⟨he, hes⟩ := List.forall_mem_cons.1 hes
    have hfollows := e.text.follows_member (es.map Entry.written) rest
    have hrest := ih hes false (Nat.lt_of_succ_lt_succ hfuel) e.text.after
    rw [commaed_entries, readFields, nextKey_quoted, List.map_cons]
    rw [acceptMembers_cons]
    refine (scanString_quoted e.key _).bind fun label => ?_
    dsimp only [Entry.member]
    cases r.field? label with
    | none =>
      dsimp only
      rw [passColon_gap]
      simp only [bind, Except.bind, passValue_layout he e.text.before hfollows]
      exact hrest seen v
    | some f =>
      by_cases hseen : f ∈ seen
      · simp only [if_pos hseen]
        exact Gives.refused _ rest
      · have hvalue := h f v he e.text.before hfollows
        have hbind : ((E f e.value).bind fun u =>
            r.acceptMembers E (f :: seen) (u v) (es.map Entry.member)) =
              ((E f e.value).map (· v)).bind fun v =>
                r.acceptMembers E (f :: seen) v (es.map Entry.member) := by
          rw [Option.bind_map]
          rfl
        simp only [if_neg hseen, passColon_gap]
        rw [hbind]
        exact hvalue.bind fun v => hrest (f :: seen) v

/-- Behind the last field of a list only the closing bracket may stand. -/
theorem passListEnd_commaed {es : List (Value × Padded)} (hes : ∀ e ∈ es, Layout e.1 e.2.core)
    (g : Gap) (first : Bool) (rest : List Char) (v : σ) :
    Gives ((v, ·) <$> passListEnd
        (g.chars ++ (commaed first (es.map (·.2.written)) ++ ']' :: rest)))
      (if es = [] then some v else none) rest := by
  rw [passListEnd, skipBlanks_gap]
  cases es with
  | nil =>
    rw [List.map_nil, commaed, List.nil_append, skipBlanks_cons (c := ']') rfl]
    exact Gives.accepted v rest
  | cons e es =>
    obtain ⟨he, -⟩ := List.forall_mem_cons.1 hes
    rw [List.map_cons, commaed, List.append_assoc, if_neg (List.cons_ne_nil e es)]
    cases first with
    | true =>
      have hchars (s : List Char) : (if true then [] else [',']) ++ (e.2.written ++ s) =
          e.2.before.chars ++ (e.2.core ++ (e.2.after.chars ++ s)) := by
        simp [Padded.written]
      obtain ⟨c, t, hct, hc⟩ := he.exists_cons
      rw [List.append_assoc, hchars, he.skipBlanks, hct, List.cons_append]
      dsimp only
      rw [if_neg (hc.ne (by decide)), if_neg (hc.ne (by decide))]
      exact Gives.refused _ rest
    | false =>
      rw [if_neg Bool.false_ne_true, List.singleton_append, skipBlanks_cons (c := ',') rfl]
      dsimp only
      rw [if_neg (by decide), if_pos rfl]
      split
      · exact Gives.refused _ rest
      · exact Gives.refused _ rest

omit [DecidableEq φ] in
/-- What stands between the brackets of a record that is given as a list, behind some blanks. -/
theorem readItems_commaed (h : ∀ f v, Interprets (r.read f v) fun j => (E f j).map (· v))
    {es : List (Value × Padded)} (hes : ∀ e ∈ es, Layout e.1 e.2.core) (rest : List Char)
    (first : Bool) (i : Nat) (fs : List φ) (g : Gap) (v : σ) :
    Gives (r.readItems first i fs v
        (g.chars ++ (commaed first (es.map (·.2.written)) ++ ']' :: rest)))
      (r.acceptItems E fs v (es.map (·.1))) rest := by
  induction fs generalizing es first i g v with
  | nil =>
    have hend := passListEnd_commaed hes g first rest v
    cases es with
    | nil => exact hend
    | cons e es => exact hend
  | cons f fs ih =>
    cases es with
    | nil =>
      have hrest := @ih [] nofun first (i + 1) g v
      have hnext := nextElement_closing first g rest
      rw [List.map_nil, commaed, List.nil_append] at hrest
      rw [List.map_nil, List.map_nil, commaed, List.nil_append, readItems, hnext, acceptItems]
      simp only [bind, Except.bind]
      split_ifs with hpresence
      · exact hrest
      · exact Gives.refused _ rest
    | cons e es =>
      obtain ⟨he, hes⟩ := List.forall_mem_cons.1 hes
      have hvalue := (h f v).core he (e.2.follows_element (es.map (·.2.written)) rest)
      have hnext := nextElement_value he first g e.2.before
        (e.2.after.chars ++ (commaed false (es.map (·.2.written)) ++ ']' :: rest))
      have hbind : ((E f e.1).bind fun u => r.acceptItems E fs (u v) (es.map (·.1))) =
          ((E f e.1).map (· v)).bind fun v => r.acceptItems E fs v (es.map (·.1)) := by
        rw [Option.bind_map]
        rfl
      rw [commaed_elements, readItems, hnext, List.map_cons, acceptItems, hbind]
      exact hvalue.bind fun v => ih hes false (i + 1) e.2.after v

/-- A record is read as its fields are. -/
theorem interprets_record (h : ∀ f v, Interprets (r.read f v) fun j => (E f j).map (· v)) :
    Interprets (r.reader true) (r.ofValue E) := by
  intro j w hw g rest _
  rw [reader, hw.skipBlanks]
  by_cases hj : (∃ ms, j = .object ms) ∨ ∃ es, j = .list es
  · cases hw with
    | object g es each =>
      have hfields := readFields_commaed h each rest true (Entry.length_lt g es rest) g [] r.blank
      simpa [ofValue] using hfields
    | list g es each =>
      have hitems := readItems_commaed h each rest true 0 r.fields g r.blank
      simpa [ofValue] using hitems
    | null => simp at hj
    | flag b => simp at hj
    | number n => simp at hj
    | text q => simp at hj
  · obtain ⟨c, t, rfl, hc⟩ := hw.exists_cons
    have hne : ¬(c = '\x7b' ∨ c = '[') := by
      rintro (rfl | rfl)
      · exact hj (Or.inl hc.object)
      · exact hj (Or.inr hc.list)
    have hnone : r.ofValue E j = none := by
      cases j <;> first | rfl | simp at hj
    rw [hnone, List.cons_append]
    simp only [if_neg hne]
    exact Gives.refused _ rest

/-- A record whose bracket is one too many is not read. -/
theorem interprets_refused : Interprets (r.reader false) fun _ => none := by
  intro j w hw g rest _
  rw [reader, hw.skipBlanks]
  obtain ⟨c, t, rfl, -⟩ := hw.exists_cons
  rw [List.cons_append]
  by_cases hbracket : c = '\x7b' ∨ c = '['
  · simp only [if_pos hbracket]
    exact Gives.refused _ rest
  · simp only [if_neg hbracket]
    exact Gives.refused _ rest

/-! ## Order -/

/-- Different fields change different things: what the one changes may come before or after
    what the other changes. -/
def Independent (E : φ → Value → Option (σ → σ)) : Prop :=
  ∀ ⦃f g j k u w⦄, E f j = some u → E g k = some w → f ≠ g → ∀ v, u (w v) = w (u v)

theorem accept_congr_seen {seen seen' : List φ} (h : ∀ f, f ∈ seen ↔ f ∈ seen') (v : σ)
    (ks : List (φ × Value)) : r.accept E seen v ks = r.accept E seen' v ks := by
  induction ks generalizing seen seen' v with
  | nil =>
    have hmissing : r.missing? seen = r.missing? seen' := by
      unfold missing?
      congr 1
      funext f
      simp only [h f]
    simp only [accept, hmissing]
  | cons m ks ih =>
    have hcons : ∀ f, f ∈ m.1 :: seen ↔ f ∈ m.1 :: seen' := by simp [h]
    simp only [accept, h, ih hcons]

/-- The order of members does not matter. -/
theorem accept_perm (hE : Independent E) {ks ls : List (φ × Value)} (h : ks.Perm ls)
    (seen : List φ) (v : σ) : r.accept E seen v ks = r.accept E seen v ls := by
  induction h generalizing seen v with
  | nil => rfl
  | cons m _ ih => simp only [accept, ih]
  | trans _ _ ih₁ ih₂ => rw [ih₁, ih₂]
  | swap m n ks =>
    have hseen : ∀ f, f ∈ m.1 :: n.1 :: seen ↔ f ∈ n.1 :: m.1 :: seen := fun f =>
      (List.Perm.swap n.1 m.1 seen).mem_iff
    by_cases heq : m.1 = n.1
    · simp [accept, heq]
    · by_cases hm : m.1 ∈ seen
      · simp [accept, hm]
      · by_cases hn : n.1 ∈ seen
        · simp [accept, hn]
        · cases hu : E m.1 m.2 with
          | none => simp [accept, hu]
          | some u =>
            cases hw : E n.1 n.2 with
            | none => simp [accept, hw]
            | some w =>
              simp only [accept, List.mem_cons, hm, hn, heq, Ne.symm heq, or_self, if_false, hu,
                hw, Option.bind_some, hE hu hw heq v, accept_congr_seen hseen]

/-- What a known member changes could be changed in the end. -/
theorem accept_update (hE : Independent E) {f : φ} {j : Value} {u : σ → σ} (hu : E f j = some u)
    {seen : List φ} (hf : f ∈ seen) (v : σ) (ks : List (φ × Value)) :
    r.accept E seen (u v) ks = (r.accept E seen v ks).map u := by
  induction ks generalizing seen v with
  | nil =>
    simp only [accept]
    split_ifs <;> rfl
  | cons m ks ih =>
    simp only [accept]
    by_cases hm : m.1 ∈ seen
    · simp [hm]
    · have hne : f ≠ m.1 := by
        rintro rfl
        exact hm hf
      cases hw : E m.1 m.2 with
      | none => simp [hm]
      | some w =>
        simp only [if_neg hm, Option.bind_some, ← hE hu hw hne v,
          ih (List.mem_cons_of_mem m.1 hf)]

/-- A record has the value of each of its known members. -/
theorem exists_of_accept (hE : Independent E) {ks : List (φ × Value)} {seen : List φ} {v c : σ}
    (h : r.accept E seen v ks = some c) {f : φ} {j : Value} (hm : (f, j) ∈ ks) :
    ∃ u c', E f j = some u ∧ c = u c' := by
  induction ks generalizing seen v with
  | nil => cases hm
  | cons m ks ih =>
    rw [accept] at h
    split_ifs at h with hseen
    obtain ⟨w, hw, haccept⟩ := Option.bind_eq_some_iff.1 h
    rcases List.mem_cons.1 hm with rfl | hm
    · rw [accept_update hE hw List.mem_cons_self, Option.map_eq_some_iff] at haccept
      obtain ⟨c', -, rfl⟩ := haccept
      exact ⟨w, c', hw, rfl⟩
    · exact ih haccept hm

/-! ## Values that differ in what is not known -/

/-- A key that is the label of no field. -/
def Unknown (r : Record φ σ) (q : Quoted) : Prop :=
  ∃ label, q.value? = some label ∧ r.field? label = none

omit [DecidableEq φ] in
theorem known_of_unknown {m : Quoted × Value} (h : r.Unknown m.1) : r.known m = none := by
  obtain ⟨label, hlabel, hf⟩ := h
  simp [known, hlabel, hf]

theorem acceptMembers_append_unknown {ms extra : List (Quoted × Value)}
    (h : ∀ m ∈ extra, r.Unknown m.1) (seen : List φ) (v : σ) :
    r.acceptMembers E seen v (ms ++ extra) = r.acceptMembers E seen v ms := by
  have hspelled : ∀ m ∈ extra, m.1.value?.isSome := fun m hm => by
    obtain ⟨label, hlabel, -⟩ := h m hm
    rw [hlabel]
    rfl
  have hall : (∀ m ∈ ms ++ extra, m.1.value?.isSome) ↔ ∀ m ∈ ms, m.1.value?.isSome := by
    rw [List.forall_mem_append]
    exact and_iff_left hspelled
  have hknown : extra.filterMap r.known = [] :=
    List.filterMap_eq_nil_iff.2 fun m hm => known_of_unknown (h m hm)
  simp only [acceptMembers, hall, List.filterMap_append, hknown, List.append_nil]

theorem acceptMembers_perm (hE : Independent E) {ms ns : List (Quoted × Value)} (h : ms.Perm ns)
    (seen : List φ) (v : σ) : r.acceptMembers E seen v ms = r.acceptMembers E seen v ns := by
  simp only [acceptMembers, h.mem_iff, accept_perm hE (h.filterMap r.known)]

/-- Members are put for what their values change. -/
theorem acceptMembers_congr {ps : List (Quoted × Value × Value)}
    (h : ∀ p ∈ ps, ∀ label ∈ p.1.value?, ∀ f ∈ r.field? label, E f p.2.1 = E f p.2.2)
    (seen : List φ) (v : σ) :
    r.acceptMembers E seen v (ps.map fun p => (p.1, p.2.1)) =
      r.acceptMembers E seen v (ps.map fun p => (p.1, p.2.2)) := by
  induction ps generalizing seen v with
  | nil => rfl
  | cons p ps ih =>
    obtain ⟨hp, hps⟩ := List.forall_mem_cons.1 h
    simp only [List.map_cons, acceptMembers_cons, ih hps]
    refine Option.bind_congr fun label hlabel => ?_
    cases hf : r.field? label with
    | none => rfl
    | some f => simp only [hp label hlabel f hf]

omit [DecidableEq φ] in
theorem acceptItems_congr {fs : List φ} {ps : List (Value × Value)}
    (h : ∀ (i : Nat) (p : Value × Value) (f : φ), ps[i]? = some p → fs[i]? = some f →
      E f p.1 = E f p.2) (v : σ) :
    r.acceptItems E fs v (ps.map (·.1)) = r.acceptItems E fs v (ps.map (·.2)) := by
  induction fs generalizing ps v with
  | nil => cases ps <;> rfl
  | cons f fs ih =>
    cases ps with
    | nil => rfl
    | cons p ps =>
      have hp := h 0 p f rfl rfl
      have hps := ih fun i => h (i + 1)
      simp only [List.map_cons, acceptItems, hp, hps]

/-- **A record depends on its known members**: neither on their order, nor on any others. -/
theorem ofValue_object_congr (hE : Independent E) {ms ns extra extra' : List (Quoted × Value)}
    {ps : List (Quoted × Value × Value)}
    (hms : ms.Perm (ps.map (fun p => (p.1, p.2.1)) ++ extra))
    (hns : ns.Perm (ps.map (fun p => (p.1, p.2.2)) ++ extra'))
    (hextra : ∀ m ∈ extra, r.Unknown m.1) (hextra' : ∀ m ∈ extra', r.Unknown m.1)
    (h : ∀ p ∈ ps, ∀ label ∈ p.1.value?, ∀ f ∈ r.field? label, E f p.2.1 = E f p.2.2) :
    r.ofValue E (.object ms) = r.ofValue E (.object ns) := by
  simp only [ofValue]
  rw [acceptMembers_perm hE hms, acceptMembers_perm hE hns, acceptMembers_append_unknown hextra,
    acceptMembers_append_unknown hextra', acceptMembers_congr h]

/-- A record that is given as an object has the value of each known member. -/
theorem exists_of_ofValue_object (hE : Independent E) {ms : List (Quoted × Value)} {c : σ}
    (h : r.ofValue E (.object ms) = some c) {q : Quoted} {j : Value} (hm : (q, j) ∈ ms)
    {label : String} (hlabel : q.value? = some label) {f : φ} (hf : r.field? label = some f) :
    ∃ u c', E f j = some u ∧ c = u c' := by
  have hknown : r.known (q, j) = some (f, j) := by simp [known, hlabel, hf]
  rw [ofValue, acceptMembers] at h
  split_ifs at h
  exact exists_of_accept hE h (List.mem_filterMap.2 ⟨(q, j), hm, hknown⟩)

/-! ## Values of fields -/

/-- `FieldValue label fields f j k`: in the value `j` of a record the field `f` has the value `k`,
    as the member with its label, or as the element of a list that stands for it. -/
inductive FieldValue (label : φ → String) (fields : List φ) (f : φ) : Value → Value → Prop
  | member {ms : List (Quoted × Value)} {q : Quoted} {k : Value} (mem : (q, k) ∈ ms)
    (key : q.value? = some (label f)) : FieldValue label fields f (.object ms) k
  | item {js : List Value} {i : Nat} {k : Value} (field : fields[i]? = some f)
    (value : js[i]? = some k) : FieldValue label fields f (.list js) k

omit [DecidableEq φ] in
/-- What one element of a list changes could be changed in the end. -/
theorem acceptItems_update (hE : Independent E) {f : φ} {j : Value} {u : σ → σ}
    (hu : E f j = some u) {fs : List φ} (hf : f ∉ fs) (v : σ) (js : List Value) :
    r.acceptItems E fs (u v) js = (r.acceptItems E fs v js).map u := by
  induction fs generalizing v js with
  | nil => cases js <;> rfl
  | cons g fs ih =>
    obtain ⟨hne, hfs⟩ := not_or.1 (mt List.mem_cons.2 hf)
    cases js with
    | nil =>
      simp only [acceptItems]
      split_ifs
      · exact ih hfs v []
      · rfl
    | cons k js =>
      simp only [acceptItems]
      cases hw : E g k with
      | none => rfl
      | some w => rw [Option.bind_some, Option.bind_some, ← hE hu hw hne v, ih hfs]

omit [DecidableEq φ] in
/-- A record that is given as a list has the value of each element. -/
theorem exists_of_acceptItems (hE : Independent E) {fs : List φ} (hfs : fs.Nodup)
    {js : List Value} {v c : σ} (h : r.acceptItems E fs v js = some c) {i : Nat} {f : φ}
    {j : Value} (hf : fs[i]? = some f) (hj : js[i]? = some j) :
    ∃ u c', E f j = some u ∧ c = u c' := by
  induction fs generalizing js v i with
  | nil => simp at hf
  | cons g fs ih =>
    obtain ⟨hg, hfs⟩ := List.nodup_cons.1 hfs
    cases js with
    | nil => simp at hj
    | cons k js =>
      rw [acceptItems] at h
      obtain ⟨w, hw, hrest⟩ := Option.bind_eq_some_iff.1 h
      cases i with
      | zero =>
        obtain rfl : g = f := Option.some.inj hf
        obtain rfl : k = j := Option.some.inj hj
        rw [acceptItems_update hE hw hg, Option.map_eq_some_iff] at hrest
        obtain ⟨c', -, rfl⟩ := hrest
        exact ⟨w, c', hw, rfl⟩
      | succ i => exact ih hfs hrest hf hj

/-- **A record has the value of each of its fields**, in whichever form it is given. -/
theorem exists_of_ofValue (hE : Independent E) (hfields : r.fields.Nodup) {j k : Value} {c : σ}
    (h : r.ofValue E j = some c) {f : φ} (hf : r.field? (r.label f) = some f)
    (hk : FieldValue r.label r.fields f j k) : ∃ u c', E f k = some u ∧ c = u c' := by
  cases hk with
  | member mem key => exact exists_of_ofValue_object hE h mem key hf
  | item field value => exact exists_of_acceptItems hE hfields h field value

end Record

end Pagewright.Json
