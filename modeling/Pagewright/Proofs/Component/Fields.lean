/-
  Components field by field.

  * `Styles.foldl_insert_entries`: styles are their entries, given one after the
    other;
  * `Styles.keys_foldl_insert`, `value?_foldl_insert`: whatever pairs are given one
    after the other, a property stands where it was first given, with the value that
    it was given last;
  * `ComponentField.written c f`: what the field `f` of `c` is written as, unless
    it is left out; all fields together are what `c` is written as (`write_eq`);
  * `ComponentField.put c f v`: `v` with the field of `c`.  Fields are put in any
    order (`put_comm`), and all of them make `c` of anything (`foldl_put_all`);
    a field that is left out is blank (`put_blank`).
-/
import Mathlib.Data.List.Basic
import Mathlib.Data.List.Induction
import Pagewright.Component.Json

namespace Pagewright

open Json

/-! ## Styles -/

namespace Styles

theorem insertPair_of_not_mem {k v : String} {ps : List (String × String)}
    (h : k ∉ ps.map (·.1)) : insertPair k v ps = ps ++ [(k, v)] := by
  induction ps with
  | nil => rfl
  | cons p ps ih =>
    obtain ⟨hp, hps⟩ := not_or.1 (mt List.mem_cons.2 h)
    rw [insertPair, if_neg (Ne.symm hp), ih hps, List.cons_append]

/-- Distinct properties that are given one after the other stand in this order. -/
theorem entries_foldl_insert {ps : List (String × String)} {s : Styles}
    (h : ((s.entries ++ ps).map (·.1)).Nodup) :
    (ps.foldl (fun s p => s.insert p.1 p.2) s).entries = s.entries ++ ps := by
  induction ps generalizing s with
  | nil => rw [List.append_nil, List.foldl_nil]
  | cons p ps ih =>
    have hnew : p.1 ∉ s.entries.map (·.1) := by
      rw [List.map_append, List.map_cons] at h
      exact fun hp => (List.nodup_append.1 h).2.2 p.1 hp p.1 List.mem_cons_self rfl
    have hentries : (s.insert p.1 p.2).entries = s.entries ++ [p] := insertPair_of_not_mem hnew
    have hnodup : (((s.insert p.1 p.2).entries ++ ps).map (·.1)).Nodup := by
      rw [hentries, List.append_assoc]
      exact h
    rw [List.foldl_cons, ih hnodup, hentries, List.append_assoc]
    rfl

/-- Properties that are given one after the other stand where they were first given. -/
theorem keys_foldl_insert (ps : List (String × String)) :
    (ps.foldl (fun acc p => acc.insert p.1 p.2) Styles.empty).entries.map (·.1) =
      (ps.map (·.1)).eraseDups := by
  induction ps using List.reverseRecOn with
  | nil => rfl
  | append_singleton ps p ih =>
    rw [List.foldl_append, List.foldl_cons, List.foldl_nil, keys_insert, ih, List.map_append,
      List.map_singleton, List.eraseDups_append]
    by_cases hp : p.1 ∈ ps.map (·.1)
    · have hold : [p.1].removeAll (ps.map (·.1)) = [] := by simp [List.removeAll, hp]
      rw [if_pos (List.mem_eraseDups.2 hp), hold, List.eraseDups_nil, List.append_nil]
    · have hnew : [p.1].removeAll (ps.map (·.1)) = [p.1] := by simp [List.removeAll, hp]
      rw [if_neg (mt List.mem_eraseDups.1 hp), hnew]
      rfl

/-- A property that is given more than once has the value that it was given last. -/
theorem value?_foldl_insert (ps : List (String × String)) (k : String) :
    (ps.foldl (fun acc p => acc.insert p.1 p.2) Styles.empty).value? k = ps.reverse.lookup k := by
  induction ps using List.reverseRecOn with
  | nil => rfl
  | append_singleton ps p ih =>
    rw [List.foldl_append, List.foldl_cons, List.foldl_nil, value?_insert, ih, List.reverse_append,
      List.reverse_singleton, List.singleton_append, List.lookup_cons]
    by_cases hk : k = p.1
    · simp [hk]
    · rw [if_neg hk, beq_eq_false_iff_ne.2 hk]

theorem eq_of_entries {s t : Styles} (h : s.entries = t.entries) : s = t := by
  cases s
  cases t
  cases h
  rfl

/-- Styles are what their entries make one after the other. -/
theorem foldl_insert_entries (s : Styles) :
    s.entries.foldl (fun acc p => acc.insert p.1 p.2) Styles.empty = s :=
  eq_of_entries (entries_foldl_insert (s := Styles.empty) s.nodup)

end Styles

namespace ComponentField

/-! ## Written fields -/

/-- What a list of texts is written as; an empty one is left out. -/
def writtenTexts (ss : List String) : Option String :=
  if ss.isEmpty then none else some (writeStrings ss)

/-- What a flag is written as; only one that is set is written. -/
def writtenFlag (b : Bool) : Option String := if b then some (writeBool b) else none

theorem eq_of_mem_unless {b : Bool} {v w : String} (h : v ∈ if b then none else some w) :
    v = w := by
  cases b with
  | false => exact (Option.some.inj h).symm
  | true => cases h

theorem eq_of_mem_writtenTexts {ss : List String} {w : String} (h : w ∈ writtenTexts ss) :
    w = writeStrings ss := eq_of_mem_unless h

theorem eq_of_mem_writtenFlag {b : Bool} {w : String} (h : w ∈ writtenFlag b) :
    w = writeBool b := by
  cases b with
  | false => cases h
  | true => exact (Option.some.inj h).symm

/-- What the field of a component is written as, unless it is left out. -/
def written : Component → ComponentField → Option String
  | .node a _, kind => some (writeString a.kind.tag)
  | .node a _, id => some (writeString a.id)
  | .node a _, cssClass => a.cssClass.map writeString
  | .node a _, text => a.text.map writeString
  | .node a _, placeholder => a.placeholder.map writeString
  | .node a _, src => a.src.map writeString
  | .node a _, alt => a.alt.map writeString
  | .node a _, href => a.href.map writeString
  | .node a _, title => a.title.map writeString
  | .node a _, iconClass => a.iconClass.map writeString
  | .node a _, action => a.action.map writeString
  | .node a _, inputType => a.inputType.map writeString
  | .node a _, listKind => a.listKind.map fun k => writeString k.word
  | .node a _, direction => a.direction.map writeString
  | .node a _, columns => a.columns.map fun n => toString n.toNat
  | .node a _, styles =>
    if a.styles.isEmpty then none
    else some (writeObject (a.styles.entries.map fun p => (p.1, writeString p.2)))
  | .node a _, options => writtenTexts a.options
  | .node a _, items => writtenTexts a.items
  | .node a _, headers => writtenTexts a.headers
  | .node a _, rows =>
    if a.rows.isEmpty then none else some (writeList (a.rows.map writeStrings))
  | .node a _, controls => writtenFlag a.controls
  | .node a _, autoplay => writtenFlag a.autoplay
  | .node _ cs, children => if cs.isEmpty then none else some (Component.writeAll cs)

theorem toList_map_ite (l w : String) (b : Bool) :
    ((if b then none else some w).map fun v => (l, v)).toList = if b then [] else [(l, w)] := by
  cases b <;> rfl

theorem toList_map_writtenFlag (l : String) (b : Bool) :
    ((writtenFlag b).map fun v => (l, v)).toList = if b then [(l, writeBool b)] else [] := by
  cases b <;> rfl

theorem members_eq (a : Attributes) (cs : List Component) :
    (a.members ++
        if cs.isEmpty then [] else [("children", writeList (Component.writeEach cs))]) =
      all.filterMap fun f => (f.written (.node a cs)).map fun v => (f.label, v) := by
  rw [List.filterMap_eq_flatMap_toList]
  simp only [all, List.flatMap_cons, List.flatMap_nil, written, label, writtenTexts,
    toList_map_ite, toList_map_writtenFlag]
  unfold Attributes.members Component.writeAll
  simp only [Component.writeEach_eq_map, Option.map_some, Option.toList_some, List.append_nil,
    List.append_assoc, List.cons_append, List.nil_append]

/-- A component is written as the object of its fields, in the order of their declaration. -/
theorem write_eq (c : Component) :
    c.write = writeObject (all.filterMap fun f => (f.written c).map fun v => (f.label, v)) := by
  obtain ⟨a, cs⟩ := c
  rw [Component.write, members_eq]

/-! ## Putting fields -/

/-- `v` with the field of `c`. -/
def put (c : Component) (f : ComponentField) (v : Component) : Component :=
  match f with
  | kind => v.modify fun a => { a with kind := c.attrs.kind }
  | id => v.modify fun a => { a with id := c.attrs.id }
  | cssClass => v.modify fun a => { a with cssClass := c.attrs.cssClass }
  | text => v.modify fun a => { a with text := c.attrs.text }
  | placeholder => v.modify fun a => { a with placeholder := c.attrs.placeholder }
  | src => v.modify fun a => { a with src := c.attrs.src }
  | alt => v.modify fun a => { a with alt := c.attrs.alt }
  | href => v.modify fun a => { a with href := c.attrs.href }
  | title => v.modify fun a => { a with title := c.attrs.title }
  | iconClass => v.modify fun a => { a with iconClass := c.attrs.iconClass }
  | action => v.modify fun a => { a with action := c.attrs.action }
  | inputType => v.modify fun a => { a with inputType := c.attrs.inputType }
  | listKind => v.modify fun a => { a with listKind := c.attrs.listKind }
  | direction => v.modify fun a => { a with direction := c.attrs.direction }
  | columns => v.modify fun a => { a with columns := c.attrs.columns }
  | styles => v.modify fun a => { a with styles := c.attrs.styles }
  | options => v.modify fun a => { a with options := c.attrs.options }
  | items => v.modify fun a => { a with items := c.attrs.items }
  | headers => v.modify fun a => { a with headers := c.attrs.headers }
  | rows => v.modify fun a => { a with rows := c.attrs.rows }
  | controls => v.modify fun a => { a with controls := c.attrs.controls }
  | autoplay => v.modify fun a => { a with autoplay := c.attrs.autoplay }
  | children => .node v.attrs c.children

theorem put_comm (c d : Component) {f g : ComponentField} (v : Component) (h : f ≠ g) :
    put c f (put d g v) = put d g (put c f v) := by
  obtain ⟨a, cs⟩ := v
  cases f <;> cases g <;> first | rfl | exact absurd rfl h

/-- All fields of a component are the component. -/
theorem foldl_put_all (c v : Component) : all.foldl (fun v f => put c f v) v = c := by
  obtain ⟨a, cs⟩ := c
  obtain ⟨b, ds⟩ := v
  rfl

theorem writtenFlag_eq_none {b : Bool} : writtenFlag b = none ↔ b = false := by
  cases b <;> simp [writtenFlag]

theorem writtenTexts_eq_none {ss : List String} : writtenTexts ss = none ↔ ss = [] := by
  cases ss <;> simp [writtenTexts]

theorem list_eq_none {α : Type} {vs : List α} {w : String} :
    (if vs.isEmpty then none else some w) = none ↔ vs = [] := by
  cases vs <;> simp

theorem styles_eq_none {s : Styles} {w : String} :
    (if s.isEmpty then none else some w) = none ↔ s = Styles.empty := by
  obtain ⟨entries, nodup⟩ := s
  cases entries <;> simp [Styles.isEmpty, Styles.empty]

/-- A field that is left out is as it is in a blank component. -/
theorem put_blank {c : Component} {f : ComponentField} (h : f.written c = none) :
    put c f (.node {} []) = .node {} [] := by
  obtain ⟨a, cs⟩ := c
  cases f <;>
    simp only [written, Option.map_eq_none_iff, writtenFlag_eq_none, writtenTexts_eq_none,
      list_eq_none, styles_eq_none, reduceCtorEq] at h <;>
    simp only [put, Component.modify, Component.attrs, Component.children, h]

end ComponentField

end Pagewright
