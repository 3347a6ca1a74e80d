/-
  Pages are read back as they are written.

  * `PageField.written`, `PageField.put`: a page field by field;
  * `Page.lawful_reader`, `Page.lawful_list`: pages and lists of them, along the
    depth;
  * `json_round_trip`: which components and which lists of pages are read back.
-/
import Pagewright.Page.Json
import Pagewright.Proofs.Component.RoundTrip

namespace Pagewright

open Json

/-! ## Fields -/

namespace PageField

/-- What the field of a page is written as. -/
def written (p : Page) : PageField → String
  | name => writeString p.name
  | components => Component.writeAll p.components

/-- `v` with the field of `p`. -/
def put (p : Page) : PageField → Page → Page
  | name, v => { v with name := p.name }
  | components, v => { v with components := p.components }

/-- What a field must be to be read back. -/
def Ok (p : Page) : PageField → Prop
  | name => True
  | components => ∀ c ∈ p.components, c.Tagged

theorem closed_written (p : Page) (f : PageField) : Closed (f.written p) := by
  cases f with
  | name => exact closed_writeString p.name
  | components =>
    exact closed_writeList (List.forall_mem_map.2 fun c _ => Component.closed_write c)

theorem fieldLaw (depth : Nat) (f : PageField) :
    FieldLaw depth ((Page.record depth).read f) (fun p => some (f.written p)) (put · f)
      (Ok · f) := by
  cases f with
  | name =>
    exact (ValueLaw.always (lawful_string depth)).field Page.name
      (fun v s => { v with name := s }) (fun _ _ => rfl) (fun _ => rfl) (fun _ _ => rfl)
      (fun _ _ => rfl) fun _ => Iff.rfl
  | components =>
    exact (ValueLaw.always (Component.lawful_reader depth).2).field Page.components
      (fun v cs => { v with components := cs }) (fun _ _ => rfl) (fun _ => rfl) (fun _ _ => rfl)
      (fun _ _ => rfl) fun _ => Iff.rfl

end PageField

namespace Page

/-- A page whose kinds all have tags. -/
def Tagged (p : Page) : Prop := ∀ a ∈ p.nodes, a.kind.Tagged

theorem tagged_iff {p : Page} : p.Tagged ↔ ∀ c ∈ p.components, c.Tagged := by
  simp only [Tagged, nodes, Component.preorderAll_eq_flatMap, List.mem_flatMap, Component.Tagged]
  constructor
  · intro h c hc a ha
    exact h a ⟨c, hc, ha⟩
  · rintro h a ⟨c, hc, ha⟩
    exact h c hc a ha

theorem begins_write (p : Page) : Begins p.write := begins_writeObject _

theorem closed_members (p : Page) :
    ∀ m ∈ [(PageField.name.label, writeString p.name),
      (PageField.components.label, Component.writeAll p.components)], Closed m.2 :=
  List.forall_mem_cons.2 ⟨PageField.closed_written p .name,
    List.forall_mem_singleton.2 (PageField.closed_written p .components)⟩

theorem closed_write (p : Page) : Closed p.write := closed_writeObject (closed_members p)

/-! ## Pages and lists of them -/

theorem law (depth : Nat) :
    (record depth).Law depth (fun p f => some (f.written p)) PageField.put PageField.Ok where
  nodup := (by decide : [PageField.name, .components].Nodup)
  mem f := by
    cases f with
    | name => exact List.mem_cons_self
    | components => exact List.mem_cons_of_mem _ List.mem_cons_self
  label f := by cases f <;> rfl
  required _ _ _ := rfl
  closed p f w hw := by
    obtain rfl := Option.some.inj hw
    exact PageField.closed_written p f
  put_comm p f g v hne := by
    cases f <;> cases g <;> first | exact absurd rfl hne | rfl
  foldl_put _ _ := rfl
  put_blank _ _ h := by cases h
  blank _ h := absurd rfl h
  put_other p f g v hne := by
    cases f <;> cases g <;> first | exact absurd rfl hne | exact ⟨rfl, Iff.rfl⟩
  field := PageField.fieldLaw depth

theorem forall_ok_iff {p : Page} : (∀ f, PageField.Ok p f) ↔ p.Tagged := by
  rw [tagged_iff]
  constructor
  · intro h
    exact h .components
  · intro h f
    cases f with
    | name => trivial
    | components => exact h

theorem lawful_reader (depth : Nat) : Lawful depth (reader depth) write Tagged := by
  cases depth with
  | zero => exact Record.lawful_zero _ fun p => nesting_writeObject_pos (closed_members p)
  | succ depth => exact (law depth).lawful.congr fun p => forall_ok_iff

theorem lawful_list (depth : Nat) :
    Lawful depth (readList depth reader) writeAll fun ps => ∀ p ∈ ps, p.Tagged :=
  Json.lawful_list begins_write closed_write fun d _ => lawful_reader d

end Page

/-- **Reading undoes writing.**  A component, or a list of pages, is read back exactly when its
    kinds all have tags and it nests at most `maxDepth` brackets; so is whatever was read from
    any text. -/
theorem json_round_trip (c : Component) (ps : List Page) (source : List Char) :
    (Component.ofJson c.write.toList = .ok c ↔ c.Tagged ∧ nesting c.write ≤ maxDepth) ∧
    (Page.listOfJson (Page.writeAll ps).toList = .ok ps ↔
      (∀ p ∈ ps, p.Tagged) ∧ nesting (Page.writeAll ps) ≤ maxDepth) ∧
    (Component.ofJson source = .ok c → Component.ofJson c.write.toList = .ok c) ∧
    (Page.listOfJson source = .ok ps → Page.listOfJson (Page.writeAll ps).toList = .ok ps) := by
  have hcomponent := (Component.lawful_reader maxDepth).1
  have hpages := Page.lawful_list maxDepth
  refine ⟨hcomponent.readDocument_iff c, hpages.readDocument_iff ps, ?_, ?_⟩
  · intro hc
    exact hcomponent.readDocument hc
  · intro hps
    exact hpages.readDocument hps

end Pagewright
