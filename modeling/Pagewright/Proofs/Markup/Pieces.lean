/-
  How the template of a page is put together from the pieces of its components.

  * `Pieces Q` says that `Q` holds of every piece, together with the components
    that the piece belongs to, and of pieces one behind the other: the tags of
    a block, the template of a leaf, the beginning of a line;
  * `Pieces.template`, `Pieces.pageTemplate`: then it holds of the template of
    every component and of every page, together with the components that are
    shown, in order.

  A component without a template takes no line, but it is still listed: `Q` must
  hold of the empty template and such a component, which is the case of a leaf.
-/
import Pagewright.Proofs.Component.Induction
import Pagewright.Proofs.Markup.Forest

namespace Pagewright

open Template Segment

/-- Whether a segment is written by an author: a text, or the tag of an unknown
    component. -/
def Segment.isAuthored : Segment → Bool
  | text _ | remark _ => true
  | _ => false

/-- What holds of templates and of the separator between them holds of them all, if
    it goes on to templates one behind the other. -/
theorem Template.joined_induction {P : Template → Prop} {separator : Template} (nil : P [])
    (append : ∀ {t u : Template}, P t → P u → P (t ++ u)) (hs : P separator) :
    ∀ {ts : List Template}, (∀ t ∈ ts, P t) → P (joined separator ts)
  | [], _ => nil
  | [t], h => h t (by simp)
  | t :: u :: us, h => by
    have hrest := joined_induction nil append hs fun v hv => h v (List.mem_cons_of_mem t hv)
    exact append (append (h t (by simp)) hs) hrest

/-! ## Blocks -/

/-- The start tag of a block. -/
def Template.blockStart (element classes : String) : Template :=
  [markup ("<" ++ element ++ " class=\""), field classes, markup "\">"]

/-- The end tag of a block. -/
def Template.blockEnd (element : String) : Template := [markup ("</" ++ element ++ ">")]

/-- What stands between the tags of a block: every template on a line. -/
def blockLines (d : Nat) (shown : List Template) : Template :=
  if shown = [] then [] else shown.flatMap (newline (d + 1) :: ·) ++ [newline d]

theorem blockTemplate_eq (d : Nat) (tag classes : String) (ts : List Template) :
    blockTemplate d tag classes ts =
      blockStart tag classes ++ blockLines d (ts.filter (!·.isEmpty)) ++ blockEnd tag := by
  unfold blockTemplate blockLines
  generalize ts.filter (!·.isEmpty) = shown
  cases shown <;> rfl

namespace Component

variable {a : Attributes} {d : Nat}

/-- A block is shown with its children. -/
theorem shown_of_block {element classes : String} (h : a.shape d = .block element classes)
    (cs : List Component) : shown (node a cs) = a :: shownAll cs := by
  rw [shown]
  unfold Attributes.shape at h
  unfold Attributes.outline
  cases hk : a.kind <;> simp_all

/-- A leaf is shown alone. -/
theorem shown_of_leaf {t : Template} (h : a.shape d = .leaf t) (cs : List Component) :
    shown (node a cs) = [a] := by
  rw [shown]
  unfold Attributes.shape at h
  unfold Attributes.outline
  cases hk : a.kind <;> simp_all

end Component

/-! ## Pieces -/

/-- What holds of the pieces that templates are put together from, and of pieces
    one behind the other. -/
structure Pieces (Q : Template → List Attributes → Prop) : Prop where
  nil : Q [] []
  append {t u : Template} {as bs : List Attributes} : Q t as → Q u bs → Q (t ++ u) (as ++ bs)
  line (d : Nat) : Q [newline d] []
  blockStart {a : Attributes} {d : Nat} {element classes : String} :
    a.shape d = .block element classes → Q (Template.blockStart element classes) [a]
  blockEnd {a : Attributes} {d : Nat} {element classes : String} :
    a.shape d = .block element classes → Q (Template.blockEnd element) []
  leaf {a : Attributes} {d : Nat} {t : Template} : a.shape d = .leaf t → Q t [a]

namespace Pieces

variable {Q : Template → List Attributes → Prop} {α : Type} {f : α → Template}
  {g : α → List Attributes} {xs : List α}

/-- Templates that each begin a line; those that are empty take none. -/
theorem lines (h : Pieces Q) (hx : ∀ x ∈ xs, Q (f x) (g x)) (d : Nat) :
    Q (((xs.map f).filter (!·.isEmpty)).flatMap (newline d :: ·)) (xs.flatMap g) := by
  induction xs with
  | nil => exact h.nil
  | cons x xs ih =>
    have hrest := ih fun y hy => hx y (by simp [hy])
    have hhead := hx x (by simp)
    rw [List.map_cons, List.flatMap_cons]
    by_cases he : f x = []
    · rw [List.filter_cons_of_neg (by simp [he])]
      rw [he] at hhead
      exact h.append hhead hrest
    · rw [List.filter_cons_of_pos (by simpa using he), List.flatMap_cons]
      exact h.append (h.append (h.line d) hhead) hrest

/-- Templates with the beginning of a line between them. -/
theorem joined (h : Pieces Q) (hx : ∀ x ∈ xs, Q (f x) (g x)) (d : Nat) :
    Q (Template.joined [newline d] ((xs.map f).filter (!·.isEmpty))) (xs.flatMap g) := by
  induction xs with
  | nil => exact h.nil
  | cons x xs ih =>
    have hrest := ih fun y hy => hx y (by simp [hy])
    have hhead := hx x (by simp)
    rw [List.map_cons, List.flatMap_cons]
    by_cases he : f x = []
    · rw [List.filter_cons_of_neg (by simp [he])]
      rw [he] at hhead
      exact h.append hhead hrest
    · rw [List.filter_cons_of_pos (by simpa using he)]
      cases hs : (xs.map f).filter (!·.isEmpty) with
      | nil =>
        -- the last template on the page: what follows is empty, but still lists its components
        rw [hs] at hrest
        simpa [Template.joined] using h.append hhead hrest
      | cons t ts =>
        rw [hs] at hrest
        have hline := h.append hhead (h.line d)
        simpa [Template.joined] using h.append hline hrest

/-- A block around templates. -/
theorem block (h : Pieces Q) {a : Attributes} {d : Nat} {element classes : String}
    (hs : a.shape d = .block element classes) (hx : ∀ x ∈ xs, Q (f x) (g x)) :
    Q (blockTemplate d element classes (xs.map f)) (a :: xs.flatMap g) := by
  have hlines := h.lines hx (d + 1)
  have hbody : Q (blockLines d ((xs.map f).filter (!·.isEmpty))) (xs.flatMap g) := by
    unfold blockLines
    split_ifs with hf
    · simpa [hf] using hlines
    · simpa using h.append hlines (h.line d)
  rw [blockTemplate_eq]
  simpa using h.append (h.append (h.blockStart hs) hbody) (h.blockEnd hs)

/-- What holds of all pieces holds of the template of a component. -/
theorem template (h : Pieces Q) (c : Component) : ∀ d, Q (c.template d) c.shown := by
  induction c with
  | node a cs ih =>
    intro d
    rw [Component.template]
    cases hs : a.shape d with
    | block element classes =>
      rw [Component.shown_of_block hs, Component.shownAll_eq_flatMap, Component.templates_eq_map]
      exact h.block hs fun c hc => ih c hc (d + 1)
    | leaf t =>
      rw [Component.shown_of_leaf hs]
      exact h.leaf hs

/-- **What holds of all pieces holds of the template of a page.** -/
theorem pageTemplate (h : Pieces Q) (cs : List Component) :
    Q (Component.pageTemplate cs) (Component.shownAll cs) := by
  rw [Component.pageTemplate, Component.templates_eq_map, Component.shownAll_eq_flatMap]
  exact h.joined (fun c _ => h.template c 0) 0

end Pieces

end Pagewright
