/-
  Kinds of components.

  A kind is known by its tag; a tag that no kind has is kept as an unknown
  kind, so that every tag can be read and is written back unchanged
  (`tag_ofTag`).
-/

namespace Pagewright

/-- What a component is: a layout container, a piece of content, a form
    control, or something this library has no rendering for. -/
inductive Kind where
  | container | card | grid | formGroup | tabs | accordion | section_
  | quickStack | vFlex | hFlex | pageSlot | nav
  | text | button | image | icon | link | divider | progress | video | iframe | list | table
  | input | textarea | select | checkbox | radioGroup
  | unknown (tag : String)
  deriving DecidableEq, Repr

namespace Kind

/-- The kind with a given tag. -/
def ofTag (tag : String) : Kind :=
  match tag with
  | "container" => .container
  | "card" => .card
  | "grid" => .grid
  | "form-group" => .formGroup
  | "tabs" => .tabs
  | "accordion" => .accordion
  | "section" => .section_
  | "quick-stack" => .quickStack
  | "v-flex" => .vFlex
  | "h-flex" => .hFlex
  | "page-slot" => .pageSlot
  | "nav" => .nav
  | "text" => .text
  | "button" => .button
  | "image" => .image
  | "icon" => .icon
  | "link" => .link
  | "divider" => .divider
  | "progress" => .progress
  | "video" => .video
  | "iframe" => .iframe
  | "list" => .list
  | "table" => .table
  | "input" => .input
  | "textarea" => .textarea
  | "select" => .select
  | "checkbox" => .checkbox
  | "radio-group" => .radioGroup
  | tag => .unknown tag

/-- The tag a kind is written as. -/
def tag : Kind → String
  | .container => "container"
  | .card => "card"
  | .grid => "grid"
  | .formGroup => "form-group"
  | .tabs => "tabs"
  | .accordion => "accordion"
  | .section_ => "section"
  | .quickStack => "quick-stack"
  | .vFlex => "v-flex"
  | .hFlex => "h-flex"
  | .pageSlot => "page-slot"
  | .nav => "nav"
  | .text => "text"
  | .button => "button"
  | .image => "image"
  | .icon => "icon"
  | .link => "link"
  | .divider => "divider"
  | .progress => "progress"
  | .video => "video"
  | .iframe => "iframe"
  | .list => "list"
  | .table => "table"
  | .input => "input"
  | .textarea => "textarea"
  | .select => "select"
  | .checkbox => "checkbox"
  | .radioGroup => "radio-group"
  | .unknown tag => tag

theorem tag_ofTag (t : String) : (ofTag t).tag = t := by
  unfold ofTag
  split <;> rfl

/-- Whether a kind has no rendering. -/
def isUnknown : Kind → Bool
  | .unknown _ => true
  | _ => false

/-- The tag of an unknown kind. -/
def unknownTag? : Kind → Option String
  | .unknown tag => some tag
  | _ => none

end Kind

end Pagewright
