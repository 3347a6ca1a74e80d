/-
  Components: trees whose nodes say what they are and what they show.

  * `Attributes` is what a component says of itself, `Component` puts children
    below it;
  * `preorder` lists the attributes of a tree, a node before its children, the
    children in order; every collection over a tree goes through it.
-/
import Pagewright.Component.Kind
import Pagewright.Component.Styles

namespace Pagewright

/-- Whether the entries of a list are numbered. -/
inductive ListKind where
  | ordered | unordered
  deriving DecidableEq, Repr

/-- The word for a list kind. -/
def ListKind.word : ListKind → String
  | ordered => "ordered"
  | unordered => "unordered"

/-- What a component says of itself. -/
structure Attributes where
  kind : Kind := .container
  /-- Names the component in styles and in the class of its page. -/
  id : String := ""
  /-- Further style classes. -/
  cssClass : Option String := none
  text : Option String := none
  placeholder : Option String := none
  src : Option String := none
  alt : Option String := none
  href : Option String := none
  title : Option String := none
  iconClass : Option String := none
  /-- What a click calls. -/
  action : Option String := none
  inputType : Option String := none
  listKind : Option ListKind := none
  direction : Option String := none
  columns : Option UInt32 := none
  styles : Styles := .empty
  options : List String := []
  items : List String := []
  headers : List String := []
  rows : List (List String) := []
  controls : Bool := false
  autoplay : Bool := false
  deriving DecidableEq, Repr

/-- The action of a component, if it has one that is not empty. -/
def Attributes.action? (a : Attributes) : Option String := a.action.filter (· ≠ "")

/-- A component and the components inside it. -/
inductive Component where
  | node (attrs : Attributes) (children : List Component)
  deriving Repr

namespace Component

/-- What a component says of itself. -/
def attrs : Component → Attributes
  | node a _ => a

/-- The components inside a component. -/
def children : Component → List Component
  | node _ cs => cs

/-- A component of a kind with an id, and nothing more. -/
def ofKind (kind : Kind) (id : String) : Component := node { kind, id } []

/-! ## Building -/

/-- Changes what a component says of itself. -/
def modify (f : Attributes → Attributes) : Component → Component
  | node a cs => node (f a) cs

/-- Gives the text. -/
def withText (s : String) : Component → Component :=
  modify fun a => { a with text := some s }

/-- Gives the action. -/
def withAction (s : String) : Component → Component :=
  modify fun a => { a with action := some s }

/-- Gives the further style classes. -/
def withClass (s : String) : Component → Component :=
  modify fun a => { a with cssClass := some s }

/-- Gives a style property a value. -/
def withStyle (k v : String) : Component → Component :=
  modify fun a => { a with styles := a.styles.insert k v }

/-- Replaces the options. -/
def withOptions (os : List String) : Component → Component :=
  modify fun a => { a with options := os }

/-- Puts a further component inside. -/
def withChild (c child : Component) : Component := node c.attrs (c.children ++ [child])

/-! ## Walking -/

mutual

/-- The attributes in a tree, a node before its children. -/
def preorder : Component → List Attributes
  | node a cs => a :: preorderAll cs

/-- The attributes in a list of trees, one tree after the other. -/
def preorderAll : List Component → List Attributes
  | [] => []
  | c :: cs => preorder c ++ preorderAll cs

end

theorem preorderAll_eq_flatMap (cs : List Component) : preorderAll cs = cs.flatMap preorder := by
  induction cs with
  | nil => rfl
  | cons c cs ih => simp [preorderAll, ih]

end Component

end Pagewright
