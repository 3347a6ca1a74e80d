/-
  The members of a page class: what its form controls are bound to, and what
  its actions call.

  * `StateField` is a property with its initial value: a text for an input or
    a choice (the first option, if there is one), a flag for a box to tick;
  * `Handler` is a method that logs the component that was clicked;
  * `stateFields` and `handlers` collect them over a tree, in reading order.
-/
import Pagewright.Markup

namespace Pagewright

open Text

/-! ## State -/

/-- What a property starts with. -/
inductive Initial where
  | text (s : String)
  | flag (b : Bool)
  deriving DecidableEq, Repr

namespace Initial

/-- The type a property is declared with. -/
def typeName : Initial → String
  | text _ => "string"
  | flag _ => "boolean"

/-- The literal a property is initialised with. -/
def literal : Initial → String
  | text s => Script.literal s
  | flag b => if b then "true" else "false"

end Initial

/-- A property that a form control is bound to. -/
structure StateField where
  name : String
  initial : Initial
  deriving DecidableEq, Repr

/-- The line that declares a property. -/
def StateField.line (f : StateField) : String :=
  f.name ++ ": " ++ f.initial.typeName ++ " = " ++ f.initial.literal ++ ";"

/-- The property of a form control. -/
def Attributes.stateField? (a : Attributes) : Option StateField :=
  match a.kind with
  | .input | .textarea => some ⟨a.modelName, .text ""⟩
  | .select | .radioGroup => some ⟨a.selectedName, .text (a.options.head?.getD "")⟩
  | .checkbox => some ⟨a.checkedName, .flag false⟩
  | _ => none

/-! ## Handlers -/

/-- A method that a click calls. -/
structure Handler where
  method : String
  nodeId : String
  deriving DecidableEq, Repr

/-- The line that declares a method. -/
def Handler.line (h : Handler) : String :=
  h.method ++ "() \x7b console.log('" ++ Script.escapeLiteral h.nodeId ++ " clicked'); \x7d"

/-- The method that an action calls: the action without its empty argument
    list. -/
def methodName (action : String) : String := withoutEnding "()" action

/-- The handler of a component with an action. -/
def Attributes.handler? (a : Attributes) : Option Handler :=
  a.action?.map fun action => ⟨methodName action, a.id⟩

/-! ## Trees -/

namespace Component

/-- The properties for a list of components. -/
def stateFields (cs : List Component) : List StateField :=
  (preorderAll cs).filterMap Attributes.stateField?

/-- The methods for a list of components.  Every component with an action has
    one, whether or not its kind can be clicked. -/
def handlers (cs : List Component) : List Handler :=
  (preorderAll cs).filterMap Attributes.handler?

end Component

end Pagewright
