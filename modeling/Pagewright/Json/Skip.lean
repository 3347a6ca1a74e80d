/-
  Values that are passed over: any well-formed JSON, nested as deeply as it
  likes.

  The open brackets are kept on a stack, so that no nesting limit is needed.
  A value takes at least one character, which bounds the number of rounds.
-/
import Pagewright.Json.Number

namespace Pagewright.Json

/-- An open bracket. -/
inductive Bracket where
  | list | object
  deriving DecidableEq, Repr

namespace Bracket

/-- The character that closes a bracket. -/
def closing : Bracket → Char
  | list => ']'
  | object => '\x7d'

/-- The fault of a text that ends inside a bracket. -/
def endCause : Bracket → Cause
  | list => .endOfList
  | object => .endOfObject

/-- The fault of an element that neither a comma nor the closing bracket
    follows. -/
def separatorCause : Bracket → Cause
  | list => .expectedListEnd
  | object => .expectedObjectEnd

end Bracket

/-- Passes over closing brackets: the brackets that stay open, and what is
    left.  After an element (`afterElement`) there must be a comma if the
    bracket is not closed; at the start of a bracket there must be none. -/
def passClosing (afterElement : Bool) :
    List Bracket → List Char → Except Fault (List Bracket × List Char)
  | [], s => .ok ([], s)
  | b :: bs, s =>
    match skipBlanks s with
    | [] => .error ⟨b.endCause, [], 0⟩
    | c :: t =>
      if c = b.closing then passClosing true bs t
      else if afterElement then
        if c = ',' then .ok (b :: bs, t) else .error ⟨b.separatorCause, c :: t, 1⟩
      else .ok (b :: bs, c :: t)

/-- Passes over the key of an object and its colon. -/
def passKey (s : List Char) : Except Fault (List Char) :=
  match skipBlanks s with
  | [] => .error ⟨.endOfObject, [], 0⟩
  | c :: t => if c = '"' then passText 0 t >>= passColon else .error ⟨.keyNotText, c :: t, 1⟩

/-- The beginning of a value: a bracket, or a whole value. -/
def passStart (s : List Char) : Except Fault (Option Bracket × List Char) :=
  match skipBlanks s with
  | [] => .error ⟨.endOfValue, [], 0⟩
  | c :: t =>
    if c = '[' then .ok (some .list, t)
    else if c = '\x7b' then .ok (some .object, t)
    else (none, ·) <$>
      if c = '"' then passText 0 t
      else if c = 'n' then passWord ['u', 'l', 'l'] t
      else if c = 't' then passWord ['r', 'u', 'e'] t
      else if c = 'f' then passWord ['a', 'l', 's', 'e'] t
      else if c = '-' then Number.pass t
      else if c.isDigit then Number.pass (c :: t)
      else .error ⟨.expectedValue, c :: t, 1⟩

/-- Passes over values until no bracket of the stack is open. -/
def passValues (fuel : Nat) (stack : List Bracket) (s : List Char) : Except Fault (List Char) :=
  match fuel with
  | 0 => .error ⟨.tooDeep, s, 0⟩
  | fuel + 1 => do
    let (opened, s) ← passStart s
    let (stack, s) ← passClosing opened.isNone (opened.toList ++ stack) s
    match stack with
    | [] => .ok s
    | .list :: _ => passValues fuel stack s
    | .object :: _ => passKey s >>= passValues fuel stack

/-- Passes over one value. -/
def passValue (s : List Char) : Except Fault (List Char) := passValues (s.length + 1) [] s

end Pagewright.Json
