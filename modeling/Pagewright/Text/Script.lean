/-
  Texts inside TypeScript sources.

  * `escapeLiteral` writes a text for the inside of a single-quoted literal;
    carriage returns are left out;
  * `literal` puts it between the quotes;
  * `identifier` makes the inside of an identifier out of any text.
-/
import Pagewright.Text.Basic

namespace Pagewright.Script

open Text

/-- The four passes, in order: the backslash goes first. -/
def escapeLiteralChars (cs : List Char) : List Char :=
  substitute '\r' "" <| substitute '\n' "\\n" <| substitute '\x27' "\\'" <|
    substitute '\\' "\\\\" cs

/-- A text for the inside of a single-quoted literal. -/
def escapeLiteral (s : String) : String := String.ofList (escapeLiteralChars s.toList)

/-- The single-quoted literal of a text. -/
def literal (s : String) : String := "'" ++ escapeLiteral s ++ "'"

/-- How a single character is written inside a literal. -/
def literalChar (c : Char) : List Char :=
  if c = '\\' then ['\\', '\\']
  else if c = '\x27' then ['\\', '\x27']
  else if c = '\n' then ['\\', 'n']
  else if c = '\r' then []
  else [c]

theorem escapeLiteralChars_append (cs ds : List Char) :
    escapeLiteralChars (cs ++ ds) = escapeLiteralChars cs ++ escapeLiteralChars ds := by
  simp only [escapeLiteralChars, substitute_append]

theorem escapeLiteralChars_singleton (c : Char) : escapeLiteralChars [c] = literalChar c := by
  by_cases h : c ∈ ['\\', '\x27', '\n', '\r']
  · simp only [List.mem_cons, List.not_mem_nil, or_false] at h
    rcases h with rfl | rfl | rfl | rfl <;> rfl
  · simp only [List.mem_cons, List.not_mem_nil, or_false, not_or] at h
    obtain ⟨h₁, h₂, h₃, h₄⟩ := h
    simp only [literalChar, if_neg h₁, if_neg h₂, if_neg h₃, if_neg h₄]
    have keep : ∀ {d : Char} {w : String}, c ≠ d → substitute d w [c] = [c] := fun hd =>
      substitute_of_not_mem (by simpa using Ne.symm hd)
    rw [escapeLiteralChars, keep h₁, keep h₂, keep h₃, keep h₄]

/-- The passes do not meet: each character is written on its own. -/
theorem escapeLiteralChars_eq_flatMap (cs : List Char) :
    escapeLiteralChars cs = cs.flatMap literalChar := by
  induction cs with
  | nil => rfl
  | cons c cs ih =>
    rw [← List.singleton_append, escapeLiteralChars_append, escapeLiteralChars_singleton, ih]; rfl

/-- Letters, digits and the underscore, of ASCII. -/
def isIdentifierChar (c : Char) : Bool := c.isAlphanum || c == '_'

/-- A text with every other character written as an underscore. -/
def identifier (s : String) : String :=
  String.ofList (s.toList.map fun c => if isIdentifierChar c then c else '_')

end Pagewright.Script
