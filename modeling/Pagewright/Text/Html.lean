/-
  Texts inside a template.

  * `escape` makes a text safe in element content and in quoted attributes: the
    ampersand goes first, so that no entity is escaped again.  The six passes
    together write each character on its own (`escape_eq_flatMap`);
  * `escapeComment` makes a text safe in a comment: no two hyphens stay
    adjacent, and none stands at the end.
-/
import Pagewright.Text.Basic

namespace Pagewright.Html

open Text

/-! ## Content and attributes -/

/-- The six passes, in order. -/
def escapeChars (cs : List Char) : List Char :=
  substitute '@' "&#64;" <| substitute '\x27' "&#39;" <| substitute '"' "&quot;" <|
    substitute '>' "&gt;" <| substitute '<' "&lt;" <| substitute '&' "&amp;" cs

/-- A text for element content and attribute values.  The at sign is escaped
    too, since it opens control-flow blocks in a template. -/
def escape (s : String) : String := String.ofList (escapeChars s.toList)

/-- How a single character is written. -/
def entity (c : Char) : List Char :=
  if c = '&' then "&amp;".toList
  else if c = '<' then "&lt;".toList
  else if c = '>' then "&gt;".toList
  else if c = '"' then "&quot;".toList
  else if c = '\x27' then "&#39;".toList
  else if c = '@' then "&#64;".toList
  else [c]

theorem escapeChars_append (cs ds : List Char) :
    escapeChars (cs ++ ds) = escapeChars cs ++ escapeChars ds := by
  simp only [escapeChars, substitute_append]

theorem escapeChars_singleton (c : Char) : escapeChars [c] = entity c := by
  by_cases h : c ∈ ['&', '<', '>', '"', '\x27', '@']
  · simp only [List.mem_cons, List.not_mem_nil, or_false] at h
    rcases h with rfl | rfl | rfl | rfl | rfl | rfl <;> rfl
  · simp only [List.mem_cons, List.not_mem_nil, or_false, not_or] at h
    obtain ⟨h₁, h₂, h₃, h₄, h₅, h₆⟩ := h
    simp only [entity, if_neg h₁, if_neg h₂, if_neg h₃, if_neg h₄, if_neg h₅, if_neg h₆]
    have keep : ∀ {d : Char} {w : String}, c ≠ d → substitute d w [c] = [c] := fun hd =>
      substitute_of_not_mem (by simpa using Ne.symm hd)
    rw [escapeChars, keep h₁, keep h₂, keep h₃, keep h₄, keep h₅, keep h₆]

/-- The passes do not meet: each character is written on its own. -/
theorem escapeChars_eq_flatMap (cs : List Char) : escapeChars cs = cs.flatMap entity := by
  induction cs with
  | nil => rfl
  | cons c cs ih =>
    rw [← List.singleton_append, escapeChars_append, escapeChars_singleton, ih]; rfl

/-! ## Comments -/

/-- Puts a space between adjacent hyphens and after a last one; `hyphen` tells
    whether the character just written is a hyphen. -/
def spaceHyphens (hyphen : Bool) : List Char → List Char
  | [] => if hyphen then [' '] else []
  | c :: cs =>
    if c = '-' && hyphen then ' ' :: c :: spaceHyphens true cs
    else c :: spaceHyphens (c == '-') cs

/-- A text for the inside of a comment. -/
def escapeComment (s : String) : String :=
  String.ofList (spaceHyphens false (escapeChars s.toList))

end Pagewright.Html
