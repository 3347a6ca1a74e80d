/-
  Compound names: `camelCase`, `kebab-case` and `PascalCase`.

  * `kebab` puts a hyphen between a lower-case and an upper-case letter and
    then takes lower case;
  * `pascal` drops the hyphens and takes the upper case of what follows each.

  Which letters make a hump is an ASCII matter; the case mappings are full.
-/
import Pagewright.Text.Casing

namespace Pagewright.Text

/-! ## Kebab case -/

/-- Hyphens at the humps, found from left to right; both letters of a hump are
    consumed before the next one is sought. -/
def splitHumps : List Char → List Char
  | a :: b :: cs =>
    if a.isLower && b.isUpper then a :: '-' :: b :: splitHumps cs else a :: splitHumps (b :: cs)
  | cs => cs

/-- A name in kebab case: `backgroundColor` becomes `background-color`. -/
def kebab (s : String) : String := String.ofList (lower (splitHumps s.toList))

/-! ## Pascal case -/

/-- The characters without hyphens, where the first of each part is taken in
    upper case; `start` tells that a part begins here. -/
def capitalizeParts (start : Bool) : List Char → List Char
  | [] => []
  | c :: cs =>
    if c = '-' then capitalizeParts true cs
    else (if start then upperOf c else [c]) ++ capitalizeParts false cs

/-- A name in Pascal case: `button-page` becomes `ButtonPage`. -/
def pascal (s : String) : String := String.ofList (capitalizeParts true s.toList)

end Pagewright.Text
