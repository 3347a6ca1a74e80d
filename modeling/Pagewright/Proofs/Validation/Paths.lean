/-
  The path of a component, read back.

  * `Place.read`: the place and the field that a path names;
  * `read_path`: the path that is written for a field of a component is read as
    the place of the component and the label of the field.
-/
import Pagewright.Proofs.Files.Split
import Pagewright.Validation.Basic

namespace Pagewright

/-! ## Reading a path -/

namespace Place

/-- The position in a part of a path, which is a label with a number in
    brackets behind it. -/
def position? (label : String) (part : List Char) : Option Nat :=
  let digits := (part.drop (label.length + 1)).dropLast
  if part = label.toList ++ '[' :: digits ++ [']'] ∧ digits ≠ [] ∧ digits.all Char.isDigit then
    some (Nat.ofDigitChars 10 digits 0)
  else none

/-- The place of a component and the label behind it, from the parts of a
    path. -/
def ofParts : List (List Char) → Option (Place × String)
  | page :: component :: rest => do
    let i ← position? "pages" page
    let j ← position? "components" component
    let ks ← rest.dropLast.mapM (position? "children")
    let label ← rest.getLast?
    some (⟨i, j, ks⟩, String.ofList label)
  | _ => none

/-- The place of a component and the label behind it, from a path. -/
def read (path : String) : Option (Place × String) := ofParts (Path.split '.' path.toList)

end Place

/-! ## Parts of a path -/

namespace Place

/-- A part with a position, as it is written. -/
def part (label : String) (k : Nat) : List Char :=
  label.toList ++ '[' :: (toString k).toList ++ [']']

theorem position?_part (label : String) (k : Nat) : position? label (part label k) = some k := by
  have hdigits : ((part label k).drop (label.length + 1)).dropLast = Nat.toDigits 10 k := by
    have hlength : label.length + 1 = (label.toList ++ ['[']).length := by
      simp [String.length_toList]
    have hpart : part label k = (label.toList ++ ['[']) ++ (Nat.toDigits 10 k ++ [']']) := by
      simp [part]
    rw [hpart, hlength, List.drop_left, List.dropLast_concat]
  have hall : (Nat.toDigits 10 k).all Char.isDigit :=
    List.all_eq_true.2 fun c hc => Nat.isDigit_of_mem_toDigits (by omega) (by omega) hc
  simp only [position?, hdigits]
  rw [if_pos ⟨by simp [part], Nat.toDigits_ne_nil, hall⟩,
    Nat.ofDigitChars_ten_toDigits]

theorem dot_not_mem_part {label : String} (h : '.' ∉ label.toList) (k : Nat) :
    '.' ∉ part label k := by
  have hdigits : '.' ∉ Nat.toDigits 10 k := fun hc =>
    absurd (Nat.isDigit_of_mem_toDigits (by omega) (by omega) hc) (by decide)
  simp [part, h, hdigits]

/-! ## Written paths -/

/-- The parts of the path of a component. -/
def parts (p : Place) : List (List Char) :=
  part "pages" p.page :: part "components" p.component :: p.children.map (part "children")

theorem dot_not_mem_parts (p : Place) : ∀ w ∈ p.parts, '.' ∉ w := by
  intro w hw
  simp only [parts, List.mem_cons, List.mem_map] at hw
  rcases hw with rfl | rfl | ⟨k, -, rfl⟩ <;> exact dot_not_mem_part (by decide) _

/-- Separators in front of parts, and one at the end, are separators behind
    parts, and one at the front. -/
theorem flatMap_separator {α β : Type} (f : α → List β) (separator : β) (l : List α) :
    l.flatMap (fun x => separator :: f x) ++ [separator] =
      separator :: l.flatMap fun x => f x ++ [separator] := by
  induction l with
  | nil => rfl
  | cons x l ih =>
    rw [List.flatMap_cons, List.flatMap_cons, List.append_assoc, ih]
    simp

theorem toList_path (p : Place) (label : String) :
    (p.path ++ "." ++ label).toList = p.parts.flatMap (· ++ ['.']) ++ label.toList := by
  have hchildren : (String.join (p.children.map fun k => ".children[" ++ toString k ++ "]")).toList
      = p.children.flatMap fun k => '.' :: part "children" k := by
    rw [String.toList_join, List.flatMap_map]
    simp [part]
  have hshift := flatMap_separator (part "children") '.' p.children
  calc (p.path ++ "." ++ label).toList
    _ = part "pages" p.page ++ '.' :: part "components" p.component ++
        (p.children.flatMap (fun k => '.' :: part "children" k) ++ ['.']) ++ label.toList := by
      rw [← hchildren]
      simp [path, pagePath, part]
    _ = p.parts.flatMap (· ++ ['.']) ++ label.toList := by
      rw [hshift]
      simp [parts, List.flatMap_map]

/-- **A written path is read as the place and the field it was written for.** -/
theorem read_path (p : Place) {label : String} (h : '.' ∉ label.toList) :
    read (p.path ++ "." ++ label) = some (p, label) := by
  have hchildren : (p.children.map (part "children")).mapM (position? "children") =
      some p.children := by
    induction p.children with
    | nil => rfl
    | cons k ks ih => simp [position?_part, ih]
  rw [read, toList_path, Path.split_flatMap h p.dot_not_mem_parts]
  simp [parts, ofParts, position?_part, hchildren]

example : read "pages[10].components[1].children[2].id" = some (⟨10, 1, [2]⟩, "id") := by decide

end Place

end Pagewright
