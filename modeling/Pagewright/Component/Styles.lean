/-
  The style properties of a component, in the order in which they were first
  given.

  * `insert` gives a property a value: a new property goes to the end, a known
    one keeps its place (`keys_insert`) and takes the new value
    (`value?_insert`);
  * no property occurs twice, which the type itself says.
-/

namespace Pagewright

/-- Puts `(k, v)` at the end of a list of pairs, or in the place of the pair
    that has the key `k` already. -/
def insertPair (k v : String) : List (String × String) → List (String × String)
  | [] => [(k, v)]
  | p :: ps => if p.1 = k then (k, v) :: ps else p :: insertPair k v ps

theorem keys_insertPair (k v : String) (ps : List (String × String)) :
    (insertPair k v ps).map (·.1) =
      if k ∈ ps.map (·.1) then ps.map (·.1) else ps.map (·.1) ++ [k] := by
  induction ps with
  | nil => simp [insertPair]
  | cons p ps ih =>
    by_cases h : p.1 = k
    · simp [insertPair, h]
    · simp only [insertPair, if_neg h, List.map_cons, ih, List.mem_cons, Ne.symm h, false_or]
      split <;> simp

/-- Distinct properties with their values. -/
structure Styles where
  entries : List (String × String) := []
  nodup : (entries.map (·.1)).Nodup := by simp
  deriving DecidableEq, Repr

namespace Styles

/-- No styles. -/
def empty : Styles := {}

/-- Whether no property is given. -/
def isEmpty (s : Styles) : Bool := s.entries.isEmpty

/-- Gives the property `k` the value `v`. -/
def insert (s : Styles) (k v : String) : Styles where
  entries := insertPair k v s.entries
  nodup := by
    rw [keys_insertPair]
    split
    · exact s.nodup
    · rename_i h
      refine List.nodup_append.2 ⟨s.nodup, by simp, fun a ha b hb hab => h ?_⟩
      obtain rfl := List.mem_singleton.1 hb
      exact hab ▸ ha

/-- The value of a property. -/
def value? (s : Styles) (k : String) : Option String := s.entries.lookup k

theorem keys_insert (s : Styles) (k v : String) :
    (s.insert k v).entries.map (·.1) =
      if k ∈ s.entries.map (·.1) then s.entries.map (·.1) else s.entries.map (·.1) ++ [k] :=
  keys_insertPair k v s.entries

theorem value?_insert (s : Styles) (k v j : String) :
    (s.insert k v).value? j = if j = k then some v else s.value? j := by
  have key : ∀ ps : List (String × String),
      (insertPair k v ps).lookup j = if j = k then some v else ps.lookup j := by
    intro ps
    induction ps with
    | nil => by_cases h : j = k <;> simp [insertPair, h]
    | cons p ps ih =>
      obtain ⟨a, b⟩ := p
      by_cases ha : a = k
      · subst ha
        by_cases h : j = a
        · simp [insertPair, h]
        · have hb : (j == a) = false := by simpa using h
          simp [insertPair, List.lookup_cons, h, hb]
      · by_cases h : j = a
        · subst h; simp [insertPair, ha]
        · have hb : (j == a) = false := by simpa using h
          simp [insertPair, List.lookup_cons, ha, hb, ih]
  exact key s.entries

end Styles

end Pagewright
