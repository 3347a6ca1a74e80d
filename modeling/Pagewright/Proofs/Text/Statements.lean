/-
  The statements of TypeScript sources.

  Tokens are grouped by brackets into trees (`group`), and trees are read as the
  statements of a module: imports, exports, decorators, classes and constants.

  * `group_treeTokens`: the tokens of trees are grouped into these trees again;
  * `read_eq_some`: so a source is known by the trees it is written for.
-/
import Pagewright.Proofs.Text.Tokens

namespace Pagewright.Script

/-! ## Trees -/

/-- A token, or what stands between two brackets. -/
inductive Tree where
  | word (s : String)
  | text (s : String)
  | mark (c : Char)
  | group (b : Bracket) (ts : List Tree)

mutual

/-- The tokens of a tree. -/
def Tree.tokens : Tree → List Token
  | .word s => [.word s]
  | .text s => [.text s]
  | .mark c => [.mark c]
  | .group b ts => .opens b :: (treeTokens ts ++ [.closes b])

/-- The tokens of trees, one after the other. -/
def treeTokens : List Tree → List Token
  | [] => []
  | t :: ts => t.tokens ++ treeTokens ts

end

/-- Groups tokens by brackets.  `ts` are the trees read since the last bracket was
    opened, and `outer` the brackets that are open, the last one first, each with
    the trees in front of it. -/
def group (ts : List Tree) (outer : List (Bracket × List Tree)) : List Token → Option (List Tree)
  | [] => if outer.isEmpty then some ts else none
  | .word s :: rest => group (ts ++ [.word s]) outer rest
  | .text s :: rest => group (ts ++ [.text s]) outer rest
  | .mark c :: rest => group (ts ++ [.mark c]) outer rest
  | .opens b :: rest => group [] ((b, ts) :: outer) rest
  | .closes b :: rest =>
    match outer with
    | (b', before) :: outer =>
      if b' = b then group (before ++ [.group b ts]) outer rest else none
    | [] => none
  | .fault :: _ => none

mutual

theorem group_tree (t : Tree) (ts : List Tree) (outer : List (Bracket × List Tree))
    (rest : List Token) :
    group ts outer (t.tokens ++ rest) = group (ts ++ [t]) outer rest := by
  cases t with
  | word s | text s | mark c => rfl
  | group b us =>
    have hinner := group_trees us [] ((b, ts) :: outer) (.closes b :: rest)
    rw [Tree.tokens, List.cons_append, group, List.append_assoc, List.singleton_append, hinner,
      group, if_pos rfl]
    rfl

theorem group_trees (us ts : List Tree) (outer : List (Bracket × List Tree)) (rest : List Token) :
    group ts outer (treeTokens us ++ rest) = group (ts ++ us) outer rest := by
  cases us with
  | nil => simp [treeTokens]
  | cons u us =>
    rw [treeTokens, List.append_assoc, group_tree u, group_trees us, List.append_assoc]
    rfl

end

/-- The tokens of trees are grouped into these trees again. -/
theorem group_treeTokens (ts : List Tree) : group [] [] (treeTokens ts) = some ts := by
  have hgroup := group_trees ts [] [] []
  rwa [List.append_nil] at hgroup

theorem treeTokens_append (ts us : List Tree) :
    treeTokens (ts ++ us) = treeTokens ts ++ treeTokens us := by
  induction ts with
  | nil => rfl
  | cons t ts ih => rw [List.cons_append, treeTokens, treeTokens, ih, List.append_assoc]

/-! ## Values -/

/-- What stands between commas; there may be one at the end. -/
def items : List Tree → Option (List Tree)
  | [] => some []
  | [t] => some [t]
  | t :: .mark ',' :: ts => (items ts).map (t :: ·)
  | _ => none

/-- The words of a list. -/
def words : List Tree → Option (List String)
  | [] => some []
  | .word s :: ts => (words ts).map (s :: ·)
  | _ => none

/-- The names and the values of an object. -/
def fields : List Tree → Option (List (String × Tree))
  | [] => some []
  | [.word k, .mark ':', t] => some [(k, t)]
  | .word k :: .mark ':' :: t :: .mark ',' :: ts => (fields ts).map ((k, t) :: ·)
  | _ => none

/-- Trees with commas between them. -/
def commas : List Tree → List Tree
  | [] => []
  | [t] => [t]
  | t :: ts => t :: .mark ',' :: commas ts

/-- The trees of an object, between its brackets. -/
def fieldTrees : List (String × Tree) → List Tree
  | [] => []
  | [(k, t)] => [.word k, .mark ':', t]
  | (k, t) :: fs => .word k :: .mark ':' :: t :: .mark ',' :: fieldTrees fs

theorem treeTokens_commas (ts : List Tree) :
    treeTokens (commas ts) = [.mark ','].intercalate (ts.map Tree.tokens) := by
  induction ts with
  | nil => rfl
  | cons t ts ih =>
    cases ts with
    | nil => simp [commas, treeTokens]
    | cons u us =>
      rw [commas, treeTokens, treeTokens, ih]
      · simp [Tree.tokens]
      · simp

theorem items_commas (ts : List Tree) : items (commas ts) = some ts := by
  induction ts with
  | nil => rfl
  | cons t ts ih =>
    cases ts with
    | nil => rfl
    | cons u us => simp [commas, items, ih]

theorem words_map (ws : List String) : words (ws.map .word) = some ws := by
  induction ws with
  | nil => rfl
  | cons w ws ih => simp [words, ih]

theorem fields_fieldTrees (fs : List (String × Tree)) : fields (fieldTrees fs) = some fs := by
  induction fs with
  | nil => rfl
  | cons f fs ih =>
    cases fs with
    | nil => rfl
    | cons g gs => simp [fieldTrees, fields, ih]

/-! ## Statements -/

/-- The statements of a module. -/
inductive Statement where
  /-- `import { names } from 'file';` -/
  | importNames (names : List String) (file : String)
  /-- `export * from 'file';` -/
  | exportAll (file : String)
  /-- `@name({ fields })`, which belongs to the class behind it -/
  | decorator (name : String) (fields : List (String × Tree))
  /-- `export class name { members }` -/
  | exportClass (name : String) (members : List Tree)
  /-- `export const name: type = [ values ];` -/
  | exportList (name type : String) (values : List Tree)

/-- Reads trees as statements. -/
def statements : List Tree → Option (List Statement)
  | [] => some []
  | .word "import" :: .group .curly ts :: .word "from" :: .text file :: .mark ';' :: rest => do
    return .importNames (← words (← items ts)) file :: (← statements rest)
  | .word "export" :: .mark '*' :: .word "from" :: .text file :: .mark ';' :: rest => do
    return .exportAll file :: (← statements rest)
  | .mark '@' :: .word name :: .group .round [.group .curly ts] :: rest => do
    return .decorator name (← fields ts) :: (← statements rest)
  | .word "export" :: .word "class" :: .word name :: .group .curly members :: rest => do
    return .exportClass name members :: (← statements rest)
  | .word "export" :: .word "const" :: .word name :: .mark ':' :: .word type :: .mark '=' ::
      .group .square ts :: .mark ';' :: rest => do
    return .exportList name type (← items ts) :: (← statements rest)
  | _ => none

/-- The trees of a statement. -/
def Statement.trees : Statement → List Tree
  | importNames names file =>
    [.word "import", .group .curly (commas (names.map .word)), .word "from", .text file, .mark ';']
  | exportAll file => [.word "export", .mark '*', .word "from", .text file, .mark ';']
  | decorator name fs => [.mark '@', .word name, .group .round [.group .curly (fieldTrees fs)]]
  | exportClass name members =>
    [.word "export", .word "class", .word name, .group .curly members]
  | exportList name type values =>
    [.word "export", .word "const", .word name, .mark ':', .word type, .mark '=',
      .group .square (commas values), .mark ';']

theorem statements_trees_append (s : Statement) (ts : List Tree) :
    statements (s.trees ++ ts) = (statements ts).map (s :: ·) := by
  rw [Option.map_eq_bind]
  cases s with
  | importNames names file =>
    simp only [Statement.trees, statements, List.cons_append, List.nil_append, items_commas,
      words_map, Option.bind_eq_bind, Option.bind_some, Option.pure_def]
    rfl
  | exportAll file => rfl
  | decorator name fs =>
    simp only [Statement.trees, statements, List.cons_append, List.nil_append, fields_fieldTrees,
      Option.bind_eq_bind, Option.bind_some, Option.pure_def]
    rfl
  | exportClass name members => rfl
  | exportList name type values =>
    simp only [Statement.trees, statements, List.cons_append, List.nil_append, items_commas,
      Option.bind_eq_bind, Option.bind_some, Option.pure_def]
    rfl

/-- The statements of a source. -/
def read (s : String) : Option (List Statement) := (group [] [] (tokens s)).bind statements

/-- The tokens of statements. -/
def statementTokens (ss : List Statement) : List Token := treeTokens (ss.flatMap Statement.trees)

theorem statementTokens_append (ss ts : List Statement) :
    statementTokens (ss ++ ts) = statementTokens ss ++ statementTokens ts := by
  rw [statementTokens, List.flatMap_append, treeTokens_append, statementTokens, statementTokens]

theorem flatMap_statementTokens {α : Type} (f : α → Statement) (xs : List α) :
    xs.flatMap (fun x => statementTokens [f x]) = statementTokens (xs.map f) := by
  induction xs with
  | nil => rfl
  | cons x xs ih =>
    rw [List.flatMap_cons, ih, ← statementTokens_append]
    rfl

theorem statements_trees (ss : List Statement) :
    statements (ss.flatMap Statement.trees) = some ss := by
  induction ss with
  | nil => rfl
  | cons s ss ih =>
    rw [List.flatMap_cons, statements_trees_append, ih]
    rfl

/-- **A source that is read as the tokens of statements has these statements.** -/
theorem read_eq_some {s : String} {ss : List Statement} (h : Reads s (statementTokens ss)) :
    read s = some ss := by
  rw [read, h.tokens, statementTokens, group_treeTokens, Option.bind_some, statements_trees]

end Pagewright.Script
