/-
  The head of a page class: what stands in front of its members.

  The members hold what the pages say, so that a source is only read up to the
  opening bracket of its class.

  * `readClass_renderClass`: the class of a page is read with its name, its element
    and its files.
-/
import Pagewright.Page.Class
import Pagewright.Proofs.Page.Names
import Pagewright.Proofs.Text.Statements

namespace Pagewright

open Script

/-! ## Reading -/

/-- What is said of a class of components. -/
structure ClassHead where
  name : String
  selector : String
  templateUrl : String
  styleUrls : List String
  deriving DecidableEq, Repr

/-- A text as a value. -/
def Script.Tree.text? : Tree → Option String
  | .text s => some s
  | _ => none

/-- A list of texts as a value. -/
def Script.Tree.texts? : Tree → Option (List String)
  | .group .square ts => do (← items ts).mapM Tree.text?
  | _ => none

/-- The fields of a decorator. -/
def Script.Statement.fieldsOf? (name : String) : Statement → Option (List (String × Tree))
  | .decorator name' fs => if name' = name then some fs else none
  | _ => none

/-- Whether a token begins what a source exports. -/
def Script.Token.isExport (t : Token) : Bool := t == .word "export"

/-- Reads a source up to the members of the class that it exports first. -/
def readClass (s : String) : Option ClassHead := do
  let ss ← (group [] [] ((tokens s).takeWhile (!·.isExport))).bind statements
  let fs ← ss.findSome? (Statement.fieldsOf? "Component")
  match (tokens s).dropWhile (!·.isExport) with
  | .word "export" :: .word "class" :: .word name :: .opens .curly :: _ =>
    return {
      name
      selector := ← (← fs.lookup "selector").text?
      templateUrl := ← (← fs.lookup "templateUrl").text?
      styleUrls := ← (← fs.lookup "styleUrls").texts? }
  | _ => none

/-! ## Lines -/

namespace Page

variable {page : String}

/-- The head of the class of a page. -/
def classHead (page : String) : ClassHead where
  name := className page
  selector := selector page
  templateUrl := "./" ++ templateFile page
  styleUrls := ["./" ++ stylesheetFile page]

/-- The statements in front of the class of a page. -/
def headStatements (page : String) : List Statement :=
  [.importNames ["Component"] "@angular/core",
    .decorator "Component"
      [("selector", .text (selector page)), ("templateUrl", .text ("./" ++ templateFile page)),
        ("styleUrls", .group .square [.text ("./" ++ stylesheetFile page)])]]

/-- The lines in front of the members of the class of a page. -/
theorem reads_head (h : IsPageName page) :
    Reads
      (String.join
        (["import \x7b Component \x7d from '@angular/core';",
          "",
          "@Component(\x7b",
          "  selector: '" ++ selector page ++ "',",
          "  templateUrl: './" ++ templateFile page ++ "',",
          "  styleUrls: ['./" ++ stylesheetFile page ++ "']",
          "\x7d)",
          "export class " ++ className page ++ " \x7b"].map (· ++ "\n")))
      (statementTokens (headStatements page) ++
        [.word "export", .word "class", .word (className page), .opens .curly]) := by
  have hselector : IsPlain (selector page) :=
    (by decide : IsPlain "app-").append h.kebab.isPlain
  have htemplate : IsPlain ("./" ++ templateFile page) :=
    (by decide : IsPlain "./").append (h.isPlain.append (by decide))
  have hstyles : IsPlain ("./" ++ stylesheetFile page) :=
    (by decide : IsPlain "./").append (h.isPlain.append (by decide))
  have hcomma : Reads "," [.mark ','] := rfl
  have hbracket : Reads "]" [.closes .square] := rfl
  have hselectorKey : Reads "  selector: " [.word "selector", .mark ':'] := rfl
  have htemplateKey : Reads "  templateUrl: " [.word "templateUrl", .mark ':'] := rfl
  have hstylesKey : Reads "  styleUrls: [" [.word "styleUrls", .mark ':', .opens .square] := rfl
  have hselectorLine := hselectorKey.enclosed hselector hcomma
  have htemplateLine := htemplateKey.enclosed htemplate hcomma
  have hstylesLine := hstylesKey.enclosed hstyles hbracket
  have hdirectory : ∀ s t : String, s ++ ("./" ++ t) = s ++ "./" ++ t := fun _ _ =>
    String.append_assoc.symm
  rw [hdirectory] at htemplateLine hstylesLine
  have hclass : Reads ("export class " ++ className page ++ " \x7b")
      [.word "export", .word "class", .word (className page), .opens .curly] := by
    have hopen : Reads "export class " [.word "export", .word "class"] := rfl
    have hbody : Reads " \x7b" [.opens .curly] := rfl
    rw [String.append_assoc]
    exact hopen.append (h.className.isWord.reads _ _ ⟨' ', _, rfl, by decide⟩ hbody)
  have htokens : statementTokens (headStatements page) ++
      [.word "export", .word "class", .word (className page), .opens .curly] =
      [[.word "import", .opens .curly, .word "Component", .closes .curly, .word "from",
          .text "@angular/core", .mark ';'],
        [],
        [.mark '@', .word "Component", .opens .round, .opens .curly],
        [.word "selector", .mark ':', .text (selector page), .mark ','],
        [.word "templateUrl", .mark ':', .text ("./" ++ templateFile page), .mark ','],
        [.word "styleUrls", .mark ':', .opens .square, .text ("./" ++ stylesheetFile page),
          .closes .square],
        [.closes .curly, .closes .round],
        [.word "export", .word "class", .word (className page), .opens .curly]].flatten := by
    simp [headStatements, statementTokens, Statement.trees, treeTokens, Tree.tokens, fieldTrees,
      commas]
  rw [htokens]
  exact Reads.lines <| .cons (Reads.apart rfl) <| .cons (Reads.apart rfl) <|
    .cons (Reads.apart rfl) <| .cons hselectorLine.apart <| .cons htemplateLine.apart <|
    .cons hstylesLine.apart <| .cons (Reads.apart rfl) <| .cons hclass.apart .nil

/-- No statement in front of the class exports anything. -/
theorem isExport_headStatements (page : String) :
    ∀ t ∈ statementTokens (headStatements page), !t.isExport := by
  simp [headStatements, statementTokens, Statement.trees, treeTokens, Tree.tokens, fieldTrees,
    commas, Token.isExport]

/-- **The head of the class of a page**, whatever its members are. -/
theorem readClass_renderClass (h : IsPageName page) (fields : List StateField)
    (handlers : List Handler) :
    readClass (renderClass page fields handlers) = some (classHead page) := by
  obtain ⟨rest, htokens⟩ : ∃ rest, tokens (renderClass page fields handlers) =
      statementTokens (headStatements page) ++
        ([.word "export", .word "class", .word (className page), .opens .curly] ++ rest) := by
    refine ⟨tokens (String.join
      ((classMembers fields handlers ++ ["\x7d"]).map (· ++ "\n"))), ?_⟩
    rw [renderClass, List.append_assoc, List.map_append, String.join_append,
      (reads_head h).tokens_append, List.append_assoc]
  have hexport : Token.isExport (.word "export") := by decide
  have hfront : (tokens (renderClass page fields handlers)).takeWhile (!·.isExport) =
      statementTokens (headStatements page) := by
    rw [htokens, List.takeWhile_append_of_pos (isExport_headStatements page), List.cons_append,
      List.takeWhile_cons_of_neg (by simp [hexport]), List.append_nil]
  have hback : (tokens (renderClass page fields handlers)).dropWhile (!·.isExport) =
      .word "export" :: .word "class" :: .word (className page) :: .opens .curly :: rest := by
    rw [htokens, List.dropWhile_append_of_pos (isExport_headStatements page), List.cons_append,
      List.dropWhile_cons_of_neg (by simp [hexport])]
    rfl
  have hgroup : (group [] [] (statementTokens (headStatements page))).bind statements =
      some (headStatements page) := by
    rw [statementTokens, group_treeTokens, Option.bind_some, statements_trees]
  rw [readClass, hfront, hback, hgroup]
  rfl

end Page

end Pagewright
