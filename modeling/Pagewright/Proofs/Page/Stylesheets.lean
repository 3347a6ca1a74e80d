/-
  The stylesheet of a page, read back.

  Ids, properties and values are free texts, but as long as none of them breaks a line,
  and no property has a colon in it, the stylesheet says what it was made from.

  * `Stylesheet.read`: the theme and the rules of a stylesheet, whose blocks are parted by
    blank lines;
  * `blocksOf_renderStyles`: the blocks of a stylesheet are the line of the theme and the
    rules of the components that have styles, in reading order;
  * `read_renderStyles`: they are read as the rules that they were written for;
  * `stylesheet_spec` puts this together with where the styles come from.
-/
import Pagewright.Proofs.Page.Styles
import Pagewright.Proofs.Text.Blocks
import Pagewright.Proofs.Text.Casing
import Pagewright.Stylesheet

namespace Pagewright

open Text Json

/-! ## Reading a stylesheet -/

namespace Stylesheet

/-- A rule: the name of what it is for, and its declarations in order. -/
structure Rule where
  name : String
  declarations : List (String × String)
  deriving DecidableEq, Repr

/-- Reads a line as a property, which goes up to the first colon, and its value. -/
def readDeclaration (line : String) : Option (String × String) := do
  let inner ← between? "  " ";" line
  let property := String.ofList (inner.toList.takeWhile (· ≠ ':'))
  let value ← between? (property ++ ": ") "" inner
  return (property, value)

/-- Reads the lines of a rule. -/
def readRule : List String → Option Rule
  | [] => none
  | head :: body => do
    let name ← between? "." " \x7b" head
    let declarations ← body.dropLast.mapM readDeclaration
    if body.getLast? = some "\x7d" then some ⟨name, declarations⟩ else none

/-- Reads a stylesheet: a block of one line for the theme, and a block for each rule. -/
def read (source : String) : Option (String × List Rule) :=
  match blocksOf source with
  | [first] :: blocks => do
    let theme ← between? "@import '" "';" first
    let rules ← blocks.mapM readRule
    return (theme, rules)
  | _ => none

namespace Rule

/-- The lines of a rule. -/
def lines (r : Rule) : List String :=
  ["." ++ r.name ++ " \x7b"] ++
    r.declarations.map (fun p => "  " ++ p.1 ++ ": " ++ p.2 ++ ";") ++ ["\x7d"]

/-- A rule that can be read line by line. -/
structure Plain (r : Rule) : Prop where
  name : '\n' ∉ r.name.toList
  property : ∀ p ∈ r.declarations, '\n' ∉ p.1.toList ∧ ':' ∉ p.1.toList
  value : ∀ p ∈ r.declarations, '\n' ∉ p.2.toList

variable {r : Rule}

theorem lines_ne_nil (r : Rule) : r.lines ≠ [] := by simp [lines]

theorem blank_not_mem_lines (r : Rule) : "" ∉ r.lines := by
  simp [lines, ← String.toList_inj]

theorem Plain.newline_notMem (h : r.Plain) : ∀ l ∈ r.lines, '\n' ∉ l.toList := by
  intro l hl
  simp only [lines, List.mem_append, List.mem_singleton, List.mem_map] at hl
  rcases hl with (rfl | ⟨p, hp, rfl⟩) | rfl
  · simp [h.name]
  · simp [(h.property p hp).1, h.value p hp]
  · decide

end Rule

theorem readDeclaration_line {property value : String} (h : ':' ∉ property.toList) :
    readDeclaration ("  " ++ property ++ ": " ++ value ++ ";") = some (property, value) := by
  have hinner : between? "  " ";" ("  " ++ property ++ ": " ++ value ++ ";") =
      some (property ++ ": " ++ value) := by
    rw [between?_eq_some_iff]
    simp only [String.append_assoc]
  have hproperty : (property ++ ": " ++ value).toList.takeWhile (· ≠ ':') = property.toList := by
    have hcolon : (property ++ ": " ++ value).toList =
        property.toList ++ ':' :: ' ' :: value.toList := by simp
    rw [hcolon, List.takeWhile_append_of_pos, List.takeWhile_cons_of_neg (by simp),
      List.append_nil]
    intro c hc
    simpa using ne_of_mem_of_not_mem hc h
  have hvalue : between? (property ++ ": ") "" (property ++ ": " ++ value) = some value := by
    rw [between?_eq_some_iff, String.append_empty]
  simp only [readDeclaration, hinner, Option.bind_eq_bind, Option.bind_some, hproperty,
    String.ofList_toList, hvalue]
  rfl

/-- The elements of a list are read one by one. -/
theorem mapM_map_eq_some {α β : Type} {write : α → β} {read : β → Option α} {l : List α}
    (h : ∀ a ∈ l, read (write a) = some a) : (l.map write).mapM read = some l := by
  induction l with
  | nil => rfl
  | cons a l ih =>
    obtain ⟨ha, hl⟩ := List.forall_mem_cons.1 h
    rw [List.map_cons, List.mapM_cons, ha, ih hl]
    rfl

theorem readRule_lines {r : Rule} (h : r.Plain) : readRule r.lines = some r := by
  have hname : between? "." " \x7b" ("." ++ r.name ++ " \x7b") = some r.name := by
    rw [between?_eq_some_iff]
  have hdeclarations : (r.declarations.map fun p => "  " ++ p.1 ++ ": " ++ p.2 ++ ";").mapM
      readDeclaration = some r.declarations :=
    mapM_map_eq_some fun p hp => readDeclaration_line (h.property p hp).2
  simp only [Rule.lines, List.cons_append, List.nil_append, readRule, hname,
    List.dropLast_concat, List.getLast?_concat, hdeclarations, if_true]
  rfl

end Stylesheet

/-! ## The stylesheet of components -/

/-- The rule that a component should have: its id, and its styles in order with their
    properties in kebab case. -/
def Attributes.styleRule? (a : Attributes) : Option Stylesheet.Rule :=
  if a.styles.isEmpty then none
  else some ⟨a.id, a.styles.entries.map fun p => (kebab p.1, p.2)⟩

/-- A component whose texts in a stylesheet do not break its lines, nor have its properties
    a colon. -/
structure Attributes.OnStyleLines (a : Attributes) : Prop where
  id : '\n' ∉ a.id.toList
  property : ∀ p ∈ a.styles.entries, '\n' ∉ p.1.toList ∧ ':' ∉ p.1.toList
  value : ∀ p ∈ a.styles.entries, '\n' ∉ p.2.toList

instance (a : Attributes) : Decidable a.OnStyleLines :=
  decidable_of_iff ('\n' ∉ a.id.toList ∧
      (∀ p ∈ a.styles.entries, '\n' ∉ p.1.toList ∧ ':' ∉ p.1.toList) ∧
      ∀ p ∈ a.styles.entries, '\n' ∉ p.2.toList)
    ⟨fun h => ⟨h.1, h.2.1, h.2.2⟩, fun h => ⟨h.id, h.property, h.value⟩⟩

namespace Attributes

variable {a : Attributes} {r : Stylesheet.Rule}

/-- What is emitted for a component are the lines of its rule. -/
theorem rule?_eq_map (a : Attributes) : a.rule? = a.styleRule?.map fun r => lines r.lines := by
  unfold rule? styleRule?
  split_ifs
  · rfl
  · simp [Stylesheet.Rule.lines, declaration, List.map_map, Function.comp_def]

theorem OnStyleLines.plain (h : a.OnStyleLines) (hr : a.styleRule? = some r) : r.Plain := by
  unfold styleRule? at hr
  split_ifs at hr
  obtain rfl := Option.some.inj hr
  refine ⟨h.id, List.forall_mem_map.2 fun p hp => ?_, List.forall_mem_map.2 h.value⟩
  obtain ⟨hnewline, hcolon⟩ := h.property p hp
  exact ⟨fun hc => hnewline (mem_kebab (by decide) (by decide) hc),
    fun hc => hcolon (mem_kebab (by decide) (by decide) hc)⟩

end Attributes

namespace Component

/-- The rules that components should have, those of a tree before those of the next, and
    that of a component before those of its children. -/
def styleRules (cs : List Component) : List Stylesheet.Rule :=
  (preorderAll cs).filterMap Attributes.styleRule?

variable {theme : String} {cs : List Component}

theorem plain_of_mem_styleRules (h : ∀ a ∈ preorderAll cs, a.OnStyleLines) :
    ∀ r ∈ styleRules cs, r.Plain := by
  intro r hr
  obtain ⟨a, ha, hrule⟩ := List.mem_filterMap.1 hr
  exact (h a ha).plain hrule

/-- The blocks of a stylesheet are the line of the theme and the rules, one each. -/
theorem blocksOf_renderStyles (htheme : '\n' ∉ theme.toList)
    (h : ∀ a ∈ preorderAll cs, a.OnStyleLines) :
    blocksOf (renderStyles theme cs) =
      [themeImportLine theme] :: (styleRules cs).map Stylesheet.Rule.lines := by
  have hrules : (preorderAll cs).filterMap Attributes.rule? =
      (styleRules cs).map fun r => lines r.lines := by
    rw [styleRules, List.map_filterMap]
    exact List.filterMap_congr fun a _ => a.rule?_eq_map
  have himport : linesOf (themeImportLine theme) = [themeImportLine theme] := by
    refine linesOf_of_not_mem ?_
    simp [themeImportLine, htheme]
  have hlines : ∀ r ∈ styleRules cs, linesOf (lines r.lines) = r.lines := fun r hr =>
    linesOf_lines r.lines_ne_nil (plain_of_mem_styleRules h r hr).newline_notMem
  rw [renderStyles, hrules, blocksOf_intercalate (List.cons_ne_nil _ _), List.map_cons, himport,
    List.map_map]
  · exact congrArg _ (List.map_congr_left hlines)
  refine List.forall_mem_cons.2 ⟨?_, List.forall_mem_map.2 fun r hr => ?_⟩
  · rw [himport]
    simp [themeImportLine, ← String.toList_inj]
  · rw [hlines r hr]
    exact r.blank_not_mem_lines

/-- **A stylesheet is read as the rules that it was made from.** -/
theorem read_renderStyles (htheme : '\n' ∉ theme.toList)
    (h : ∀ a ∈ preorderAll cs, a.OnStyleLines) :
    Stylesheet.read (renderStyles theme cs) = some (theme, styleRules cs) := by
  have himport : between? "@import '" "';" (themeImportLine theme) = some theme := by
    rw [between?_eq_some_iff, themeImportLine]
  have hrules : ((styleRules cs).map Stylesheet.Rule.lines).mapM Stylesheet.readRule =
      some (styleRules cs) :=
    Stylesheet.mapM_map_eq_some fun r hr =>
      Stylesheet.readRule_lines (plain_of_mem_styleRules h r hr)
  simp only [Stylesheet.read, blocksOf_renderStyles htheme h, himport, hrules]
  rfl

/-- **The stylesheet gives the styled components back.**  Its blocks are the import of the
    theme and one rule for each component with styles, in reading order; each is read as
    the id of its component and the styles in order, with the properties in kebab case.
    And whether styles are given one by one or read from an object, at whatever depth, what
    there is of them are the distinct properties in the order in which they are first
    given, each with the value that it is given last. -/
theorem stylesheet_spec :
    (∀ theme cs, '\n' ∉ theme.toList → (∀ a ∈ preorderAll cs, a.OnStyleLines) →
      blocksOf (renderStyles theme cs) =
        [themeImportLine theme] :: (styleRules cs).map Stylesheet.Rule.lines ∧
      Stylesheet.read (renderStyles theme cs) = some (theme, styleRules cs)) ∧
    (∀ ps c, (withStyles ps c).attrs.styles.entries =
        Styles.lastGiven (c.attrs.styles.entries ++ ps) ∧
      ∃ styles, withStyles ps c = c.modify fun a => { a with styles }) ∧
    (∀ j s c, Document j s → Component.ofJson s = .ok c →
      ∀ k d, Component.Within j c k d → d.HasLastGiven k) ∧
    (∀ js s cs, Document (.list js) s → Component.listOfJson s = .ok cs →
      ∀ k d, Component.WithinList js cs k d → d.HasLastGiven k) ∧
    (∀ js s ps, Document (.list js) s → Page.listOfJson s = .ok ps →
      ∀ k d, Page.Within js ps k d → d.HasLastGiven k) := by
  refine ⟨fun theme cs htheme h => ⟨blocksOf_renderStyles htheme h, read_renderStyles htheme h⟩,
    fun ps c => ?_, fun j s c hs hc k d hwithin => ?_, fun js s cs hs hcs k d hwithin => ?_,
    fun js s ps hs hps k d hwithin => ?_⟩
  · cases c
    rw [withStyles_eq]
    exact ⟨Styles.entries_foldl_insert_behind _ ps, _, rfl⟩
  · obtain ⟨_, hd⟩ := hwithin.decode (((interprets_reader maxDepth).document hs c).1 hc)
    exact hasLastGiven hd
  · obtain ⟨_, hd⟩ := hwithin.decode (((interprets_listReader maxDepth).document hs cs).1 hcs)
    exact hasLastGiven hd
  · obtain ⟨_, hd⟩ := hwithin.decode ((Page.interprets_pages.document hs ps).1 hps)
    exact hasLastGiven hd

/-! ### A card between styled components -/

/-- A component with styles around one without any, and in it one that is given a style
    twice. -/
def nestedPanel : Component :=
  let deep := (ofKind .text "deep").withStyles
    [("fontSize", "1px"), ("color", "red"), ("fontSize", "calc(1px : 2)")]
  ((ofKind .container "outer box").withStyles [("padding", "8px")]).withChild
    ((ofKind .card "inner").withChild deep)

/-- A page that holds the component that is given a style twice. -/
def styledPage : Value :=
  .object [(spelled "pageName", .text (spelled "home")),
    (spelled "components", .list [.object styledText])]

/-- The style that is given twice has its first place and its last value, in the stylesheet
    and when it is read. -/
theorem stylesheet_spec_nestedPanel :
    Stylesheet.read (renderStyles "theme.scss" [nestedPanel]) =
      some ("theme.scss", [⟨"outer box", [("padding", "8px")]⟩,
        ⟨"deep", [("font-size", "calc(1px : 2)"), ("color", "red")]⟩]) ∧
    ∃ p d, Page.listOfJson (Value.list [styledPage]).compact = .ok [p] ∧ p.components = [d] ∧
      d.attrs.styles.entries = Styles.lastGiven [("x", "1"), ("y", "2"), ("x", "3")] := by
  constructor
  · have hread := (stylesheet_spec.1 "theme.scss" [nestedPanel] (by decide) (by decide +kernel)).2
    have hrules : styleRules [nestedPanel] = [⟨"outer box", [("padding", "8px")]⟩,
        ⟨"deep", [("font-size", "calc(1px : 2)"), ("color", "red")]⟩] := by decide +kernel
    rw [hread, hrules]
  · let d : Component :=
      .node { kind := .text, id := "b", styles := ⟨[("x", "3"), ("y", "2")], by decide⟩ } []
    have hpages : Page.listOfJson (Value.list [styledPage]).compact = .ok [⟨"home", [d]⟩] := rfl
    have hwithin : Page.Within [styledPage] [⟨"home", [d]⟩] (.object styledText) d :=
      ⟨0, styledPage, _, [.object styledText], rfl, rfl, .member
        (List.mem_cons_of_mem _ List.mem_cons_self) rfl, 0, _, d, rfl, rfl, .self _ d⟩
    have hlast := stylesheet_spec.2.2.2.2 [styledPage] _ _ (document_compact _) hpages _ d hwithin
    have hstyles : ComponentField.styles.ValueOf (.object styledText) _ :=
      .member (List.mem_cons_of_mem _ (List.mem_cons_of_mem _ List.mem_cons_self)) rfl
    obtain ⟨ps, hps, hentries⟩ := hlast _ hstyles
    obtain rfl : [("x", "1"), ("y", "2"), ("x", "3")] = ps := Option.some.inj hps
    exact ⟨_, d, hpages, rfl, hentries⟩

end Component

end Pagewright
