/-
  The lines of a page class, read back one by one.

  Ids and options are free texts, and reach the class inside of single quotes.  None
  of them breaks a line or ends a literal early, so the members stay where they are.

  * `readProperty` and `readHandler` read the line of a member: its name, its type, and
    the literal up to the closing quote, which must be the last one of the line;
  * `readProperty_line`, `readHandler_line`: the lines of the emitter are read as the
    members that they are written for, but for the carriage returns;
  * `linesOf_renderClass`: the class is its head, one line for each member, and the
    closing bracket;
  * `members_of_lines` puts this together.
-/
import Pagewright.Proofs.Page.ClassHead
import Pagewright.Proofs.Page.Properties
import Pagewright.Proofs.Text.Calls
import Pagewright.Proofs.Text.Lines

namespace Pagewright

open Text

/-! ## Reading a line -/

namespace Script

/-- What is left of a text behind one that it begins with. -/
def behind? (w cs : List Char) : Option (List Char) :=
  if w <+: cs then some (cs.drop w.length) else none

theorem behind?_append (w rest : List Char) : behind? w (w ++ rest) = some rest := by
  rw [behind?, if_pos (List.prefix_append _ _), List.drop_left]

/-- The word that a text begins with, and what is left behind it. -/
def readWord (cs : List Char) : Option (String × List Char) :=
  let word := String.ofList (cs.takeWhile isWordChar)
  if IsWord word then some (word, cs.dropWhile isWordChar) else none

theorem readWord_append {word : String} (h : IsWord word) {c : Char} (hc : ¬isWordChar c)
    (cs : List Char) : readWord (word.toList ++ c :: cs) = some (word, c :: cs) := by
  have hrest : ∀ d ∈ (c :: cs).head?, ¬isWordChar d := by
    rintro d hd
    exact Option.some.inj hd ▸ hc
  obtain ⟨hword, hleft⟩ := h.span_append hrest
  rw [readWord, hword, hleft, String.ofList_toList, if_pos h]

/-- Reads the value of a property up to the end of its line: a flag, or a literal whose
    closing quote is in front of the last character. -/
def readInitial (cs : List Char) : Option Initial :=
  if cs = "true;".toList then some (.flag true)
  else if cs = "false;".toList then some (.flag false)
  else
    match cs with
    | '\x27' :: cs =>
      match Literal.script.scan .plain cs with
      | some (v, [';']) => some (.text (String.ofList v))
      | _ => none
    | _ => none

/-- The declaration of a property. -/
structure Property where
  name : String
  type : String
  initial : Initial
  deriving DecidableEq, Repr

/-- Reads the line of a property. -/
def readProperty (line : String) : Option Property := do
  let cs ← behind? "  ".toList line.toList
  let (name, cs) ← readWord cs
  let cs ← behind? ": ".toList cs
  let (type, cs) ← readWord cs
  let cs ← behind? " = ".toList cs
  let initial ← readInitial cs
  return ⟨name, type, initial⟩

/-- Reads the line of a method without parameters: its name, and what it logs. -/
def readHandler (line : String) : Option (String × String) := do
  let cs ← behind? "  ".toList line.toList
  let (name, cs) ← readWord cs
  let cs ← behind? "()".toList cs
  let logged ← readBody cs
  return (name, logged)

end Script

/-- What a literal keeps of an initial value: a text loses its carriage returns. -/
def Initial.kept : Initial → Initial
  | text s => text (String.ofList (s.toList.filter (· ≠ '\r')))
  | flag b => flag b

namespace Script

theorem readInitial_literal (i : Initial) :
    readInitial (i.literal ++ ";").toList = some i.kept := by
  cases i with
  | flag b => cases b <;> rfl
  | text s =>
    have hliteral : ((Initial.text s).literal ++ ";").toList =
        '\x27' :: (escapeLiteralChars s.toList ++ '\x27' :: [';']) := by
      simp [Initial.literal, literal, escapeLiteral]
    have hflag : ∀ {w : List Char}, w.head? ≠ some '\x27' →
        '\x27' :: (escapeLiteralChars s.toList ++ '\x27' :: [';']) ≠ w := by
      rintro w hw rfl
      exact hw rfl
    rw [hliteral, readInitial, if_neg (hflag (by decide)), if_neg (hflag (by decide))]
    simp only [Literal.scan_escapeLiteralChars]
    rfl

theorem isWord_typeName (i : Initial) : IsWord i.typeName := by
  have hwords : IsWord "string" ∧ IsWord "boolean" := by decide
  cases i with
  | text s => exact hwords.1
  | flag b => exact hwords.2

/-- The line of a property is read as what it declares. -/
theorem readProperty_line {f : StateField} (h : IsWord f.name) :
    readProperty ("  " ++ f.line) = some ⟨f.name, f.initial.typeName, f.initial.kept⟩ := by
  have hline : ("  " ++ f.line).toList =
      "  ".toList ++ (f.name.toList ++ (": ".toList ++ (f.initial.typeName.toList ++
        (" = ".toList ++ (f.initial.literal ++ ";").toList)))) := by
    simp [StateField.line]
  have hname (cs : List Char) : readWord (f.name.toList ++ (": ".toList ++ cs)) =
      some (f.name, ": ".toList ++ cs) := readWord_append h (by decide) (' ' :: cs)
  have htype (cs : List Char) : readWord (f.initial.typeName.toList ++ (" = ".toList ++ cs)) =
      some (f.initial.typeName, " = ".toList ++ cs) :=
    readWord_append (isWord_typeName f.initial) (by decide) ('=' :: ' ' :: cs)
  simp only [readProperty, hline, behind?_append, hname, htype, readInitial_literal,
    Option.bind_eq_bind, Option.bind_some]
  rfl

/-- The line of a handler is read as the method, and as what it logs. -/
theorem readHandler_line {h : Handler} (hmethod : IsWord h.method) :
    readHandler ("  " ++ h.line) = some (h.method, clicked h.nodeId) := by
  have hline : ("  " ++ h.line).toList =
      "  ".toList ++ (h.method.toList ++ ("()".toList ++ handlerBody h.nodeId)) := by
    rw [String.toList_append, toList_line]
    rfl
  have hname (cs : List Char) : readWord (h.method.toList ++ ("()".toList ++ cs)) =
      some (h.method, "()".toList ++ cs) := readWord_append hmethod (by decide) (')' :: cs)
  simp only [readHandler, hline, behind?_append, hname, readBody_handlerBody, Option.bind_eq_bind,
    Option.bind_some]
  rfl

end Script

/-! ## Line feeds -/

namespace Script

/-- What is written inside of quotes breaks no line. -/
theorem newline_notMem_escapeLiteral (s : String) : '\n' ∉ (escapeLiteral s).toList := by
  rw [escapeLiteral, String.toList_ofList, escapeLiteralChars_eq_flatMap, List.mem_flatMap]
  rintro ⟨c, -, hc⟩
  unfold literalChar at hc
  split_ifs at hc with hslash hquote hfeed hreturn
  case neg => exact hfeed (List.mem_singleton.1 hc).symm
  all_goals exact absurd hc (by decide)

theorem IsWord.newline_notMem {s : String} (h : IsWord s) : '\n' ∉ s.toList := fun hmem =>
  absurd (h.2 _ hmem) (by decide)

end Script

open Script

theorem Initial.newline_notMem_literal (i : Initial) : '\n' ∉ i.literal.toList := by
  cases i with
  | text s => simpa [literal, Script.literal] using newline_notMem_escapeLiteral s
  | flag b => cases b <;> exact (by decide)

theorem StateField.newline_notMem_line {f : StateField} (h : IsWord f.name) :
    '\n' ∉ ("  " ++ f.line).toList := by
  have hname := h.newline_notMem
  have htype := (isWord_typeName f.initial).newline_notMem
  have hliteral := f.initial.newline_notMem_literal
  simp [line, hname, htype, hliteral]

theorem Handler.newline_notMem_line {h : Handler} (hmethod : IsWord h.method) :
    '\n' ∉ ("  " ++ h.line).toList := by
  have hname := hmethod.newline_notMem
  have hid := newline_notMem_escapeLiteral h.nodeId
  simp [line, hname, hid]

theorem IsPageName.newline_notMem {name : String} (h : IsPageName name) : '\n' ∉ name.toList := by
  intro hmem
  have hplain := (h.isPlain _ hmem).2.2
  exact absurd hplain (by decide)

theorem IsKebabName.newline_notMem {s : String} (h : IsKebabName s) : '\n' ∉ s.toList := fun hmem =>
  absurd (h.chars _ hmem) (by decide)

/-! ## The class -/

namespace Page

/-- The lines in front of the members of the class of a page. -/
def headLines (page : String) : List String :=
  ["import \x7b Component \x7d from '@angular/core';", "", "@Component(\x7b",
    "  selector: '" ++ selector page ++ "',",
    "  templateUrl: './" ++ templateFile page ++ "',",
    "  styleUrls: ['./" ++ stylesheetFile page ++ "']",
    "\x7d)", "export class " ++ className page ++ " \x7b"]

theorem newline_notMem_headLines {page : String} (h : IsPageName page) :
    ∀ l ∈ headLines page, '\n' ∉ l.toList := by
  have hpage := h.newline_notMem
  have hkebab := h.kebab.newline_notMem
  have hclass := h.className.isWord.newline_notMem
  simp [headLines, selector, templateFile, stylesheetFile, hpage, hkebab, hclass]

/-- The class of a page is its head, its members, and the closing bracket, each on a
    line. -/
theorem linesOf_renderClass {page : String} {fields : List StateField} {handlers : List Handler}
    (hpage : IsPageName page) (hfields : ∀ f ∈ fields, IsWord f.name)
    (hhandlers : ∀ h ∈ handlers, IsWord h.method) :
    linesOf (renderClass page fields handlers) =
      headLines page ++ classMembers fields handlers ++ ["\x7d"] ++ [""] := by
  have hmembers : ∀ l ∈ classMembers fields handlers, '\n' ∉ l.toList := by
    intro l hl
    simp only [classMembers, List.mem_append, List.mem_map] at hl
    rcases hl with (⟨f, hf, rfl⟩ | hblank) | ⟨h, hh, rfl⟩
    · exact StateField.newline_notMem_line (hfields f hf)
    · split_ifs at hblank
      · exact absurd hblank List.not_mem_nil
      · rw [List.mem_singleton.1 hblank]
        decide
    · exact Handler.newline_notMem_line (hhandlers h hh)
  have hlines : ∀ l ∈ headLines page ++ classMembers fields handlers ++ ["\x7d"],
      '\n' ∉ l.toList := by
    intro l hl
    simp only [List.mem_append, List.mem_singleton] at hl
    rcases hl with (hl | hl) | rfl
    · exact newline_notMem_headLines hpage l hl
    · exact hmembers l hl
    · decide
  have hrender : renderClass page fields handlers = String.join
      ((headLines page ++ classMembers fields handlers ++ ["\x7d"]).map (· ++ "\n")) ++ "" := by
    rw [String.append_empty]
    rfl
  rw [hrender, linesOf_join hlines]
  rfl

/-- The name of a property is a word. -/
theorem isWord_name {a : Attributes} {f : StateField} (h : a.stateField? = some f) :
    IsWord f.name := by
  obtain ⟨ending, hending, hname⟩ := Attributes.name_stateField? h
  have hendings : ∀ e ∈ Attributes.nameEndings, e ≠ "" ∧ e.toList.all isIdentifierChar := by decide
  obtain ⟨hne, hchars⟩ := hendings ending hending
  rw [hname]
  refine ⟨by simp [hne], fun c hc => ?_⟩
  simp [isWordChar, Attributes.isIdentifierChar_of_mem_append hchars hc]

/-- **The class of a page parses back to its members**, whatever the ids and the options
    are.  Its lines are the head, one for each property, an empty one if there are both
    properties and methods, one for each method, and the closing bracket.  The line of a
    property is read as its name, its type and its initial value, that of a method as its
    name and what it logs, up to the carriage returns that literals leave out. -/
theorem members_of_lines (p : Page) (theme : String) (hname : IsPageName p.name)
    (hactions : ∀ a ∈ p.nodes, ∀ action ∈ a.action?, IsWord (methodName action)) :
    ∃ properties methods : List String,
      linesOf (p.sources theme).script =
        headLines p.name ++ properties ++
          (if Component.stateFields p.components = [] ∨ Component.handlers p.components = [] then []
            else [""]) ++
          methods ++ ["\x7d", ""] ∧
      readClass (p.sources theme).script = some (classHead p.name) ∧
      properties.map readProperty = (Component.stateFields p.components).map
        (fun f => some ⟨f.name, f.initial.typeName, f.initial.kept⟩) ∧
      methods.map readHandler =
        (Component.handlers p.components).map (fun h => some (h.method, clicked h.nodeId)) := by
  have hfields : ∀ f ∈ Component.stateFields p.components, IsWord f.name := by
    intro f hf
    obtain ⟨a, -, ha⟩ := List.mem_filterMap.1 hf
    exact isWord_name ha
  have hhandlers : ∀ h ∈ Component.handlers p.components, IsWord h.method := by
    intro h hh
    obtain ⟨a, ha, hhandler⟩ := List.mem_filterMap.1 hh
    obtain ⟨action, haction, rfl⟩ := Option.map_eq_some_iff.1 hhandler
    exact hactions a ha action haction
  have hscript : (p.sources theme).script =
      renderClass p.name (Component.stateFields p.components)
        (Component.handlers p.components) := by
    rw [sources]
  rw [hscript]
  refine ⟨(Component.stateFields p.components).map (fun f => "  " ++ f.line),
    (Component.handlers p.components).map (fun h => "  " ++ h.line), ?_,
    readClass_renderClass hname _ _, ?_, ?_⟩
  · rw [linesOf_renderClass hname hfields hhandlers, classMembers]
    simp only [Bool.or_eq_true, List.isEmpty_iff, List.append_assoc, List.cons_append,
      List.nil_append]
  · rw [List.map_map]
    exact List.map_congr_left fun f hf => readProperty_line (hfields f hf)
  · rw [List.map_map]
    exact List.map_congr_left fun h hh => readHandler_line (hhandlers h hh)

/-- A page whose ids and options try to leave their literals. -/
def quotedPage : Page where
  name := "user-list"
  components :=
    [.node { kind := .select, id := "role", options := ["it's\r\n\\'; \x7d"] } [],
      .node { kind := .button, id := "a'\n\\", action := some "save()" } []]

/-- They do not: each member is read from its own line. -/
theorem members_of_lines_quotedPage :
    IsPageName quotedPage.name ∧
      (∀ a ∈ quotedPage.nodes, ∀ action ∈ a.action?, IsWord (methodName action)) ∧
      ∃ property method : String,
        linesOf (quotedPage.sources "theme").script =
          headLines "user-list" ++ [property, "", method, "\x7d", ""] ∧
        readProperty property = some ⟨"roleSelected", "string", .text "it's\n\\'; \x7d"⟩ ∧
        readHandler method = some ("save", "a'\n\\ clicked") := by
  have hname : IsPageName quotedPage.name := (nameFault?_eq_none_iff _).1 (by decide)
  have hactions : ∀ a ∈ quotedPage.nodes, ∀ action ∈ a.action?, IsWord (methodName action) := by
    decide +kernel
  obtain ⟨properties, methods, hlines, -, hproperties, hmethods⟩ :=
    members_of_lines quotedPage "theme" hname hactions
  have hfields : Component.stateFields quotedPage.components =
      [⟨"roleSelected", .text "it's\r\n\\'; \x7d"⟩] := by decide +kernel
  have hhandlers : Component.handlers quotedPage.components = [⟨"save", "a'\n\\"⟩] := by
    decide +kernel
  rw [hfields] at hproperties hlines
  rw [hhandlers] at hmethods hlines
  obtain ⟨property, rfl, hproperty⟩ := List.map_eq_singleton_iff.1 hproperties
  obtain ⟨method, rfl, hmethod⟩ := List.map_eq_singleton_iff.1 hmethods
  refine ⟨hname, hactions, property, method, hlines, hproperty.trans ?_, hmethod.trans ?_⟩
  · decide +kernel
  · decide +kernel

end Page

end Pagewright
