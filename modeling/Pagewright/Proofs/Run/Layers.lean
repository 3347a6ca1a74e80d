/-
  Options that are given in several places.

  * `Accepted`: the documents whose values have the types of the fields that they are
    given for;
  * `Layered`: options of which each comes from the arguments, or else from the document,
    or else is the default; they leave nothing open (`Layered.unique`);
  * `ofEntries_eq_some_iff`: exactly the documents that are accepted give options, and
    these are layered;
  * `Layered.override`: so they are when arguments are put before them.
-/
import Mathlib.Tactic.Common
import Pagewright.CommandLine

namespace Pagewright

open Toml CommandLine

/-! ## Values of a document -/

namespace Toml.Value

/-- A value that can stand for the fields of a section. -/
def IsSection : Value → Prop
  | table .. | list _ | tables _ | moment _ => True
  | _ => False

/-- The value of a field in a section, which is found under its label, or at its position
    if the section is a list. -/
def field? (label : String) (position : Nat) : Value → Option Value
  | table _ es => es.lookup label
  | list vs => vs[position]?
  | tables elements => elements[position]?.map (.table .header ·)
  | _ => none

theorem section?_eq_some_iff {labels : List String} {v : Value} {fields : List (Option Value)} :
    v.section? labels = some fields ↔
      v.IsSection ∧ fields = labels.zipIdx.map fun l => v.field? l.1 l.2 := by
  have hlabels : ∀ f : String → Option Value, labels.map f = labels.zipIdx.map fun l => f l.1 :=
    fun f => calc labels.map f
      _ = (labels.zipIdx.map Prod.fst).map f := by rw [List.zipIdx_map_fst]
      _ = labels.zipIdx.map fun l => f l.1 := List.map_map
  cases v <;> simp [section?, IsSection, field?, eq_comm, hlabels]

end Toml.Value

/-- A value, if there is one, that is a text. -/
def IsText (o : Option Value) : Prop := ∀ v, o = some v → ∃ t, v = .text t

theorem fieldOr_text_eq_some_iff {default t : String} {o : Option Value} :
    fieldOr Value.text? default o = some t ↔ IsText o ∧ t = (o.bind Value.text?).getD default := by
  cases o with
  | none => simp [fieldOr, IsText, eq_comm]
  | some v => cases v <;> simp [fieldOr, IsText, Value.text?, eq_comm]

/-! ## Texts that are set in two places -/

/-- The texts among the options. -/
inductive Setting where
  | themeSource | themeTarget | themeImport | moduleName
  deriving DecidableEq

namespace Setting

/-- What the arguments give. -/
def argument? (a : Arguments) : Setting → Option String
  | themeSource => a.themeSource
  | themeTarget => a.themeTarget
  | themeImport => a.themeImport
  | moduleName => a.library

/-- What a document gives. -/
def entry? (es : Entries) : Setting → Option Value
  | themeSource => (es.lookup "theme").bind (Value.field? "source" 0)
  | themeTarget => (es.lookup "theme").bind (Value.field? "target" 1)
  | themeImport => es.lookup "theme-import"
  | moduleName => (es.lookup "library").bind (Value.field? "module-name" 0)

/-- What is used if nothing is given. -/
def fallback : Setting → String
  | themeSource => ({} : Theme).source
  | themeTarget => ({} : Theme).target
  | themeImport => ({} : Options).themeImport
  | moduleName => ({} : Library).moduleName

/-- The text that the arguments give, or else the one in the document, or else the
    default. -/
def chosen (a : Arguments) (es : Entries) (s : Setting) : String :=
  (s.argument? a).getD (((s.entry? es).bind Value.text?).getD s.fallback)

end Setting

/-! ## Documents -/

/-- A document of which every value that is looked at has the type of its field. -/
structure Accepted (es : Entries) : Prop where
  copyTheme : ∀ v, es.lookup "copy-theme" = some v → ∃ b, v = .flag b
  theme : ∀ v, es.lookup "theme" = some v → v.IsSection
  library : ∀ v, es.lookup "library" = some v → v.IsSection
  texts : ∀ s : Setting, IsText (s.entry? es)

/-- Options that come from arguments and a document, each on its own. -/
structure Layered (a : Arguments) (es : Entries) (options : Options) : Prop where
  themeSource : options.theme.source = Setting.themeSource.chosen a es
  themeTarget : options.theme.target = Setting.themeTarget.chosen a es
  themeImport : options.themeImport = Setting.themeImport.chosen a es
  copyTheme : options.copyTheme = false ↔
    a.noTheme = true ∨ es.lookup "copy-theme" = some (.flag false)
  library : options.library.isSome ↔ a.library.isSome ∨ (es.lookup "library").isSome
  moduleName : ∀ library, options.library = some library →
    library.moduleName = Setting.moduleName.chosen a es

theorem Theme.ofToml_eq_some_iff {v : Value} {theme : Theme} :
    Theme.ofToml v = some theme ↔ v.IsSection ∧
      fieldOr Value.text? ({} : Theme).source (v.field? "source" 0) = some theme.source ∧
      fieldOr Value.text? ({} : Theme).target (v.field? "target" 1) = some theme.target := by
  obtain ⟨source, target⟩ := theme
  simp [Theme.ofToml, Option.bind_eq_some_iff, Value.section?_eq_some_iff]

theorem Library.ofToml_eq_some_iff {v : Value} {library : Library} :
    Library.ofToml v = some library ↔ v.IsSection ∧
      fieldOr Value.text? ({} : Library).moduleName (v.field? "module-name" 0) =
        some library.moduleName := by
  obtain ⟨moduleName⟩ := library
  simp [Library.ofToml, Option.bind_eq_some_iff, Value.section?_eq_some_iff]

/-- The section of the theme, if there is one: each field has its own default. -/
theorem fieldOr_theme_eq_some_iff {o : Option Value} {theme : Theme} :
    fieldOr Theme.ofToml {} o = some theme ↔ (∀ v, o = some v → v.IsSection) ∧
      fieldOr Value.text? ({} : Theme).source (o.bind (Value.field? "source" 0)) =
        some theme.source ∧
      fieldOr Value.text? ({} : Theme).target (o.bind (Value.field? "target" 1)) =
        some theme.target := by
  cases o with
  | none =>
    obtain ⟨source, target⟩ := theme
    simp [fieldOr]
  | some v =>
    rw [fieldOr, Theme.ofToml_eq_some_iff]
    simp only [Option.some.injEq, forall_eq', Option.bind_some]

/-- The section of the barrel: there is a barrel if there is such a section. -/
theorem fieldOr_library_eq_some_iff {o : Option Value} {library : Option Library} :
    fieldOr (fun v => some <$> Library.ofToml v) none o = some library ↔
      (∀ v, o = some v → v.IsSection) ∧
      IsText (o.bind (Value.field? "module-name" 0)) ∧
      (library.isSome ↔ o.isSome) ∧
      ∀ l, library = some l → l.moduleName =
        ((o.bind (Value.field? "module-name" 0)).bind Value.text?).getD
          ({} : Library).moduleName := by
  cases o with
  | none => cases library <;> simp [fieldOr, IsText]
  | some v =>
    simp only [Option.some.injEq, forall_eq', Option.bind_some, Option.isSome_some, iff_true]
    rw [fieldOr, Option.map_eq_map, Option.map_eq_some_iff]
    constructor
    · rintro ⟨l, hl, rfl⟩
      obtain ⟨hsection, hname⟩ := Library.ofToml_eq_some_iff.1 hl
      obtain ⟨htext, hname⟩ := fieldOr_text_eq_some_iff.1 hname
      exact ⟨hsection, htext, rfl, fun l' hl' => Option.some.inj hl' ▸ hname⟩
    · rintro ⟨hsection, htext, hsome, hname⟩
      obtain ⟨l, rfl⟩ := Option.isSome_iff_exists.1 hsome
      have hl := fieldOr_text_eq_some_iff.2 ⟨htext, hname l rfl⟩
      exact ⟨l, Library.ofToml_eq_some_iff.2 ⟨hsection, hl⟩, rfl⟩

theorem fieldOr_flag_eq_some_iff {o : Option Value} {b : Bool} :
    fieldOr Value.flag? true o = some b ↔
      (∀ v, o = some v → ∃ c, v = .flag c) ∧ (b = false ↔ o = some (.flag false)) := by
  cases o with
  | none => cases b <;> simp [fieldOr]
  | some v => cases v <;> cases b <;> simp [fieldOr, Value.flag?]

theorem ofEntries_fields {es : Entries} {options : Options} :
    Options.ofEntries es = some options ↔
      fieldOr Value.flag? true (es.lookup "copy-theme") = some options.copyTheme ∧
      fieldOr Theme.ofToml {} (es.lookup "theme") = some options.theme ∧
      fieldOr Value.text? ({} : Options).themeImport (es.lookup "theme-import") =
        some options.themeImport ∧
      fieldOr (fun v => some <$> Library.ofToml v) none (es.lookup "library") =
        some options.library := by
  obtain ⟨copyTheme, theme, themeImport, library⟩ := options
  simp only [Options.ofEntries, Option.bind_eq_bind, Option.bind_eq_some_iff, Option.some.injEq,
    Options.mk.injEq]
  constructor
  · rintro ⟨c, hc, t, ht, i, hi, l, hl, rfl, rfl, rfl, rfl⟩
    exact ⟨hc, ht, hi, hl⟩
  · rintro ⟨hc, ht, hi, hl⟩
    exact ⟨copyTheme, hc, theme, ht, themeImport, hi, library, hl, rfl, rfl, rfl, rfl⟩

/-- **The options of a document.**  There are some exactly if it is accepted, and what it
    does not give is the default. -/
theorem ofEntries_eq_some_iff {es : Entries} {options : Options} :
    Options.ofEntries es = some options ↔ Accepted es ∧ Layered {} es options := by
  rw [ofEntries_fields, fieldOr_flag_eq_some_iff, fieldOr_theme_eq_some_iff,
    fieldOr_library_eq_some_iff]
  simp only [fieldOr_text_eq_some_iff]
  constructor
  · rintro ⟨⟨hflag, hcopy⟩, ⟨htheme, ⟨hsource, hsourceText⟩, htarget, htargetText⟩,
      ⟨himport, himportText⟩, hlibrary, hname, hsome, hnameText⟩
    constructor
    · refine ⟨hflag, htheme, hlibrary, fun s => ?_⟩
      cases s
      · exact hsource
      · exact htarget
      · exact himport
      · exact hname
    · exact ⟨hsourceText, htargetText, himportText, by simpa using hcopy, by simpa using hsome,
        hnameText⟩
  · rintro ⟨haccepted, hlayered⟩
    refine ⟨⟨haccepted.copyTheme, by simpa using hlayered.copyTheme⟩, ⟨haccepted.theme,
      ⟨haccepted.texts .themeSource, hlayered.themeSource⟩, haccepted.texts .themeTarget,
      hlayered.themeTarget⟩, ⟨haccepted.texts .themeImport, hlayered.themeImport⟩,
      haccepted.library, haccepted.texts .moduleName, by simpa using hlayered.library,
      hlayered.moduleName⟩

/-- Every document that is accepted gives options. -/
theorem Accepted.exists_ofEntries {es : Entries} (h : Accepted es) :
    ∃ options, Options.ofEntries es = some options := by
  let chosen := fun s : Setting => s.chosen {} es
  refine ⟨⟨!decide (((es.lookup "copy-theme").bind Value.flag?) = some false),
    ⟨chosen .themeSource, chosen .themeTarget⟩, chosen .themeImport,
    if (es.lookup "library").isSome then some ⟨chosen .moduleName⟩ else none⟩, ?_⟩
  refine ofEntries_eq_some_iff.2 ⟨h, rfl, rfl, rfl, ?_, ?_, ?_⟩
  · cases hflag : es.lookup "copy-theme" with
    | none => simp
    | some v =>
      obtain ⟨b, rfl⟩ := h.copyTheme v hflag
      simp [Value.flag?]
  · cases es.lookup "library" <;> simp
  · intro library hlibrary
    split_ifs at hlibrary
    exact (congrArg Library.moduleName (Option.some.inj hlibrary)).symm

/-- **Arguments come before the document**, each for its own option. -/
theorem Layered.override {es : Entries} {options : Options} (h : Layered {} es options)
    (a : Arguments) : Layered a es (a.override options) := by
  have htext : ∀ s : Setting, (s.argument? a).getD (s.chosen {} es) = s.chosen a es := by
    intro s
    cases s <;> rfl
  refine ⟨?_, ?_, ?_, ?_, ?_, ?_⟩
  · rw [← htext, ← h.themeSource]
    rfl
  · rw [← htext, ← h.themeTarget]
    rfl
  · rw [← htext, ← h.themeImport]
    rfl
  · have hcopy := h.copyTheme
    simp only [Bool.false_eq_true, false_or] at hcopy
    rw [← hcopy]
    cases hno : a.noTheme <;> simp [Arguments.override, hno]
  · have hsome := h.library
    simp only [Option.isSome_none, Bool.false_eq_true, false_or] at hsome
    rw [← hsome]
    cases hlib : a.library <;> simp [Arguments.override, hlib]
  · intro library hlibrary
    rw [← htext]
    simp only [Arguments.override, Setting.argument?] at hlibrary ⊢
    cases hlib : a.library with
    | some name =>
      rw [hlib] at hlibrary
      exact (congrArg Library.moduleName (Option.some.inj hlibrary)).symm
    | none =>
      rw [hlib] at hlibrary
      exact h.moduleName library hlibrary

/-- The two layers leave nothing open. -/
theorem Layered.unique {a : Arguments} {es : Entries} {options options' : Options}
    (h : Layered a es options) (h' : Layered a es options') : options = options' := by
  have hcopy : options.copyTheme = options'.copyTheme := by
    rw [Bool.eq_iff_iff, ← not_iff_not, Bool.not_eq_true, Bool.not_eq_true, h.copyTheme,
      h'.copyTheme]
  have hlibrary : options.library = options'.library := by
    have hsome : options.library.isSome ↔ options'.library.isSome := h.library.trans h'.library.symm
    cases hl : options.library with
    | none =>
      rw [hl] at hsome
      exact (Option.not_isSome_iff_eq_none.1 (hsome.not.1 Bool.false_ne_true)).symm
    | some library =>
      rw [hl] at hsome
      obtain ⟨library', hl'⟩ := Option.isSome_iff_exists.1 (hsome.1 rfl)
      have hname := (h.moduleName library hl).trans (h'.moduleName library' hl').symm
      obtain ⟨name⟩ := library
      obtain ⟨name'⟩ := library'
      rw [hl', show name = name' from hname]
  have hsource := h.themeSource.trans h'.themeSource.symm
  have htarget := h.themeTarget.trans h'.themeTarget.symm
  have himport := h.themeImport.trans h'.themeImport.symm
  obtain ⟨copyTheme, ⟨source, target⟩, themeImport, library⟩ := options
  obtain ⟨copyTheme', ⟨source', target'⟩, themeImport', library'⟩ := options'
  simp_all

end Pagewright
