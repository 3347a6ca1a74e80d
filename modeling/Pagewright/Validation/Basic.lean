/-
  The check that pages pass before they are compiled.

  * a page name is made of letters, digits, hyphens and underscores and begins
    with a letter;
  * no two pages share a name, a class or an element; what a page is emitted
    under belongs to the first page that claims it, be it refused or not;
  * every component, at every depth, has a kind and an id.

  `Finding` says what is wrong and where, `Finding.issue` words it.
-/
import Pagewright.Page.Basic
import Pagewright.Page.Names
import Pagewright.Validation.Issue

namespace Pagewright

/-! ## Findings -/

/-- The place of a component: its page, its position on the page, and the
    positions among children from there on. -/
structure Place where
  page : Nat
  component : Nat
  children : List Nat := []
  deriving DecidableEq, Repr

namespace Place

/-- The place of a child. -/
def child (p : Place) (k : Nat) : Place := { p with children := p.children ++ [k] }

end Place

/-- The path of a page. -/
def pagePath (page : Nat) : String := "pages[" ++ toString page ++ "]"

/-- The path of a component. -/
def Place.path (p : Place) : String :=
  pagePath p.page ++ ".components[" ++ toString p.component ++ "]" ++
    String.join (p.children.map fun k => ".children[" ++ toString k ++ "]")

/-- What is wrong with a page name. -/
inductive NameFault where
  | empty
  | badCharacter
  | badStart
  deriving DecidableEq, Repr

/-- What two pages share. -/
inductive Clash where
  | name
  | className
  | selector
  deriving DecidableEq, Repr

/-- A page that claimed something: its position and its name. -/
structure Claimant where
  index : Nat
  name : String
  deriving DecidableEq, Repr

/-- Something wrong with the pages. -/
inductive Finding where
  | badName (page : Claimant) (fault : NameFault)
  | duplicate (page first : Claimant) (clash : Clash)
  | emptyKind (pageName : String) (place : Place)
  | emptyId (pageName : String) (place : Place) (kind : Kind)
  deriving DecidableEq, Repr

/-- What is wrong with a name in words. -/
def NameFault.message (name : String) : NameFault → String
  | empty => "page name must not be empty"
  | badCharacter => "page name '" ++ name ++ "' may only contain letters, digits, '-' and '_'"
  | badStart => "page name '" ++ name ++ "' must start with a letter to give a valid class name"

/-- What a page shares with an earlier one in words. -/
def Clash.message (name : String) (first : Claimant) : Clash → String
  | .name => "page name '" ++ name ++ "' is already used by " ++ pagePath first.index
  | className =>
    "page '" ++ name ++ "' generates class " ++ Page.className name ++ ", already generated by " ++
      pagePath first.index ++ " ('" ++ first.name ++ "')"
  | selector =>
    "page '" ++ name ++ "' generates selector '" ++ Page.selector name ++
      "', already generated by " ++ pagePath first.index ++ " ('" ++ first.name ++ "')"

/-- The issue that reports a finding. -/
def Finding.issue : Finding → Issue
  | badName page fault =>
    ⟨"E-PAGE-NAME", page.name, pagePath page.index ++ ".pageName", fault.message page.name⟩
  | duplicate page first clash =>
    ⟨"E-PAGE-DUP", page.name, pagePath page.index ++ ".pageName", clash.message page.name first⟩
  | emptyKind pageName place =>
    ⟨"E-NODE-TYPE", pageName, place.path ++ ".type", "component type must not be empty"⟩
  | emptyId pageName place kind =>
    ⟨"E-NODE-ID", pageName, place.path ++ ".id", "'" ++ kind.tag ++ "' component has an empty id"⟩

/-! ## Page names -/

/-- The characters of a page name. -/
def isPageNameChar (c : Char) : Bool := c.isAlphanum || c == '-' || c == '_'

/-- What is wrong with a page name, if anything is. -/
def nameFault? (name : String) : Option NameFault :=
  match name.toList with
  | [] => some .empty
  | c :: cs =>
    if !(c :: cs).all isPageNameChar then some .badCharacter
    else if !c.isAlpha then some .badStart
    else none

/-- What has been claimed so far, each with the page that came first. -/
structure Claims where
  names : List (String × Claimant) := []
  classNames : List (String × Claimant) := []
  selectors : List (String × Claimant) := []

namespace Claims

/-- Adds a claim, unless there is an earlier one. -/
def record (key : String) (page : Claimant) (claims : List (String × Claimant)) :
    List (String × Claimant) :=
  if (claims.lookup key).isSome then claims else claims ++ [(key, page)]

variable (claims : Claims)

/-- The clash of a page with an earlier one: the name comes before the class,
    the class before the element. -/
def clash? (name : String) : Option (Claimant × Clash) :=
  match claims.names.lookup name with
  | some first => some (first, .name)
  | none =>
    match claims.classNames.lookup (Page.className name) with
    | some first => some (first, .className)
    | none => (claims.selectors.lookup (Page.selector name)).map (·, .selector)

/-- Claims all that a page is emitted under. -/
def add (page : Claimant) : Claims where
  names := record page.name page claims.names
  classNames := record (Page.className page.name) page claims.classNames
  selectors := record (Page.selector page.name) page claims.selectors

end Claims

/-- The findings about the name of a page.  A page without a name claims
    nothing. -/
def nameFindings (claims : Claims) (page : Claimant) : List Finding :=
  ((nameFault? page.name).map (.badName page)).toList ++
    if page.name = "" then []
    else ((claims.clash? page.name).map fun c => .duplicate page c.1 c.2).toList

/-! ## Components -/

/-- The findings about a component without its children. -/
def Attributes.findings (pageName : String) (place : Place) (a : Attributes) : List Finding :=
  (if a.kind.tag = "" then [.emptyKind pageName place] else []) ++
    if a.id = "" then [.emptyId pageName place a.kind] else []

namespace Component

mutual

/-- The findings about a tree, a component before its children. -/
def findings (pageName : String) (place : Place) : Component → List Finding
  | node a cs => a.findings pageName place ++ childFindings pageName place 0 cs

/-- The findings about the children of a component from the `k`-th on. -/
def childFindings (pageName : String) (place : Place) (k : Nat) : List Component → List Finding
  | [] => []
  | c :: cs =>
    findings pageName (place.child k) c ++ childFindings pageName place (k + 1) cs

end

end Component

/-! ## Pages -/

namespace Page

/-- The findings about the components of a page. -/
def componentFindings (index : Nat) (p : Page) : List Finding :=
  (p.components.mapIdx fun j c => c.findings p.name ⟨index, j, []⟩).flatten

/-- The findings about pages, the first of which has the position `index`. -/
def findingsFrom (index : Nat) (claims : Claims) : List Page → List Finding
  | [] => []
  | p :: ps =>
    let page : Claimant := ⟨index, p.name⟩
    nameFindings claims page ++ p.componentFindings index ++
      findingsFrom (index + 1) (if p.name = "" then claims else claims.add page) ps

/-- All that is wrong with a list of pages, page by page. -/
def findings (ps : List Page) : List Finding := findingsFrom 0 {} ps

/-- All that is wrong with a list of pages, in words. -/
def validate (ps : List Page) : List Issue := (findings ps).map Finding.issue

end Page

end Pagewright
