/-
  The table of routes and the routes that pages share.

  A table is looked up from the top: the first entry for a path is the one that
  counts.

  * `readRoutes_renderRoutes`: the table lists the pages in order, and then the way
    from the empty path to the first;
  * `target?_route`: a route leads to the first page that has it;
  * `renderRoutes_reaches`: so a page is reached under its route exactly if it is not
    reported behind another page, and all are if nothing is reported.
-/
import Pagewright.Collision
import Pagewright.Proofs.Barrel.Sources
import Pagewright.Proofs.Page.Members

namespace Pagewright

open Script

/-! ## Tables -/

/-- What an entry of a table leads to. -/
inductive Target where
  | component (name : String)
  | redirect (path : String)
  deriving DecidableEq, Repr

/-- An entry of a table. -/
structure Route where
  path : String
  target : Target
  deriving DecidableEq, Repr

/-- Reads an entry. -/
def Route.ofTree : Tree → Option Route
  | .group .curly ts => do
    let fs ← fields ts
    match fs.lookup "path", fs.lookup "component", fs.lookup "redirectTo" with
    | some (.text path), some (.word name), none => some ⟨path, .component name⟩
    | some (.text path), none, some (.text path') => some ⟨path, .redirect path'⟩
    | _, _, _ => none
  | _ => none

/-- The values of a list that is exported under a name. -/
def Script.Statement.listOf? (name : String) : Statement → Option (List Tree)
  | exportList name' _ values => if name' = name then some values else none
  | _ => none

/-- Reads the table of a source. -/
def readRoutes (s : String) : Option (List Route) := do
  let values ← (← Script.read s).findSome? (Statement.listOf? "routes")
  values.mapM Route.ofTree

/-- What the first entry for a path leads to. -/
def target? (table : List Route) (path : String) : Option Target :=
  (table.find? fun r => r.path == path).map (·.target)

/-! ## Reading -/

namespace Barrel

/-- The entry of a page. -/
def pageRoute (p : Page) : Route := ⟨Page.route p.name, .component (Page.className p.name)⟩

/-- The entry that leads the empty path to a page. -/
def redirectRoute (p : Page) : Route := ⟨"", .redirect (Page.route p.name)⟩

variable {ps : List Page}

theorem ofTree_entryTree (p : Page) : Route.ofTree (entryTree p) = some (pageRoute p) := by
  rw [entryTree, Route.ofTree, fields_fieldTrees]
  rfl

theorem ofTree_redirectTree (p : Page) :
    Route.ofTree (redirectTree p) = some (redirectRoute p) := by
  rw [redirectTree, Route.ofTree, fields_fieldTrees]
  rfl

theorem mapM_entryTree (ps : List Page) :
    (ps.map entryTree).mapM Route.ofTree = some (ps.map pageRoute) := by
  induction ps with
  | nil => rfl
  | cons p ps ih => simp [ofTree_entryTree, ih]

/-- The entries of a table: the pages in order, and then the way from the empty path
    to the first. -/
def table (ps : List Page) : List Route :=
  ps.map pageRoute ++ (ps.head?.map redirectRoute).toList

theorem readRoutes_renderRoutes (h : ∀ p ∈ ps, IsPageName p.name) :
    readRoutes (renderRoutes ps) = some (table ps) := by
  have himports : (ps.map pageImportStatement).findSome? (Statement.listOf? "routes") = none := by
    simp [pageImportStatement, Statement.listOf?]
  have hvalues : (routesStatements ps).findSome? (Statement.listOf? "routes") =
      some (routeTrees ps) := by
    rw [routesStatements, List.findSome?_append, List.findSome?_append, himports]
    simp [List.findSome?_cons, Statement.listOf?]
  have hredirect : ((ps.head?.map redirectTree).toList).mapM Route.ofTree =
      some (ps.head?.map redirectRoute).toList := by
    cases ps.head? with
    | none => rfl
    | some p => simp [ofTree_redirectTree]
  rw [readRoutes, read_renderRoutes h, Option.bind_eq_bind, Option.bind_some, hvalues,
    Option.bind_eq_bind, Option.bind_some, routeTrees, List.mapM_append, mapM_entryTree, hredirect]
  rfl

/-! ## Looking up -/

variable {p q : Page}

/-- The pages that have a route. -/
def pagesAt (ps : List Page) (route : String) : List Page :=
  ps.filter fun p => Page.route p.name == route

theorem mem_pagesAt {route : String} :
    p ∈ pagesAt ps route ↔ p ∈ ps ∧ Page.route p.name = route := by
  simp [pagesAt]

/-- A route leads to the first page that has it. -/
theorem target?_of_head? {route : String} (h : (pagesAt ps route).head? = some p) :
    target? (table ps) route = some (.component (Page.className p.name)) := by
  rw [pagesAt, List.head?_filter] at h
  have hfind : (ps.map pageRoute).find? (fun r => r.path == route) = some (pageRoute p) := by
    rw [List.find?_map, Function.comp_def]
    simp only [pageRoute, h, Option.map_some]
  rw [target?, table, List.find?_append, hfind]
  rfl

/-- The empty path leads to the route of the first page, and no page has it. -/
theorem filter_table (h : ∀ p ∈ ps, IsPageName p.name) (hfirst : ps.head? = some p) :
    (table ps).filter (fun r => r.path == "") = [⟨"", .redirect (Page.route p.name)⟩] := by
  have hpages : (ps.map pageRoute).filter (fun r => r.path == "") = [] := by
    rw [List.filter_eq_nil_iff, List.forall_mem_map]
    intro q hq hempty
    exact (h q hq).route.ne_empty (by simpa [pageRoute] using hempty)
  rw [table, List.filter_append, hpages, hfirst]
  rfl

/-- The owners of a shared route are the pages that have it. -/
theorem ownersOf_routes (ps : List Page) (route : String) :
    Collision.ownersOf route (ps.map fun p => (Page.route p.name, p.name)) =
      (pagesAt ps route).map (·.name) := by
  rw [Collision.ownersOf, List.filter_map, List.map_map, pagesAt, Function.comp_def,
    Function.comp_def]

end Barrel

namespace Page

open Barrel

variable {ps : List Page}

/-- A route is reported with the pages that have it, if there are several. -/
theorem mem_routeCollisions {c : Collision} :
    c ∈ routeCollisions ps ↔
      c = ⟨.route, c.name, (pagesAt ps c.name).map (·.name)⟩ ∧ 1 < (pagesAt ps c.name).length := by
  have hcount : ((ps.map fun p => (route p.name, p.name)).map (·.1)).count c.name =
      (pagesAt ps c.name).length := by
    rw [← Collision.length_ownersOf, ownersOf_routes, List.length_map]
  rw [routeCollisions, Collision.mem_shared, ownersOf_routes, hcount]

theorem shared_route {r : String} (h : 1 < (pagesAt ps r).length) :
    ⟨.route, r, (pagesAt ps r).map (·.name)⟩ ∈ routeCollisions ps :=
  mem_routeCollisions.2 ⟨rfl, h⟩

/-- Whether a page is reported behind another page with its route. -/
def Shadowed (ps : List Page) (p : Page) : Prop :=
  ∃ c ∈ routeCollisions ps, c.kind = .route ∧ p.name ∈ c.owners.tail

/-- A page is reported behind another exactly if it is not the first with its route. -/
theorem shadowed_iff (h : WellFormed ps) {p q : Page} (hp : p ∈ ps)
    (hfirst : (pagesAt ps (route p.name)).head? = some q) : Shadowed ps p ↔ p ≠ q := by
  obtain ⟨rest, hpages⟩ := List.head?_eq_some_iff.1 hfirst
  constructor
  · rintro ⟨c, hc, -, htail⟩ rfl
    obtain ⟨howners, -⟩ := mem_routeCollisions.1 hc
    replace howners : c.owners = (pagesAt ps c.name).map (·.name) :=
      congrArg Collision.owners howners
    -- the page that the collision names is `p` itself, so its route is the shared one
    have hmem := List.mem_of_mem_tail htail
    rw [howners] at hmem
    obtain ⟨a, ha, hname⟩ := List.mem_map.1 hmem
    obtain ⟨ha, hroute⟩ := mem_pagesAt.1 ha
    obtain rfl : a = p := List.inj_on_of_nodup_map h.distinct_names ha hp hname
    have hnodup : ((pagesAt ps c.name).map (·.name)).Nodup :=
      h.distinct_names.sublist (List.filter_sublist.map _)
    rw [howners, ← hroute, hpages] at htail
    rw [← hroute, hpages] at hnodup
    exact (List.nodup_cons.1 hnodup).1 htail
  · intro hne
    have hmem : p ∈ pagesAt ps (route p.name) := mem_pagesAt.2 ⟨hp, rfl⟩
    rw [hpages] at hmem
    have hrest : p ∈ rest := (List.mem_cons.1 hmem).resolve_left hne
    have hlength : 1 < (pagesAt ps (route p.name)).length := by
      have hpos := List.length_pos_of_mem hrest
      rw [hpages, List.length_cons]
      omega
    refine ⟨_, shared_route hlength, rfl, ?_⟩
    simp only [hpages, List.map_cons, List.tail_cons]
    exact List.mem_map_of_mem hrest

/-- Nothing is reported exactly if no page is reported behind another. -/
theorem routeCollisions_eq_nil_iff (ps : List Page) :
    routeCollisions ps = [] ↔ ∀ p ∈ ps, ¬Shadowed ps p := by
  rw [List.eq_nil_iff_forall_not_mem]
  constructor
  · rintro h p - ⟨c, hc, -⟩
    exact h c hc
  · intro h c hc
    obtain ⟨howners, hlength⟩ := mem_routeCollisions.1 hc
    match hpages : pagesAt ps c.name with
    | [] | [_] => simp [hpages] at hlength
    | p :: q :: rest =>
      have hq : q ∈ pagesAt ps c.name := by simp [hpages]
      refine h q (mem_pagesAt.1 hq).1 ⟨c, hc, ?_⟩
      rw [howners, hpages]
      simp

/-- What the table of routes does for pages of which `first` is the first. -/
structure Routed (ps : List Page) (first : Page) (table : List Route) : Prop where
  /-- The pages in order, and then the way to the first. -/
  entries : table = ps.map pageRoute ++ [⟨"", .redirect (route first.name)⟩]
  /-- The empty path is the route of no page. -/
  empty_path : table.filter (fun r => r.path == "") = [⟨"", .redirect (route first.name)⟩]
  /-- The way to the first page leads to the first page. -/
  start : target? table (route first.name) = some (.component (className first.name))
  /-- A page is reached exactly if it is not reported behind another. -/
  reached : ∀ p ∈ ps, target? table (route p.name) = some (.component (className p.name)) ↔
    ¬Shadowed ps p
  /-- All pages are reached exactly if nothing is reported. -/
  all_reached : routeCollisions ps = [] ↔
    ∀ p ∈ ps, target? table (route p.name) = some (.component (className p.name))

/-- **The table of routes reaches exactly what the report of shared routes says.** -/
theorem renderRoutes_reaches {ps : List Page} (hvalid : validate ps = []) {first : Page}
    (hfirst : ps.head? = some first) :
    ∃ table, readRoutes (renderRoutes ps) = some table ∧ Routed ps first table := by
  have h := (validate_eq_nil_iff ps).1 hvalid
  have hreach : ∀ p ∈ ps, target? (table ps) (route p.name) = some (.component (className p.name)) ↔
      ¬Shadowed ps p := by
    intro p hp
    have hmem : p ∈ pagesAt ps (route p.name) := mem_pagesAt.2 ⟨hp, rfl⟩
    obtain ⟨q, hq⟩ : ∃ q, (pagesAt ps (route p.name)).head? = some q :=
      Option.isSome_iff_exists.1 (List.isSome_head?.2 (List.ne_nil_of_mem hmem))
    have hqps : q ∈ ps := (mem_pagesAt.1 (List.mem_of_mem_head? hq)).1
    rw [shadowed_iff h hp hq, not_not, target?_of_head? hq, Option.some.injEq,
      Target.component.injEq]
    constructor
    · exact fun hclass => List.inj_on_of_nodup_map h.distinct_classNames hp hqps hclass.symm
    · rintro rfl
      rfl
  refine ⟨table ps, readRoutes_renderRoutes h.names, ?_⟩
  exact
    { entries := by simp [table, hfirst, redirectRoute]
      empty_path := filter_table h.names hfirst
      start := by
        refine target?_of_head? ?_
        obtain ⟨rest, rfl⟩ := List.head?_eq_some_iff.1 hfirst
        simp [pagesAt]
      reached := hreach
      all_reached := by
        rw [routeCollisions_eq_nil_iff]
        exact forall₂_congr fun p hp => (hreach p hp).symm }

/-- Three pages, the last of which has the route of the first. -/
def homePages : List Page := [⟨"home", []⟩, ⟨"about", []⟩, ⟨"home-page", []⟩]

/-- The third page is reported behind the first, whose route it has. -/
theorem renderRoutes_reaches_homePages :
    validate homePages = [] ∧ homePages.head? = some ⟨"home", []⟩ ∧
      routeCollisions homePages = [⟨.route, "home", ["home", "home-page"]⟩] ∧
      ∃ table, readRoutes (renderRoutes homePages) = some table ∧
        Routed homePages ⟨"home", []⟩ table := by
  have hvalid : validate homePages = [] := by decide +kernel
  exact ⟨hvalid, rfl, by decide +kernel, renderRoutes_reaches hvalid rfl⟩

end Page

end Pagewright
