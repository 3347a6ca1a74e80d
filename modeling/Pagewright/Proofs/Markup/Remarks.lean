/-
  The comments of a page, and the unknown kinds that are reported of it.

  * `Node.comments` lists the comments of a document, `Template.remarks` the tags that
    a template writes into comments;
  * `remarks_pageTemplate`, `commentsAll_forests`: both are the unknown components that
    the page shows, in order (`shownTags`);
  * the report lists the unknown components of the whole tree instead.  It says the
    same exactly if none of them stands below a component that does not show its
    children (`shownTags_eq_iff`, by induction on the tree);
  * `unknownTags_in_markup` puts this together, and
    `unknownTags_in_markup_paragraph` is a page with a kind in its report and no
    comment.
-/
import Pagewright.Proofs.Markup.Bindings
import Pagewright.Proofs.Markup.Children
import Pagewright.Proofs.Markup.Texts
import Pagewright.Proofs.Run.Jobs
import Pagewright.Proofs.Run.Sequential

namespace Pagewright

open Template Segment Markup

/-! ## Comments of a document -/

namespace Markup.Node

mutual

/-- The comments in a node. -/
def comments : Node → List String
  | element _ _ ns => commentsAll ns
  | text _ => []
  | comment s => [s]

/-- The comments in one node after the other. -/
def commentsAll : List Node → List String
  | [] => []
  | n :: ns => comments n ++ commentsAll ns

end

@[simp] theorem commentsAll_nil : commentsAll [] = [] := rfl

@[simp] theorem commentsAll_cons (n : Node) (ns : List Node) :
    commentsAll (n :: ns) = comments n ++ commentsAll ns := rfl

@[simp] theorem comments_element (tag : String) (attrs : List Attr) (ns : List Node) :
    comments (element tag attrs ns) = commentsAll ns := rfl

@[simp] theorem comments_text (s : String) : comments (text s) = [] := rfl

@[simp] theorem comments_comment (s : String) : comments (comment s) = [s] := rfl

theorem commentsAll_eq_flatMap (ns : List Node) : commentsAll ns = ns.flatMap comments := by
  induction ns with
  | nil => rfl
  | cons n ns ih => simp [ih]

theorem commentsAll_append (ns ms : List Node) :
    commentsAll (ns ++ ms) = commentsAll ns ++ commentsAll ms := by
  simp only [commentsAll_eq_flatMap, List.flatMap_append]

/-- Nodes without comments, one for each of a list. -/
theorem commentsAll_map {α : Type} {f : α → Node} (h : ∀ x, comments (f x) = []) (xs : List α) :
    commentsAll (xs.map f) = [] := by
  simp [commentsAll_eq_flatMap, List.flatMap_map, h]

@[simp] theorem comments_textElement (tag : String) (attrs : List Attr) (s : String) :
    comments (textElement tag attrs s) = [] := by
  unfold textElement textNodes
  split_ifs <;> simp

@[simp] theorem comments_row (tag : String) (cells : List String) :
    comments (row tag cells) = [] :=
  commentsAll_map (comments_textElement tag []) cells

end Markup.Node

open Node

/-! ## Comments of a page -/

/-- The tag that a segment writes into a comment. -/
def Segment.remark? : Segment → Option String
  | remark tag => some tag
  | _ => none

/-- The tags that a template writes into comments, in order. -/
def Template.remarks (t : Template) : List String := t.filterMap Segment.remark?

theorem Template.remarks_authored (t : Template) : t.authored.remarks = t.remarks := by
  induction t with
  | nil => rfl
  | cons s t ih =>
    cases s with
    | remark s => exact congrArg (s :: ·) ih
    | markup s | field s | text s => exact ih

/-- The comment that stands for an unknown component. -/
def unknownComment (tag : String) : String :=
  " Unknown component: " ++ Html.escapeComment tag ++ " "

namespace Attributes

variable {a : Attributes}

theorem remarks_authored (a : Attributes) : a.authored.remarks = a.kind.unknownTag?.toList := by
  have htexts (ss : List String) : remarks (ss.map Segment.text) = [] := by
    simp [remarks, Segment.remark?]
  rw [Attributes.authored, remarks, List.filterMap_append, ← remarks, ← remarks, htexts]
  cases a.kind.unknownTag? <;> rfl

/-- A component around others is of a known kind. -/
theorem unknownTag?_of_isBlock (h : a.kind.isBlock) : a.kind.unknownTag? = none := by
  unfold Kind.isBlock at h
  cases hk : a.kind <;> simp_all [Kind.unknownTag?]

theorem unknownTag?_of_around {tag classes : String} (h : a.outline = .around tag classes) :
    a.kind.unknownTag? = none := by
  unfold outline at h
  cases hk : a.kind <;> simp_all [Kind.unknownTag?]

/-- Any other component is read as a comment exactly if its kind is unknown. -/
theorem comments_of_nodes {ns : List Node} (h : a.outline = .nodes ns) :
    commentsAll ns = a.kind.unknownTag?.toList.map unknownComment := by
  unfold outline at h
  cases hk : a.kind <;> simp only [hk, reduceCtorEq, Outline.nodes.injEq] at h <;> subst h
  case text | button | link => simp [Kind.unknownTag?]
  case list =>
    simpa [Kind.unknownTag?] using commentsAll_map (comments_textElement "li" []) a.items
  case table => simpa [Kind.unknownTag?, tableNode] using commentsAll_map (comments_row "td") a.rows
  case select =>
    simpa [Kind.unknownTag?] using commentsAll_map (fun o => comments_textElement _ _ o) a.options
  case radioGroup => exact commentsAll_map (fun o => rfl) a.options
  all_goals rfl

end Attributes

namespace Component

/-- The tags of the unknown components that are shown, in order. -/
def shownTags (cs : List Component) : List String :=
  (shownAll cs).filterMap fun a => a.kind.unknownTag?

/-- The template of a page writes the unknown components that it shows into comments. -/
theorem remarks_pageTemplate (cs : List Component) : (pageTemplate cs).remarks = shownTags cs := by
  rw [← remarks_authored, authored_pageTemplate, remarks, List.filterMap_flatMap, shownTags,
    List.filterMap_eq_flatMap_toList]
  exact List.flatMap_congr fun a _ => a.remarks_authored

/-- The comments of a forest are the unknown components that it shows. -/
theorem commentsAll_forests (cs : List Component) :
    commentsAll (forests cs) = (shownTags cs).map unknownComment := by
  rw [shownTags, List.filterMap_eq_flatMap_toList, List.map_flatMap]
  refine collect_forests commentsAll_nil commentsAll_append ?_ Attributes.comments_of_nodes cs
  intro a tag classes ho ns
  simp [Attributes.unknownTag?_of_around ho]

/-! ## Unknown components that are not shown -/

/-- A component is another one, or stands somewhere below it. -/
inductive Contains : Component → Component → Prop
  | refl (c : Component) : Contains c c
  | child {a : Attributes} {cs : List Component} {c n : Component} (mem : c ∈ cs)
      (below : Contains c n) : Contains (node a cs) n

/-- What stands below a component stands in every tree that contains it. -/
theorem Contains.preorderAll_subset {c n : Component} (h : Contains c n) :
    preorderAll n.children ⊆ c.preorder := by
  induction h with
  | refl c =>
    obtain ⟨a, cs⟩ := c
    exact List.subset_cons_self a _
  | @child a cs c n mem _ ih =>
    refine fun b hb => List.mem_cons_of_mem a ?_
    rw [preorderAll_eq_flatMap]
    exact List.mem_flatMap.2 ⟨c, mem, ih hb⟩

/-- No unknown component stands below one in a tree that does not show its children. -/
def ShowsUnknown (c : Component) : Prop :=
  ∀ n, Contains c n → ¬n.attrs.kind.isBlock →
    ∀ b ∈ preorderAll n.children, b.kind.unknownTag? = none

theorem showsUnknown_of_isBlock {a : Attributes} {cs : List Component} (h : a.kind.isBlock) :
    ShowsUnknown (node a cs) ↔ ∀ c ∈ cs, ShowsUnknown c := by
  constructor
  · exact fun hnode c hc n hn => hnode n (.child hc hn)
  · intro hcs n hn hblock
    cases hn with
    | refl => exact absurd h hblock
    | child mem below => exact hcs _ mem n below hblock

theorem showsUnknown_of_not_isBlock {a : Attributes} {cs : List Component}
    (h : ¬a.kind.isBlock) :
    ShowsUnknown (node a cs) ↔ ∀ b ∈ preorderAll cs, b.kind.unknownTag? = none := by
  constructor
  · exact fun hnode => hnode _ (.refl _) h
  · intro hcs n hn _ b hb
    cases hn with
    | refl => exact hcs b hb
    | child mem below =>
      refine hcs b ?_
      rw [preorderAll_eq_flatMap]
      exact List.mem_flatMap.2 ⟨_, mem, below.preorderAll_subset hb⟩

end Component

/-- Lists that each have another one as a part are the same in a row exactly if each is
    all of it. -/
theorem flatMap_eq_iff_of_sublist {α β : Type} {f g : α → List β} {xs : List α}
    (h : ∀ x ∈ xs, (f x).Sublist (g x)) : xs.flatMap f = xs.flatMap g ↔ ∀ x ∈ xs, f x = g x := by
  refine ⟨fun heq => ?_, List.flatMap_congr⟩
  induction xs with
  | nil => simp
  | cons x xs ih =>
    obtain ⟨hx, hxs⟩ := List.forall_mem_cons.1 h
    rw [List.flatMap_cons, List.flatMap_cons] at heq
    have hlength := congrArg List.length heq
    have hle := (List.Sublist.flatMap_right xs hxs).length_le
    rw [List.length_append, List.length_append] at hlength
    have hhead : f x = g x := hx.eq_of_length_le (by omega)
    rw [hhead] at heq
    exact List.forall_mem_cons.2 ⟨hhead, ih hxs (List.append_cancel_left heq)⟩

namespace Component

/-- The components that are shown of a tree are among all of it, in the same order. -/
theorem shown_sublist (c : Component) : c.shown.Sublist c.preorder := by
  have h := shownAll_sublist [c]
  rwa [shownAll_eq_flatMap, preorderAll_eq_flatMap, List.flatMap_singleton,
    List.flatMap_singleton] at h

/-- The unknown components of a list of trees are all shown exactly if those of each
    tree are. -/
theorem filterMap_shownAll_eq_iff (cs : List Component) :
    shownTags cs = ((preorderAll cs).filterMap fun a => a.kind.unknownTag?) ↔
      ∀ c ∈ cs, (c.shown.filterMap fun a => a.kind.unknownTag?) =
        c.preorder.filterMap fun a => a.kind.unknownTag? := by
  rw [shownTags, shownAll_eq_flatMap, preorderAll_eq_flatMap, List.filterMap_flatMap,
    List.filterMap_flatMap]
  exact flatMap_eq_iff_of_sublist fun c _ => c.shown_sublist.filterMap _

theorem filterMap_shown_eq_iff (c : Component) :
    ((c.shown.filterMap fun a => a.kind.unknownTag?) =
      c.preorder.filterMap fun a => a.kind.unknownTag?) ↔ ShowsUnknown c := by
  induction c with
  | node a cs ih =>
    cases hs : a.shape 0 with
    | block element classes =>
      have hblock := Attributes.isBlock_of_block hs
      have hknown := Attributes.unknownTag?_of_isBlock hblock
      rw [showsUnknown_of_isBlock hblock, ← forall₂_congr ih, ← filterMap_shownAll_eq_iff,
        shown_of_block hs, preorder]
      simp [hknown, shownTags]
    | leaf t =>
      have hleaf : ¬a.kind.isBlock := by
        rw [Attributes.isBlock_iff (d := 0), hs]
        simp
      have hsplit : a :: preorderAll cs = [a] ++ preorderAll cs := rfl
      rw [showsUnknown_of_not_isBlock hleaf, shown_of_leaf hs, preorder, hsplit,
        List.filterMap_append, List.self_eq_append_right, List.filterMap_eq_nil_iff]

/-- **All unknown components are shown exactly if none stands below a component that
    does not show its children.** -/
theorem shownTags_eq_iff (cs : List Component) :
    shownTags cs = ((preorderAll cs).filterMap fun a => a.kind.unknownTag?) ↔
      ∀ c ∈ cs, ShowsUnknown c := by
  rw [filterMap_shownAll_eq_iff]
  exact forall₂_congr fun c _ => c.filterMap_shown_eq_iff

end Component

/-! ## Report and markup -/

namespace Page

open Component Behaviour

/-- The report on a page that was compiled lists the unknown components of its tree. -/
theorem unknownTags_of_compilePage {output themeImport : String} {p : Page} {d d' : Disk}
    {report : PageReport}
    (h : Executes (compilePage output themeImport p).run d (.ok report) d') :
    report.unknownTags = p.unknownTags := by
  rw [compilePage_eq] at h
  obtain ⟨_, _, -, h⟩ := ran_run_bind_ok.1 h
  obtain ⟨_, _, -, h⟩ := ran_run_bind_ok.1 h
  obtain ⟨hreport, -⟩ := ran_pure.1 h
  exact congrArg PageReport.unknownTags (Except.ok.inj hreport)

/-- **The report lists the unknown components of the whole page, the markup has a
    comment for each that is shown.**  The comments are among what is reported, in
    the same order, and they are all of it exactly if no unknown component stands
    below one that does not show its children. -/
theorem unknownTags_in_markup (p : Page) :
    (∀ output themeImport d d' report,
      Executes (compilePage output themeImport p).run d (.ok report) d' →
        report.unknownTags = p.unknownTags) ∧
    (pageTemplate p.components).remarks = shownTags p.components ∧
    ((∀ a ∈ shownAll p.components, ∀ s ∈ a.verbatim, '"' ∉ s.toList) →
      ∃ ns, read (renderPage p.components) = some ns ∧
        commentsAll ns = (shownTags p.components).map unknownComment) ∧
    (shownTags p.components).Sublist p.unknownTags ∧
    (shownTags p.components = p.unknownTags ↔ ∀ c ∈ p.components, ShowsUnknown c) := by
  refine ⟨fun _ _ _ _ _ => unknownTags_of_compilePage, remarks_pageTemplate _, ?_, ?_,
    shownTags_eq_iff _⟩
  · intro h
    exact ⟨forests p.components, (fills_renderPage h).read, commentsAll_forests _⟩
  · exact (shownAll_sublist p.components).filterMap _

/-- A page whose unknown components stand in blocks, or below another one of an
    unknown kind. -/
def widgetPage : Page where
  name := "w"
  components :=
    [.node { kind := .section_, id := "s" }
      [.node { kind := .unknown "x--y", id := "x" }
        [.node { kind := .text, id := "t" } []],
        .node { kind := .button, id := "b", text := some "ok" } []],
      .node { kind := .unknown "<b>", id := "z" } []]

/-- The page is compiled, and the comments are what its report lists. -/
theorem unknownTags_in_markup_widgetPage : ∃ report d',
    Executes (compilePage "out" "theme" widgetPage).run {} (.ok report) d' ∧
    report.unknownTags = ["x--y", "<b>"] ∧
    (∀ c ∈ widgetPage.components, ShowsUnknown c) ∧
    ∃ ns, read (renderPage widgetPage.components) = some ns ∧
      commentsAll ns =
        [" Unknown component: x- -y ", " Unknown component: &lt;b&gt; "] := by
  have hquotes : ∀ a ∈ shownAll widgetPage.components, ∀ s ∈ a.verbatim, '"' ∉ s.toList := by
    decide
  have hcomments : (shownTags widgetPage.components).map unknownComment =
      [" Unknown component: x- -y ", " Unknown component: &lt;b&gt; "] := by decide +kernel
  obtain ⟨hreport, -, hread, -, hall⟩ := unknownTags_in_markup widgetPage
  obtain ⟨report, hrun⟩ :=
    (simulates_compilePage "out" "theme" widgetPage).exists_ok (d := {}) (by decide +kernel)
  exact ⟨report, _, hrun, hreport _ _ _ _ _ hrun, hall.1 (by decide +kernel),
    hcomments ▸ hread hquotes⟩

/-- A page with an unknown component inside a paragraph. -/
def carouselPage : Page where
  name := "p"
  components :=
    [.node { kind := .text, id := "t" } [.node { kind := .unknown "carousel", id := "c" } []]]

/-- **A page is accepted although its report lists a component without a comment**:
    the paragraph does not show it. -/
theorem unknownTags_in_markup_paragraph :
    validate [carouselPage] = [] ∧ carouselPage.unknownTags = ["carousel"] ∧
      renderPage carouselPage.components = "<p class=\"t\"></p>" ∧
      (pageTemplate carouselPage.components).remarks = [] ∧
      ∃ ns, read (renderPage carouselPage.components) = some ns ∧ commentsAll ns = [] := by
  have hpage : renderPage carouselPage.components = "<p class=\"t\"></p>" := by
    rw [← String.toList_inj, renderPage, toList_render]
    rfl
  have hquotes : ∀ a ∈ shownAll carouselPage.components, ∀ s ∈ a.verbatim, '"' ∉ s.toList := by
    decide
  exact ⟨by decide +kernel, by decide +kernel, hpage, by decide +kernel,
    _, (fills_renderPage hquotes).read, by decide +kernel⟩

end Page

end Pagewright
