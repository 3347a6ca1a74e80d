/-
  The names of the files that a run writes.

  * `isName_append`: what begins with a page name names something in a directory;
  * `Disk.place_ne_of_endsIn`: files whose names end differently are at different
    places, and so are the files of pages and those of the barrel.
-/
import Mathlib.Data.List.Nodup
import Pagewright.Barrel
import Pagewright.Page.Sources
import Pagewright.Proofs.Files.Places
import Pagewright.Proofs.Validation.Acceptance

namespace Pagewright

theorem IsNameChar.ne_slash {c : Char} (h : IsNameChar c) : c ≠ '/' := by
  rintro rfl
  revert h
  simp only [IsNameChar, IsLetter]
  decide

theorem IsLetter.ne_dot {c : Char} (h : IsLetter c) : c ≠ '.' := by
  rintro rfl
  revert h
  simp only [IsLetter]
  decide

/-- What begins with a page name and holds no slash is a name. -/
theorem IsPageName.isName_append {name rest : String} (h : IsPageName name)
    (hrest : '/' ∉ rest.toList) : Path.IsName (name ++ rest) := by
  obtain ⟨c, cs, hname, hc, hcs⟩ := h
  have htext : (name ++ rest).toList = c :: (cs ++ rest.toList) := by simp [hname]
  have hfirst : ∀ s, s.toList.head? ≠ some c → name ++ rest ≠ s := by
    rintro s hs rfl
    exact hs (by rw [htext]; rfl)
  refine ⟨?_, hfirst "" nofun, hfirst "." ?_, hfirst ".." ?_⟩
  · rw [htext, List.mem_cons, List.mem_append, not_or, not_or]
    exact ⟨hc.isNameChar.ne_slash.symm, fun h => (hcs _ h).ne_slash rfl, hrest⟩
  all_goals
    intro h
    exact hc.ne_dot (Option.some.inj h).symm

theorem IsPageName.isName {name : String} (h : IsPageName name) : Path.IsName name := by
  have happend : Path.IsName (name ++ "") := h.isName_append List.not_mem_nil
  rwa [String.append_empty] at happend

/-! ## Endings -/

/-- The last name of a path ends in a text. -/
def Path.EndsIn (path w : String) : Prop :=
  2 < w.length ∧ ∃ stem, (Path.names path).getLast? = some (stem ++ w)

theorem Path.EndsIn.join {path w : String} (h : Path.EndsIn path w) (directory : String) :
    Path.EndsIn (Path.join directory path) w := by
  obtain ⟨hlong, stem, hlast⟩ := h
  exact ⟨hlong, stem, Path.getLast?_names_join directory hlast⟩

theorem Path.endsIn_append (s : String) {w : String} (hlong : 2 < w.length)
    (hslash : '/' ∉ w.toList) : Path.EndsIn (s ++ w) w := by
  refine ⟨hlong, Path.getLast?_names_append s hslash ?_⟩
  rintro rfl
  cases hlong

/-- The place of a path ends in what its last name ends in. -/
theorem Path.EndsIn.place {path w : String} (h : Path.EndsIn path w) (d : Disk) :
    ∃ n, (d.place path).getLast? = some n ∧ w.toList <:+ n.toList := by
  obtain ⟨hlong, stem, hlast⟩ := h
  have hne : ∀ s : String, s.length ≤ 2 → stem ++ w ≠ s := by
    rintro s hs rfl
    rw [String.length_append] at hs
    omega
  refine ⟨_, Disk.getLast?_place hlast (hne "." (by decide)) (hne ".." (by decide)), ?_⟩
  rw [String.toList_append]
  exact List.suffix_append _ _

/-- Paths whose last names end in texts neither of which ends in the other lead to
    different places. -/
theorem Disk.place_ne_of_endsIn (d : Disk) {path path' w w' : String} (h : Path.EndsIn path w)
    (h' : Path.EndsIn path' w') (hw : ¬w.toList <:+ w'.toList) (hw' : ¬w'.toList <:+ w.toList) :
    d.place path ≠ d.place path' := by
  intro heq
  obtain ⟨n, hn, hsuffix⟩ := h.place d
  obtain ⟨n', hn', hsuffix'⟩ := h'.place d
  rw [heq, hn', Option.some.injEq] at hn
  subst hn
  exact (List.suffix_or_suffix_of_suffix hsuffix hsuffix').elim hw hw'

/-! ## Files of pages -/

namespace Page

theorem isName_of_mem_fileNames {page : String} (h : IsPageName page) {name : String}
    (hname : name ∈ fileNames page) : Path.IsName name := by
  simp only [fileNames, List.mem_cons, List.not_mem_nil, or_false] at hname
  rcases hname with rfl | rfl | rfl
  · exact h.isName_append (by decide)
  · exact h.isName_append (by decide)
  · rw [classFile, classStem, String.append_assoc]
    exact h.isName_append (by decide)

theorem nodup_fileNames (page : String) : (fileNames page).Nodup := by
  simp [fileNames, templateFile, stylesheetFile, classFile, classStem, String.append_assoc]

/-- A file of a page is known by its name. -/
theorem eq_of_mem_files {p : Page} {theme : String} {f g : String × String} (hf : f ∈ p.files theme)
    (hg : g ∈ p.files theme) (h : f.1 = g.1) : f = g := by
  have hnodup : ((p.files theme).map Prod.fst).Nodup := nodup_fileNames p.name
  exact List.inj_on_of_nodup_map hnodup hf hg h

theorem mem_fileNames_of_mem_files {p : Page} {theme : String} {f : String × String}
    (hf : f ∈ p.files theme) : f.1 ∈ fileNames p.name := by
  have hnames : (p.files theme).map Prod.fst = fileNames p.name := rfl
  exact hnames ▸ List.mem_map_of_mem hf

/-- What the name of a file of a page can end in. -/
def endings : List String := [".component.html", ".component.scss", ".component.ts"]

theorem endsIn_of_mem_fileNames {page name : String} (hname : name ∈ fileNames page) :
    ∃ w ∈ endings, Path.EndsIn name w := by
  simp only [fileNames, List.mem_cons, List.not_mem_nil, or_false] at hname
  rcases hname with rfl | rfl | rfl
  · exact ⟨".component.html", by decide, Path.endsIn_append page (by decide) (by decide)⟩
  · exact ⟨".component.scss", by decide, Path.endsIn_append page (by decide) (by decide)⟩
  · rw [classFile, classStem, String.append_assoc]
    exact ⟨".component.ts", by decide, Path.endsIn_append page (by decide) (by decide)⟩

/-- The place of a file of a page: below the output, in the directory of the page. -/
theorem place_file {page name : String} (h : IsPageName page) (hname : name ∈ fileNames page)
    (d : Disk) (output : String) :
    d.place (Path.join (Path.join output page) name) = d.place output ++ [page, name] := by
  rw [Disk.place_join _ (isName_of_mem_fileNames h hname), Disk.place_join _ h.isName,
    List.append_assoc]
  rfl

end Page

/-! ## Files of the barrel -/

namespace Barrel

/-- What the name of a file of the barrel can end in. -/
def endings : List String := [".module.ts", "public-api.ts", "app.routes.ts"]

theorem endsIn_moduleFile (module : String) : Path.EndsIn (moduleFile module) ".module.ts" :=
  Path.endsIn_append module (by decide) (by decide)

theorem endsIn_publicApiFile : Path.EndsIn publicApiFile "public-api.ts" :=
  Path.endsIn_append "" (by decide) (by decide)

theorem endsIn_routesFile : Path.EndsIn routesFile "app.routes.ts" :=
  Path.endsIn_append "" (by decide) (by decide)

theorem endsIn_of_mem_files {module : String} {ps : List Page} {f : String × String}
    (hf : f ∈ files module ps) : ∃ w ∈ endings, Path.EndsIn f.1 w := by
  simp only [files, List.mem_cons, List.not_mem_nil, or_false] at hf
  rcases hf with rfl | rfl | rfl
  · exact ⟨_, List.mem_cons_self, endsIn_moduleFile module⟩
  · exact ⟨_, by decide, endsIn_publicApiFile⟩
  · exact ⟨_, by decide, endsIn_routesFile⟩

/-- The files of the barrel are at different places. -/
theorem nodup_places (d : Disk) (output module : String) (ps : List Page) :
    ((files module ps).map fun f => d.place (Path.join output f.1)).Nodup := by
  have hmodule := (endsIn_moduleFile module).join output
  have hapi := endsIn_publicApiFile.join output
  have hroutes := endsIn_routesFile.join output
  simp only [files, List.map_cons, List.map_nil, List.nodup_cons, List.mem_cons, List.not_mem_nil,
    or_false, not_or, not_false_eq_true, List.nodup_nil, and_true]
  exact ⟨⟨d.place_ne_of_endsIn hmodule hapi (by decide) (by decide),
    d.place_ne_of_endsIn hmodule hroutes (by decide) (by decide)⟩,
    d.place_ne_of_endsIn hapi hroutes (by decide) (by decide)⟩

/-- No file of the barrel is where a file of a page is. -/
theorem place_ne_of_mem_files (d : Disk) {output module : String} {ps : List Page}
    {f : String × String} (hf : f ∈ files module ps) {page name directory : String}
    (hname : name ∈ Page.fileNames page) :
    d.place (Path.join output f.1) ≠ d.place (Path.join directory name) := by
  have hendings : ∀ w ∈ endings, ∀ w' ∈ Page.endings,
      ¬w.toList <:+ w'.toList ∧ ¬w'.toList <:+ w.toList := by decide
  obtain ⟨w, hw, hends⟩ := endsIn_of_mem_files hf
  obtain ⟨w', hw', hends'⟩ := Page.endsIn_of_mem_fileNames hname
  obtain ⟨h, h'⟩ := hendings w hw w' hw'
  exact d.place_ne_of_endsIn (hends.join output) (hends'.join directory) h h'

end Barrel

end Pagewright
