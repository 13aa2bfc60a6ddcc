import Wheelhouse.Proofs.Site.Packages
import Wheelhouse.Proofs.Site.Root

/-!
The files that an index is made of. A run removes the folder of its variant; all that it does then is to make
folders and to write pages, each at a place of its own: a page for each package, the page of the variant and
the root page. What it leaves on the disk follows from these steps.
-/

set_option autoImplicit false

namespace Wheelhouse.Index

-- Steps that make folders of a variant and write pages below a root, no two of them at one place.
inductive Writes (root : Path) (variant : String) (d₀ : Disk) : Disk → List (Path × String) → Prop
  | start : Writes root variant d₀ d₀ []
  | folder {d d' : Disk} {pages : List (Path × String)} {more : List String} (earlier : Writes root variant d₀ d pages)
      (gains : d.Gains d' (root ++ variant :: more)) : Writes root variant d₀ d' pages
  | page {d d' : Disk} {pages : List (Path × String)} (rel : Path) {text : String}
      (earlier : Writes root variant d₀ d pages) (new : ∀ text, (rel ++ [pageName], text) ∉ pages)
      (written : d.writeFile (root ++ (rel ++ [pageName])) (Text.encode text) = .ok d') :
      Writes root variant d₀ d' (pages ++ [(rel ++ [pageName], text)])

/-! ### What the steps leave -/

section

variable {d₀ d d' : Disk} {root : Path} {variant : String} {pages : List (Path × String)}

-- Wherever there is a file that is no page, it was there before.
def OnlyPages (d d' : Disk) : Prop :=
  ∀ p f contents, f ≠ pageName → d'.file? (p ++ [f]) = some contents → d.file? (p ++ [f]) = some contents

-- What a disk holds when some pages have been written.
structure Holds (d₀ d : Disk) (root : Path) (pages : List (Path × String)) : Prop where
  page : ∀ rel text, (rel, text) ∈ pages → d.file? (root ++ rel) = some (Text.encode text)
  only : OnlyPages d₀ d

theorem Holds.gains (h : Holds d₀ d root pages) {p : Path} (gains : d.Gains d' p) : Holds d₀ d' root pages where
  page rel text inside := by rw [gains.file?, h.page rel text inside]
  only p f contents other file := h.only p f contents other (by rwa [gains.file?] at file)

theorem Holds.write (h : Holds d₀ d root pages) (rel : Path) {text : String}
    (new : ∀ text, (rel ++ [pageName], text) ∉ pages)
    (written : d.writeFile (root ++ (rel ++ [pageName])) (Text.encode text) = .ok d') :
    Holds d₀ d' root (pages ++ [(rel ++ [pageName], text)]) := by
  obtain ⟨fits, rfl⟩ := Disk.writeFile_ok written
  have other {q : Path} (apart : q ≠ root ++ (rel ++ [pageName])) :
      (d.put (root ++ (rel ++ [pageName])) (.file (Text.encode text))).file? q = d.file? q :=
    Disk.file?_congr (by rw [Disk.find?_put fits, if_neg apart])
  constructor
  · intro rel' text' inside
    rcases List.mem_append.1 inside with old | last
    · have apart : rel' ≠ rel ++ [pageName] := by
        rintro rfl
        exact new text' old
      rw [other (by simpa using apart), h.page rel' text' old]
    · cases List.mem_singleton.1 last
      rw [Disk.file?, Disk.find?_put fits, if_pos rfl]
  · intro p f contents named file
    refine h.only p f contents named ?_
    rwa [other] at file
    rw [← List.append_assoc]
    exact fun same => named (List.cons.inj (List.append_inj' same rfl).2).1

-- What a disk holds when some pages have been written below a folder that was not there, all but the root
-- page in the folder of the variant.
structure Grown (d₀ d : Disk) (root : Path) (variant : String) (pages : List (Path × String)) : Prop where
  page : ∀ rel text, (rel, text) ∈ pages → d.find? (root ++ rel) = some (.file (Text.encode text))
  only : ∀ rel, d.file? (root ++ rel) ≠ none → ∃ text, (rel, text) ∈ pages
  kept : ∀ q, d₀.find? q ≠ none → d.find? q = d₀.find? q
  outside : ∀ q, ¬root <+: q → d.file? q = d₀.file? q
  inside : ∀ name rest, d.find? (root ++ name :: rest) ≠ none →
    name = variant ∨ ∃ text, (name :: rest, text) ∈ pages

namespace Grown

theorem gains {more : List String} (h : Grown d₀ d root variant pages) (gains : d.Gains d' (root ++ variant :: more)) :
    Grown d₀ d' root variant pages where
  page rel text member := by
    have there := h.page rel text member
    rw [gains.kept (by rw [there]; simp), there]
  only rel file := h.only rel (by rwa [gains.file?] at file)
  kept q found := by
    have same := h.kept q found
    rw [gains.kept (by rwa [same]), same]
  outside q apart := by rw [gains.file?, h.outside q apart]
  inside name rest found := by
    rcases gains (root ++ name :: rest) with same | ⟨_, _, before⟩
    · exact h.inside name rest (by rwa [same] at found)
    · exact .inl (List.cons_prefix_cons.1 ((List.prefix_append_right_inj root).1 before)).1

theorem write {rel : Path} {text : String} (h : Grown d₀ d root variant pages) (absent : d₀.find? root = none)
    (new : ∀ text, (rel, text) ∉ pages) (written : d.writeFile (root ++ rel) (Text.encode text) = .ok d') :
    Grown d₀ d' root variant (pages ++ [(rel, text)]) := by
  obtain ⟨taken, rfl⟩ := Disk.writeFile_ok written
  have other {q : Path} (apart : q ≠ root ++ rel) :
      (d.put (root ++ rel) (.file (Text.encode text))).find? q = d.find? q := by
    rw [Disk.find?_put taken, if_neg apart]
  have otherFile {q : Path} (apart : q ≠ root ++ rel) :
      (d.put (root ++ rel) (.file (Text.encode text))).file? q = d.file? q := by
    rw [Disk.file?, other apart, Disk.file?]
  have missing := Disk.find?_eq_none_below absent (List.prefix_append root rel)
  refine ⟨fun rel' text' member => ?_, fun rel' file => ?_, fun q found => ?_, fun q apart => ?_,
    fun name rest found => ?_⟩
  · rcases List.mem_append.1 member with old | last
    · have apart : rel' ≠ rel := by
        rintro rfl
        exact new text' old
      rw [other (by simpa using apart), h.page rel' text' old]
    · cases List.mem_singleton.1 last
      rw [Disk.find?_put taken, if_pos rfl]
  · by_cases same : rel' = rel
    · exact ⟨text, by rw [same]; simp⟩
    · rw [otherFile (by simpa using same)] at file
      obtain ⟨text', old⟩ := h.only rel' file
      exact ⟨text', List.mem_append_left _ old⟩
  · rw [other, h.kept q found]
    rintro rfl
    exact found missing
  · rw [otherFile, h.outside q apart]
    rintro rfl
    exact apart (List.prefix_append root rel)
  · by_cases same : name :: rest = rel
    · exact .inr ⟨text, by rw [same]; simp⟩
    · rw [other (by simpa using same)] at found
      rcases h.inside name rest found with here | ⟨text', old⟩
      · exact .inl here
      · exact .inr ⟨text', List.mem_append_left _ old⟩

end Grown

theorem grown_nil (absent : d₀.find? root = none)
    (same : ∀ q, d.find? q = d₀.find? q) : Grown d₀ d root variant [] := by
  have missing (rel : Path) := Disk.find?_eq_none_below absent (List.prefix_append root rel)
  refine ⟨fun _ _ member => ?_, fun rel file => ?_, fun q _ => same q, fun q _ => ?_, fun name rest found => ?_⟩
  · cases member
  · rw [Disk.file?, same, missing] at file
    exact absurd rfl file
  · rw [Disk.file?, same, Disk.file?]
  · exact absurd ((same _).trans (missing _)) found

theorem Writes.holds {d₁ : Disk} (h : Writes root variant d₁ d pages) (only : OnlyPages d₀ d₁) :
    Holds d₀ d root pages := by
  induction h with
  | start => exact ⟨fun _ _ inside => absurd inside List.not_mem_nil, only⟩
  | folder _ gains ih => exact ih.gains gains
  | page rel _ new written ih => exact ih.write rel new written

theorem Writes.grown {d₁ : Disk} (h : Writes root variant d₁ d pages) (absent : d₀.find? root = none)
    (same : ∀ q, d₁.find? q = d₀.find? q) : Grown d₀ d root variant pages := by
  induction h with
  | start => exact grown_nil absent same
  | folder _ gains ih => exact ih.gains gains
  | page _ _ new written ih => exact ih.write absent new written

theorem onlyPages_erase {p : Path} (filled : p ≠ []) : OnlyPages d (d.erase p) := by
  intro q f contents _ file
  have there := Disk.file?_eq_some_iff.1 file
  rw [Disk.find?_erase filled] at there
  split at there
  · cases there
  · exact Disk.file?_eq_some_iff.2 there

theorem find?_erase_of_absent {p : Path} (filled : p ≠ []) (absent : d.find? p = none) (q : Path) :
    (d.erase p).find? q = d.find? q := by
  rw [Disk.find?_erase filled]
  split_ifs with below
  · exact (Disk.find?_eq_none_below absent (List.isPrefixOf_iff_prefix.1 below)).symm
  · rfl

end

/-! ### The steps of a run -/

section

variable {wheels output root : Path} {options : IndexOptions} {w w' : Workspace} {d₀ d d₁ : Disk}
  {pages : List (Path × String)}

/-- The address of an archive on the page of its package, with the digest of what its file holds if that is
wanted. -/
def archiveHref (d : Disk) (wheels : Path) (options : IndexOptions) (f : String) : String :=
  archiveAddress options.baseUrl f ++
    if options.includeHashes then "#sha256=" ++ Sha256.hexDigest ((d.file? (wheels.bare ++ [f])).getD .empty) else ""

theorem digest_ok {p : Path} {digest : String} (read : d.digest p = .ok digest) :
    ∃ contents, d.file? p = some contents ∧ digest = Sha256.hexDigest contents := by
  unfold Disk.digest at read
  cases found : d.readFile p with
  | error e =>
    rw [found] at read
    cases read
  | ok contents =>
    rw [found] at read
    cases read
    exact ⟨contents, Disk.file?_eq_some_iff.2 (Disk.readFile_ok found).2, rfl⟩

theorem archiveLink_ok (only : OnlyPages d₀ w.disk) {a : Archive} (named : a.filename ≠ pageName) {l : Html.Link}
    (linked : archiveLink wheels options a w = .ok l w') :
    w' = w ∧ l = ⟨archiveHref d₀ wheels options a.filename, a.filename⟩ := by
  unfold archiveLink at linked
  unfold archiveHref
  split at linked
  · rename_i hashed
    obtain ⟨digest, v, looked, ended⟩ := Job.bind_ok_iff.1 linked
    obtain ⟨read, rfl⟩ := Job.look_ok_iff.1 looked
    cases ended
    obtain ⟨contents, file, rfl⟩ := digest_ok read
    have before := only _ _ contents named file
    rw [if_pos hashed, before, Option.getD_some, String.append_assoc]
    exact ⟨rfl, rfl⟩
  · rename_i bare
    cases linked
    rw [if_neg bare, String.append_empty]
    exact ⟨rfl, rfl⟩

theorem links_ok (only : OnlyPages d₀ w.disk) {archives : List Archive}
    (named : ∀ a ∈ archives, a.filename ≠ pageName) {links : List Html.Link}
    (linked : archives.mapM (archiveLink wheels options) w = .ok links w') :
    w' = w ∧ links = archives.map fun a => ⟨archiveHref d₀ wheels options a.filename, a.filename⟩ := by
  induction archives generalizing links w with
  | nil =>
    cases linked
    exact ⟨rfl, rfl⟩
  | cons a rest ih =>
    obtain ⟨l, v, others, first, later, rfl⟩ := Job.mapM_cons_ok_iff.1 linked
    obtain ⟨rfl, rfl⟩ := archiveLink_ok only (named a List.mem_cons_self) first
    obtain ⟨same, rfl⟩ := ih only (fun b inside => named b (List.mem_cons_of_mem _ inside)) later
    exact ⟨same, rfl⟩

-- The page of a package, and where it is.
def packagePage (d : Disk) (wheels : Path) (options : IndexOptions) (package : String × List Archive) : Path × String :=
  ([options.variant, package.1, pageName], Html.page ("Links for " ++ package.1)
    (package.2.map fun a => ⟨archiveHref d wheels options a.filename, a.filename⟩))

-- The page of the variant.
def variantPage (options : IndexOptions) (groups : List (String × List Archive)) : Path × String :=
  ([options.variant, pageName], Html.page (variantTitle options.variant options.labels)
    (groups.map fun g => Html.folderLink g.1))

def variantPages (d : Disk) (wheels : Path) (options : IndexOptions) (groups : List (String × List Archive)) :
    List (Path × String) :=
  groups.map (packagePage d wheels options) ++ [variantPage options groups]

theorem writePackage_ok {package : String × List Archive} {indexed : IndexedPackage}
    (filled : options.variant ≠ "") (named : package.1 ≠ "") (archives : ∀ a ∈ package.2, a.filename ≠ pageName)
    (only : OnlyPages d₀ d₁) (h : Writes root options.variant d₁ w.disk pages)
    (new : ∀ text, ([options.variant, package.1, pageName], text) ∉ pages)
    (written : writePackage wheels (root ++ [options.variant]) options package w = .ok indexed w') :
    indexed = ⟨package.1, package.2.map Archive.filename⟩ ∧
      Writes root options.variant d₁ w'.disk (pages ++ [packagePage d₀ wheels options package]) := by
  have folder : Path.child (root ++ [options.variant]) package.1 = (root ++ [options.variant]) ++ [package.1] := by
    rw [child_of_ne_empty filled, List.append_assoc]
    rfl
  have page := child_of_ne_empty (p := root ++ [options.variant]) named pageName
  unfold writePackage at written
  obtain ⟨links, w₁, linked, rest⟩ := Job.bind_ok_iff.1 written
  obtain ⟨rfl, rfl⟩ := links_ok (h.holds only).only archives linked
  simp only [folder, page] at rest
  obtain ⟨_, w₂, ensured, rest⟩ := Job.bind_ok_iff.1 rest
  obtain ⟨d, made, rfl⟩ := Job.change_ok_iff.1 ensured
  obtain ⟨_, w₃, put, rest⟩ := Job.bind_ok_iff.1 rest
  obtain ⟨d', text, rfl⟩ := Job.writeText_ok_iff.1 put
  cases rest
  have gains := Disk.gains_of_ensureFolder (.inl made)
  have flat : Path.bare (root ++ [options.variant] ++ [package.1]) = root ++ options.variant :: [package.1] := by
    rw [Path.bare_of_not_isMarked (by simp [Path.isMarked, named]), List.append_assoc]
    rfl
  rw [flat] at gains
  rw [List.append_assoc] at text
  exact ⟨rfl, .page [options.variant, package.1] (h.folder gains) new text⟩

theorem writePackages_ok {groups : List (String × List Archive)} {indexed : List IndexedPackage}
    (filled : options.variant ≠ "") (named : ∀ g ∈ groups, g.1 ≠ "")
    (archives : ∀ g ∈ groups, ∀ a ∈ g.2, a.filename ≠ pageName) (apart : (groups.map Prod.fst).Nodup)
    (only : OnlyPages d₀ d₁) (h : Writes root options.variant d₁ w.disk pages)
    (new : ∀ g ∈ groups, ∀ text, ([options.variant, g.1, pageName], text) ∉ pages)
    (written : groups.mapM (writePackage wheels (root ++ [options.variant]) options) w = .ok indexed w') :
    indexed = groups.map (fun g => ⟨g.1, g.2.map Archive.filename⟩) ∧
      Writes root options.variant d₁ w'.disk (pages ++ groups.map (packagePage d₀ wheels options)) := by
  induction groups generalizing pages w indexed with
  | nil =>
    cases written
    exact ⟨rfl, by rwa [List.map_nil, List.append_nil]⟩
  | cons g rest ih =>
    obtain ⟨alone, apart⟩ := List.nodup_cons.1 apart
    obtain ⟨_, v, others, first, later, rfl⟩ := Job.mapM_cons_ok_iff.1 written
    obtain ⟨rfl, writes⟩ := writePackage_ok filled (named g List.mem_cons_self) (archives g List.mem_cons_self) only h
      (new g List.mem_cons_self) first
    have fresh : ∀ g' ∈ rest, ∀ text, ([options.variant, g'.1, pageName], text) ∉
        pages ++ [packagePage d₀ wheels options g] := by
      intro g' inside text member
      rcases List.mem_append.1 member with old | last
      · exact new g' (List.mem_cons_of_mem _ inside) text old
      · have equal := congrArg Prod.fst (List.mem_singleton.1 last)
        simp only [packagePage, List.cons.injEq, true_and, and_true] at equal
        exact alone (equal ▸ List.mem_map_of_mem inside)
    obtain ⟨rfl, writes⟩ := ih (fun g' inside => named g' (List.mem_cons_of_mem _ inside))
      (fun g' inside => archives g' (List.mem_cons_of_mem _ inside)) apart writes fresh later
    exact ⟨rfl, by simpa using writes⟩

theorem writeVariant_ok {groups : List (String × List Archive)} {indexed : List IndexedPackage}
    (filled : options.variant ≠ "") (named : ∀ g ∈ groups, g.1 ≠ "")
    (archives : ∀ g ∈ groups, ∀ a ∈ g.2, a.filename ≠ pageName) (apart : (groups.map Prod.fst).Nodup)
    (written : writeVariant wheels output options groups w = .ok indexed w') :
    indexed = groups.map (fun g => ⟨g.1, g.2.map Archive.filename⟩) ∧
      Writes output.bare options.variant (w.disk.erase (output.bare ++ [options.variant])) w'.disk
        (variantPages w.disk wheels options groups) := by
  have flat : Path.bare (output.bare ++ [options.variant]) = output.bare ++ [options.variant] :=
    Path.bare_of_not_isMarked (by simp [Path.isMarked, filled])
  unfold writeVariant at written
  simp only [Path.child] at written
  obtain ⟨_, w₁, removed, rest⟩ := Job.bind_ok_iff.1 written
  obtain ⟨_, w₂, ensured, rest⟩ := Job.bind_ok_iff.1 rest
  obtain ⟨_, w₃, packages, rest⟩ := Job.bind_ok_iff.1 rest
  obtain ⟨_, w₄, put, rest⟩ := Job.bind_ok_iff.1 rest
  cases rest
  obtain ⟨d₁, erased, rfl⟩ := Job.change_ok_iff.1 removed
  obtain rfl := Disk.remove_ok (Disk.attempt_ok_iff.1 erased)
  obtain ⟨d₂, made, rfl⟩ := Job.change_ok_iff.1 ensured
  obtain ⟨d, text, rfl⟩ := Job.writeText_ok_iff.1 put
  have gains := Disk.gains_of_ensureFolder (.inl made)
  rw [flat] at gains text
  obtain ⟨rfl, writes⟩ := writePackages_ok filled named archives apart (onlyPages_erase (by simp))
    (Writes.start.folder gains) (fun _ _ _ => List.not_mem_nil) packages
  rw [List.append_assoc] at text
  refine ⟨rfl, .page [options.variant] writes ?_ text⟩
  intro text inside
  obtain ⟨g, _, same⟩ := List.mem_map.1 inside
  cases congrArg (fun page : Path × String => page.1.length) same

theorem length_of_mem_variantPages {groups : List (String × List Archive)} {page : Path × String}
    (inside : page ∈ variantPages d wheels options groups) : 2 ≤ page.1.length := by
  rcases List.mem_append.1 inside with package | last
  · obtain ⟨g, _, rfl⟩ := List.mem_map.1 package
    exact Nat.le_succ 2
  · rw [List.mem_singleton.1 last]
    exact Nat.le_refl 2

-- What a run says of the files that are no archives.
def report (filenames : List String) : Job Unit :=
  (unreadable filenames).forM fun f =>
    Job.warn "아카이브 파일명 파싱 실패, 인덱스에서 제외" [("filename", .string f)]

theorem isIdle_report (filenames : List String) : Job.IsIdle (report filenames) :=
  Job.isIdle_forM fun _ _ => Job.isIdle_record _

-- What a run reports, and what it has done.
theorem run_report {result : IndexResult} (generated : run wheels output options w = .ok result w') :
    isVariant options.variant = true ∧ ∃ filenames indexed names v v₁ v₂, w.disk.listFiles wheels = .ok filenames ∧
      v.disk = w.disk ∧ writeVariant wheels output options (packages filenames) v = .ok indexed v₁ ∧
      writeRoot output v₁ = .ok names v₂ ∧ w'.disk = v₂.disk ∧
      result = ⟨output, options.variant, names, indexed, countArchives (packages filenames),
        unreadable filenames⟩ := by
  unfold run at generated
  by_cases proper : isVariant options.variant = true
  · rw [if_pos proper] at generated
    beta_reduce at generated
    rw [Job.bind_ok (Job.has_run wheels w)] at generated
    by_cases there : w.disk.has wheels = true
    · rw [there, if_pos rfl] at generated
      beta_reduce at generated
      obtain ⟨filenames, w₁, looked, rest⟩ := Job.bind_ok_iff.1 generated
      obtain ⟨listed, rfl⟩ := Job.look_ok_iff.1 looked
      simp only at rest
      obtain ⟨_, w₂, reported, rest⟩ := Job.bind_ok_iff.1 rest
      obtain ⟨indexed, w₃, variantPages, rest⟩ := Job.bind_ok_iff.1 rest
      obtain ⟨names, w₄, root, rest⟩ := Job.bind_ok_iff.1 rest
      obtain ⟨_, w₅, noted, rest⟩ := Job.bind_ok_iff.1 rest
      cases noted
      cases rest
      obtain ⟨_, v, ran, same⟩ := isIdle_report filenames w₁
      cases reported.symm.trans ran
      exact ⟨proper, filenames, indexed, names, _, _, _, listed, same, variantPages, root, rfl, rfl⟩
    · rw [Bool.not_eq_true] at there
      rw [there] at generated
      obtain ⟨_, _, thrown, _⟩ := Job.bind_ok_iff.1 generated
      cases thrown
  · rw [if_neg proper] at generated
    obtain ⟨_, _, thrown, _⟩ := Job.bind_ok_iff.1 generated
    cases thrown

theorem run_parts {result : IndexResult} (generated : run wheels output options w = .ok result w') :
    isVariant options.variant = true ∧ ∃ filenames indexed names v v₁ v₂, w.disk.listFiles wheels = .ok filenames ∧
      v.disk = w.disk ∧ writeVariant wheels output options (packages filenames) v = .ok indexed v₁ ∧
      writeRoot output v₁ = .ok names v₂ ∧ w'.disk = v₂.disk := by
  obtain ⟨proper, filenames, indexed, names, v, v₁, v₂, listed, same, variantPages, root, ended, _⟩ :=
    run_report generated
  exact ⟨proper, filenames, indexed, names, v, v₁, v₂, listed, same, variantPages, root, ended⟩

theorem run_of_parts {filenames names : List String} {indexed : List IndexedPackage} {v v₁ v₂ : Workspace}
    (proper : isVariant options.variant = true) (listed : w.disk.listFiles wheels = .ok filenames)
    (reported : report filenames w = .ok () v)
    (written : writeVariant wheels output options (packages filenames) v = .ok indexed v₁)
    (root : writeRoot output v₁ = .ok names v₂) :
    ∃ result w', run wheels output options w = .ok result w' ∧ w'.disk = v₂.disk := by
  unfold report at reported
  unfold run
  rw [if_pos proper]
  beta_reduce
  rw [Job.bind_ok (Job.has_run wheels w), if_pos (Disk.has_of_listFiles listed)]
  beta_reduce
  rw [Job.bind_ok (Job.look_ok_iff.2 ⟨listed, rfl⟩)]
  simp only
  rw [Job.bind_ok reported, Job.bind_ok written, Job.bind_ok root, Job.bind_ok (Job.info_run _ _ _)]
  exact ⟨_, _, rfl, rfl⟩

-- A run succeeds if the pages of its variant can be written, and the root page can be put beside them.
theorem exists_run {filenames : List String} {indexed : List IndexedPackage} {v v₁ : Workspace}
    (proper : isVariant options.variant = true) (listed : w.disk.listFiles wheels = .ok filenames)
    (reported : report filenames w = .ok () v)
    (written : writeVariant wheels output options (packages filenames) v = .ok indexed v₁)
    (there : v₁.disk.find? output.bare = some .folder) (fits : v₁.disk.takes (output.child pageName) = true)
    (named : (output.child pageName).namesFile = true) : ∃ result w', run wheels output options w = .ok result w' := by
  obtain ⟨v₂, root, _⟩ := writeRoot_ok_iff.2 ⟨variants_eq there, Disk.writeFile_ok_iff.2 ⟨fits, named, rfl⟩⟩
  obtain ⟨result, w', ran, _⟩ := run_of_parts proper listed reported written root
  exact ⟨result, w', ran⟩

theorem ne_empty_of_isVariant (proper : isVariant options.variant = true) : options.variant ≠ "" := by
  simp only [isVariant, Bool.and_eq_true, bne_iff_ne] at proper
  exact proper.1.1.1

-- A run that succeeds has taken these steps, the root page last.
theorem run_writes {result : IndexResult} (generated : run wheels output options w = .ok result w') :
    isVariant options.variant = true ∧ ∃ filenames names v, w.disk.listFiles wheels = .ok filenames ∧
      Writes output.bare options.variant (w.disk.erase (output.bare ++ [options.variant])) v
        (variantPages w.disk wheels options (packages filenames)) ∧
      variants v output = .ok names ∧
      Writes output.bare options.variant (w.disk.erase (output.bare ++ [options.variant])) w'.disk
        (variantPages w.disk wheels options (packages filenames) ++ [rootPage names]) ∧
      result = ⟨output, options.variant, names,
        (packages filenames).map (fun g => ⟨g.1, g.2.map Archive.filename⟩), countArchives (packages filenames),
        unreadable filenames⟩ := by
  obtain ⟨proper, filenames, indexed, names, v, v₁, v₂, listed, same, variantPages, root, ended, rfl⟩ :=
    run_report generated
  obtain ⟨rfl, writes⟩ := writeVariant_ok (ne_empty_of_isVariant proper)
    (fun g inside => ne_empty_of_mem_packages inside) (fun g inside a => filename_ne_pageName inside)
    (nodup_packages filenames) variantPages
  rw [same] at writes
  obtain ⟨found, text⟩ := writeRoot_ok_iff.1 ⟨v₂, root, rfl⟩
  rw [← ended] at text
  refine ⟨proper, filenames, names, v₁.disk, listed, writes, found, .page [] writes ?_ text, rfl⟩
  intro text inside
  exact absurd (length_of_mem_variantPages inside) (by simp)

-- All pages of a run into a new folder. The only variant is that of the run, since nothing else was there.
def IsSite (d : Disk) (wheels : Path) (options : IndexOptions) (groups : List (String × List Archive))
    (pages : List (Path × String)) : Prop :=
  ∃ names, (∀ name ∈ names, name = options.variant) ∧
    pages = variantPages d wheels options groups ++ [rootPage names]

theorem variants_ok {d₀ d : Disk} {names : List String} (h : Grown d₀ d output.bare options.variant pages)
    (deep : ∀ page ∈ pages, 2 ≤ page.1.length) (listed : variants d output = .ok names) :
    ∀ name ∈ names, name = options.variant := by
  intro name inside
  have folder := (((mem_variants listed).2 name).1 inside).1
  refine (h.inside name [] (by rw [folder]; simp)).resolve_right ?_
  rintro ⟨text, page⟩
  exact absurd (deep _ page) (by simp)

-- A run into a new folder has written the pages of the archives that it found, and nothing else.
theorem run_ok {result : IndexResult} (absent : w.disk.find? output.bare = none)
    (generated : run wheels output options w = .ok result w') :
    isVariant options.variant = true ∧ ∃ filenames pages, w.disk.listFiles wheels = .ok filenames ∧
      IsSite w.disk wheels options (packages filenames) pages ∧
      Grown w.disk w'.disk output.bare options.variant pages := by
  obtain ⟨proper, filenames, names, v, listed, earlier, found, writes, _⟩ := run_writes generated
  have untouched := find?_erase_of_absent (p := output.bare ++ [options.variant]) (by simp)
    (Disk.find?_eq_none_below absent (List.prefix_append _ _))
  have only := variants_ok (earlier.grown absent untouched) (fun _ => length_of_mem_variantPages) found
  exact ⟨proper, filenames, _, listed, ⟨names, only, rfl⟩, writes.grown absent untouched⟩

end

end Wheelhouse.Index
