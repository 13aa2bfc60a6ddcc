import Wheelhouse.Proofs.Publish.Planned
import Wheelhouse.Proofs.Site.Address
import Wheelhouse.Proofs.Site.Html
import Wheelhouse.Proofs.Site.Pages
import Wheelhouse.Store.Folder

/-!
Sites without dead links. What a publication puts under a destination is closed: every address on a page of
the index leads to an archive or to a folder with a page under the same destination, and every archive is
listed on the page of one package.
-/

set_option autoImplicit false

namespace Wheelhouse

namespace Index

section

variable {d : Disk} {wheels base : Path} {options : IndexOptions} {groups : List (String × List Archive)}
  {pages : List (Path × String)} {page : Path × String}

theorem IsSite.cases (site : IsSite d wheels options groups pages) (inside : page ∈ pages) :
    (∃ g ∈ groups, page = packagePage d wheels options g) ∨ page = variantPage options groups ∨
      ∃ names, (∀ name ∈ names, name = options.variant) ∧ page = rootPage names := by
  obtain ⟨names, only, rfl⟩ := site
  rcases List.mem_append.1 inside with earlier | last
  · rcases List.mem_append.1 earlier with package | last
    · obtain ⟨g, group, rfl⟩ := List.mem_map.1 package
      exact .inl ⟨g, group, rfl⟩
    · exact .inr (.inl (List.mem_singleton.1 last))
  · exact .inr (.inr ⟨names, only, List.mem_singleton.1 last⟩)

theorem IsSite.package (site : IsSite d wheels options groups pages) {g : String × List Archive}
    (inside : g ∈ groups) : packagePage d wheels options g ∈ pages := by
  obtain ⟨names, _, rfl⟩ := site
  exact List.mem_append_left _ (List.mem_append_left _ (List.mem_map_of_mem inside))

theorem IsSite.variant (site : IsSite d wheels options groups pages) : variantPage options groups ∈ pages := by
  obtain ⟨names, _, rfl⟩ := site
  simp [variantPages]

theorem IsSite.root (site : IsSite d wheels options groups pages) : ∃ names, rootPage names ∈ pages := by
  obtain ⟨names, _, rfl⟩ := site
  exact ⟨names, by simp⟩

theorem archiveAddress_eq {baseUrl : Option String} (unbased : baseUrl.getD "" = "") (f : String) :
    archiveAddress baseUrl f = "../../" ++ Text.percentEncode f := by
  cases baseUrl with
  | none => rfl
  | some address =>
    change address = "" at unbased
    rw [archiveAddress, unbased]
    rfl

theorem target?_archive (unbased : options.baseUrl.getD "" = "") {variant package name f : String}
    (unbroken : ∀ n ∈ base ++ [variant, package, name], '/' ∉ n.toList) (plain : Path.IsPlain [f]) :
    Html.target? (Text.joined "/" (base ++ [variant, package, name])) (archiveHref d wheels options f) =
      some (Text.joined "/" (base ++ [f])) := by
  rw [archiveHref, archiveAddress_eq unbased]
  refine Html.target?_above unbroken plain ?_
  split
  · exact .inr ⟨"sha256=" ++ Sha256.hexDigest _, rfl⟩
  · exact .inl rfl

-- The page of a package leads to its archives.
theorem leads_package {g : String × List Archive} (unbased : options.baseUrl.getD "" = "")
    (unbroken : ∀ n ∈ base ++ (packagePage d wheels options g).1, '/' ∉ n.toList)
    (plain : ∀ a ∈ g.2, Path.IsPlain [a.filename]) :
    (∀ href ∈ Html.hrefs (packagePage d wheels options g).2.toList, ∃ a ∈ g.2,
      Html.target? (Text.joined "/" (base ++ (packagePage d wheels options g).1)) href =
        some (Text.joined "/" (base ++ [a.filename]))) ∧
    ∀ a ∈ g.2, ∃ href ∈ Html.hrefs (packagePage d wheels options g).2.toList,
      Html.target? (Text.joined "/" (base ++ (packagePage d wheels options g).1)) href =
        some (Text.joined "/" (base ++ [a.filename])) := by
  simp only [packagePage, Html.hrefs_page, List.map_map]
  constructor
  · intro href inside
    obtain ⟨a, listed, rfl⟩ := List.mem_map.1 inside
    exact ⟨a, listed, target?_archive unbased unbroken (plain a listed)⟩
  · intro a listed
    exact ⟨_, List.mem_map_of_mem listed, target?_archive unbased unbroken (plain a listed)⟩

-- A page of folders leads to the folders beside it.
theorem leads_folders {title name href : String} {names : List String}
    (inside : href ∈ Html.hrefs (Html.page title (names.map Html.folderLink)).toList)
    (unbroken : ∀ n ∈ base ++ [name], '/' ∉ n.toList) (plain : Path.IsPlain names) :
    href.toList.getLast? = some '/' ∧ ∃ folder ∈ names,
      Html.target? (Text.joined "/" (base ++ [name])) href = some (Text.joined "/" (base ++ [folder, ""])) := by
  rw [Html.hrefs_page, List.map_map] at inside
  obtain ⟨folder, member, rfl⟩ := List.mem_map.1 inside
  refine ⟨?_, folder, member, Html.target?_folder unbroken ?_⟩
  · change (Text.percentEncode folder ++ "/").toList.getLast? = some '/'
    rw [String.toList_append]
    exact List.getLast?_concat
  · intro n single
    rw [List.mem_singleton.1 single]
    exact plain folder member

-- A generation leaves the archives alone, wherever its output is.
theorem Grown.file?_wheels {d₀ d : Disk} {root wheels : Path} {variant : String} (h : Grown d₀ d root variant pages)
    (absent : d₀.find? root = none) (filled : ∀ page ∈ pages, page.1 ≠ []) (there : d₀.find? wheels = some .folder)
    (f : String) : (d.file? (wheels ++ [f]) ≠ none ↔ d₀.file? (wheels ++ [f]) ≠ none) ∧
      (d.file? (wheels ++ [f]) ≠ none → ¬root <+: wheels ++ [f]) := by
  have apart (file : d.file? (wheels ++ [f]) ≠ none) : ¬root <+: wheels ++ [f] := by
    intro before
    rcases List.prefix_concat_iff.1 before with same | above
    · obtain ⟨text, page⟩ := h.only [] (by rwa [List.append_nil, same])
      exact filled _ page rfl
    · rw [Disk.find?_eq_none_below absent above] at there
      cases there
  refine ⟨⟨fun file => ?_, fun file => ?_⟩, apart⟩
  · rwa [← h.outside _ (apart file)]
  · rwa [Disk.file?, h.kept _ (Disk.found_of_file? file)]

end

end Index

namespace Publish

-- An address stands on a page that is to be put.
def IsOn (d : Disk) (page : PlannedObject) (href : String) : Prop :=
  ∃ contents, d.file? page.file = some contents ∧ href ∈ Html.hrefs (Text.decode contents).toList

def LeadsTo (d : Disk) (page : PlannedObject) (key : String) : Prop :=
  ∃ href, IsOn d page href ∧ Html.target? page.key href = some key

structure IsClosed (d : Disk) (wheels index : Path) (variant : String) (destinations : List String)
    (objects : List PlannedObject) : Prop where
  whole : ∀ destination ∈ destinations, ∀ rel, d.file? (index.bare ++ rel) ≠ none →
    ∃ page ∈ objects, page.destination = destination ∧ page.file = index.bare ++ rel
  leads : ∀ page ∈ objects, index.bare <+: page.file → ∀ href, IsOn d page href →
    ∃ key, Html.target? page.key href = some key ∧ ∃ o ∈ objects, o.destination = page.destination ∧
      ((o.file.dropLast = wheels.bare ∧ o.key = key) ∨
        (href.toList.getLast? = some '/' ∧ index.bare <+: o.file ∧ o.key = key ++ "index.html"))
  listed : ∀ archive ∈ objects, archive.file.dropLast = wheels.bare →
    ∃ page ∈ objects, page.destination = archive.destination ∧
      (∃ package, page.file = index.bare ++ [variant, package, "index.html"]) ∧ LeadsTo d page archive.key ∧
      ∀ other ∈ objects, other.destination = archive.destination → index.bare <+: other.file →
        LeadsTo d other archive.key → other = page

section

open Index

variable {d₀ d : Disk} {wheels output : Path} {options : IndexOptions} {filenames : List String}
  {pages : List (Path × String)} {remote : Remote} {sources : Sources} {destinations : List String}

-- What a generation leaves behind, with its archives.
structure IsGenerated (d₀ d : Disk) (wheels output : Path) (options : IndexOptions) (filenames : List String)
    (pages : List (Path × String)) : Prop where
  unbased : options.baseUrl.getD "" = ""
  absent : d₀.find? output.bare = none
  listed : d₀.listFiles wheels = .ok filenames
  site : IsSite d₀ wheels options (packages filenames) pages
  grown : Grown d₀ d output.bare options.variant pages

namespace IsGenerated

theorem filled (h : IsGenerated d₀ d wheels output options filenames pages) : ∀ page ∈ pages, page.1 ≠ [] := by
  intro page inside
  rcases h.site.cases inside with ⟨g, _, rfl⟩ | rfl | ⟨names, _, rfl⟩ <;> exact List.cons_ne_nil _ _

theorem isPlain_page (h : IsGenerated d₀ d wheels output options filenames pages) {page : Path × String}
    (inside : page ∈ pages) : page.1.IsPlain :=
  (Disk.isPlain_of_find? (d := d) (by rw [h.grown.page _ _ inside]; simp)).right

-- The archives that are to be put are those that the index was made from.
theorem mem_filenames_iff (h : IsGenerated d₀ d wheels output options filenames pages) {f : String} :
    f ∈ filenames ↔ d.file? (wheels.bare ++ [f]) ≠ none := by
  obtain ⟨there, found⟩ := Disk.mem_of_listFiles h.listed
  rw [found, (h.grown.file?_wheels h.absent h.filled there f).1]

theorem isPlain_filename (h : IsGenerated d₀ d wheels output options filenames pages) {f : String}
    (inside : f ∈ filenames) : Path.IsPlain [f] := (Disk.isPlain_of_file? (h.mem_filenames_iff.1 inside)).right

theorem unbroken (h : IsGenerated d₀ d wheels output options filenames pages) {base : Path}
    (slashless : ∀ n ∈ base, '/' ∉ n.toList) {page : Path × String} (inside : page ∈ pages) :
    ∀ n ∈ base ++ page.1, '/' ∉ n.toList := by
  intro n member
  rcases List.mem_append.1 member with above | below
  · exact slashless n above
  · exact (h.isPlain_page inside n below).2.2.2

theorem isPlain_package (h : IsGenerated d₀ d wheels output options filenames pages) :
    Path.IsPlain ((packages filenames).map Prod.fst) := by
  intro name inside
  obtain ⟨g, group, rfl⟩ := List.mem_map.1 inside
  exact h.isPlain_page (h.site.package group) g.1 (by simp [packagePage])

theorem isPlain_variant (h : IsGenerated d₀ d wheels output options filenames pages) :
    Path.IsPlain [options.variant] := by
  intro name inside
  exact h.isPlain_page h.site.variant name (by simp [variantPage, List.mem_singleton.1 inside])

theorem leads_variant (h : IsGenerated d₀ d wheels output options filenames pages) {base : Path}
    (slashless : ∀ n ∈ base, '/' ∉ n.toList) {href : String}
    (inside : href ∈ Html.hrefs (variantPage options (packages filenames)).2.toList) :
    href.toList.getLast? = some '/' ∧ ∃ g ∈ packages filenames,
      Html.target? (Text.joined "/" (base ++ [options.variant, pageName])) href =
        some (Text.joined "/" (base ++ [options.variant, g.1, ""])) := by
  have unbroken := h.unbroken slashless h.site.variant
  have links : (packages filenames).map (fun g => Html.folderLink g.1) =
      ((packages filenames).map Prod.fst).map Html.folderLink := by simp
  rw [variantPage, links] at inside
  rw [variantPage, List.append_cons] at unbroken
  obtain ⟨slash, folder, member, target⟩ := leads_folders inside unbroken h.isPlain_package
  obtain ⟨g, group, rfl⟩ := List.mem_map.1 member
  rw [List.append_assoc, List.append_assoc] at target
  exact ⟨slash, g, group, target⟩

theorem leads_root (h : IsGenerated d₀ d wheels output options filenames pages) {base : Path}
    (slashless : ∀ n ∈ base, '/' ∉ n.toList) {names : List String} (only : ∀ name ∈ names, name = options.variant)
    (member : rootPage names ∈ pages) {href : String} (inside : href ∈ Html.hrefs (rootPage names).2.toList) :
    href.toList.getLast? = some '/' ∧
      Html.target? (Text.joined "/" (base ++ [pageName])) href =
        some (Text.joined "/" (base ++ [options.variant, ""])) := by
  have plain : Path.IsPlain names := by
    intro name listed
    rw [only name listed]
    exact h.isPlain_variant _ (by simp)
  obtain ⟨slash, folder, listed, target⟩ := leads_folders inside (h.unbroken slashless member) plain
  rw [only folder listed] at target
  exact ⟨slash, target⟩

-- Every address leads to an archive or to a folder with a page.
theorem leads_page (h : IsGenerated d₀ d wheels output options filenames pages) {base : Path}
    (slashless : ∀ n ∈ base, '/' ∉ n.toList) {page : Path × String} (member : page ∈ pages) {href : String}
    (inside : href ∈ Html.hrefs page.2.toList) :
    ∃ key, Html.target? (Text.joined "/" (base ++ page.1)) href = some key ∧
      ((∃ f ∈ filenames, (Archive.parse? f).isSome = true ∧ key = Text.joined "/" (base ++ [f])) ∨
        (href.toList.getLast? = some '/' ∧ ∃ next ∈ pages, key ++ pageName = Text.joined "/" (base ++ next.1))) := by
  rcases h.site.cases member with ⟨g, group, rfl⟩ | rfl | ⟨names, only, rfl⟩
  · have plain (a : Archive) (listed : a ∈ g.2) := h.isPlain_filename (of_mem_packages group listed).1
    obtain ⟨a, listed, target⟩ := (leads_package h.unbased (h.unbroken slashless member) plain).1 href inside
    obtain ⟨file, parsed, _⟩ := of_mem_packages group listed
    exact ⟨_, target, .inl ⟨a.filename, file, by rw [parsed]; rfl, rfl⟩⟩
  · obtain ⟨slash, g, group, target⟩ := h.leads_variant slashless inside
    refine ⟨_, target, .inr ⟨slash, _, h.site.package group, ?_⟩⟩
    have key := Text.joined_concat_append (base ++ [options.variant, g.1]) pageName
    rwa [List.append_assoc, List.append_assoc] at key
  · obtain ⟨slash, target⟩ := h.leads_root slashless only member inside
    refine ⟨_, target, .inr ⟨slash, _, h.site.variant, ?_⟩⟩
    have key := Text.joined_concat_append (base ++ [options.variant]) pageName
    rwa [List.append_assoc, List.append_assoc] at key

-- The page of its package leads to an archive, and no other page does.
theorem page_of_archive (h : IsGenerated d₀ d wheels output options filenames pages) {base : Path}
    (slashless : ∀ n ∈ base, '/' ∉ n.toList) {f : String} {a : Archive} (file : f ∈ filenames)
    (parsed : Archive.parse? f = some a) :
    ∃ page ∈ pages, page.1 = [options.variant, a.normalizedName, pageName] ∧
      ∃ href ∈ Html.hrefs page.2.toList,
        Html.target? (Text.joined "/" (base ++ page.1)) href = some (Text.joined "/" (base ++ [f])) := by
  obtain ⟨members, group, listed⟩ := isListed_packages.2 ⟨List.mem_filterMap.2 ⟨f, file, parsed⟩, rfl⟩
  have inside := h.site.package group
  have plain (b : Archive) (other : b ∈ members) := h.isPlain_filename (of_mem_packages group other).1
  have target := (leads_package h.unbased (h.unbroken slashless inside) plain).2 a listed
  rw [(Archive.of_parse? parsed).1] at target
  exact ⟨_, inside, rfl, target⟩

theorem page_of_leads (h : IsGenerated d₀ d wheels output options filenames pages) {base : Path}
    (slashless : ∀ n ∈ base, '/' ∉ n.toList) {page : Path × String} (member : page ∈ pages) {href f : String}
    {a : Archive} (inside : href ∈ Html.hrefs page.2.toList) (file : f ∈ filenames) (parsed : Archive.parse? f = some a)
    (leads : Html.target? (Text.joined "/" (base ++ page.1)) href = some (Text.joined "/" (base ++ [f]))) :
    page.1 = [options.variant, a.normalizedName, pageName] := by
  have single : ∀ n ∈ [f], '/' ∉ n.toList := fun n here => (h.isPlain_filename file n here).2.2.2
  -- A key of a folder is never the key of an archive.
  have notFolder (above : Path) (slash : ∀ n ∈ above, '/' ∉ n.toList)
      (target : Html.target? (Text.joined "/" (base ++ page.1)) href = some (Text.joined "/" (base ++ (above ++ [""])))) :
      False := by
    rw [leads, Option.some.injEq] at target
    have same := Path.joined_append_inj slashless (by simp) (by simp) single
      (fun n here => (List.mem_append.1 here).elim (slash n) fun last => by simp [List.mem_singleton.1 last]) target
    have last := congrArg List.getLast? same
    rw [List.getLast?_concat, List.getLast?_singleton, Option.some.injEq] at last
    exact (h.isPlain_filename file f (List.mem_singleton.2 rfl)).1 last
  rcases h.site.cases member with ⟨g, group, rfl⟩ | rfl | ⟨names, only, rfl⟩
  · have plain (b : Archive) (listed : b ∈ g.2) := h.isPlain_filename (of_mem_packages group listed).1
    obtain ⟨b, listed, target⟩ := (leads_package h.unbased (h.unbroken slashless member) plain).1 href inside
    rw [leads, Option.some.injEq] at target
    have same := Path.joined_append_inj slashless (by simp) (by simp) single
      (fun n here => (plain b listed n here).2.2.2) target
    obtain ⟨_, parsed', name⟩ := of_mem_packages group listed
    rw [← List.singleton_inj.1 same, parsed, Option.some.injEq] at parsed'
    rw [packagePage, parsed', name]
  · obtain ⟨_, g, group, target⟩ := h.leads_variant slashless inside
    have plain := h.isPlain_package g.1 (List.mem_map_of_mem group)
    refine (notFolder [options.variant, g.1] ?_ target).elim
    intro n here
    rcases List.mem_cons.1 here with rfl | here
    · exact (h.isPlain_variant _ (List.mem_singleton.2 rfl)).2.2.2
    · rw [List.mem_singleton.1 here]
      exact plain.2.2.2
  · obtain ⟨_, target⟩ := h.leads_root slashless only member inside
    exact (notFolder [options.variant] (fun n here => (h.isPlain_variant n here).2.2.2) target).elim

-- The pages are the files below the output, as they were written.
theorem file?_eq (h : IsGenerated d₀ d wheels output options filenames pages) {page : Path × String}
    (inside : page ∈ pages) : d.file? (output.bare ++ page.1) = some (Text.encode page.2) :=
  Disk.file?_eq_some_iff.2 (h.grown.page _ _ inside)

theorem isOn_iff (h : IsGenerated d₀ d wheels output options filenames pages) {page : Path × String}
    (inside : page ∈ pages) {destination href : String} :
    IsOn d (placed remote.scope destination output page.1) href ↔ href ∈ Html.hrefs page.2.toList := by
  have file : d.file? (placed remote.scope destination output page.1).file = some (Text.encode page.2) :=
    h.file?_eq inside
  unfold IsOn
  rw [file]
  constructor
  · rintro ⟨contents, same, stands⟩
    rwa [← Option.some.inj same, Text.decode_encode] at stands
  · intro stands
    exact ⟨_, rfl, by rwa [Text.decode_encode]⟩

-- What is put for a destination: the archives that the index was made from, and its pages.
theorem mem_planned_iff (h : IsGenerated d₀ d wheels output options filenames pages)
    (archives : uploadable d wheels = .ok sources.archives)
    (walked : d.listFilesRecursive output = .ok sources.indexFiles) {o : PlannedObject} :
    o ∈ objects (plan remote wheels output destinations sources) ↔ ∃ destination ∈ destinations,
      (∃ f ∈ filenames, (Archive.parse? f).isSome = true ∧ o = placed remote.scope destination wheels [f]) ∨
        ∃ page ∈ pages, o = placed remote.scope destination output page.1 := by
  rw [mem_planned archives walked]
  refine exists_congr fun destination => and_congr_right fun _ => or_congr ?_ ?_
  · simp only [h.mem_filenames_iff]
  · constructor
    · rintro ⟨rel, _, file, rfl⟩
      obtain ⟨text, inside⟩ := h.grown.only rel file
      exact ⟨_, inside, rfl⟩
    · rintro ⟨page, inside, rfl⟩
      exact ⟨page.1, h.filled page inside, by rw [h.file?_eq inside]; simp, rfl⟩

-- An archive does not lie below the output, and a page does not lie beside the archives.
theorem not_above_archive (h : IsGenerated d₀ d wheels output options filenames pages) {f : String}
    (inside : f ∈ filenames) : ¬output.bare <+: wheels.bare ++ [f] := by
  have there := (Disk.mem_of_listFiles h.listed).1
  exact (h.grown.file?_wheels h.absent h.filled there f).2 (h.mem_filenames_iff.1 inside)

theorem dropLast_page_ne (h : IsGenerated d₀ d wheels output options filenames pages) {page : Path × String}
    (inside : page ∈ pages) : (output.bare ++ page.1).dropLast ≠ wheels.bare := by
  intro same
  have there := (Disk.mem_of_listFiles h.listed).1
  rw [List.dropLast_append_of_ne_nil (h.filled page inside)] at same
  rw [← same, Disk.find?_eq_none_below h.absent (List.prefix_append _ _)] at there
  cases there

theorem isClosed (h : IsGenerated d₀ d wheels output options filenames pages)
    (archives : uploadable d wheels = .ok sources.archives)
    (walked : d.listFilesRecursive output = .ok sources.indexFiles) :
    IsClosed d wheels output options.variant destinations
      (objects (plan remote wheels output destinations sources)) := by
  have planned {o : PlannedObject} : o ∈ objects (plan remote wheels output destinations sources) ↔ _ :=
    h.mem_planned_iff archives walked
  have slashless (destination : String) : ∀ n ∈ ObjectKey.segments [remote.scope, destination], '/' ∉ n.toList :=
    fun n inside => ObjectKey.slash_not_mem_of_mem_segments inside
  refine ⟨?_, ?_, ?_⟩
  · intro destination accepted rel file
    obtain ⟨text, inside⟩ := h.grown.only rel file
    exact ⟨_, planned.2 ⟨destination, accepted, .inr ⟨_, inside, rfl⟩⟩, rfl, rfl⟩
  · intro o member before href stands
    obtain ⟨destination, accepted, ⟨f, file, _, rfl⟩ | ⟨page, inside, rfl⟩⟩ := planned.1 member
    · exact absurd before (h.not_above_archive file)
    · obtain ⟨key, target, ⟨f, file, readable, rfl⟩ | ⟨slash, next, there, same⟩⟩ :=
        h.leads_page (slashless destination) inside ((h.isOn_iff inside).1 stands)
      · refine ⟨_, target, _, planned.2 ⟨destination, accepted, .inl ⟨f, file, readable, rfl⟩⟩, rfl, .inl ⟨?_, rfl⟩⟩
        exact List.dropLast_concat
      · refine ⟨key, target, _, planned.2 ⟨destination, accepted, .inr ⟨next, there, rfl⟩⟩, rfl, .inr ⟨slash, ?_, ?_⟩⟩
        · exact List.prefix_append _ _
        · exact same.symm
  · intro o member beside
    obtain ⟨destination, accepted, ⟨f, file, readable, rfl⟩ | ⟨page, inside, rfl⟩⟩ := planned.1 member
    · obtain ⟨a, parsed⟩ := Option.isSome_iff_exists.1 readable
      obtain ⟨page, inside, place, href, stands, target⟩ := h.page_of_archive (slashless destination) file parsed
      refine ⟨_, planned.2 ⟨destination, accepted, .inr ⟨page, inside, rfl⟩⟩, rfl, ⟨a.normalizedName, ?_⟩,
        ⟨href, (h.isOn_iff inside).2 stands, target⟩, ?_⟩
      · rw [placed, place]
        rfl
      · rintro other member' same before ⟨href', stands', target'⟩
        obtain ⟨destination', _, ⟨f', file', _, rfl⟩ | ⟨page', inside', rfl⟩⟩ := planned.1 member'
        · exact absurd before (h.not_above_archive file')
        · change destination' = destination at same
          subst same
          rw [placed, placed, place,
            h.page_of_leads (slashless destination') inside' ((h.isOn_iff inside').1 stands') file parsed target']
    · exact absurd beside (h.dropLast_page_ne inside)

end IsGenerated

end

/-- Every address on a page of a new index leads to an archive or to a folder with a page, and every archive
is listed on exactly one page, under each destination of a publication of the index with its archives. -/
theorem published_site_is_closed {wheels output : Path} {options : IndexOptions} {indexed : IndexResult}
    {w w' : Workspace} (remote : Remote) {scope : PublishScope} {publish : PublishOptions} {destinations : List String}
    (generated : Index.run wheels output options w = .ok indexed w') (absent : w.disk.find? output.bare = none)
    (unbased : options.baseUrl.getD "" = "") (accepted : scope.destinations publish.mainBranch = .ok destinations)
    (dry : publish.dryRun = true) :
    ∃ published w'', run wheels output remote scope publish w' = .ok published w'' ∧
      published.destinations = destinations ∧
      IsClosed w'.disk wheels output options.variant destinations published.objects := by
  obtain ⟨_, filenames, pages, listed, site, grown⟩ := Index.run_ok absent generated
  have left : IsGenerated w.disk w'.disk wheels output options filenames pages :=
    ⟨unbased, absent, listed, site, grown⟩
  obtain ⟨names, root⟩ := site.root
  have there := (Disk.mem_of_listFiles listed).1
  have found : w'.disk.find? wheels.bare = some .folder := by rw [grown.kept _ (by rw [there]; simp), there]
  have rootFile : w'.disk.file? (output.bare ++ ["index.html"]) ≠ none :=
    Option.ne_none_iff_exists'.2 ⟨_, left.file?_eq root⟩
  obtain ⟨sources, w'', archives, walked, ran⟩ := run_dry remote found rootFile accepted dry
  exact ⟨_, w'', ran, rfl, left.isClosed archives walked⟩

section Sample

-- A folder with one archive.
def sampleDisk : Disk := (Disk.empty.put ["w"] .folder).put ["w", "a-1.zip"] (.file (Text.encode "1"))

def sampleWorkspace : Workspace := ⟨sampleDisk, [], [], [], [], 0⟩

def sampleOptions : IndexOptions := ⟨"v", none, ⟨none, none, none⟩, false⟩

def sampleArchive : Archive := ⟨"a-1.zip", "a", "1", .sdist⟩

theorem sample_parsed : Archive.parse? "a-1.zip" = some sampleArchive := by decide +kernel

theorem sample_packages : Index.packages ["a-1.zip"] = [("a", [sampleArchive])] := by
  have name : sampleArchive.normalizedName = "a" := by decide +kernel
  simp [Index.packages, sample_parsed, Index.gather, name]

theorem sample_listed : sampleDisk.listFiles ["w"] = .ok ["a-1.zip"] :=
  Disk.listFiles_of_single rfl (by decide)

theorem sample_run {options : IndexOptions} (proper : Index.isVariant options.variant = true)
    (written : ∃ indexed v,
      Index.writeVariant ["w"] ["o"] options [("a", [sampleArchive])] sampleWorkspace = .ok indexed v ∧
        v.disk.find? ["o"] = some .folder ∧ v.disk.takes ["o", "index.html"] = true) :
    ∃ indexed v, Index.run ["w"] ["o"] options sampleWorkspace = .ok indexed v := by
  obtain ⟨indexed, v, written, there, fits⟩ := written
  have reported : Index.report ["a-1.zip"] sampleWorkspace = .ok () sampleWorkspace := by
    simp [Index.report, Index.unreadable, sample_parsed]
  exact Index.exists_run proper sample_listed reported (sample_packages ▸ written) there fits (by decide)

theorem sample_generated : ∃ indexed v, Index.run ["w"] ["o"] sampleOptions sampleWorkspace = .ok indexed v :=
  sample_run (by decide) ⟨_, _, rfl, rfl, rfl⟩

def sampleRemote : Remote := ⟨FolderStore.store ["s"], ""⟩

def sampleScope : PublishScope := ⟨"c", "main", false, none⟩

def samplePublish : PublishOptions := ⟨"main", .ofNat 8, true, false⟩

-- A folder with archives of two packages, one of them under a name that is not in normal form.
def pairFiles : List String := ["B_c-2-py3-none-any.whl", "a-1.zip"]

def pairDisk : Disk :=
  ((Disk.empty.put ["w"] .folder).put ["w", "B_c-2-py3-none-any.whl"] (.file (Text.encode "2"))).put ["w", "a-1.zip"]
    (.file (Text.encode "1"))

def pairWorkspace : Workspace := ⟨pairDisk, [], [], [], [], 0⟩

def pairWheel : Archive := ⟨"B_c-2-py3-none-any.whl", "B_c", "2", .wheel none ⟨"py3", "none", "any"⟩⟩

theorem pair_parsed : Archive.parse? "B_c-2-py3-none-any.whl" = some pairWheel := by decide +kernel

theorem pair_listed : pairDisk.listFiles ["w"] = .ok pairFiles := by
  have there : pairDisk.find? (Path.bare ["w"]) = some .folder := rfl
  rw [Disk.listFiles, Disk.list_of_find? there]
  have found : Disk.fileNames (pairDisk.children ["w"]) = pairFiles := by decide +kernel
  exact congrArg Except.ok ((congrArg Text.sorted found).trans (List.mergeSort_of_pairwise (by decide +kernel)))

theorem pair_packages : Index.packages pairFiles = [("a", [sampleArchive]), ("b-c", [pairWheel])] := by
  have names : sampleArchive.normalizedName = "a" ∧ pairWheel.normalizedName = "b-c" := by decide +kernel
  have before : Text.precedes "b-c" "a" = false := by decide +kernel
  simp [Index.packages, pairFiles, pair_parsed, sample_parsed, Index.gather, names, List.mergeSort,
    Index.packagePrecedes, before]

theorem pair_generated : ∃ indexed v, Index.run ["w"] ["o"] sampleOptions pairWorkspace = .ok indexed v := by
  have reported : Index.report pairFiles pairWorkspace = .ok () pairWorkspace := by
    simp [Index.report, Index.unreadable, pairFiles, pair_parsed, sample_parsed]
  have written : ∃ indexed v, Index.writeVariant ["w"] ["o"] sampleOptions (Index.packages pairFiles) pairWorkspace =
      .ok indexed v ∧ v.disk.find? ["o"] = some .folder ∧ v.disk.takes ["o", "index.html"] = true := by
    rw [pair_packages]
    exact ⟨_, _, rfl, rfl, rfl⟩
  obtain ⟨indexed, v, written, there, fits⟩ := written
  exact Index.exists_run rfl pair_listed reported written there fits (by decide)

theorem published_site_of_two_packages : ∃ (indexed : IndexResult) (w : Workspace) (published : PublishResult)
    (w' : Workspace), Index.run ["w"] ["o"] sampleOptions pairWorkspace = .ok indexed w ∧
      run ["w"] ["o"] sampleRemote sampleScope samplePublish w = .ok published w' ∧
      published.destinations = ["c", "nightly"] ∧
      IsClosed w.disk ["w"] ["o"] "v" ["c", "nightly"] published.objects := by
  obtain ⟨indexed, w, generated⟩ := pair_generated
  have absent : pairWorkspace.disk.find? (Path.bare ["o"]) = none := rfl
  have accepted : sampleScope.destinations samplePublish.mainBranch = .ok ["c", "nightly"] := rfl
  have dry : samplePublish.dryRun = true := rfl
  obtain ⟨published, w', ran, destinations, closed⟩ :=
    published_site_is_closed sampleRemote generated absent rfl accepted dry
  exact ⟨indexed, w, published, w', generated, ran, destinations, closed⟩

end Sample

end Publish

end Wheelhouse
