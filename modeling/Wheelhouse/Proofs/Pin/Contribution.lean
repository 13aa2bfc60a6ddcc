import Mathlib.Data.List.Basic
import Mathlib.Data.List.Nodup
import Wheelhouse.Proofs.Package.VersionOrder
import Wheelhouse.Proofs.Pin.Run
import Wheelhouse.Proofs.Text.Fields
import Wheelhouse.Proofs.Text.Units

/-!
What the files of a folder contribute. A mapping sorts them into three classes, the archives among the mapped
files are grouped by package, and each package takes the first of its greatest versions. No file is lost on the
way, and none counts twice.
-/

set_option autoImplicit false

namespace Wheelhouse

namespace Mapping

variable {mapping : Mapping} {f : String} {e x : MappingEntry}

def Begins (e : MappingEntry) (f : String) : Prop := Text.codeUnits e.start.toList <+: Text.codeUnits f.toList

theorem begins_iff : MappingEntry.begins e f = true ↔ Begins e f := List.isPrefixOf_iff_prefix

/-- Of the entries that begin a file name, the first of the longest. -/
def IsFirstLongest (mapping : Mapping) (f : String) (e : MappingEntry) : Prop :=
  ∃ before after, mapping = before ++ e :: after ∧ Begins e f ∧
    (∀ x ∈ before, Begins x f → MappingEntry.size x < MappingEntry.size e) ∧
    ∀ x ∈ after, Begins x f → MappingEntry.size x ≤ MappingEntry.size e

-- What the best entry so far is, among the entries that have been looked at.
def IsBest (mapping : Mapping) (f : String) : Option MappingEntry → Prop
  | none => ∀ e ∈ mapping, ¬Begins e f
  | some e => IsFirstLongest mapping f e

theorem IsFirstLongest.bounds (h : IsFirstLongest mapping f e) :
    ∀ x ∈ mapping, Begins x f → MappingEntry.size x ≤ MappingEntry.size e := by
  obtain ⟨before, after, rfl, _, below, within⟩ := h
  intro x inside starts
  rcases List.mem_append.1 inside with early | late
  · exact Nat.le_of_lt (below x early starts)
  · rcases List.mem_cons.1 late with rfl | late
    · exact Nat.le_refl _
    · exact within x late starts

-- An entry that does not begin the file name, or is not longer, changes nothing.
theorem IsFirstLongest.keep (h : IsFirstLongest mapping f x) (short : Begins e f → MappingEntry.size e ≤ MappingEntry.size x) :
    IsFirstLongest (mapping ++ [e]) f x := by
  obtain ⟨before, after, rfl, begins, below, within⟩ := h
  refine ⟨before, after ++ [e], by simp, begins, below, ?_⟩
  intro y inside starts
  rcases List.mem_append.1 inside with inside | last
  · exact within y inside starts
  · obtain rfl := List.mem_singleton.1 last
    exact short starts

theorem IsBest.next {best : Option MappingEntry} (h : IsBest mapping f best) (e : MappingEntry) :
    IsBest (mapping ++ [e]) f (better f best e) := by
  unfold better
  by_cases starts : Begins e f
  · rw [if_pos (begins_iff.2 starts)]
    cases best with
    | none => exact ⟨mapping, [], rfl, starts, fun x inside begins => absurd begins (h x inside), by simp⟩
    | some b =>
      by_cases longer : MappingEntry.size b < MappingEntry.size e
      · simp only [longer, if_true]
        exact ⟨mapping, [], rfl, starts, fun x inside begins => (h.bounds x inside begins).trans_lt longer, by simp⟩
      · simp only [longer, if_false]
        exact h.keep fun _ => Nat.le_of_not_lt longer
  · rw [if_neg (fun begins => starts (begins_iff.1 begins))]
    cases best with
    | none =>
      intro x inside
      rcases List.mem_append.1 inside with inside | last
      · exact h x inside
      · exact List.mem_singleton.1 last ▸ starts
    | some b => exact h.keep fun begins => absurd begins starts

theorem IsBest.foldl {best : Option MappingEntry} (h : IsBest mapping f best) (rest : Mapping) :
    IsBest (mapping ++ rest) f (rest.foldl (better f) best) := by
  induction rest generalizing mapping best with
  | nil => simpa using h
  | cons e rest ih => simpa using ih (h.next e)

theorem isBest_longest? (mapping : Mapping) (f : String) : IsBest mapping f (mapping.longest? f) := by
  have start : IsBest [] f none := by simp [IsBest]
  exact start.foldl mapping

theorem isFirstLongest_of_longest? (found : mapping.longest? f = some e) : IsFirstLongest mapping f e := by
  have best := isBest_longest? mapping f
  rwa [found] at best

theorem not_begins_of_longest? (none : mapping.longest? f = none) : ∀ e ∈ mapping, ¬Begins e f := by
  have best := isBest_longest? mapping f
  rwa [none] at best

end Mapping

namespace Candidate

variable {mapping : Mapping} {f : String} {c : Candidate} {cs : List Candidate}

/-- No entry of the mapping begins the name of the file, or it is not that of an archive. -/
def IsIgnored (mapping : Mapping) (f : String) : Prop :=
  (∀ e ∈ mapping, ¬Mapping.Begins e f) ∨ Archive.hasExtension f = false

/-- The file is mapped and has the ending of an archive, but its name is not that of one. -/
def IsUnreadable (mapping : Mapping) (f : String) (reason : String) : Prop :=
  (∃ e ∈ mapping, Mapping.Begins e f) ∧ Archive.hasExtension f = true ∧
    ∃ fault, Archive.parse f = .error fault ∧ reason = (fault.failure f).message

/-- What an archive contributes: its version, to the package of the first of the longest entries. -/
def Contributes (mapping : Mapping) (c : Candidate) : Prop :=
  ∃ e a, Mapping.IsFirstLongest mapping c.archive e ∧ Archive.hasExtension c.archive = true ∧
    Archive.parse c.archive = .ok a ∧ c.name = e.name ∧ c.version = a.version

theorem classify_spec (mapping : Mapping) (f : String) :
    match classify mapping f with
    | .unmapped | .noArchive => IsIgnored mapping f
    | .unreadable reason => IsUnreadable mapping f reason
    | .contributes c => c.archive = f ∧ Contributes mapping c := by
  unfold classify
  cases found : mapping.longest? f with
  | none => exact .inl (Mapping.not_begins_of_longest? found)
  | some e =>
    have longest := Mapping.isFirstLongest_of_longest? found
    have mapped : ∃ e ∈ mapping, Mapping.Begins e f := by
      obtain ⟨before, after, rfl, begins, _⟩ := longest
      exact ⟨e, by simp, begins⟩
    cases ending : Archive.hasExtension f with
    | false => exact .inr ending
    | true =>
      cases parsed : Archive.parse f with
      | error fault => exact ⟨mapped, ending, fault, parsed, rfl⟩
      | ok a => exact ⟨rfl, e, a, longest, ending, parsed, rfl, rfl⟩

-- Each package that a candidate has is there once, with all candidates that have it, in their order.
structure IsGrouping (groups : List (String × List Candidate)) (cs : List Candidate) : Prop where
  distinct : (groups.map Prod.fst).Nodup
  full : ∀ g ∈ groups, g.2 = cs.filter fun c => c.normalizedName = g.1
  named : ∀ name, name ∈ groups.map Prod.fst ↔ ∃ c ∈ cs, c.normalizedName = name

theorem full_gather {groups : List (String × List Candidate)} (distinct : (groups.map Prod.fst).Nodup)
    (full : ∀ g ∈ groups, g.2 = cs.filter fun d => d.normalizedName = g.1)
    (fresh : c.normalizedName ∉ groups.map Prod.fst → cs.filter (fun d => d.normalizedName = c.normalizedName) = []) :
    ∀ g ∈ gather groups c, g.2 = (cs ++ [c]).filter fun d => d.normalizedName = g.1 := by
  induction groups with
  | nil =>
    intro g inside
    obtain rfl := List.mem_singleton.1 inside
    simp [fresh]
  | cons g rest ih =>
    obtain ⟨apart, distinct⟩ := List.nodup_cons.1 distinct
    have first := full g (by simp)
    have later := fun g' inside => full g' (List.mem_cons_of_mem _ inside)
    by_cases here : g.1 = c.normalizedName
    · simp only [gather, if_pos here]
      rintro g' (_ | ⟨_, inside⟩)
      · simp [first, here]
      · have other : c.normalizedName ≠ g'.1 := by
          rintro same
          exact apart (List.mem_map.2 ⟨g', inside, by rw [← same, here]⟩)
        simp [later g' inside, other]
    · simp only [gather, if_neg here]
      rintro g' (_ | ⟨_, inside⟩)
      · simp [first, Ne.symm here]
      · refine ih distinct later (fun missing => fresh ?_) g' inside
        simpa [Ne.symm here] using missing

theorem IsGrouping.areGrouped {groups : List (String × List Candidate)} (h : IsGrouping groups cs) :
    AreGrouped groups cs := by
  refine ⟨h.distinct, fun g inside d member => ?_⟩
  rw [h.full g inside, List.mem_filter] at member
  exact ⟨of_decide_eq_true member.2, member.1⟩

theorem IsGrouping.gather {groups : List (String × List Candidate)} (h : IsGrouping groups cs) (c : Candidate) :
    IsGrouping (gather groups c) (cs ++ [c]) := by
  refine ⟨(areGrouped_gather h.areGrouped c).distinct, full_gather h.distinct h.full ?_, ?_⟩
  · intro missing
    rw [List.filter_eq_nil_iff]
    intro d inside same
    exact missing ((h.named _).2 ⟨d, inside, of_decide_eq_true same⟩)
  · intro name
    simp [mem_names_gather, h.named, or_and_right, exists_or, eq_comm]

theorem IsGrouping.foldl {groups : List (String × List Candidate)} (h : IsGrouping groups cs)
    (later : List Candidate) : IsGrouping (later.foldl Candidate.gather groups) (cs ++ later) := by
  induction later generalizing groups cs with
  | nil => simpa using h
  | cons c later ih => simpa using ih (h.gather c)

theorem isGrouping_groups (cs : List Candidate) : IsGrouping (groups cs) cs := by
  have start : IsGrouping [] [] := ⟨List.nodup_nil, by simp, by simp⟩
  exact start.foldl cs

/-- The first of those with the greatest version. -/
def IsFirstHighest (group : List Candidate) (c : Candidate) : Prop :=
  ∃ before after, group = before ++ c :: after ∧ (∀ d ∈ before, Version.compareTexts d.version c.version = .lt) ∧
    ∀ d ∈ after, Version.compareTexts d.version c.version ≠ .gt

theorem isFirstHighest_of_chosen {group : List Candidate} (found : chosen group = some c) : IsFirstHighest group c := by
  cases group with
  | nil => cases found
  | cons first rest =>
    have filled : (first :: rest).map (·.version) ≠ [] := by simp
    obtain ⟨best, highest⟩ := Version.exists_highest? filled
    obtain ⟨earlier, later, split, below, within⟩ := Version.isFirstGreatest_of_highest? highest
    have known : best ∈ (first :: rest).map (·.version) := split ▸ by simp
    obtain ⟨d, inside, same⟩ := List.mem_map.1 known
    obtain ⟨d', picked⟩ : ∃ d', (first :: rest).find? (fun d => d.version = best) = some d' :=
      Option.isSome_iff_exists.1 (List.find?_isSome.2 ⟨d, inside, by simpa using same⟩)
    have chose : d' = c := by
      rw [chosen, Candidate.highest, highest, Option.getD_some, picked] at found
      exact Option.some.inj found
    obtain ⟨greatest, before, after, whole, others⟩ := List.find?_eq_some_iff_append.1 (chose ▸ picked)
    have version : c.version = best := of_decide_eq_true greatest
    -- The versions split where the candidates do, since the best one has not been seen before.
    have parts : before.map (·.version) = earlier ∧ after.map (·.version) = later := by
      have same : before.map (·.version) ++ best :: after.map (·.version) = earlier ++ best :: later := by
        rw [← split, whole, List.map_append, List.map_cons, version]
      refine Text.cut_at_first same ?_ ?_
      · intro seen
        obtain ⟨d, inside, same⟩ := List.mem_map.1 seen
        simpa [same] using others d inside
      · intro seen
        have less := below best seen
        rw [Version.compareTexts, Version.compare_self] at less
        cases less
    refine ⟨before, after, whole, ?_, ?_⟩
    · intro d inside
      rw [version]
      exact below _ (parts.1 ▸ List.mem_map_of_mem inside)
    · intro d inside
      rw [version]
      exact within _ (parts.2 ▸ List.mem_map_of_mem inside)

theorem exists_chosen {group : List Candidate} (filled : group ≠ []) : ∃ c, chosen group = some c := by
  obtain ⟨first, rest, rfl⟩ := List.exists_cons_of_ne_nil filled
  exact ⟨_, rfl⟩

end Candidate

namespace Selection

variable {mapping : Mapping} {files : List String} {f : String} {c : Candidate}

def contributions (mapping : Mapping) (files : List String) : List Candidate :=
  files.filterMap (contribution? mapping)

theorem contribution?_eq_some (found : contribution? mapping f = some c) :
    c.archive = f ∧ Candidate.Contributes mapping c := by
  have spec := Candidate.classify_spec mapping f
  unfold contribution? at found
  split at found
  · rename_i here
    cases found
    rwa [here] at spec
  · cases found

theorem isIgnored_of_mem (inside : f ∈ (ofFiles mapping files).ignored) : Candidate.IsIgnored mapping f := by
  have spec := Candidate.classify_spec mapping f
  have kept : isIgnored mapping f = true := (List.mem_filter.1 inside).2
  unfold isIgnored at kept
  split at kept
  · rename_i here
    rwa [here] at spec
  · rename_i here
    rwa [here] at spec
  · cases kept

theorem isUnreadable_of_mem {s : String × String} (inside : s ∈ (ofFiles mapping files).skipped) :
    Candidate.IsUnreadable mapping s.1 s.2 := by
  obtain ⟨f, _, found⟩ := List.mem_filterMap.1 inside
  have spec := Candidate.classify_spec mapping f
  unfold skip? at found
  split at found
  · rename_i here
    cases found
    rwa [here] at spec
  · cases found

-- Each file falls into one class.
theorem files_perm (mapping : Mapping) (files : List String) :
    files.Perm ((ofFiles mapping files).ignored ++ (ofFiles mapping files).skipped.map Prod.fst ++
      (contributions mapping files).map Candidate.archive) := by
  simp only [ofFiles, contributions]
  induction files with
  | nil => exact .refl _
  | cons f files ih =>
    have spec := Candidate.classify_spec mapping f
    cases here : Candidate.classify mapping f with
    | unmapped => simpa [isIgnored, skip?, contribution?, here] using ih
    | noArchive => simpa [isIgnored, skip?, contribution?, here] using ih
    | unreadable reason =>
      simp only [isIgnored, skip?, contribution?, here, List.filter_cons, List.filterMap_cons, List.map_cons,
        Bool.false_eq_true, if_false, List.append_assoc, List.cons_append]
      exact (List.perm_middle.trans (.cons f (by simpa using ih.symm))).symm
    | contributes c =>
      rw [here] at spec
      simp only [isIgnored, skip?, contribution?, here, List.filter_cons, List.filterMap_cons, List.map_cons,
        Bool.false_eq_true, if_false, spec.1]
      exact (List.perm_middle.trans (.cons f ih.symm)).symm

theorem mem_candidates_iff : c ∈ (ofFiles mapping files).candidates ↔
    (∃ d ∈ contributions mapping files, d.normalizedName = c.normalizedName) ∧ Candidate.chosen
      ((contributions mapping files).filter fun d => d.normalizedName = c.normalizedName) = some c := by
  have grouping := Candidate.isGrouping_groups (contributions mapping files)
  rw [ofFiles, List.mem_mergeSort, List.mem_filterMap]
  constructor
  · rintro ⟨g, inside, chosen⟩
    have named := (grouping.areGrouped.members g inside c (Candidate.mem_of_chosen chosen)).1
    rw [grouping.full g inside, ← named] at chosen
    refine ⟨(grouping.named _).1 (List.mem_map.2 ⟨g, inside, named.symm⟩), chosen⟩
  · rintro ⟨found, chosen⟩
    obtain ⟨g, inside, named⟩ := List.mem_map.1 ((grouping.named _).2 found)
    exact ⟨g, inside, by rw [grouping.full g inside, named, chosen]⟩

theorem mem_contributions_of_mem (inside : c ∈ (ofFiles mapping files).candidates) :
    c ∈ contributions mapping files :=
  (List.mem_filter.1 (Candidate.mem_of_chosen (mem_candidates_iff.1 inside).2)).1

theorem exists_candidate_iff {name : String} : (∃ c ∈ (ofFiles mapping files).candidates, c.normalizedName = name) ↔
    ∃ c ∈ contributions mapping files, c.normalizedName = name := by
  constructor
  · rintro ⟨c, inside, named⟩
    exact ⟨c, mem_contributions_of_mem inside, named⟩
  · rintro ⟨d, inside, rfl⟩
    have filled : ((contributions mapping files).filter fun e => e.normalizedName = d.normalizedName) ≠ [] :=
      List.ne_nil_of_mem (List.mem_filter.2 ⟨inside, by simp⟩)
    obtain ⟨c, chosen⟩ := Candidate.exists_chosen filled
    have named : c.normalizedName = d.normalizedName :=
      of_decide_eq_true (List.mem_filter.1 (Candidate.mem_of_chosen chosen)).2
    exact ⟨c, mem_candidates_iff.2 ⟨⟨d, inside, named.symm⟩, named.symm ▸ chosen⟩, named⟩

-- The archives come in the order of the file names.
theorem archives_sublist (mapping : Mapping) (files : List String) :
    ((contributions mapping files).map Candidate.archive).Sublist files := by
  have kept : (contributions mapping files).map Candidate.archive =
      files.filter fun f => (contribution? mapping f).isSome := by
    unfold contributions
    induction files with
    | nil => rfl
    | cons f files ih =>
      cases found : contribution? mapping f with
      | none => simp [found, ih]
      | some c => simp [found, ih, (contribution?_eq_some found).1]
  rw [kept]
  exact List.filter_sublist

theorem highest_of_mem (sorted : files.Pairwise fun a b => Text.precedes a b = true)
    (inside : c ∈ (ofFiles mapping files).candidates) {d : Candidate} (member : d ∈ contributions mapping files)
    (named : d.normalizedName = c.normalizedName) :
    Version.compareTexts d.version c.version ≠ .gt ∧
      (Version.compareTexts d.version c.version = .eq → Text.precedes c.archive d.archive = true) := by
  obtain ⟨before, after, whole, below, within⟩ :=
    Candidate.isFirstHighest_of_chosen (mem_candidates_iff.1 inside).2
  have inOrder : (before ++ c :: after).Pairwise fun a b => Text.precedes a.archive b.archive = true := by
    have all := List.pairwise_map.1 (sorted.sublist (archives_sublist mapping files))
    exact whole ▸ all.sublist List.filter_sublist
  have grouped : d ∈ before ++ c :: after := whole ▸ List.mem_filter.2 ⟨member, by simpa using named⟩
  rcases List.mem_append.1 grouped with early | late
  · simp [below d early]
  · rcases List.mem_cons.1 late with rfl | late
    · simp [Version.compareTexts, Text.precedes]
    · exact ⟨within d late, fun _ => List.rel_of_pairwise_cons (List.pairwise_append.1 inOrder).2.1 late⟩

theorem ordered_candidates (mapping : Mapping) (files : List String) :
    (ofFiles mapping files).candidates.Pairwise fun a b => Text.strictlyPrecedes a.name b.name = true := by
  have sorted : (ofFiles mapping files).candidates.Pairwise fun a b => Text.precedes a.name b.name = true :=
    List.pairwise_mergeSort (fun a b c => Text.unitsLe_trans (a := a.name.toList) (b := b.name.toList))
      (fun a b => Text.unitsLe_total a.name.toList b.name.toList) _
  refine (sorted.and (distinct_candidates mapping files)).imp ?_
  rintro a b ⟨before, other⟩
  refine Text.strictlyPrecedes_of_ne before fun same => other ?_
  rw [Candidate.normalizedName, Candidate.normalizedName, same]

end Selection

namespace Pin

/-- What the pins of a run have to do with the files of the folder. -/
structure IsSelection (mapping : Mapping) (files : List String) (contributed : List Candidate) (result : PinResult) :
    Prop where
  classes : files.Perm
    (result.ignored ++ result.skipped.map Prod.fst ++ contributed.map Candidate.archive)
  ignored : ∀ f ∈ result.ignored, Candidate.IsIgnored mapping f
  skipped : ∀ s ∈ result.skipped, Candidate.IsUnreadable mapping s.1 s.2
  contributing : ∀ c ∈ contributed, Candidate.Contributes mapping c
  packages : ∀ name, (∃ p ∈ result.pinned, p.candidate.normalizedName = name) ↔
    ∃ c ∈ contributed, c.normalizedName = name
  once : result.pinned.Pairwise fun p q => p.candidate.normalizedName ≠ q.candidate.normalizedName
  taken : ∀ p ∈ result.pinned, p.candidate ∈ contributed
  highest : ∀ p ∈ result.pinned, ∀ c ∈ contributed, c.normalizedName = p.candidate.normalizedName →
    Version.compareTexts c.version p.candidate.version ≠ .gt ∧
      (Version.compareTexts c.version p.candidate.version = .eq →
        Text.precedes p.candidate.archive c.archive = true)
  ordered : result.pinned.Pairwise fun p q => Text.strictlyPrecedes p.candidate.name q.candidate.name = true

variable {install requirements : Path} {options : PinOptions} {result : PinResult} {w w' : Workspace}

theorem selection_of_run (ran : run install requirements options w = .ok result w') :
    ∃ files, w.disk.listFiles install = .ok files ∧
      result.ignored = (Selection.ofFiles options.mapping files).ignored ∧
      result.skipped = (Selection.ofFiles options.mapping files).skipped ∧
      result.pinned.map Pinned.candidate = (Selection.ofFiles options.mapping files).candidates := by
  obtain ⟨files, bytes, listed, _, rfl, _⟩ := run_ok_iff.1 ⟨w', ran, rfl⟩
  exact ⟨files, listed, rfl, rfl, RequirementFile.pin_candidates _ _⟩

theorem isSelection_of_run (ran : run install requirements options w = .ok result w') :
    ∃ files contributed, w.disk.listFiles install = .ok files ∧ IsSelection options.mapping files contributed result := by
  obtain ⟨files, listed, ignored, skipped, pinned⟩ := selection_of_run ran
  have sorted := Disk.listFiles_eq listed ▸ Text.pairwise_sorted _
  have candidate {p : Pinned} (inside : p ∈ result.pinned) :
      p.candidate ∈ (Selection.ofFiles options.mapping files).candidates :=
    pinned ▸ List.mem_map_of_mem inside
  have once : (result.pinned.map Pinned.candidate).Pairwise fun c d => c.normalizedName ≠ d.normalizedName :=
    pinned ▸ Selection.distinct_candidates options.mapping files
  have ordered : (result.pinned.map Pinned.candidate).Pairwise fun c d => Text.strictlyPrecedes c.name d.name = true :=
    pinned ▸ Selection.ordered_candidates options.mapping files
  refine ⟨files, Selection.contributions options.mapping files, listed, ?_⟩
  constructor
  · rw [ignored, skipped]
    exact Selection.files_perm _ _
  · intro f inside
    exact Selection.isIgnored_of_mem (ignored ▸ inside)
  · intro s inside
    exact Selection.isUnreadable_of_mem (skipped ▸ inside)
  · intro c inside
    obtain ⟨f, _, found⟩ := List.mem_filterMap.1 inside
    exact (Selection.contribution?_eq_some found).2
  · intro name
    rw [← Selection.exists_candidate_iff, ← pinned]
    simp
  · exact (List.pairwise_map.1 once :)
  · exact fun p inside => Selection.mem_contributions_of_mem (candidate inside)
  · exact fun p inside c member named => Selection.highest_of_mem sorted (candidate inside) member named
  · exact (List.pairwise_map.1 ordered :)

/-- Every file of the folder is ignored, skipped or contributes a version to one package, and each package with a
contribution is pinned once, to the first archive of the greatest version. A folder and a file are all it takes. -/
theorem run_selects (install requirements : Path) (options : PinOptions) (w : Workspace) :
    (∀ result w', run install requirements options w = .ok result w' →
      ∃ files contributed, w.disk.listFiles install = .ok files ∧
        (∀ f, f ∈ files ↔ w.disk.file? (install.bare ++ [f]) ≠ none) ∧ files.Nodup ∧
        IsSelection options.mapping files contributed result) ∧
      ∀ bytes, w.disk.find? install.bare = some .folder → w.disk.find? requirements = some (.file bytes) →
        requirements.isFarTooLong = false → ∃ result w', run install requirements options w = .ok result w' := by
  refine ⟨?_, fun bytes folder file near => run_of_file folder file near⟩
  intro result w' ran
  obtain ⟨files, contributed, listed, selects⟩ := isSelection_of_run ran
  exact ⟨files, contributed, listed, (Disk.mem_of_listFiles listed).2, Disk.nodup_of_listFiles listed, selects⟩

-- Two versions of a package, the higher one twice, beside files of all other classes.
def wheelsDisk : Disk :=
  (((((((Disk.empty.put ["w"] .folder).put ["w", "torch-2.0-py3-none-any.whl"] (.file .empty)).put
    ["w", "torch-2.0.0-py3-none-any.whl"] (.file .empty)).put ["w", "torch-1.9.tar.gz"] (.file .empty)).put
    ["w", "torch-nightly.whl"] (.file .empty)).put ["w", "torch-notes.txt"] (.file .empty)).put
    ["w", "numpy-2.0-py3-none-any.whl"] (.file .empty)).put ["r.txt"] (.file .empty)

theorem run_selects_wheels : ∃ (result : PinResult) (w : Workspace) (files : List String) (contributed : List Candidate),
    run ["w"] ["r.txt"] ⟨Mapping.builtIn, false⟩ ⟨wheelsDisk, [], [], [], [], 0⟩ = .ok result w ∧
      files.length = 6 ∧ IsSelection Mapping.builtIn files contributed result := by
  have folder : wheelsDisk.find? (Path.bare ["w"]) = some .folder := rfl
  have file : wheelsDisk.find? ["r.txt"] = some (.file .empty) := rfl
  obtain ⟨selects, returns⟩ := run_selects ["w"] ["r.txt"] ⟨Mapping.builtIn, false⟩ ⟨wheelsDisk, [], [], [], [], 0⟩
  obtain ⟨result, w, ran⟩ := returns _ folder file (by decide)
  obtain ⟨files, contributed, listed, _, _, selected⟩ := selects _ _ ran
  have names : wheelsDisk.listFiles ["w"] = .ok files := listed
  have six : files.length = 6 := by
    rw [Disk.listFiles_eq names, (Text.sorted_perm _).length_eq]
    rfl
  exact ⟨result, w, files, contributed, ran, six, selected⟩

end Pin

end Wheelhouse
