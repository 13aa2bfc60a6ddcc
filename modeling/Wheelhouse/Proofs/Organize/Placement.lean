import Mathlib.Data.List.Dedup
import Mathlib.Data.Prod.Basic
import Wheelhouse.Organize.Run
import Wheelhouse.Proofs.Disk.Walk
import Wheelhouse.Proofs.Job

/-!
Where wheels end up. The wheels of a whole tree go into a few folders by nothing but their last names, so
that each takes the place of an earlier one of its name, and the report counts them both.
-/

set_option autoImplicit false

namespace Wheelhouse.Organize

section

variable {d : Disk} {limit : Number} {wheels : List Path} {p : Path}

def isLarge (d : Disk) (limit : Number) (wheel : Path) : Bool :=
  (Number.ofNat ((d.file? wheel).getD .empty).size).exceeds limit

-- What the report says of a wheel.
def entry (d : Disk) (wheel : Path) : OrganizedWheel := ⟨wheel.baseName, ((d.file? wheel).getD .empty).size⟩

def side (d : Disk) (limit : Number) (large : Bool) (wheels : List Path) : List Path :=
  wheels.filter fun p => isLarge d limit p == large

theorem side_concat (large : Bool) : side d limit large (wheels ++ [p]) =
    side d limit large wheels ++ if isLarge d limit p = large then [p] else [] := by
  by_cases here : isLarge d limit p = large <;> simp [side, here]

theorem mem_side {large : Bool} : p ∈ side d limit large wheels ↔ p ∈ wheels ∧ isLarge d limit p = large := by
  simp [side]

-- The contents of the last wheel of a name.
def latest (d : Disk) (wheels : List Path) (name : String) : Option ByteArray :=
  (wheels.filter fun p => p.baseName = name).getLast?.bind d.file?

theorem latest_concat (name : String) : latest d (wheels ++ [p]) name =
    if p.baseName = name then d.file? p else latest d wheels name := by
  by_cases here : p.baseName = name <;> simp [latest, here]

theorem exists_latest (inside : p ∈ wheels) :
    ∃ q ∈ wheels, q.baseName = p.baseName ∧ latest d wheels p.baseName = d.file? q := by
  have filled : (wheels.filter fun q => q.baseName = p.baseName) ≠ [] :=
    List.ne_nil_of_mem (List.mem_filter.2 ⟨inside, by simp⟩)
  obtain ⟨member, same⟩ := List.mem_filter.1 (List.getLast_mem filled)
  exact ⟨_, member, by simpa using same, by rw [latest, List.getLast?_eq_some_getLast filled, Option.bind_some]⟩

theorem latest_eq_none_iff (files : ∀ q ∈ wheels, d.file? q ≠ none) {name : String} :
    latest d wheels name = none ↔ ∀ q ∈ wheels, q.baseName ≠ name := by
  constructor
  · rintro missing q inside rfl
    obtain ⟨q', inside', _, found⟩ := exists_latest (d := d) inside
    exact files q' inside' (found.symm.trans missing)
  · intro other
    have empty : (wheels.filter fun q => q.baseName = name) = [] := by simpa [List.filter_eq_nil_iff] using other
    rw [latest, empty, List.getLast?_nil, Option.bind_none]

end

/-- The folders for large wheels, and those for the others. -/
def homes (f : OrganizeFolders) (large : Bool) : List Path := if large then [f.large] else [f.small, f.packages]

-- A folder in which there is, for each name, the last of some wheels.
structure Holds (d₀ d : Disk) (folder : Path) (wheels : List Path) : Prop where
  there : d.find? folder = some .folder
  file : ∀ name, d.find? (folder ++ [name]) = (latest d₀ wheels name).map .file

section

variable {d₀ d : Disk} {folder other wheel : Path} {wheels : List Path} {contents : ByteArray}

theorem Holds.copied (h : Holds d₀ d folder wheels) (there : d₀.file? wheel = some contents)
    (fits : d.takes (folder ++ [wheel.baseName]) = true) :
    Holds d₀ (d.put (folder ++ [wheel.baseName]) (.file contents)) folder (wheels ++ [wheel]) := by
  refine ⟨?_, fun name => ?_⟩
  · rw [Disk.find?_put fits, if_neg (by simp), h.there]
  · rw [Disk.find?_put fits, latest_concat, h.file]
    by_cases here : wheel.baseName = name
    · simp [here, there]
    · simp [here, Ne.symm here]

theorem Holds.elsewhere (h : Holds d₀ d folder wheels) {name : String} (fits : d.takes (other ++ [name]) = true)
    (apart : folder ≠ other) (level : folder.length = other.length) :
    Holds d₀ (d.put (other ++ [name]) (.file contents)) folder wheels := by
  refine ⟨?_, fun name' => ?_⟩
  · rw [Disk.find?_put fits, if_neg, h.there]
    intro same
    simpa [level] using congrArg List.length same
  · rw [Disk.find?_put fits, if_neg, h.file]
    intro same
    exact apart (List.append_inj' same rfl).1

theorem isName_baseName (file : d.find? wheel = some (.file contents)) : Path.isName wheel.baseName = true := by
  have found : d.find? wheel ≠ none := by simp [file]
  obtain rfl | ⟨init, last, rfl⟩ := List.eq_nil_or_concat wheel
  · rw [Disk.find?_nil] at file
    cases file
  · rw [Path.baseName, (Disk.isPlain_of_find? found).bare]
    simpa using Disk.isName_of_find? found last (by simp)

-- A copy into a folder puts the wheel under its last name.
theorem copy_into {u u' : Workspace} (there : u.disk.find? folder = some .folder)
    (file : u.disk.find? wheel = some (.file contents))
    (ran : Job.copy wheel (folder.child wheel.baseName) u = .ok () u') :
    u.disk.takes (folder ++ [wheel.baseName]) = true ∧
      u'.disk = u.disk.put (folder ++ [wheel.baseName]) (.file contents) := by
  obtain ⟨d, copied, rfl⟩ := Job.change_ok_iff.1 ran
  have found : u.disk.find? folder ≠ none := by simp [there]
  have plain := Disk.isPlain_of_find? found
  have named : ∀ name ∈ folder ++ [wheel.baseName], Path.isName name = true := by
    intro name inside
    rcases List.mem_append.1 inside with above | last
    · exact Disk.isName_of_find? found name above
    · exact List.mem_singleton.1 last ▸ isName_baseName file
  rw [Path.child, plain.bare] at copied
  have parent : u.disk.find? (folder ++ [wheel.baseName]).dropLast = some .folder := by
    rw [List.dropLast_concat, there]
  rcases Disk.copy_file file (.of_isName named) parent with ⟨x, failed⟩ | ⟨done, free⟩
  · rw [failed] at copied
    cases copied
  · rw [done] at copied
    cases copied
    exact ⟨Disk.takes_of_parent named (by simp) parent free, rfl⟩

end

-- What is in the folders of an output that was not there before, with the wheels that each of them got.
structure Placed (d₀ d : Disk) (output : Path) (held : Path → List Path) : Prop where
  outside : ∀ q, ¬output.bare <+: q → d.file? q = d₀.file? q
  holds : ∀ large, ∀ folder ∈ homes (folders output) large, Holds d₀ d folder (held folder)

-- Each folder gets the wheels of its side.
def heldAfter (d₀ : Disk) (limit : Number) (output : Path) (wheels : List Path) (folder : Path) : List Path :=
  side d₀ limit (folder == (folders output).large) wheels

section

variable {d₀ d : Disk} {output folder wheel : Path} {held : Path → List Path} {limit : Number} {wheels : List Path}
  {contents : ByteArray} {f : OrganizeFolders} {u v : Workspace}

theorem mem_homes {large : Bool} (inside : folder ∈ homes (folders output) large) :
    output.bare <+: folder ∧ folder.length = output.bare.length + 1 ∧ (folder == (folders output).large) = large := by
  cases large <;> simp [homes, folders, Path.child] at inside
  · rcases inside with rfl | rfl <;> simp [folders, Path.child]
  · simp [inside, folders, Path.child]

theorem Placed.copy_into (h : Placed d₀ u.disk output held) {large : Bool}
    (inside : folder ∈ homes (folders output) large) (apart : ¬output.bare <+: wheel)
    (there : d₀.file? wheel = some contents)
    (ran : Job.copy wheel (folder.child wheel.baseName) u = .ok () v) :
    Placed d₀ v.disk output (Function.update held folder (held folder ++ [wheel])) := by
  obtain ⟨below, level, _⟩ := mem_homes inside
  have file := Disk.file?_eq_some_iff.1 ((h.outside wheel apart).trans there)
  obtain ⟨fits, put⟩ := Organize.copy_into (h.holds large folder inside).there file ran
  rw [put]
  refine ⟨fun q outside => ?_, fun large' folder' inside' => ?_⟩
  · rw [← h.outside q outside, Disk.file?_congr ((Disk.find?_put fits q).trans (if_neg ?_))]
    rintro rfl
    exact outside (below.trans (List.prefix_append _ _))
  · by_cases same : folder' = folder
    · subst same
      rw [Function.update_self]
      exact (h.holds large' folder' inside').copied there fits
    · rw [Function.update_of_ne same]
      exact (h.holds large' folder' inside').elsewhere fits same (by rw [level, (mem_homes inside').2.1])

theorem Placed.congr {held' : Path → List Path} (h : Placed d₀ d output held)
    (same : ∀ large, ∀ folder ∈ homes (folders output) large, held' folder = held folder) :
    Placed d₀ d output held' :=
  ⟨h.outside, fun large folder inside => same large folder inside ▸ h.holds large folder inside⟩

theorem place_ok {large : Bool} {e : OrganizedWheel} (there : u.disk.file? wheel = some contents)
    (ran : place f limit wheel u = .ok (large, e) v) :
    large = (Number.ofNat contents.size).exceeds limit ∧ e = ⟨wheel.baseName, contents.size⟩ ∧
      if large then Job.copy wheel (f.large.child wheel.baseName) u = .ok () v
      else ∃ u', Job.copy wheel (f.small.child wheel.baseName) u = .ok () u' ∧
        Job.copy wheel (f.packages.child wheel.baseName) u' = .ok () v := by
  have found := Disk.file?_eq_some_iff.1 there
  have plain := Disk.isPlain_of_file? (d := u.disk) (p := wheel) (by simp [there])
  unfold place at ran
  obtain ⟨size, u₁, looked, rest⟩ := Job.bind_ok_iff.1 ran
  obtain ⟨looked, rfl⟩ := Job.look_ok_iff.1 looked
  rw [Disk.inspect, Disk.at?_of_isPlain plain, found] at looked
  cases looked
  by_cases big : (Number.ofNat contents.size).exceeds limit = true
  · rw [if_pos big] at rest
    obtain ⟨_, u₂, copied, rest⟩ := Job.bind_ok_iff.1 rest
    cases rest
    exact ⟨big.symm, rfl, copied⟩
  · rw [if_neg big] at rest
    obtain ⟨_, u₂, first, rest⟩ := Job.bind_ok_iff.1 rest
    obtain ⟨_, u₃, second, rest⟩ := Job.bind_ok_iff.1 rest
    cases rest
    exact ⟨by simpa using Eq.symm (eq_false_of_ne_true big), rfl, u₂, first, second⟩

theorem large_ne_small : (folders output).large ≠ (folders output).small := by simp [folders, Path.child]

theorem large_ne_packages : (folders output).large ≠ (folders output).packages := by simp [folders, Path.child]

theorem small_ne_packages : (folders output).small ≠ (folders output).packages := by simp [folders, Path.child]

theorem heldAfter_concat : heldAfter d₀ limit output (wheels ++ [wheel]) folder = heldAfter d₀ limit output wheels folder ++
    if isLarge d₀ limit wheel = (folder == (folders output).large) then [wheel] else [] :=
  side_concat _

-- Copying one wheel to its side.
theorem Placed.place (h : Placed d₀ u.disk output (heldAfter d₀ limit output wheels)) {large : Bool} {e : OrganizedWheel}
    (apart : ¬output.bare <+: wheel) (there : d₀.file? wheel = some contents)
    (ran : place (folders output) limit wheel u = .ok (large, e) v) :
    large = isLarge d₀ limit wheel ∧ e = entry d₀ wheel ∧
      Placed d₀ v.disk output (heldAfter d₀ limit output (wheels ++ [wheel])) := by
  obtain ⟨sized, rfl, copied⟩ := place_ok ((h.outside wheel apart).trans there) ran
  have side : large = isLarge d₀ limit wheel := by rw [isLarge, there]; exact sized
  refine ⟨side, by rw [entry, there]; rfl, ?_⟩
  cases large with
  | true =>
    rw [if_pos rfl] at copied
    have home : (folders output).large ∈ homes (folders output) true := by simp [homes]
    refine (h.copy_into home apart there copied).congr fun large' folder' inside' => ?_
    rw [heldAfter_concat, ← side]
    by_cases here : folder' = (folders output).large
    · subst here
      simp
    · simp [here]
  | false =>
    rw [if_neg (by decide)] at copied
    obtain ⟨u', first, second⟩ := copied
    have home : (folders output).small ∈ homes (folders output) false := by simp [homes]
    have home' : (folders output).packages ∈ homes (folders output) false := by simp [homes]
    refine ((h.copy_into home apart there first).copy_into home' apart there second).congr fun large' folder' inside' => ?_
    rw [heldAfter_concat, ← side]
    cases large' <;> simp only [homes, if_true, Bool.false_eq_true, if_false, List.mem_cons, List.not_mem_nil, or_false] at inside'
    · rcases inside' with rfl | rfl
      · simp [Function.update_of_ne small_ne_packages, large_ne_small.symm]
      · simp [Function.update_of_ne small_ne_packages.symm, large_ne_packages.symm]
    · subst inside'
      simp [Function.update_of_ne large_ne_packages, Function.update_of_ne large_ne_small]

-- What has been done when no wheel has failed: all of them are where they belong, and in the report.
structure IsSorted (d₀ d : Disk) (output : Path) (limit : Number) (s : Sorting) (wheels : List Path) : Prop where
  placed : Placed d₀ d output (heldAfter d₀ limit output wheels)
  large : s.large = (side d₀ limit true wheels).map (entry d₀)
  small : s.small = (side d₀ limit false wheels).map (entry d₀)

variable {s s' : Sorting}

theorem sortOne_ok (ran : sortOne f limit s wheel u = .ok s' v) (complete : s'.failed = []) :
    s.failed = [] ∧ ∃ large e, place f limit wheel u = .ok (large, e) v ∧
      s' = if large then { s with large := s.large ++ [e] } else { s with small := s.small ++ [e] } := by
  unfold sortOne at ran
  obtain ⟨outcome, u', tried, rest⟩ := Job.bind_ok_iff.1 ran
  cases placed : place f limit wheel u with
  | ok found w =>
    obtain ⟨large, e⟩ := found
    rw [Job.outcome_ok placed] at tried
    cases tried
    cases large <;> cases rest <;> exact ⟨complete, _, e, rfl, rfl⟩
  | error e w =>
    rw [Job.outcome_error placed] at tried
    cases tried
    obtain ⟨_, w', _, rest⟩ := Job.bind_ok_iff.1 rest
    cases rest
    exact absurd complete (by simp)

theorem IsSorted.sortOne (h : IsSorted d₀ u.disk output limit s wheels) (apart : ¬output.bare <+: wheel)
    (there : d₀.file? wheel ≠ none) (ran : sortOne (folders output) limit s wheel u = .ok s' v)
    (complete : s'.failed = []) : IsSorted d₀ v.disk output limit s' (wheels ++ [wheel]) := by
  obtain ⟨contents, there⟩ := Option.ne_none_iff_exists'.1 there
  obtain ⟨_, large, e, done, rfl⟩ := sortOne_ok ran complete
  obtain ⟨sized, rfl, placed⟩ := h.placed.place apart there done
  refine ⟨placed, ?_, ?_⟩ <;> rw [side_concat, List.map_append, ← sized] <;>
    cases large <;> simp [h.large, h.small]

-- Nothing takes a failure back, so that a report without failures had none on the way.
theorem sortAll_ok {options : OrganizeOptions} {total done : Nat} {rest : List Path}
    (sources : ∀ p ∈ rest, d₀.file? p ≠ none ∧ ¬output.bare <+: p)
    (ran : sortAll (folders output) options total done s rest u = .ok s' v) (complete : s'.failed = []) :
    s.failed = [] ∧ (IsSorted d₀ u.disk output options.sizeLimit s wheels →
      IsSorted d₀ v.disk output options.sizeLimit s' (wheels ++ rest)) := by
  induction rest generalizing done s u wheels with
  | nil =>
    cases ran
    exact ⟨complete, fun h => by rwa [List.append_nil]⟩
  | cons wheel rest ih =>
    obtain ⟨file, apart⟩ := sources wheel List.mem_cons_self
    obtain ⟨s₁, u₁, one, ran⟩ := Job.bind_ok_iff.1 ran
    have next : ∃ u₂, u₂.disk = u₁.disk ∧
        sortAll (folders output) options total (done + 1) s₁ rest u₂ = .ok s' v := by
      by_cases shown : options.showsProgress = true
      · rw [if_pos shown] at ran
        obtain ⟨_, u₂, noted, ran⟩ := Job.bind_ok_iff.1 ran
        cases noted
        exact ⟨_, by rfl, ran⟩
      · rw [if_neg shown] at ran
        exact ⟨u₁, rfl, ran⟩
    obtain ⟨u₂, same, ran⟩ := next
    obtain ⟨complete', later⟩ : s₁.failed = [] ∧
        (IsSorted d₀ u₂.disk output options.sizeLimit s₁ (wheels ++ [wheel]) →
          IsSorted d₀ v.disk output options.sizeLimit s' (wheels ++ [wheel] ++ rest)) :=
      ih (fun p inside => sources p (List.mem_cons_of_mem _ inside)) ran
    refine ⟨(sortOne_ok one complete').1, fun h => ?_⟩
    rw [List.append_cons]
    exact later (same ▸ h.sortOne apart file one complete')

theorem ensureFolder_child {name : String} (plain : output.bare.IsPlain) (simple : Path.IsPlain [name])
    (made : Job.ensureFolder (output.child name) u = .ok () v) :
    (∀ q, v.disk.find? q = if q <+: output.bare ++ [name] then some .folder else u.disk.find? q) ∧
      ∀ q, v.disk.file? q = u.disk.file? q := by
  obtain ⟨d, changed, rfl⟩ := Job.change_ok_iff.1 made
  have whole : (output.child name).bare = output.bare ++ [name] := (plain.append simple).bare
  have there := (Disk.find?_of_ensureFolder (whole ▸ plain.append simple) changed).2
  rw [whole] at there
  exact ⟨there, (Disk.gains_of_ensureFolder (.inl changed)).file?⟩

-- The folders are empty at first.
theorem placed_nil {u₁ u₂ : Workspace} (plain : output.bare.IsPlain) (absent : u.disk.find? output.bare = none)
    (packages : Job.ensureFolder (folders output).packages u = .ok () u₁)
    (large : Job.ensureFolder (folders output).large u₁ = .ok () u₂)
    (small : Job.ensureFolder (folders output).small u₂ = .ok () v) :
    Placed u.disk v.disk output (heldAfter u.disk limit output []) := by
  obtain ⟨there, same⟩ := ensureFolder_child plain (by unfold Path.IsPlain; decide) packages
  obtain ⟨there', same'⟩ := ensureFolder_child plain (by unfold Path.IsPlain; decide) large
  obtain ⟨there'', same''⟩ := ensureFolder_child plain (by unfold Path.IsPlain; decide) small
  have below (folder : Path) (inside : output.bare <+: folder) (level : folder.length = output.bare.length + 1)
      (name other : String) : ¬folder ++ [name] <+: output.bare ++ [other] := by
    intro before
    have bound := before.length_le
    rw [List.length_append, level, List.length_append, List.length_singleton, List.length_singleton] at bound
    omega
  refine ⟨fun q _ => by rw [same'', same', same], fun side folder inside => ⟨?_, fun name => ?_⟩⟩
  · rw [there'', there', there]
    cases side <;> simp only [homes, folders, Path.child, if_true, Bool.false_eq_true, if_false, List.mem_cons,
      List.not_mem_nil, or_false] at inside
    · rcases inside with rfl | rfl <;> simp
    · simp [inside]
  · obtain ⟨above, level, _⟩ := mem_homes inside
    rw [there'', there', there, if_neg (below folder above level _ _), if_neg (below folder above level _ _),
      if_neg (below folder above level _ _), Disk.find?_eq_none_below absent (above.trans (List.prefix_append _ _))]
    rfl

theorem find_ok {artifacts : Path} (found : find artifacts u = .ok wheels v) :
    u.disk.findWheels artifacts = .ok wheels ∧ v = u := by
  unfold find at found
  obtain ⟨d, u₁, looked, rest⟩ := Job.bind_ok_iff.1 found
  cases looked
  cases here : u.disk.at? artifacts with
  | none =>
    simp only [here] at rest
    obtain ⟨_, _, thrown, _⟩ := Job.bind_ok_iff.1 rest
    cases thrown
  | some e =>
    simp only [here] at rest
    cases e with
    | file contents =>
      obtain ⟨_, _, thrown, _⟩ := Job.bind_ok_iff.1 rest
      cases thrown
    | folder =>
      obtain ⟨listing, u₁, looked, ended⟩ := Job.bind_ok_iff.1 rest
      obtain ⟨listed, rfl⟩ := Job.look_ok_iff.1 looked
      by_cases empty : listing.isEmpty = true
      · rw [if_pos empty] at ended
        obtain ⟨_, _, thrown, _⟩ := Job.bind_ok_iff.1 ended
        cases thrown
      · rw [if_neg empty] at ended
        cases ended
        exact ⟨listed, rfl⟩

theorem find_of_findWheels {artifacts : Path} (listed : u.disk.findWheels artifacts = .ok wheels) (filled : wheels ≠ []) :
    find artifacts u = .ok wheels u := by
  have there := Disk.at?_of_find? (Disk.findWheels_ok_iff.1 listed).1
  unfold find
  have start : Job.disk u = .ok u.disk u := rfl
  rw [Job.bind_ok start]
  simp only [there]
  rw [Job.bind_ok (Job.look_ok_iff.2 ⟨listed, rfl⟩), if_neg (by simpa using filled)]
  rfl

-- A run finds the wheels, makes the folders, and then deals with one wheel after the other.
theorem run_steps {artifacts : Path} {options : OrganizeOptions} {result : OrganizeResult}
    (ran : run artifacts output options u = .ok result v) :
    ∃ wheels s u₁ u₂ u₃ u₄ e, u.disk.findWheels artifacts = .ok wheels ∧
      Job.ensureFolder (folders output).packages u = .ok () u₁ ∧ Job.ensureFolder (folders output).large u₁ = .ok () u₂ ∧
      Job.ensureFolder (folders output).small u₂ = .ok () u₃ ∧
      sortAll (folders output) options wheels.length 0 ⟨[], [], []⟩ wheels u₃ = .ok s u₄ ∧
      v = u₄.noting (.notice e) ∧
      result = { totalWheels := wheels.length, large := s.large.mergeSort fun a b => b.size ≤ a.size, small := s.small,
                 largeTotalSize := totalSize (s.large.mergeSort fun a b => b.size ≤ a.size),
                 smallTotalSize := totalSize s.small, failed := s.failed,
                 releaseTag := Calendar.releaseTag options.moment, folders := folders output } := by
  unfold run at ran
  obtain ⟨wheels, _, found, rest⟩ := Job.bind_ok_iff.1 ran
  obtain ⟨listed, rfl⟩ := find_ok found
  obtain ⟨_, u₁, packages, rest⟩ := Job.bind_ok_iff.1 rest
  obtain ⟨_, u₂, large, rest⟩ := Job.bind_ok_iff.1 rest
  obtain ⟨_, u₃, small, rest⟩ := Job.bind_ok_iff.1 rest
  obtain ⟨s, u₄, sorted, rest⟩ := Job.bind_ok_iff.1 rest
  obtain ⟨_, _, noted, rest⟩ := Job.bind_ok_iff.1 rest
  cases noted
  cases rest
  exact ⟨wheels, s, u₁, u₂, u₃, u₄, _, listed, packages, large, small, sorted, rfl, rfl⟩

theorem mem_findWheels {artifacts : Path} (listed : d.findWheels artifacts = .ok wheels) (p : Path) :
    p ∈ wheels ↔ ∃ rel, rel ≠ [] ∧ p = artifacts.bare ++ rel ∧ d.file? p ≠ none ∧ Disk.isWheelName p.baseName = true := by
  rw [Disk.mem_of_findWheels listed]
  refine exists_congr fun rel => and_congr_right' (and_congr_right' (and_congr_right fun file => ?_))
  rw [Path.baseName, (Disk.isPlain_of_file? file).bare]

-- What a run does with the wheels that it finds.
def sorting (output : Path) (options : OrganizeOptions) (wheels : List Path) : Job Sorting := do
  Job.ensureFolder (folders output).packages
  Job.ensureFolder (folders output).large
  Job.ensureFolder (folders output).small
  sortAll (folders output) options wheels.length 0 ⟨[], [], []⟩ wheels

theorem run_of_sorting {artifacts : Path} {options : OrganizeOptions} (listed : u.disk.findWheels artifacts = .ok wheels)
    (filled : wheels ≠ []) (done : (match sorting output options wheels u with
      | .ok s _ => s.failed.isEmpty
      | .error _ _ => false) = true) :
    ∃ result v, run artifacts output options u = .ok result v ∧ result.failed = [] := by
  cases sorted : sorting output options wheels u with
  | error e v =>
    rw [sorted] at done
    cases done
  | ok s v =>
    rw [sorted] at done
    obtain ⟨_, v₁, packages, ran⟩ := Job.bind_ok_iff.1 sorted
    obtain ⟨_, v₂, large, ran⟩ := Job.bind_ok_iff.1 ran
    obtain ⟨_, v₃, small, ran⟩ := Job.bind_ok_iff.1 ran
    unfold run
    rw [Job.bind_ok (find_of_findWheels listed filled)]
    simp only
    rw [Job.bind_ok packages, Job.bind_ok large, Job.bind_ok small, Job.bind_ok ran, Job.bind_ok (Job.info_run _ _ _)]
    exact ⟨_, _, rfl, by simpa using done⟩

-- A new output is apart from the wheels that are found.
theorem sources_of_findWheels {artifacts : Path} (listed : d.findWheels artifacts = .ok wheels)
    (absent : d.find? output.bare = none) : ∀ p ∈ wheels, d.file? p ≠ none ∧ ¬output.bare <+: p := by
  intro p inside
  obtain ⟨_, _, _, file, _⟩ := (Disk.mem_of_findWheels listed).1 inside
  exact ⟨file, fun below => Disk.found_of_file? file (Disk.find?_eq_none_below absent below)⟩

theorem run_sorted {artifacts : Path} {options : OrganizeOptions} {result : OrganizeResult}
    (plain : output.bare.IsPlain) (absent : u.disk.find? output.bare = none)
    (ran : run artifacts output options u = .ok result v) (complete : result.failed = []) :
    ∃ wheels s, u.disk.findWheels artifacts = .ok wheels ∧ result.totalWheels = wheels.length ∧
      result.large = s.large.mergeSort (fun a b => b.size ≤ a.size) ∧ result.small = s.small ∧
      IsSorted u.disk v.disk output options.sizeLimit s wheels := by
  obtain ⟨wheels, s, u₁, u₂, u₃, u₄, _, listed, packages, large, small, sorted, rfl, rfl⟩ := run_steps ran
  have start : IsSorted u.disk u₃.disk output options.sizeLimit ⟨[], [], []⟩ [] :=
    ⟨placed_nil plain absent packages large small, rfl, rfl⟩
  exact ⟨wheels, s, listed, rfl, rfl, rfl, (sortAll_ok (sources_of_findWheels listed absent) sorted complete).2 start⟩

/-- A wheel lies with its contents under its last name wherever its size puts it. -/
def IsStored (d d' : Disk) (output : Path) (limit : Number) (wheel : Path) : Prop :=
  ∀ folder ∈ homes (folders output) (isLarge d limit wheel), d'.file? (folder.child wheel.baseName) = d.file? wheel

theorem Placed.file?_child (h : Placed d₀ d output (heldAfter d₀ limit output wheels)) {large : Bool}
    (inside : folder ∈ homes (folders output) large) (name : String) :
    d.file? (folder.child name) = latest d₀ (side d₀ limit large wheels) name := by
  have holds := h.holds large folder inside
  have plain := Disk.isPlain_of_find? (d := d) (p := folder) (by simp [holds.there])
  have found := holds.file name
  rw [heldAfter, (mem_homes inside).2.2] at found
  rw [Path.child, plain.bare, Disk.file?, found]
  cases latest d₀ (side d₀ limit large wheels) name <;> rfl

theorem exists_home (f : OrganizeFolders) (large : Bool) : ∃ folder, folder ∈ homes f large := by
  cases large <;> simp [homes]

-- Nothing is lost just if the wheels that meet in a folder under one name are the same.
theorem Placed.isStored_iff (h : Placed d₀ d output (heldAfter d₀ limit output wheels)) :
    (∀ p ∈ wheels, IsStored d₀ d output limit p) ↔ ∀ p ∈ wheels, ∀ q ∈ wheels, p.baseName = q.baseName →
      isLarge d₀ limit p = isLarge d₀ limit q → d₀.file? p = d₀.file? q := by
  constructor
  · intro stored p inside q inside' named sized
    obtain ⟨folder, home⟩ := exists_home (folders output) (isLarge d₀ limit p)
    rw [← stored p inside folder home, ← stored q inside' folder (sized ▸ home), named]
  · intro agree p inside folder home
    obtain ⟨q, inside', named, last⟩ := exists_latest (d := d₀) (mem_side.2 ⟨inside, rfl⟩ :
      p ∈ side d₀ limit (isLarge d₀ limit p) wheels)
    obtain ⟨member, sized⟩ := mem_side.1 inside'
    rw [h.file?_child home, last]
    exact agree q member p inside named sized

-- A folder lists the names of the wheels on its side.
theorem Placed.listed (h : Placed d₀ d output (heldAfter d₀ limit output wheels))
    (files : ∀ p ∈ wheels, d₀.file? p ≠ none) {large : Bool} (inside : folder ∈ homes (folders output) large) :
    ∃ names, d.listFiles folder = .ok names ∧ names.Nodup ∧
      ∀ name, name ∈ names ↔ ∃ p ∈ wheels, isLarge d₀ limit p = large ∧ p.baseName = name := by
  have there := (h.holds large folder inside).there
  have plain := Disk.isPlain_of_find? (d := d) (p := folder) (by simp [there])
  obtain ⟨names, listed⟩ : ∃ names, d.listFiles folder = .ok names := by
    rw [Disk.listFiles, Disk.list_of_find? (plain.bare.symm ▸ there)]
    exact ⟨_, rfl⟩
  refine ⟨names, listed, Disk.nodup_of_listFiles listed, fun name => ?_⟩
  have missing : latest d₀ (side d₀ limit large wheels) name = none ↔
      ∀ q ∈ side d₀ limit large wheels, q.baseName ≠ name :=
    latest_eq_none_iff fun q member => files q (mem_side.1 member).1
  rw [(Disk.mem_of_listFiles listed).2, ← Path.child, h.file?_child inside, Ne, missing]
  simp [mem_side]

theorem Placed.count (h : Placed d₀ d output (heldAfter d₀ limit output wheels))
    (files : ∀ p ∈ wheels, d₀.file? p ≠ none) : ∃ large small, d.listFiles (folders output).large = .ok large ∧
      d.listFiles (folders output).small = .ok small ∧
      large.length + small.length = (wheels.map fun p => (isLarge d₀ limit p, p.baseName)).dedup.length := by
  have home : (folders output).large ∈ homes (folders output) true := by simp [homes]
  have home' : (folders output).small ∈ homes (folders output) false := by simp [homes]
  obtain ⟨large, listed, nodup, members⟩ := h.listed files home
  obtain ⟨small, listed', nodup', members'⟩ := h.listed files home'
  refine ⟨large, small, listed, listed', ?_⟩
  have apart : (large.map (Prod.mk true) ++ small.map (Prod.mk false)).Nodup := by
    refine List.Nodup.append (nodup.map (Prod.mk_right_injective true)) (nodup'.map (Prod.mk_right_injective false)) ?_
    simp [List.disjoint_left]
  have perm : (large.map (Prod.mk true) ++ small.map (Prod.mk false)).Perm
      (wheels.map fun p => (isLarge d₀ limit p, p.baseName)).dedup := by
    refine (List.perm_ext_iff_of_nodup apart (List.nodup_dedup _)).2 ?_
    rintro ⟨side, name⟩
    rw [List.mem_dedup]
    cases side <;> simp [members, members', and_comm]
  simpa using perm.length_eq

/-- What a run has done whose report names no failure. -/
structure HasPlaced (artifacts output : Path) (limit : Number) (d d' : Disk) (result : OrganizeResult)
    (wheels : List Path) : Prop where
  found : ∀ p, p ∈ wheels ↔ ∃ rel, rel ≠ [] ∧ p = artifacts.bare ++ rel ∧ d.file? p ≠ none ∧
    Disk.isWheelName p.baseName = true
  ordered : wheels.Nodup ∧ wheels.Pairwise fun p q => Disk.pathPrecedes p q = true
  total : result.totalWheels = wheels.length
  large : result.large.Perm ((side d limit true wheels).map (entry d))
  small : result.small = (side d limit false wheels).map (entry d)
  latest : ∀ large, ∀ folder ∈ homes (folders output) large, ∀ name,
    d'.file? (folder.child name) = latest d (side d limit large wheels) name
  stored : (∀ p ∈ wheels, IsStored d d' output limit p) ↔ ∀ p ∈ wheels, ∀ q ∈ wheels, p.baseName = q.baseName →
    isLarge d limit p = isLarge d limit q → d.file? p = d.file? q
  count : ∃ large small, d'.listFiles (folders output).large = .ok large ∧
    d'.listFiles (folders output).small = .ok small ∧
    large.length + small.length = (wheels.map fun p => (isLarge d limit p, p.baseName)).dedup.length

/-- A run into a new folder that reports no failure has put the last wheel of each name in the folders of its
side, and no other. So every wheel is there just if wheels of one name on one side have the same contents, and
there are as many wheels as different names. -/
theorem run_places_last {artifacts : Path} {options : OrganizeOptions} {result : OrganizeResult} {w : Workspace}
    (plain : output.bare.IsPlain) (absent : w.disk.find? output.bare = none)
    (ran : run artifacts output options w = .ok result v) (complete : result.failed = []) :
    ∃ wheels, w.disk.findWheels artifacts = .ok wheels ∧
      HasPlaced artifacts output options.sizeLimit w.disk v.disk result wheels := by
  obtain ⟨wheels, s, listed, total, large, small, sorted⟩ := run_sorted plain absent ran complete
  refine ⟨wheels, listed, mem_findWheels listed, ⟨Disk.nodup_of_findWheels listed, Disk.pairwise_of_findWheels listed⟩,
    total, ?_, small.trans sorted.small, fun side folder home name => sorted.placed.file?_child home name,
    sorted.placed.isStored_iff, sorted.placed.count fun p inside => (sources_of_findWheels listed absent p inside).1⟩
  rw [large, ← sorted.large]
  exact List.mergeSort_perm _ _

end

section Sample

-- Two wheels of one name.
def twinDisk : Disk :=
  ((((Disk.empty.put ["a"] .folder).put ["a", "x"] .folder).put ["a", "x", "p.whl"] (.file (Text.encode "1"))).put
    ["a", "y"] .folder).put ["a", "y", "p.whl"] (.file (Text.encode "2"))

def twinWorkspace : Workspace := ⟨twinDisk, [], [], [], [], 0⟩

def twinOptions : OrganizeOptions := ⟨.ofNat 100, none, false⟩

def twins : List Path := [["a", "x", "p.whl"], ["a", "y", "p.whl"]]

theorem twin_listed : twinDisk.findWheels ["a"] = .ok twins := by
  have ordered : twins.Pairwise fun p q => Disk.pathPrecedes p q = true := by decide +kernel
  have first : twinDisk.walkWheels 5 ["a", "x"] = [["a", "x", "p.whl"]] := by
    rw [Disk.walkWheels]
    exact List.mergeSort_singleton _
  have second : twinDisk.walkWheels 5 ["a", "y"] = [["a", "y", "p.whl"]] := by
    rw [Disk.walkWheels]
    exact List.mergeSort_singleton _
  have both : twinDisk.walkWheels 6 ["a"] =
      (twinDisk.walkWheels 5 ["a", "x"] ++ (twinDisk.walkWheels 5 ["a", "y"] ++ [])).mergeSort Disk.pathPrecedes := by
    rw [Disk.walkWheels]
    rfl
  rw [first, second] at both
  exact Disk.findWheels_ok_iff.2 ⟨rfl, both.trans (List.mergeSort_of_pairwise ordered)⟩

-- The second wheel takes the place of the first one, and none has failed.
theorem twin_run : ∃ result v, run ["a"] ["o"] twinOptions twinWorkspace = .ok result v ∧ result.failed = [] :=
  run_of_sorting twin_listed (by decide) (by decide +kernel)

theorem run_places_last_twins : ∃ result v, run ["a"] ["o"] twinOptions twinWorkspace = .ok result v ∧
    result.failed = [] ∧ result.totalWheels = 2 ∧
      v.disk.file? ["o", "packages", "p.whl"] = some (Text.encode "2") ∧
      ¬∀ p ∈ twins, IsStored twinDisk v.disk ["o"] twinOptions.sizeLimit p := by
  obtain ⟨result, v, ran, complete⟩ := twin_run
  obtain ⟨wheels, listed, placed⟩ := run_places_last (by unfold Path.IsPlain; decide) rfl ran complete
  cases twin_listed.symm.trans listed
  have small : ∀ p ∈ twins, isLarge twinDisk twinOptions.sizeLimit p = false := by decide +kernel
  have small : side twinDisk twinOptions.sizeLimit false twins = twins := List.filter_eq_self.2 (by simpa using small)
  have last : latest twinDisk (side twinDisk twinOptions.sizeLimit false twins) "p.whl" = some (Text.encode "2") := by
    rw [small]
    rfl
  have home : ["o", "packages"] ∈ homes (folders ["o"]) false := by decide
  have other : twinDisk.file? ["a", "x", "p.whl"] ≠ twinDisk.file? ["a", "y", "p.whl"] := by decide +kernel
  exact ⟨result, v, ran, complete, placed.total, (placed.latest false _ home "p.whl").trans last, fun stored =>
    other (placed.stored.1 stored _ (by decide) _ (by decide) rfl (by decide +kernel))⟩

end Sample

end Wheelhouse.Organize
