import Wheelhouse.Proofs.Site.Closure
import Wheelhouse.Proofs.Site.Regeneration
import Wheelhouse.Proofs.Text.Units

/-!
Indexes that are generated again and again into one folder. For every variant the folder holds what its
last run has written, as that run alone would have written it, and the root page lists the variants.
-/

set_option autoImplicit false

namespace Wheelhouse.Index

/-- A run into an output folder that has succeeded. Its archives do not lie in that folder. -/
structure Generation (output : Path) where
  wheels : Path
  options : IndexOptions
  before : Workspace
  result : IndexResult
  after : Workspace
  outside : ¬output.bare <+: wheels.bare
  ran : run wheels output options before = .ok result after

/-- Runs into an output folder that was not there at first, the last one first, with the disk that they
leave. Between two runs nothing changes in the output folder; elsewhere anything may. -/
inductive Generations (output : Path) : List (Generation output) → Disk → Prop
  | start {d : Disk} (absent : d.find? output.bare = none) : Generations output [] d
  | next {gs : List (Generation output)} {d : Disk} (earlier : Generations output gs d) (g : Generation output)
      (same : ∀ rel, g.before.disk.find? (output.bare ++ rel) = d.find? (output.bare ++ rel)) :
      Generations output (g :: gs) g.after.disk

variable {output : Path} {gs : List (Generation output)} {d : Disk}

def Generation.variant (g : Generation output) : String := g.options.variant

def lastOf (gs : List (Generation output)) (variant : String) : Option (Generation output) :=
  gs.find? fun g => g.variant = variant

/-- An output folder in which there is nothing but the root page, with the variants in the order of their code
units, and for every variant a folder that is as its last run alone writes it into an empty output folder. The
order is that of UTF-16 for names in which no character stands for half a surrogate pair. -/
structure HoldsLatest (gs : List (Generation output)) (d : Disk) : Prop where
  folder : d.find? output.bare = some .folder
  root : ∃ names : List String, names.Pairwise (fun a b => Text.strictlyPrecedes a b = true) ∧
    ((∀ name ∈ names, Text.IsSingle name) →
      names.Pairwise fun a b => Text.codeUnits a.toList < Text.codeUnits b.toList) ∧
    (∀ variant, variant ∈ names ↔ ∃ g ∈ gs, g.variant = variant) ∧
    d.find? (output.bare ++ ["index.html"]) =
      some (.file (Text.encode (Html.page "Simple Index" (names.map Html.folderLink))))
  only : ∀ name rest, d.find? (output.bare ++ name :: rest) ≠ none →
    name :: rest = ["index.html"] ∨ ∃ g ∈ gs, g.variant = name
  subtree : ∀ variant g, lastOf gs variant = some g → ∀ u : Workspace, IsFresh output g.before.disk u.disk →
    ∃ result u', run g.wheels output g.options u = .ok result u' ∧
      ∀ rel, d.find? (output.bare ++ variant :: rel) = u'.disk.find? (output.bare ++ variant :: rel)

-- What each run keeps.
structure Recorded (gs : List (Generation output)) (d : Disk) : Prop where
  page : ∀ g ∈ gs, d.find? (output.bare ++ [g.variant, pageName]) ≠ none
  only : ∀ name rest, d.find? (output.bare ++ name :: rest) ≠ none →
    name :: rest = [pageName] ∨ ∃ g ∈ gs, g.variant = name
  subtree : ∀ variant g, lastOf gs variant = some g →
    ∀ rel, d.find? (output.bare ++ variant :: rel) = g.after.disk.find? (output.bare ++ variant :: rel)

theorem recorded_nil (absent : d.find? output.bare = none) : Recorded ([] : List (Generation output)) d where
  page _ inside := nomatch inside
  only _ _ found := absurd (Disk.find?_eq_none_below absent (List.prefix_append _ _)) found
  subtree _ _ last := nomatch last

-- What has a page is a folder, so the root page is not in its place.
theorem ne_pageName_of_page {name : String} {contents : ByteArray}
    (page : d.find? (output.bare ++ [name, pageName]) ≠ none)
    (root : d.find? (output.bare ++ [pageName]) = some (.file contents)) : name ≠ pageName := by
  rintro rfl
  have folder := Disk.find?_above page (p := output.bare ++ [pageName]) ⟨[pageName], by simp⟩ (by simp)
  rw [root] at folder
  cases folder

theorem mem_of_lastOf {variant : String} {g : Generation output} (last : lastOf gs variant = some g) :
    g ∈ gs ∧ g.variant = variant :=
  ⟨List.mem_of_find?_eq_some last, by simpa using List.find?_some last⟩

-- What is left when the output folder is removed is a disk to start from.
theorem isFresh_erase (filled : output.bare ≠ []) (d : Disk) : IsFresh output d (d.erase output.bare) where
  outside q apart := by rw [Disk.find?_erase_below filled, if_neg apart]
  empty name rest := by rw [Disk.find?_erase_below filled, if_pos (List.prefix_append _ _)]
  noFile := by rw [Disk.file?, Disk.find?_erase_below filled, if_pos List.prefix_rfl]

theorem Generation.refreshed (g : Generation output) :
    IsRefreshed output g.variant g.before.disk g.after.disk :=
  run_refreshed g.outside g.ran

theorem Recorded.next (h : Recorded gs d) (g : Generation output)
    (same : ∀ rel, g.before.disk.find? (output.bare ++ rel) = d.find? (output.bare ++ rel)) :
    Recorded (g :: gs) g.after.disk := by
  have refreshed := g.refreshed
  have other (name : String) (rest : Path) (apart : name ≠ g.variant) (deeper : name :: rest ≠ [pageName]) :
      g.after.disk.find? (output.bare ++ name :: rest) = d.find? (output.bare ++ name :: rest) :=
    (refreshed.other name rest apart deeper).trans (same _)
  have page : ∀ g' ∈ g :: gs, g.after.disk.find? (output.bare ++ [g'.variant, pageName]) ≠ none := by
    intro g' inside
    by_cases here : g'.variant = g.variant
    · rw [here]
      exact refreshed.page
    · have old := (List.mem_cons.1 inside).resolve_left fun first => here (by rw [first])
      rw [other _ _ here (by simp)]
      exact h.page g' old
  refine ⟨page, fun name rest found => ?_, fun variant g' last rel => ?_⟩
  · by_cases here : name = g.variant
    · exact .inr ⟨g, List.mem_cons_self, here.symm⟩
    · by_cases root : name :: rest = [pageName]
      · exact .inl root
      · rw [other name rest here root] at found
        refine (h.only name rest found).imp_right ?_
        rintro ⟨g', old, named⟩
        exact ⟨g', List.mem_cons_of_mem _ old, named⟩
  · by_cases here : g.variant = variant
    · have first : lastOf (g :: gs) variant = some g := by simp [lastOf, here]
      rw [first] at last
      cases last
      rfl
    · have earlier : lastOf gs variant = some g' := by simpa [lastOf, here] using last
      obtain ⟨old, named⟩ := mem_of_lastOf earlier
      obtain ⟨names, _, _, root⟩ := refreshed.root
      have apart := ne_pageName_of_page (page g' (List.mem_cons_of_mem _ old)) root
      rw [named] at apart
      rw [other variant rel (Ne.symm here) (by simp [apart])]
      exact h.subtree variant g' earlier rel

theorem Generations.recorded (runs : Generations output gs d) : Recorded gs d := by
  induction runs with
  | start absent => exact recorded_nil absent
  | next _ g same ih => exact ih.next g same

-- Runs that succeed from the same disk also succeed one after the other.
theorem Generation.followed (g g' : Generation output) (same : g'.before.disk = g.before.disk) :
    ∃ next : Generation output, next.options = g'.options ∧ next.before = g.after := by
  have ready := (same ▸ run_ready g'.outside g'.ran).of_isRefreshed g'.outside g.refreshed
  obtain ⟨result, w, ran, _⟩ := run_mirrored g'.outside g'.ran (u := g.after) (same ▸ ready)
  exact ⟨⟨g'.wheels, g'.options, g.after, result, w, g'.outside, ran⟩, rfl, rfl⟩

/-- After any number of runs the output folder holds the last generation of every variant, and nothing else. -/
theorem Generations.holdsLatest (runs : Generations output gs d) (some : gs ≠ []) : HoldsLatest gs d := by
  have recorded := runs.recorded
  cases runs with
  | start => exact absurd rfl some
  | @next gs _ earlier g same =>
    obtain ⟨names, sorted, members, root⟩ := g.refreshed.root
    refine ⟨g.refreshed.folder, ⟨names, sorted, fun single => ?_, fun variant => ?_, root⟩, recorded.only,
      fun variant g' last u fresh => ?_⟩
    · exact sorted.imp_of_mem fun inside inside' =>
        (Text.strictlyPrecedes_iff (single _ inside) (single _ inside')).1
    · rw [members]
      constructor
      · rintro ⟨_, page⟩
        exact (recorded.only variant [pageName] page).resolve_left (by simp)
      · rintro ⟨g', inside, rfl⟩
        have page := recorded.page g' inside
        exact ⟨Disk.find?_above page ⟨[pageName], by simp⟩ (by simp), page⟩
    · obtain ⟨_, rfl⟩ := mem_of_lastOf last
      obtain ⟨result, u', ran, alone⟩ :=
        run_mirrored g'.outside g'.ran ((run_ready g'.outside g'.ran).of_isFresh g'.outside fresh)
      exact ⟨result, u', ran, fun rel => (recorded.subtree _ g' last rel).trans (alone rel)⟩

section Sample

open Publish (sampleWorkspace sampleOptions)

def otherOptions : IndexOptions := { sampleOptions with variant := "u" }

theorem sample_other : ∃ result w, run ["w"] ["o"] otherOptions sampleWorkspace = .ok result w :=
  Publish.sample_run (by decide) ⟨_, _, rfl, rfl, rfl⟩

theorem Generations.holdsLatest_sample : ∃ first second third : Generation ["o"],
    first.variant = "v" ∧ second.variant = "u" ∧ third.variant = "v" ∧
      Generations ["o"] [third, second, first] third.after.disk ∧
      HoldsLatest [third, second, first] third.after.disk ∧
      ∃ result w, run third.wheels ["o"] third.options
          { third.before with disk := third.before.disk.erase ["o"] } = .ok result w ∧
        ∀ rel, third.after.disk.find? ("o" :: "v" :: rel) = w.disk.find? ("o" :: "v" :: rel) := by
  have outside : ¬Path.bare ["o"] <+: Path.bare ["w"] := by decide
  obtain ⟨result, w, ran⟩ := Publish.sample_generated
  obtain ⟨result', w', ran'⟩ := sample_other
  let first : Generation ["o"] := ⟨["w"], sampleOptions, sampleWorkspace, result, w, outside, ran⟩
  obtain ⟨again, variant, before⟩ := first.followed first rfl
  obtain ⟨second, variant', before'⟩ :=
    first.followed ⟨["w"], otherOptions, sampleWorkspace, result', w', outside, ran'⟩ rfl
  obtain ⟨third, variant'', before''⟩ := second.followed again (by rw [before, before'])
  have runs : Generations ["o"] [third, second, first] third.after.disk := by
    have start : Generations ["o"] [] sampleWorkspace.disk := .start rfl
    have one : Generations ["o"] [first] first.after.disk := start.next first fun _ => rfl
    have two : Generations ["o"] [second, first] second.after.disk := one.next second fun rel => by rw [before']
    exact two.next third fun rel => by rw [before'']
  have named : second.variant = "u" := congrArg IndexOptions.variant variant'
  have named' : third.variant = "v" := congrArg IndexOptions.variant (variant''.trans variant)
  have left := runs.holdsLatest (by simp)
  have last : lastOf [third, second, first] "v" = some third := by simp [lastOf, named']
  have alone := left.subtree "v" third last
    { third.before with disk := third.before.disk.erase ["o"] } (isFresh_erase (by decide) _)
  exact ⟨first, second, third, rfl, named, named', runs, left, alone⟩

end Sample

end Wheelhouse.Index
