import Mathlib.Data.List.Basic
import Wheelhouse.Proofs.Disk.Path
import Wheelhouse.Publish.Scope

/-!
How far destinations keep publications apart. Every destination is one name, and below two different names no
two files have the same key; only the name `.` vanishes from a key. Nothing keeps the commit, the version
and `nightly` from being the same.
-/

set_option autoImplicit false

namespace Wheelhouse

namespace ObjectKey

theorem segments_of_isPlain {part : String} (plain : Path.IsPlain (Path.segments part)) :
    segments [part] = Path.segments part := by
  rw [segments_singleton, List.filter_eq_self]
  intro name inside
  simp [isKept, (plain name inside).1, (plain name inside).2.1]

theorem segments_of_isKept {name : String} (kept : isKept name = true) (unbroken : '/' ∉ name.toList) :
    segments [name] = [name] := by
  have whole : Path.segments name = [name] := by
    have single : Path.segments (Text.joined "/" [name]) = [name] := Path.segments_joined (by simp) (by simpa using unbroken)
    rwa [Text.joined_singleton] at single
  rw [segments_singleton, whole, List.filter_cons_of_pos kept, List.filter_nil]

-- A name between two other parts of a key can be read off the key.
theorem join_eq_join_of_names {p q : String} (kept : isKept p = true) (kept' : isKept q = true)
    (unbroken : '/' ∉ p.toList) (unbroken' : '/' ∉ q.toList) {f g : String} (plain : Path.IsPlain (Path.segments f))
    (plain' : Path.IsPlain (Path.segments g)) (scope : String) :
    join [scope, p, f] = join [scope, q, g] ↔ p = q ∧ f = g := by
  have parts {name file : String} (kept : isKept name = true) (unbroken : '/' ∉ name.toList)
      (plain : Path.IsPlain (Path.segments file)) :
      segments [scope, name, file] = segments [scope] ++ name :: Path.segments file := by
    rw [segments_cons, segments_cons name, segments_of_isKept kept unbroken, segments_of_isPlain plain]
    rfl
  rw [join_eq_join_iff, parts kept unbroken plain, parts kept' unbroken' plain', List.append_cancel_left_eq,
    List.cons.injEq]
  exact and_congr_right' ⟨Path.segments_inj, congrArg _⟩

end ObjectKey

namespace PublishScope

variable {scope : PublishScope} {mainBranch : String} {destinations : List String}

theorem isSegment_iff {name : String} : isSegment name = true ↔ name ≠ "" ∧ '/' ∉ name.toList := by
  simp [isSegment]

def commitName (scope : PublishScope) : String := Text.trimmed scope.commit

def versionName (scope : PublishScope) : String := (scope.version.map Text.trimmed).getD ""

theorem destinations_ok_iff : scope.destinations mainBranch = .ok destinations ↔
    isSegment scope.commitName = true ∧ (scope.isRelease = true → isSegment scope.versionName = true) ∧
      destinations = scope.commitName :: (if scope.branch = mainBranch then [nightly] else []) ++
        if scope.isRelease then [scope.versionName] else [] := by
  unfold PublishScope.destinations commitName versionName
  cases commit : isSegment (Text.trimmed scope.commit) with
  | false => simp [commit, throw, throwThe, MonadExceptOf.throw, bind, Except.bind]
  | true =>
    cases release : scope.isRelease with
    | false =>
      simp only [commit, pure, Except.pure]
      simp [Eq.comm (a := destinations)]
    | true =>
      cases version : isSegment ((scope.version.map Text.trimmed).getD "") with
      | false => simp [commit, version, throw, throwThe, MonadExceptOf.throw, bind, Except.bind]
      | true =>
        simp only [commit, version, pure, Except.pure]
        simp [Eq.comm (a := destinations)]

theorem isSegment_of_mem (accepted : scope.destinations mainBranch = .ok destinations) :
    ∀ p ∈ destinations, isSegment p = true := by
  obtain ⟨commit, version, rfl⟩ := destinations_ok_iff.1 accepted
  intro p inside
  rcases List.mem_append.1 inside with first | last
  · rcases List.mem_cons.1 first with rfl | main
    · exact commit
    · rw [List.mem_ite_nil_right] at main
      rw [List.mem_singleton.1 main.2]
      decide
  · rw [List.mem_ite_nil_right] at last
    rw [List.mem_singleton.1 last.2]
    exact version last.1

-- The three names that may be the same.
theorem nodup_iff (accepted : scope.destinations mainBranch = .ok destinations) : destinations.Nodup ↔
    ¬(scope.branch = mainBranch ∧ scope.commitName = nightly) ∧
      ¬(scope.isRelease = true ∧ scope.versionName = scope.commitName) ∧
      ¬(scope.branch = mainBranch ∧ scope.isRelease = true ∧ scope.versionName = nightly) := by
  obtain ⟨_, _, rfl⟩ := destinations_ok_iff.1 accepted
  by_cases main : scope.branch = mainBranch <;> by_cases release : scope.isRelease = true <;>
    simp [main, release, eq_comm, and_assoc]

/-- The destinations of an accepted scope are its commit, `nightly` on the main branch, and the version of a
release, each a name without a slash. They differ unless two of these happen to be the same, and below
different destinations, of which none is `.`, no two files have the same key. -/
theorem destinations_separate (accepted : scope.destinations mainBranch = .ok destinations) :
    destinations = scope.commitName :: (if scope.branch = mainBranch then [nightly] else []) ++
        (if scope.isRelease then [scope.versionName] else []) ∧
      (∀ p ∈ destinations, p ≠ "" ∧ '/' ∉ p.toList) ∧
      (destinations.Nodup ↔
        ¬(scope.branch = mainBranch ∧ scope.commitName = nightly) ∧
          ¬(scope.isRelease = true ∧ scope.versionName = scope.commitName) ∧
          ¬(scope.branch = mainBranch ∧ scope.isRelease = true ∧ scope.versionName = nightly)) ∧
      ∀ p ∈ destinations, ∀ q ∈ destinations, p ≠ "." → q ≠ "." → ∀ space f g : String,
        Path.IsPlain (Path.segments f) → Path.IsPlain (Path.segments g) →
          (ObjectKey.join [space, p, f] = ObjectKey.join [space, q, g] ↔ p = q ∧ f = g) := by
  have named : ∀ p ∈ destinations, p ≠ "" ∧ '/' ∉ p.toList := fun p inside =>
    isSegment_iff.1 (isSegment_of_mem accepted p inside)
  refine ⟨(destinations_ok_iff.1 accepted).2.2, named, nodup_iff accepted, ?_⟩
  intro p inside q inside' notHere notHere' space f g plain plain'
  obtain ⟨filled, unbroken⟩ := named p inside
  obtain ⟨filled', unbroken'⟩ := named q inside'
  exact ObjectKey.join_eq_join_of_names (by simp [ObjectKey.isKept, filled, notHere])
    (by simp [ObjectKey.isKept, filled', notHere']) unbroken unbroken' plain plain' space

section Sample

theorem destinations_separate_release :
    (⟨" abc ", "main", true, some "0.11.0"⟩ : PublishScope).destinations "main" = .ok ["abc", "nightly", "0.11.0"] ∧
      ["abc", "nightly", "0.11.0"].Nodup ∧
      ObjectKey.join ["rocm", "abc", "v/index.html"] ≠ ObjectKey.join ["rocm", "nightly", "v/index.html"] := by
  have accepted :
      (⟨" abc ", "main", true, some "0.11.0"⟩ : PublishScope).destinations "main" = .ok ["abc", "nightly", "0.11.0"] := rfl
  have plain : Path.IsPlain (Path.segments "v/index.html") := by
    unfold Path.IsPlain
    decide +kernel
  obtain ⟨_, _, distinct, apart⟩ := destinations_separate accepted
  have keys := apart "abc" (by decide) "nightly" (by decide) (by decide) (by decide) "rocm" "v/index.html" "v/index.html"
    plain plain
  exact ⟨accepted, distinct.2 (by decide +kernel), fun same => absurd (keys.1 same).1 (by decide)⟩

-- A commit may be called `nightly`, and it may be the name that vanishes from a key.
theorem destinations_not_distinct :
    (⟨"nightly", "main", false, none⟩ : PublishScope).destinations "main" = .ok ["nightly", "nightly"] ∧
      ¬["nightly", "nightly"].Nodup ∧
      (⟨".", "main", false, none⟩ : PublishScope).destinations "main" = .ok [".", "nightly"] ∧
      ObjectKey.join ["rocm", ".", "nightly/index.html"] = ObjectKey.join ["rocm", "nightly", "index.html"] :=
  ⟨rfl, by decide, rfl, by decide +kernel⟩

end Sample

end PublishScope

end Wheelhouse
