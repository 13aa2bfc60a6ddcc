import Mathlib.Tactic.ByContra
import Mathlib.Tactic.SplitIfs
import Wheelhouse.Disk.Path
import Wheelhouse.Store.Key

/-!
Plain paths, in which every name stands for itself. The text between two slashes is a name, names that
are kept are told apart in the text of a key, and what is reached by going along plain names lies below
the place where one starts.
-/

set_option autoImplicit false

namespace Wheelhouse

theorem Text.joined_singleton (sep name : String) : joined sep [name] = name := by
  rw [joined, List.map_singleton, join, String.ofList_toList]

namespace Path

def IsPlain (p : Path) : Prop := ∀ name ∈ p, name ≠ "" ∧ name ≠ "." ∧ name ≠ ".." ∧ '/' ∉ name.toList

theorem isName_iff {name : String} : isName name = true ↔
    name ≠ "" ∧ name ≠ "." ∧ name ≠ ".." ∧ '/' ∉ name.toList ∧ '\x00' ∉ name.toList ∧
      isTooLong name = false := by
  simp [isName, and_assoc]

theorem IsPlain.of_isName {p : Path} (named : ∀ name ∈ p, isName name = true) : p.IsPlain := by
  intro name inside
  obtain ⟨filled, notHere, notUp, unbroken, _⟩ := isName_iff.1 (named name inside)
  exact ⟨filled, notHere, notUp, unbroken⟩

theorem IsPlain.append {p q : Path} (hp : p.IsPlain) (hq : q.IsPlain) : (p ++ q).IsPlain :=
  fun name inside => (List.mem_append.1 inside).elim (hp name) (hq name)

theorem IsPlain.left {p q : Path} (h : (p ++ q).IsPlain) : p.IsPlain :=
  fun name inside => h name (List.mem_append_left _ inside)

theorem IsPlain.right {p q : Path} (h : (p ++ q).IsPlain) : q.IsPlain :=
  fun name inside => h name (List.mem_append_right _ inside)

theorem IsPlain.unmarked {p : Path} (h : p.IsPlain) : p.isMarked = false := by
  rw [isMarked, beq_eq_false_iff_ne]
  intro last
  exact (h "" (List.mem_of_getLast? last)).1 rfl

theorem IsPlain.bare {p : Path} (h : p.IsPlain) : p.bare = p := bare_of_not_isMarked h.unmarked

theorem IsPlain.above {p q : Path} (h : q.IsPlain) (before : p <+: q) : p.IsPlain :=
  fun name inside => h name (before.subset inside)

theorem child_of_unmarked {p : Path} (unmarked : p.isMarked = false) (name : String) : p.child name = p ++ [name] := by
  rw [child, bare_of_not_isMarked unmarked]

theorem descend_of_isPlain {names : List String} (plain : IsPlain names) (p : Path) :
    descend p names = p ++ names := by
  induction names generalizing p with
  | nil => simp [descend]
  | cons name rest ih =>
    obtain ⟨filled, notHere, notUp, _⟩ := plain name List.mem_cons_self
    have step : follow p name = p ++ [name] := by simp [follow, filled, notHere, notUp]
    change descend (follow p name) rest = _
    rw [step, ih (fun n inside => plain n (List.mem_cons_of_mem _ inside)), List.append_assoc]
    rfl

theorem isPlain_follow {p : Path} {name : String} (plain : p.IsPlain) (unbroken : '/' ∉ name.toList) :
    (follow p name).IsPlain := by
  unfold follow
  simp only [Bool.or_eq_true, decide_eq_true_eq]
  split_ifs with still up
  · exact plain
  · exact plain.above (List.dropLast_prefix p)
  · refine plain.append fun n inside => ?_
    rw [List.mem_singleton.1 inside]
    exact ⟨fun h => still (.inl h), fun h => still (.inr h), up, unbroken⟩

theorem isPlain_descend {names : List String} {p : Path} (plain : p.IsPlain)
    (unbroken : ∀ name ∈ names, '/' ∉ name.toList) : (descend p names).IsPlain := by
  induction names generalizing p with
  | nil => exact plain
  | cons name rest ih =>
    exact ih (isPlain_follow plain (unbroken name List.mem_cons_self))
      fun n inside => unbroken n (List.mem_cons_of_mem _ inside)

theorem slash_not_mem_of_mem_segments {text name : String} (h : name ∈ segments text) :
    '/' ∉ name.toList := by
  obtain ⟨part, inside, rfl⟩ := List.mem_map.1 h
  intro slash
  rw [String.toList_ofList] at slash
  simpa using Text.not_mem_of_mem_split inside '/' slash

theorem joined_segments (text : String) : Text.joined "/" (segments text) = text := by
  have single : "/".toList = ['/'] := rfl
  rw [Text.joined, segments, Text.fields, List.map_map, single]
  simp [Function.comp_def, Text.join_split]

theorem segments_inj {text text' : String} (same : segments text = segments text') : text = text' := by
  rw [← joined_segments text, same, joined_segments]

theorem segments_joined {names : List String} (some : names ≠ [])
    (unbroken : ∀ name ∈ names, '/' ∉ name.toList) : segments (Text.joined "/" names) = names := by
  have single : "/".toList = ['/'] := rfl
  have apart : Text.split (· == '/') (Text.join ['/'] (names.map String.toList)) = names.map String.toList := by
    refine Text.split_join (by simpa using some) ?_
    intro part inside
    obtain ⟨name, member, rfl⟩ := List.mem_map.1 inside
    exact unbroken name member
  rw [segments, Text.fields, Text.joined, String.toList_ofList, single, apart, List.map_map]
  simp [Function.comp_def]

theorem segments_joined_of_isPlain {names : List String} (some : names ≠ []) (plain : IsPlain names) :
    segments (Text.joined "/" names) = names :=
  segments_joined some fun name inside => (plain name inside).2.2.2

theorem joined_append_inj {base names names' : List String} (slashless : ∀ name ∈ base, '/' ∉ name.toList)
    (filled : names ≠ []) (filled' : names' ≠ []) (unbroken : ∀ name ∈ names, '/' ∉ name.toList)
    (unbroken' : ∀ name ∈ names', '/' ∉ name.toList)
    (same : Text.joined "/" (base ++ names) = Text.joined "/" (base ++ names')) : names = names' := by
  have whole {more : List String} (clean : ∀ name ∈ more, '/' ∉ name.toList) :
      ∀ name ∈ base ++ more, '/' ∉ name.toList :=
    fun name inside => (List.mem_append.1 inside).elim (slashless name) (clean name)
  have segments := congrArg segments same
  rw [segments_joined (by simp [filled]) (whole unbroken),
    segments_joined (by simp [filled']) (whole unbroken')] at segments
  exact List.append_cancel_left segments

-- The way to another place starts upwards unless the place is below.
theorem relative_head_iff {root target : Path} (plain : target.IsPlain) :
    (relative root target).head? ≠ some ".." ↔ root <+: target := by
  induction root generalizing target with
  | nil =>
    have same : relative [] target = target := by cases target <;> rfl
    rw [same]
    refine ⟨fun _ => List.nil_prefix, fun _ up => ?_⟩
    exact (plain ".." (List.mem_of_head? up)).2.2.1 rfl
  | cons a root ih =>
    cases target with
    | nil => simp [relative]
    | cons b target =>
      by_cases same : a = b
      · subst same
        have rest : IsPlain target := fun n inside => plain n (List.mem_cons_of_mem _ inside)
        simp [relative, ih rest, List.cons_prefix_cons]
      · simp [relative, same, List.cons_prefix_cons]

theorem isInside_iff {root target : Path} (plain : target.IsPlain) :
    isInside root target = true ↔ root.bare <+: target := by
  rw [isInside, bne_iff_ne, plain.bare, relative_head_iff plain]

end Path

namespace ObjectKey

theorem mem_segments {parts : List String} {segment : String} :
    segment ∈ segments parts ↔
      (∃ part ∈ parts, segment ∈ Path.segments part) ∧ segment ≠ "" ∧ segment ≠ "." := by
  simp [segments, Path.segments, isKept]

theorem slash_not_mem_of_mem_segments {parts : List String} {segment : String}
    (h : segment ∈ segments parts) : '/' ∉ segment.toList := by
  obtain ⟨⟨_, _, inside⟩, _⟩ := mem_segments.1 h
  exact Path.slash_not_mem_of_mem_segments inside

theorem segments_singleton (part : String) :
    segments [part] = (Path.segments part).filter isKept := by
  simp [segments, Path.segments]

theorem filter_isKept_segments (parts : List String) :
    (segments parts).filter isKept = segments parts := by
  simp [segments, List.filter_filter]

theorem segments_join (parts : List String) : segments [join parts] = segments parts := by
  rw [segments_singleton, join]
  by_cases none : segments parts = []
  · rw [none]
    rfl
  · rw [Path.segments_joined none fun segment inside => slash_not_mem_of_mem_segments inside,
      filter_isKept_segments]

theorem join_eq_join_iff {parts parts' : List String} : join parts = join parts' ↔ segments parts = segments parts' := by
  constructor
  · intro same
    rw [← segments_join parts, same, segments_join]
  · intro same
    rw [join, same, ← join]

theorem segments_cons (part : String) (parts : List String) :
    segments (part :: parts) = segments [part] ++ segments parts :=
  segments_append [part] parts

theorem segments_joined_of_isPlain {names : List String} (some : names ≠ []) (plain : Path.IsPlain names) :
    segments [Text.joined "/" names] = names := by
  rw [segments_singleton, Path.segments_joined_of_isPlain some plain, List.filter_eq_self]
  intro name inside
  obtain ⟨filled, notHere, _⟩ := plain name inside
  simp [isKept, filled, notHere]

-- Names that are not kept lead nowhere.
theorem descend_filter_isKept (p : Path) (names : List String) :
    Path.descend p (names.filter isKept) = Path.descend p names := by
  induction names generalizing p with
  | nil => rfl
  | cons name rest ih =>
    by_cases kept : isKept name = true
    · rw [List.filter_cons_of_pos kept]
      exact ih (p.follow name)
    · have still : Path.follow p name = p := by
        have both : name = "" ∨ name = "." := by
          by_contra neither
          exact kept (by simpa [isKept] using neither)
        simp [Path.follow, both]
      rw [List.filter_cons_of_neg kept, ih p]
      change _ = Path.descend (Path.follow p name) rest
      rw [still]

theorem descend_segments_join (p : Path) (parts : List String) :
    Path.descend p (Path.segments (join parts)) = Path.descend p (segments parts) := by
  rw [← descend_filter_isKept p (Path.segments (join parts)), ← segments_singleton, segments_join]

end ObjectKey

end Wheelhouse
