import Mathlib.Data.List.Basic
import Mathlib.Tactic.ByContra
import Wheelhouse.Proofs.Package.RequirementLine
import Wheelhouse.Proofs.Pin.Lines

/-!
What pinning does to the lines of a requirement file. The lines that are put at the start pin the
versions that no line pins yet, and of the lines that were there only those are commented out that ask
for a pinned package in another way or a second time. So each package is asked for by one line.
-/

set_option autoImplicit false

namespace Wheelhouse

namespace RequirementFile

/-- Whether a line asks for the package of a candidate. -/
def asks (c : Candidate) (line : String) : Bool :=
  (Requirement.parse? line).any fun r => r.normalizedName = c.normalizedName

/-- Whether a line asks for exactly the version of a candidate. -/
def pins (c : Candidate) (line : String) : Bool :=
  (Requirement.parse? line).any fun r => r.normalizedName = c.normalizedName &&
    r.specifier = "==" ++ c.version && r.extras.isNone && r.marker.isNone

/-- Whether a line is commented out for a candidate: the first line that pins its version stays. -/
def isReplaced (c : Candidate) (before : List String) (line : String) : Bool :=
  asks c line && (!pins c line || before.any (pins c))

variable {c : Candidate} {line : String} {lines : List String}

theorem asks_of_pins (exact : pins c line = true) : asks c line = true := by
  unfold pins at exact
  unfold asks
  cases parsed : Requirement.parse? line with
  | none => simp [parsed] at exact
  | some r => simp_all

theorem pins_of_not_asks (unasked : asks c line = false) : pins c line = false := by
  cases exact : pins c line with
  | false => rfl
  | true => simp [asks_of_pins exact] at unasked

theorem lineClass_eq (c : Candidate) (line : String) :
    lineClass c line = if pins c line then .exact else if asks c line then .other else .unrelated := by
  unfold lineClass pins asks
  cases Requirement.parse? line with
  | none => simp
  | some r => by_cases named : r.normalizedName = c.normalizedName <;> simp [named]

theorem asks_mark (c : Candidate) (line : String) : asks c (mark ++ line) = false := by
  have parsed : Requirement.parse? (mark ++ line) = none := by
    apply Requirement.parse?_of_number_sign
    rw [String.toList_append]
    rfl
  simp [asks, parsed]

theorem asks_of_asks {c' : Candidate} (other : c.normalizedName ≠ c'.normalizedName) (here : asks c line = true) :
    asks c' line = false := by
  unfold asks at *
  cases parsed : Requirement.parse? line with
  | none => simp [parsed] at here
  | some r =>
    simp [parsed] at here
    simp [here, other]

theorem mark_ne_empty : mark ≠ "" := by decide

theorem markLines_nil (c : Candidate) (kept : Bool) : markLines c kept [] = ([], [], kept) := rfl

theorem markLines_cons (c : Candidate) (kept : Bool) (line : String) (lines : List String) :
    markLines c kept (line :: lines) =
      let rest := markLines c (kept || pins c line) lines
      if asks c line && (!pins c line || kept) then ((mark ++ line) :: rest.1, line :: rest.2.1, rest.2.2)
      else (line :: rest.1, rest.2.1, rest.2.2) := by
  rw [markLines.eq_def]
  simp only
  rw [lineClass_eq]
  by_cases exact : pins c line = true
  · cases kept <;> simp [exact, asks_of_pins exact]
  · by_cases other : asks c line = true <;> simp [exact, other]

theorem markLines_lines (c : Candidate) (kept : Bool) (lines : List String) :
    (markLines c kept lines).1 = lines.mapIdx fun i line =>
      if asks c line && (!pins c line || (kept || (lines.take i).any (pins c))) then mark ++ line else line := by
  induction lines generalizing kept with
  | nil => simp [markLines_nil]
  | cons line lines ih =>
    rw [markLines_cons, List.mapIdx_cons]
    by_cases replaced : (asks c line && (!pins c line || kept)) = true <;>
      simp [replaced, ih, or_assoc]

theorem markLines_first (c : Candidate) (lines : List String) :
    (markLines c false lines).1 =
      lines.mapIdx fun i line => if isReplaced c (lines.take i) line then mark ++ line else line := by
  simp [markLines_lines, isReplaced]

theorem markLines_kept (c : Candidate) (kept : Bool) (lines : List String) :
    (markLines c kept lines).2.2 = (kept || lines.any (pins c)) := by
  induction lines generalizing kept with
  | nil => simp [markLines_nil]
  | cons line lines ih =>
    rw [markLines_cons]
    by_cases replaced : (asks c line && (!pins c line || kept)) = true <;>
      simp [replaced, ih, Bool.or_assoc]

theorem markLines_replaced (c : Candidate) (kept : Bool) (lines : List String) :
    (markLines c kept lines).2.1 = [] ↔ (markLines c kept lines).1 = lines := by
  induction lines generalizing kept with
  | nil => simp [markLines_nil]
  | cons line lines ih =>
    rw [markLines_cons]
    by_cases replaced : (asks c line && (!pins c line || kept)) = true <;>
      simp [replaced, ih, mark_ne_empty]

theorem markLines_of_unasked (c : Candidate) (kept : Bool) (unasked : lines.filter (asks c) = []) :
    markLines c kept lines = (lines, [], kept) := by
  induction lines with
  | nil => rfl
  | cons line lines ih =>
    have quiet : asks c line = false := by
      by_contra here
      simp [here] at unasked
    have loose := pins_of_not_asks quiet
    rw [markLines_cons]
    simp_all

theorem markLines_of_single (alone : lines.filter (asks c) = [line]) (exact : pins c line = true) :
    markLines c false lines = (lines, [], true) := by
  induction lines with
  | nil => simp at alone
  | cons first lines ih =>
    rw [markLines_cons]
    by_cases here : asks c first = true
    · simp only [List.filter_cons, here, if_true, List.cons.injEq] at alone
      obtain ⟨rfl, unasked⟩ := alone
      simp [exact, markLines_of_unasked c true unasked]
    · have loose := pins_of_not_asks (Bool.not_eq_true _ ▸ here)
      simp only [List.filter_cons, here, if_false, Bool.false_eq_true] at alone
      simp [here, loose, ih alone]

/-- The pin lines that are put at the start. -/
def inserted (cs : List Candidate) (lines : List String) : List String :=
  (cs.filter fun c => !lines.any (pins c)).map fun c => Requirement.pin c.name c.version

/-- The lines that were there, some of them commented out. -/
def remaining (cs : List Candidate) (lines : List String) : List String :=
  lines.mapIdx fun i line => if cs.any fun c => isReplaced c (lines.take i) line then mark ++ line else line

section

variable {cs : List Candidate} {c' : Candidate}

-- Commenting out lines of one package does not change what other packages are asked for.
theorem asks_replaced (other : c.normalizedName ≠ c'.normalizedName) (before : List String) (line : String) :
    asks c' (if isReplaced c before line then mark ++ line else line) = asks c' line := by
  split
  · rename_i replaced
    have here : asks c line = true := (Bool.and_eq_true _ _ ▸ replaced).1
    rw [asks_mark, asks_of_asks other here]
  · rfl

theorem pins_replaced (other : c.normalizedName ≠ c'.normalizedName) (before : List String) (line : String) :
    pins c' (if isReplaced c before line then mark ++ line else line) = pins c' line := by
  split
  · rename_i replaced
    have here : asks c line = true := (Bool.and_eq_true _ _ ▸ replaced).1
    rw [pins_of_not_asks (asks_mark c' line), pins_of_not_asks (asks_of_asks other here)]
  · rfl

theorem any_take_mapIdx {f : Nat → String → String} {p : String → Bool} (same : ∀ i line, p (f i line) = p line)
    (lines : List String) (n : Nat) : ((lines.mapIdx f).take n).any p = (lines.take n).any p := by
  induction lines generalizing f n with
  | nil => rfl
  | cons line lines ih =>
    cases n with
    | zero => rfl
    | succ n =>
      rw [List.mapIdx_cons]
      simp [same, ih fun i => same (i + 1)]

theorem any_isReplaced_congr {before before' : List String} {line' : String}
    (same : ∀ c ∈ cs, asks c line = asks c line' ∧ pins c line = pins c line' ∧ before.any (pins c) = before'.any (pins c)) :
    (cs.any fun c => isReplaced c before line) = cs.any fun c => isReplaced c before' line' := by
  rw [Bool.eq_iff_iff, List.any_eq_true, List.any_eq_true]
  refine exists_congr fun c => and_congr_right fun inside => ?_
  obtain ⟨asked, exact, earlier⟩ := same c inside
  rw [isReplaced, isReplaced, asked, exact, earlier]

theorem markAll_lines (distinct : cs.Pairwise fun a b => a.normalizedName ≠ b.normalizedName)
    (lines : List String) : (markAll cs lines).1 = remaining cs lines := by
  induction cs generalizing lines with
  | nil =>
    change lines = remaining [] lines
    exact List.ext_getElem (by simp [remaining]) (by simp [remaining])
  | cons c rest ih =>
    obtain ⟨others, distinct⟩ := List.pairwise_cons.1 distinct
    let first (i : Nat) (line : String) := if isReplaced c (lines.take i) line then mark ++ line else line
    have marked : (markLines c false lines).1 = lines.mapIdx first := markLines_first c lines
    change (markAll rest (markLines c false lines).1).1 = _
    rw [ih distinct, marked, remaining, remaining, List.mapIdx_mapIdx]
    congr 1
    funext i line
    have later : (rest.any fun c' => isReplaced c' ((lines.mapIdx first).take i) (first i line)) =
        rest.any fun c' => isReplaced c' (lines.take i) line := by
      apply any_isReplaced_congr
      intro c' inside
      exact ⟨asks_replaced (others c' inside) _ _, pins_replaced (others c' inside) _ _,
        any_take_mapIdx (fun _ _ => pins_replaced (others c' inside) _ _) _ _⟩
    change (if rest.any fun c' => isReplaced c' ((lines.mapIdx first).take i) (first i line) then
      mark ++ first i line else first i line) = _
    rw [later, List.any_cons]
    by_cases replaced : isReplaced c (lines.take i) line = true
    · have asked : asks c line = true := (Bool.and_eq_true _ _ ▸ replaced).1
      have none : (rest.any fun c' => isReplaced c' (lines.take i) line) = false := by
        rw [List.any_eq_false]
        intro c' inside
        simp [isReplaced, asks_of_asks (others c' inside) asked]
      simp only [none, replaced, first, if_true, if_false, Bool.true_or, Bool.false_eq_true]
    · simp only [replaced, first, if_false, Bool.false_or, Bool.false_eq_true]

theorem markAll_kept (distinct : cs.Pairwise fun a b => a.normalizedName ≠ b.normalizedName) (lines : List String) :
    (markAll cs lines).2.map (fun p => (p.candidate, p.alreadyPinned)) = cs.map fun c => (c, lines.any (pins c)) := by
  induction cs generalizing lines with
  | nil => rfl
  | cons c rest ih =>
    obtain ⟨others, distinct⟩ := List.pairwise_cons.1 distinct
    change (c, (markLines c false lines).2.2) ::
      (markAll rest (markLines c false lines).1).2.map (fun p => (p.candidate, p.alreadyPinned)) = _
    rw [ih distinct, markLines_kept, markLines_first]
    have later (c' : Candidate) (inside : c' ∈ rest) :
        (lines.mapIdx fun i line => if isReplaced c (lines.take i) line then mark ++ line else line).any (pins c') =
          lines.any (pins c') := by
      have whole := any_take_mapIdx (p := pins c')
        (f := fun i line => if isReplaced c (lines.take i) line then mark ++ line else line)
        (fun _ _ => pins_replaced (others c' inside) _ _) lines lines.length
      rwa [List.take_of_length_le (by simp), List.take_length] at whole
    simp only [Bool.false_or, List.map_cons, List.cons.injEq, true_and]
    apply List.map_congr_left
    intro c' inside
    rw [Prod.mk.injEq]
    exact ⟨rfl, later c' inside⟩

theorem markAll_candidates (cs : List Candidate) (lines : List String) :
    (markAll cs lines).2.map Pinned.candidate = cs := by
  induction cs generalizing lines with
  | nil => rfl
  | cons c rest ih => exact congrArg (List.cons c) (ih _)

theorem pin_pinned (text : String) (cs : List Candidate) : (pin text cs).2 = (markAll cs (linesOf text)).2 := by
  unfold pin
  simp only
  split <;> rfl

theorem pin_candidates (text : String) (cs : List Candidate) : (pin text cs).2.map Pinned.candidate = cs := by
  rw [pin_pinned, markAll_candidates]

theorem markAll_of_unreplaced (none : ∀ p ∈ (markAll cs lines).2, p.replaced = []) : (markAll cs lines).1 = lines := by
  induction cs generalizing lines with
  | nil => rfl
  | cons c rest ih =>
    have first : (markLines c false lines).2.1 = [] := none _ List.mem_cons_self
    have same := (markLines_replaced c false lines).1 first
    change (markAll rest (markLines c false lines).1).1 = lines
    have others := fun p inside => none p (List.mem_cons_of_mem _ inside)
    change ∀ p ∈ (markAll rest (markLines c false lines).1).2, p.replaced = [] at others
    rw [same] at others ⊢
    exact ih others

theorem markAll_of_single (alone : ∀ c ∈ cs, ∃ line, lines.filter (asks c) = [line] ∧ pins c line = true) :
    markAll cs lines = (lines, cs.map fun c => ⟨c, [], true⟩) := by
  induction cs with
  | nil => rfl
  | cons c rest ih =>
    obtain ⟨line, single, exact⟩ := alone c List.mem_cons_self
    have first := markLines_of_single single exact
    change ((markAll rest (markLines c false lines).1).1, Pinned.mk c (markLines c false lines).2.1
      (markLines c false lines).2.2 :: (markAll rest (markLines c false lines).1).2) = _
    rw [first, ih fun c inside => alone c (List.mem_cons_of_mem _ inside)]
    rfl

theorem filter_markLines (c : Candidate) (kept : Bool) (lines : List String) :
    (markLines c kept lines).1.filter (asks c) =
      if kept then [] else ((lines.filter (asks c)).find? (pins c)).toList := by
  induction lines generalizing kept with
  | nil => cases kept <;> rfl
  | cons line lines ih =>
    rw [markLines_cons]
    by_cases asked : asks c line = true
    · by_cases exact : pins c line = true <;> cases kept <;> simp [asked, exact, asks_mark, ih]
    · simp [asked, pins_of_not_asks (Bool.not_eq_true _ ▸ asked), ih]

theorem filter_markLines_of_ne (other : c.normalizedName ≠ c'.normalizedName) (kept : Bool) (lines : List String) :
    (markLines c kept lines).1.filter (asks c') = lines.filter (asks c') := by
  induction lines generalizing kept with
  | nil => rfl
  | cons line lines ih =>
    rw [markLines_cons]
    by_cases replaced : (asks c line && (!pins c line || kept)) = true
    · have unasked := asks_of_asks other (Bool.and_eq_true _ _ ▸ replaced).1
      simp [replaced, asks_mark, unasked, ih]
    · simp only [replaced, List.filter_cons, ih, if_false, Bool.false_eq_true]

theorem filter_markAll_of_ne (others : ∀ c' ∈ cs, c'.normalizedName ≠ c.normalizedName) (lines : List String) :
    (markAll cs lines).1.filter (asks c) = lines.filter (asks c) := by
  induction cs generalizing lines with
  | nil => rfl
  | cons c' rest ih =>
    change (markAll rest (markLines c' false lines).1).1.filter (asks c) = _
    rw [ih (fun d inside => others d (List.mem_cons_of_mem _ inside)), filter_markLines_of_ne (others c' (by simp))]

-- Of the lines that ask for a package at most the first one that pins its version is left.
theorem filter_markAll (distinct : cs.Pairwise fun a b => a.normalizedName ≠ b.normalizedName) (inside : c ∈ cs)
    (lines : List String) :
    (markAll cs lines).1.filter (asks c) = ((lines.filter (asks c)).find? (pins c)).toList := by
  induction cs generalizing lines with
  | nil => cases inside
  | cons c' rest ih =>
    obtain ⟨others, distinct⟩ := List.pairwise_cons.1 distinct
    change (markAll rest (markLines c' false lines).1).1.filter (asks c) = _
    rcases List.mem_cons.1 inside with rfl | inside
    · rw [filter_markAll_of_ne fun d member => (others d member).symm, filter_markLines, if_neg (by simp)]
    · rw [ih distinct inside, filter_markLines_of_ne (others c inside)]

def IsWritten (c : Candidate) : Prop :=
  PackageName.isName c.name = true ∧ Archive.isVersion c.version.toList = true

theorem asks_pin (written : IsWritten c') :
    asks c (Requirement.pin c'.name c'.version) = decide (c'.normalizedName = c.normalizedName) := by
  rw [asks, Requirement.parse?_pin written.1 written.2]
  rfl

theorem pins_pin (written : IsWritten c) : pins c (Requirement.pin c.name c.version) = true := by
  have same : Requirement.normalizedName ⟨c.name, none, "==" ++ c.version, none⟩ = c.normalizedName := rfl
  simp [pins, Requirement.parse?_pin written.1 written.2, same]

theorem filter_named (distinct : cs.Pairwise fun a b => a.normalizedName ≠ b.normalizedName) (inside : c ∈ cs) :
    (cs.filter fun c' => decide (c'.normalizedName = c.normalizedName)) = [c] := by
  induction cs with
  | nil => cases inside
  | cons c' rest ih =>
    obtain ⟨others, distinct⟩ := List.pairwise_cons.1 distinct
    rcases List.mem_cons.1 inside with rfl | inside
    · simpa using fun d member => (others d member).symm
    · simp [others c inside, ih distinct inside]

theorem filter_inserted (distinct : cs.Pairwise fun a b => a.normalizedName ≠ b.normalizedName)
    (written : ∀ c ∈ cs, IsWritten c) (inside : c ∈ cs) (lines : List String) :
    (inserted cs lines).filter (asks c) =
      if lines.any (pins c) then [] else [Requirement.pin c.name c.version] := by
  have named : cs.filter (asks c ∘ fun c' => Requirement.pin c'.name c'.version) = [c] := by
    rw [← filter_named distinct inside]
    apply List.filter_congr
    exact fun c' member => asks_pin (written c' member)
  rw [inserted, List.filter_map, List.filter_comm, named, List.filter_singleton]
  cases lines.any (pins c) <;> rfl

theorem not_mem_inserted {ch : Char} (other : ¬Requirement.IsPinChar ch) (written : ∀ c ∈ cs, IsWritten c)
    (inside : line ∈ inserted cs lines) : ch ∉ line.toList := by
  obtain ⟨c, member, rfl⟩ := List.mem_map.1 inside
  obtain ⟨named, versioned⟩ := written c (List.mem_filter.1 member).1
  exact fun found => other (Requirement.isPinChar_of_mem_pin named versioned found)

theorem not_mem_remaining {ch : Char} (unmarked : ch ∉ mark.toList) (missing : ∀ line ∈ lines, ch ∉ line.toList)
    (inside : line ∈ remaining cs lines) : ch ∉ line.toList := by
  obtain ⟨i, bound, rfl⟩ := List.mem_mapIdx.1 inside
  have whole := missing _ (List.getElem_mem bound)
  split
  · rw [String.toList_append, List.mem_append, not_or]
    exact ⟨unmarked, whole⟩
  · exact whole

theorem markAll_added (distinct : cs.Pairwise fun a b => a.normalizedName ≠ b.normalizedName) (lines : List String) :
    ((markAll cs lines).2.filter fun p => !p.alreadyPinned).map Pinned.line = inserted cs lines := by
  have kept := congrArg (fun xs => (xs.filter fun x => !x.2).map fun x => Requirement.pin x.1.name x.1.version)
    (markAll_kept distinct lines)
  simp only [List.filter_map, List.map_map] at kept
  exact kept

theorem markAll_nil (cs : List Candidate) : markAll cs [] = ([], cs.map fun c => ⟨c, [], false⟩) := by
  induction cs with
  | nil => rfl
  | cons c rest ih =>
    change ((markAll rest []).1, Pinned.mk c [] false :: (markAll rest []).2) = _
    rw [ih]
    rfl

theorem pin_eq (distinct : cs.Pairwise fun a b => a.normalizedName ≠ b.normalizedName) (text : String) :
    pin text cs =
      if (inserted cs (linesOf text)).isEmpty && (markAll cs (linesOf text)).2.all (fun p => p.replaced.isEmpty) then
        (text, (markAll cs (linesOf text)).2)
      else (textOf (inserted cs (linesOf text) ++ remaining cs (linesOf text)) (text = "" || endsLine text),
        (markAll cs (linesOf text)).2) := by
  rw [← markAll_added distinct, ← markAll_lines distinct]
  rfl

theorem linesOf_pin (distinct : cs.Pairwise fun a b => a.normalizedName ≠ b.normalizedName)
    (written : ∀ c ∈ cs, IsWritten c) (text : String) :
    linesOf (pin text cs).1 = inserted cs (linesOf text) ++ remaining cs (linesOf text) ∧
      endsLine (pin text cs).1 = (endsLine text || (text = "" && !(inserted cs (linesOf text)).isEmpty)) := by
  rw [pin_eq distinct]
  split
  · rename_i same
    simp only [Bool.and_eq_true, List.isEmpty_iff, List.all_eq_true] at same
    have kept := markAll_of_unreplaced same.2
    rw [markAll_lines distinct] at kept
    simp [same.1, kept]
  · rename_i changed
    have unbroken : ∀ line ∈ inserted cs (linesOf text) ++ remaining cs (linesOf text), '\n' ∉ line.toList := by
      intro line inside
      rcases List.mem_append.1 inside with new | old
      · exact not_mem_inserted (fun pin => pin.ne.1 rfl) written new
      · exact not_mem_remaining (by decide) (fun _ => newLine_not_mem_of_mem_linesOf) old
    have filled : linesOf text = [] → inserted cs (linesOf text) ≠ [] := by
      intro empty none
      rw [none, empty, markAll_nil] at changed
      simp at changed
    by_cases ended : (text = "" || endsLine text) = true
    · have some : inserted cs (linesOf text) ++ remaining cs (linesOf text) ≠ [] := by
        intro none
        obtain ⟨none, rest⟩ := List.append_eq_nil_iff.1 none
        exact filled (by simpa [remaining] using rest) none
      rw [ended]
      obtain ⟨lines, ends⟩ := linesOf_textOf_ended some unbroken
      refine ⟨lines, ends.trans ?_⟩
      by_cases empty : text = ""
      · have new := filled (by rw [empty]; rfl)
        simpa [empty] using .inr (by simpa [empty] using new)
      · simpa [empty] using ended
    · simp only [Bool.or_eq_true, decide_eq_true_eq, not_or, Bool.not_eq_true] at ended
      obtain ⟨init, last, lines, some⟩ := linesOf_open ended.1 ended.2
      obtain ⟨init', last', rest, some'⟩ : ∃ init' last', remaining cs (linesOf text) = init' ++ [last'] ∧ last' ≠ "" := by
        rw [lines, remaining, List.mapIdx_concat]
        refine ⟨_, _, rfl, ?_⟩
        split
        · simp [mark_ne_empty]
        · exact some
      rw [rest, ← List.append_assoc] at unbroken ⊢
      simpa [ended] using linesOf_textOf_open some' unbroken

theorem asked_once (distinct : cs.Pairwise fun a b => a.normalizedName ≠ b.normalizedName)
    (written : ∀ c ∈ cs, IsWritten c) (inside : c ∈ cs) (text : String) :
    ∃ line, (linesOf (pin text cs).1).filter (asks c) = [line] ∧ pins c line = true := by
  rw [(linesOf_pin distinct written text).1, List.filter_append, filter_inserted distinct written inside,
    ← markAll_lines distinct, filter_markAll distinct inside]
  by_cases here : (linesOf text).any (pins c) = true
  · obtain ⟨line, member, exact⟩ := List.any_eq_true.1 here
    have found : ((linesOf text).filter (asks c)).find? (pins c) ≠ none := by
      rw [ne_eq, List.find?_eq_none]
      exact fun none => none line (List.mem_filter.2 ⟨member, asks_of_pins exact⟩) exact
    obtain ⟨line', found⟩ := Option.ne_none_iff_exists'.1 found
    exact ⟨line', by simp [here, found], List.find?_some found⟩
  · have none : ((linesOf text).filter (asks c)).find? (pins c) = none := by
      rw [List.find?_eq_none]
      intro line member exact
      exact here (List.any_eq_true.2 ⟨line, (List.mem_filter.1 member).1, exact⟩)
    exact ⟨_, by simp [here, none], pins_pin (written c inside)⟩

-- What has been pinned is pinned.
theorem pin_pin (distinct : cs.Pairwise fun a b => a.normalizedName ≠ b.normalizedName)
    (written : ∀ c ∈ cs, IsWritten c) (text : String) :
    pin (pin text cs).1 cs = ((pin text cs).1, cs.map fun c => ⟨c, [], true⟩) := by
  have once := markAll_of_single fun c inside => asked_once distinct written inside text
  have none : inserted cs (linesOf (pin text cs).1) = [] := by
    rw [← markAll_added distinct, once]
    simp
  rw [pin_eq distinct, once, none]
  simp

/-- A file with pinned versions has the missing pin lines at its start and then its old lines. Only such lines
are commented out that ask for a pinned package, but not the first one that pins its version. A line end at
the end stays, and in the new file one line asks for each package, and it pins the version. -/
theorem pin_changes_exactly (distinct : cs.Pairwise fun a b => a.normalizedName ≠ b.normalizedName)
    (written : ∀ c ∈ cs, IsWritten c) (text : String) :
    linesOf (pin text cs).1 = inserted cs (linesOf text) ++ remaining cs (linesOf text) ∧
      endsLine (pin text cs).1 = (endsLine text || (text = "" && !(inserted cs (linesOf text)).isEmpty)) ∧
      ∀ c ∈ cs, ∃ line, (linesOf (pin text cs).1).filter (asks c) = [line] ∧ pins c line = true := by
  obtain ⟨lines, ended⟩ := linesOf_pin distinct written text
  exact ⟨lines, ended, fun c inside => asked_once distinct written inside text⟩

end

section Sample

def sampleCandidates : List Candidate := [⟨"apex", "0.1", "apex-0.1.zip"⟩, ⟨"torch", "2.0", "torch-2.0.zip"⟩]

def sampleText : String := "Torch==2.0\n\ntorch==2.0\napex [x]>=1 # old\nnumpy"

theorem pin_changes_sample : linesOf (pin sampleText sampleCandidates).1 =
      ["apex==0.1", "Torch==2.0", "", "# replaced by pin: torch==2.0", "# replaced by pin: apex [x]>=1 # old", "numpy"] ∧
    endsLine (pin sampleText sampleCandidates).1 = false := by
  have distinct : sampleCandidates.Pairwise fun a b => a.normalizedName ≠ b.normalizedName := by decide +kernel
  have written : ∀ c ∈ sampleCandidates, IsWritten c := by
    unfold IsWritten
    decide +kernel
  obtain ⟨lines, ended, _⟩ := pin_changes_exactly distinct written sampleText
  rw [lines, ended]
  decide +kernel

end Sample

end RequirementFile

end Wheelhouse
