import Mathlib.Algebra.Order.Field.Power
import Mathlib.Data.Rat.Floor
import Mathlib.Tactic.Ring
import Wheelhouse.Proofs.Disk.Jobs
import Wheelhouse.Proofs.Number.Rounding
import Wheelhouse.Proofs.Organize.Placement

/-!
What a run reports. Every wheel that is found is on one of two sides by its size, or named as one that failed;
the large ones come by their sizes. A run without failures leaves in each folder just the wheels of its list.
-/

set_option autoImplicit false

namespace Wheelhouse

namespace Number

theorem binaryExponent_natCast {n : Nat} (filled : n ≠ 0) : binaryExponent n = n.log2 := by
  have low : 1 <<< n.log2 ≤ n := by simpa [Nat.shiftLeft_eq] using Nat.log2_self_le filled
  have one : Nat.log2 1 = 0 := by decide
  simp [binaryExponent, one, low]

-- Whole numbers of at most 53 bits are kept as they are.
theorem ofNat_eq {n : Nat} (short : n < 2 ^ 53) : ofNat n = .finite n := by
  by_cases zero : n = 0
  · subst zero
    rfl
  · have bits : n.log2 ≤ 52 := Nat.lt_succ_iff.1 ((Nat.log2_lt zero).2 short)
    obtain ⟨k, last⟩ : ∃ k : Nat, lastBit n = -k := by
      refine ⟨(-lastBit n).toNat, ?_⟩
      rw [lastBit, binaryExponent_natCast zero]
      omega
    have whole : nearestEven (n * 2 ^ k) = n * 2 ^ k := by
      have cast : ((n * 2 ^ k : Rat)) = ((n * 2 ^ k : Int) : Rat) := by push_cast; rfl
      rw [cast, nearestEven_intCast]
    have positive : (2 : Rat) ^ k ≠ 0 := by positivity
    have value : ((n * 2 ^ k : Int) : Rat) * 2 ^ (-(k : Int)) = n := by
      push_cast
      rw [zpow_neg, zpow_natCast, mul_assoc, mul_inv_cancel₀ positive, mul_one]
    have range : (n : Rat) < 2 ^ (1024 : Int) :=
      calc (n : Rat) < 2 ^ 53 := by exact_mod_cast short
        _ = 2 ^ (53 : Int) := by norm_cast
        _ ≤ 2 ^ (1024 : Int) := zpow_le_zpow_right₀ (by norm_num) (by norm_num)
    have filled : (n : Rat) ≠ 0 := by exact_mod_cast zero
    have abs : Rat.abs n = n := Rat.abs_of_nonneg (by positivity)
    rw [ofNat, round, if_neg filled]
    simp only [abs, last, neg_neg, zpow_natCast, whole, value, range, if_true]

theorem exceeds_ofNat {n : Nat} (short : n < 2 ^ 53) (q : Rat) : (ofNat n).exceeds (.finite q) = true ↔ q < n := by
  rw [ofNat_eq short, exceeds, decide_eq_true_eq]

end Number

namespace Organize

/-- What is shown of the progress. -/
def progressOf (trace : List Event) : List Progress :=
  trace.filterMap fun e =>
    match e with
    | .progress p => some p
    | _ => none

def sizeOf (d : Disk) (wheel : Path) : Nat := (entry d wheel).size

/-- Larger wheels come first, and of two of one size the one whose path does. -/
def LargerFirst (d : Disk) (p q : Path) : Prop :=
  sizeOf d q < sizeOf d p ∨ (sizeOf d p = sizeOf d q ∧ Disk.pathPrecedes p q = true)

-- What happens in an output only, and shows no progress.
def Quiet (output : Path) (w v : Workspace) : Prop :=
  Job.Confined output.bare w v ∧ progressOf v.trace = progressOf w.trace

instance (output : Path) : IsPreorder Workspace (Quiet output) where
  refl w := ⟨refl_of (Job.Confined output.bare) w, rfl⟩
  trans _ _ _ first later := ⟨trans_of (Job.Confined output.bare) first.1 later.1, later.2.trans first.2⟩

section

variable {α : Type} {d d₀ : Disk} {output wheel : Path} {limit : Number} {rest : List Path} {u v : Workspace}
  {s s' : Sorting} {f : OrganizeFolders}

theorem progressOf_noting (w : Workspace) (e : Event) :
    progressOf (w.noting e).trace = progressOf w.trace ++ progressOf [e] :=
  List.filterMap_append

-- Sorting by size keeps the wheels of one size as they came.
theorem largerFirst_mergeSort {large : List Path} (ordered : large.Pairwise fun p q => Disk.pathPrecedes p q = true) :
    (large.mergeSort fun p q => sizeOf d q ≤ sizeOf d p).Pairwise (LargerFirst d) := by
  have trans (p q r : Path) (first : decide (sizeOf d q ≤ sizeOf d p) = true)
      (later : decide (sizeOf d r ≤ sizeOf d q) = true) : decide (sizeOf d r ≤ sizeOf d p) = true := by
    simp only [decide_eq_true_eq] at *
    omega
  have total (p q : Path) : (decide (sizeOf d q ≤ sizeOf d p) || decide (sizeOf d p ≤ sizeOf d q)) = true := by
    simp only [Bool.or_eq_true, decide_eq_true_eq]
    omega
  have sorted := List.pairwise_mergeSort trans total large
  have perm := List.mergeSort_perm large fun p q => sizeOf d q ≤ sizeOf d p
  have tied (n : Nat) : (large.mergeSort fun p q => sizeOf d q ≤ sizeOf d p).filter (fun p => sizeOf d p = n) =
      large.filter fun p => sizeOf d p = n := by
    have alike : (large.filter fun p => sizeOf d p = n).Pairwise fun p q => decide (sizeOf d q ≤ sizeOf d p) = true := by
      refine List.pairwise_of_forall_mem_list fun p inside q inside' => ?_
      have size := (List.mem_filter.1 inside).2
      have size' := (List.mem_filter.1 inside').2
      simp only [decide_eq_true_eq] at *
      omega
    have kept := (List.sublist_mergeSort trans total alike List.filter_sublist).filter fun p => sizeOf d p = n
    simp only [List.filter_filter, Bool.and_self] at kept
    exact (kept.eq_of_length (perm.filter _).length_eq.symm).symm
  rw [List.pairwise_iff_forall_sublist] at sorted ordered ⊢
  intro p q pair
  have size := sorted pair
  rw [decide_eq_true_eq] at size
  rcases Nat.lt_or_eq_of_le size with less | same
  · exact .inl less
  · have held := pair.filter fun r => sizeOf d r = sizeOf d p
    rw [tied] at held
    refine .inr ⟨same.symm, ordered ((by simpa [same] using held : [p, q].Sublist _).trans List.filter_sublist)⟩

theorem respects_change_quiet {t : Disk.Change Unit} (h : Respects (Disk.Confined output.bare) t) :
    Respects (Quiet output) (Job.change t) := by
  intro w
  rw [Job.final_change]
  exact ⟨h w.disk, rfl⟩

theorem respects_look_quiet (look : Disk → Except DiskError α) : Respects (Quiet output) (Job.look look) := by
  intro w
  have same : final (Job.look look) w = w := by
    unfold final Job.look
    cases look w.disk <;> rfl
  rw [same]
  exact refl_of (Quiet output) w

theorem respects_copy_quiet {name file : String} (plain : output.bare.IsPlain) (simple : Path.IsPlain [name])
    (named : Path.IsPlain [file]) : Respects (Quiet output) (Job.copy wheel ((output.child name).child file)) := by
  have whole : (output.child name).child file = output.bare ++ [name] ++ [file] := by
    rw [Path.child, Path.child, (plain.append simple).bare]
  refine respects_change_quiet (Disk.respects_copy wheel ?_ ?_ ?_)
  · exact whole ▸ (plain.append simple).append named
  · rw [whole, List.append_assoc]
    exact List.prefix_append _ _
  · rw [whole, List.append_assoc]
    simp

theorem quiet_of_ensureFolder {name : String} (plain : output.bare.IsPlain) (simple : Path.IsPlain [name])
    (made : Job.ensureFolder (output.child name) u = .ok () v) : Quiet output u v := by
  have near : output.bare <+: (output.child name).bare := by
    rw [Path.child, (plain.append simple).bare]
    exact List.prefix_append _ _
  have respects : Respects (Quiet output) (Job.ensureFolder (output.child name)) :=
    respects_change_quiet (Disk.respects_ensureFolder near)
  exact final_ok made ▸ respects u

theorem isPlain_folderNames : Path.IsPlain ["packages"] ∧ Path.IsPlain ["packages-large"] ∧
    Path.IsPlain ["packages-small"] := by
  unfold Path.IsPlain
  decide

theorem respects_place (plain : output.bare.IsPlain) (named : Path.IsPlain [wheel.baseName]) :
    Respects (Quiet output) (place (folders output) limit wheel) := by
  obtain ⟨packages, large, small⟩ := isPlain_folderNames
  refine (respects_look_quiet _).bind fun size => ?_
  simp only
  split
  · exact (respects_copy_quiet plain large named).bind fun _ => respects_pure _
  · exact (respects_copy_quiet plain small named).bind fun _ =>
      (respects_copy_quiet plain packages named).bind fun _ => respects_pure _

theorem respects_sortOne (plain : output.bare.IsPlain) (named : Path.IsPlain [wheel.baseName]) :
    Respects (Quiet output) (sortOne (folders output) limit s wheel) := by
  refine (Job.respects_outcome (respects_place plain named)).bind fun outcome => ?_
  rcases outcome with e | ⟨large, e⟩
  · refine Respects.bind (fun w => ?_) fun _ => respects_pure _
    rw [final_ok (Job.warn_run _ _ w)]
    exact ⟨refl_of (Disk.Confined output.bare) w.disk, by rw [progressOf_noting]; exact List.append_nil _⟩
  · cases large <;> exact respects_pure _

theorem Quiet.file? (quiet : Quiet output u v) {q : Path} (outside : ¬output.bare <+: q) :
    v.disk.file? q = u.disk.file? q := by
  by_cases same : v.disk.find? q = u.disk.find? q
  · exact Disk.file?_congr same
  · obtain ⟨below, _⟩ | ⟨_, missing, made⟩ := quiet.1 q same
    · exact absurd below outside
    · rw [Disk.file?, Disk.file?, missing, made]

-- One wheel goes to its side, or is named as one that failed.
theorem sortOne_cases (there : u.disk.file? wheel = d₀.file? wheel) (file : d₀.file? wheel ≠ none)
    (ran : sortOne f limit s wheel u = .ok s' v) :
    (isLarge d₀ limit wheel = true ∧ s' = { s with large := s.large ++ [entry d₀ wheel] }) ∨
      (isLarge d₀ limit wheel = false ∧ s' = { s with small := s.small ++ [entry d₀ wheel] }) ∨
      s' = { s with failed := s.failed ++ [wheel.baseName] } := by
  obtain ⟨contents, found⟩ := Option.ne_none_iff_exists'.1 file
  unfold sortOne at ran
  obtain ⟨outcome, u', tried, rest⟩ := Job.bind_ok_iff.1 ran
  cases placed : place f limit wheel u with
  | ok answer w =>
    obtain ⟨large, e⟩ := answer
    rw [Job.outcome_ok placed] at tried
    cases tried
    obtain ⟨sized, rfl, _⟩ := place_ok (there.trans found) placed
    have side : isLarge d₀ limit wheel = large := by rw [isLarge, found]; exact sized.symm
    have same : entry d₀ wheel = ⟨wheel.baseName, contents.size⟩ := by rw [entry, found]; rfl
    rw [side, same]
    cases large <;> cases rest
    · exact .inr (.inl ⟨rfl, rfl⟩)
    · exact .inl ⟨rfl, rfl⟩
  | error e w =>
    rw [Job.outcome_error placed] at tried
    cases tried
    obtain ⟨_, w', _, rest⟩ := Job.bind_ok_iff.1 rest
    cases rest
    exact .inr (.inr rfl)

end

/-- Wheels on their sides and those that failed, each in the order in which they came. -/
structure AreSplit (d : Disk) (limit : Number) (wheels large small failed : List Path) : Prop where
  perm : (large ++ small ++ failed).Perm wheels
  large : large.Sublist wheels ∧ ∀ p ∈ large, isLarge d limit p = true
  small : small.Sublist wheels ∧ ∀ p ∈ small, isLarge d limit p = false
  failed : failed.Sublist wheels

section

variable {d d₀ : Disk} {output wheel : Path} {limit : Number} {wheels rest large small failed : List Path}
  {u v : Workspace} {s s' : Sorting} {options : OrganizeOptions}

theorem AreSplit.nil : AreSplit d limit [] [] [] [] :=
  ⟨.nil, ⟨.slnil, by simp⟩, ⟨.slnil, by simp⟩, .slnil⟩

theorem AreSplit.cons_large (h : AreSplit d limit wheels large small failed) (side : isLarge d limit wheel = true) :
    AreSplit d limit (wheel :: wheels) (wheel :: large) small failed where
  perm := h.perm.cons wheel
  large := ⟨h.large.1.cons_cons wheel, List.forall_mem_cons.2 ⟨side, h.large.2⟩⟩
  small := ⟨h.small.1.cons wheel, h.small.2⟩
  failed := h.failed.cons wheel

theorem AreSplit.cons_small (h : AreSplit d limit wheels large small failed) (side : isLarge d limit wheel = false) :
    AreSplit d limit (wheel :: wheels) large (wheel :: small) failed where
  perm := (List.perm_middle.append_right failed).trans (h.perm.cons wheel)
  large := ⟨h.large.1.cons wheel, h.large.2⟩
  small := ⟨h.small.1.cons_cons wheel, List.forall_mem_cons.2 ⟨side, h.small.2⟩⟩
  failed := h.failed.cons wheel

theorem AreSplit.cons_failed (h : AreSplit d limit wheels large small failed) :
    AreSplit d limit (wheel :: wheels) large small (wheel :: failed) where
  perm := List.perm_middle.trans (h.perm.cons wheel)
  large := ⟨h.large.1.cons wheel, h.large.2⟩
  small := ⟨h.small.1.cons wheel, h.small.2⟩
  failed := h.failed.cons_cons wheel

-- The wheels that have been dealt with since a report, and the numbers that have been shown.
structure GoesOn (d₀ : Disk) (options : OrganizeOptions) (total done : Nat) (rest : List Path) (s s' : Sorting)
    (u v : Workspace) : Prop where
  split : ∃ large small failed, AreSplit d₀ options.sizeLimit rest large small failed ∧
    s'.large = s.large ++ large.map (entry d₀) ∧ s'.small = s.small ++ small.map (entry d₀) ∧
    s'.failed = s.failed ++ failed.map Path.baseName
  progress : progressOf v.trace = progressOf u.trace ++
    if options.showsProgress then (List.range' (done + 1) rest.length).map fun i => .wheels i total else []

theorem sortAll_goesOn {total done : Nat} (plain : output.bare.IsPlain)
    (sources : ∀ p ∈ rest, d₀.file? p ≠ none ∧ ¬output.bare <+: p)
    (same : ∀ q, ¬output.bare <+: q → u.disk.file? q = d₀.file? q)
    (ran : sortAll (folders output) options total done s rest u = .ok s' v) :
    GoesOn d₀ options total done rest s s' u v := by
  induction rest generalizing done s u with
  | nil =>
    cases ran
    exact ⟨⟨[], [], [], .nil, by simp, by simp, by simp⟩, by simp⟩
  | cons wheel rest ih =>
    obtain ⟨file, apart⟩ := sources wheel List.mem_cons_self
    obtain ⟨s₁, u₁, one, ran⟩ := Job.bind_ok_iff.1 ran
    obtain ⟨contents, found⟩ := Option.ne_none_iff_exists'.1 ((same wheel apart).symm ▸ file)
    have named : Path.IsPlain [wheel.baseName] := .of_isName fun name inside =>
      List.mem_singleton.1 inside ▸ isName_baseName (Disk.file?_eq_some_iff.1 found)
    have quiet : Quiet output u u₁ := by
      have respects : Respects (Quiet output) (sortOne (folders output) options.sizeLimit s wheel) :=
        respects_sortOne plain named
      exact final_ok one ▸ respects u
    obtain ⟨u₂, disk, shown, ran⟩ : ∃ u₂, u₂.disk = u₁.disk ∧ progressOf u₂.trace = progressOf u₁.trace ++
        (if options.showsProgress then [.wheels (done + 1) total] else []) ∧
        sortAll (folders output) options total (done + 1) s₁ rest u₂ = .ok s' v := by
      by_cases shows : options.showsProgress = true
      · rw [if_pos shows] at ran ⊢
        obtain ⟨_, _, noted, ran⟩ := Job.bind_ok_iff.1 ran
        cases noted
        exact ⟨u₁.noting (.progress (.wheels (done + 1) total)), rfl, progressOf_noting u₁ _, ran⟩
      · rw [if_neg shows] at ran ⊢
        exact ⟨u₁, rfl, by simp, ran⟩
    obtain ⟨⟨large, small, failed, split, large', small', failed'⟩, progress⟩ :=
      ih (fun p inside => sources p (List.mem_cons_of_mem _ inside))
        (fun q outside => by rw [disk, quiet.file? outside, same q outside]) ran
    refine ⟨?_, ?_⟩
    · rcases sortOne_cases (same wheel apart) file one with ⟨side, rfl⟩ | ⟨side, rfl⟩ | rfl
      · exact ⟨wheel :: large, small, failed, split.cons_large side, by simp [large'], small', failed'⟩
      · exact ⟨large, wheel :: small, failed, split.cons_small side, large', by simp [small'], failed'⟩
      · exact ⟨large, small, wheel :: failed, split.cons_failed, large', small', by simp [failed']⟩
    · rw [progress, shown, quiet.2, List.length_cons, List.range'_succ]
      cases options.showsProgress <;> simp

/-- The wheels below a folder in the order of their paths. -/
structure AreWheels (d : Disk) (artifacts : Path) (wheels : List Path) : Prop where
  found : ∀ p, p ∈ wheels ↔ ∃ rel, rel ≠ [] ∧ p = artifacts.bare ++ rel ∧ d.file? p ≠ none ∧
    Disk.isWheelName p.baseName = true
  nodup : wheels.Nodup
  ordered : wheels.Pairwise fun p q => Disk.pathPrecedes p q = true

/-- A report in which each wheel is on its side or has failed. -/
structure IsPartition (d : Disk) (limit : Number) (wheels : List Path) (result : OrganizeResult) : Prop where
  total : result.totalWheels = wheels.length ∧
    result.totalWheels = result.large.length + result.small.length + result.failed.length
  lists : ∃ large small failed : List Path, (large ++ small ++ failed).Perm wheels ∧
    (result.large = large.map (entry d) ∧ large.Pairwise (LargerFirst d)) ∧
    (result.small = small.map (entry d) ∧ small.Pairwise fun p q => Disk.pathPrecedes p q = true) ∧
    result.failed = failed.map Path.baseName ∧ failed.Pairwise fun p q => Disk.pathPrecedes p q = true
  large : ∀ e ∈ result.large, (Number.ofNat e.size).exceeds limit = true
  small : ∀ e ∈ result.small, (Number.ofNat e.size).exceeds limit = false
  sums : result.largeTotalSize = (result.large.map OrganizedWheel.size).sum ∧
    result.smallTotalSize = (result.small.map OrganizedWheel.size).sum

/-- A folder that holds files of one side only, and just under the names in a list. -/
structure HoldsJust (d : Disk) (limit : Number) (large : Bool) (folder : Path) (list : List OrganizedWheel) : Prop where
  names : ∀ rel, d.file? (folder ++ rel) ≠ none ↔ ∃ e ∈ list, rel = [e.filename]
  sizes : ∀ rel contents, d.file? (folder ++ rel) = some contents → (Number.ofNat contents.size).exceeds limit = large

theorem totalSize_eq (ws : List OrganizedWheel) : totalSize ws = (ws.map OrganizedWheel.size).sum := by
  induction ws with
  | nil => rfl
  | cons w ws ih => rw [totalSize, ih, List.map_cons, List.sum_cons]

theorem isPartition_of_split {result : OrganizeResult}
    (ordered : wheels.Pairwise fun p q => Disk.pathPrecedes p q = true)
    (split : AreSplit d limit wheels large small failed) (total : result.totalWheels = wheels.length)
    (large' : result.large = (large.map (entry d)).mergeSort fun a b => b.size ≤ a.size)
    (small' : result.small = small.map (entry d)) (failed' : result.failed = failed.map Path.baseName)
    (sums : result.largeTotalSize = totalSize result.large ∧ result.smallTotalSize = totalSize result.small) :
    IsPartition d limit wheels result := by
  let byPath := large.mergeSort fun p q => sizeOf d q ≤ sizeOf d p
  have perm : byPath.Perm large := List.mergeSort_perm _ _
  have whole : result.large = byPath.map (entry d) := by
    rw [large']
    exact (List.map_mergeSort (f := entry d) fun p _ q _ => rfl).symm
  refine ⟨⟨total, ?_⟩, ⟨byPath, small, failed, ?_, ⟨whole, ?_⟩, ⟨small', ordered.sublist split.small.1⟩, failed',
    ordered.sublist split.failed⟩, ?_, ?_, ?_⟩
  · rw [total, whole, small', failed', List.length_map, List.length_map, List.length_map, perm.length_eq,
      ← split.perm.length_eq, List.length_append, List.length_append]
  · exact ((perm.append_right small).append_right failed).trans split.perm
  · exact largerFirst_mergeSort (ordered.sublist split.large.1)
  · rw [whole]
    intro e inside
    obtain ⟨p, member, rfl⟩ := List.mem_map.1 inside
    exact split.large.2 p (perm.mem_iff.1 member)
  · rw [small']
    intro e inside
    obtain ⟨p, member, rfl⟩ := List.mem_map.1 inside
    exact split.small.2 p member
  · rw [sums.1, sums.2, totalSize_eq, totalSize_eq]
    exact ⟨rfl, rfl⟩

variable {folder : Path}

-- There is nothing below the files of a folder.
theorem Placed.file?_below {held : Path → List Path} (h : Placed d₀ d output held) {side : Bool}
    (inside : folder ∈ homes (folders output) side) {rel : Path} (file : d.file? (folder ++ rel) ≠ none) :
    ∃ name, rel = [name] := by
  have holds := h.holds side folder inside
  cases rel with
  | nil =>
    rw [List.append_nil, Disk.file?_of_isFolder holds.there] at file
    exact absurd rfl file
  | cons name rest =>
    by_cases last : rest = []
    · exact ⟨name, by rw [last]⟩
    · have above := Disk.find?_above (p := folder ++ [name]) (Disk.found_of_file? file) ⟨rest, by simp⟩
        (by simpa using Ne.symm last)
      rw [holds.file name] at above
      obtain ⟨_, _, folded⟩ := Option.map_eq_some_iff.1 above
      cases folded

theorem Placed.file?_name (h : Placed d₀ d output (heldAfter d₀ limit output wheels)) {side : Bool}
    (inside : folder ∈ homes (folders output) side) (name : String) :
    d.file? (folder ++ [name]) = latest d₀ (Organize.side d₀ limit side wheels) name := by
  have plain := Disk.isPlain_of_find? (d := d) (p := folder) (by simp [(h.holds side folder inside).there])
  rw [← h.file?_child inside, Path.child, plain.bare]

theorem Placed.holdsJust (h : Placed d₀ d output (heldAfter d₀ limit output wheels))
    (files : ∀ p ∈ wheels, d₀.file? p ≠ none) {side : Bool} (inside : folder ∈ homes (folders output) side)
    {list : List OrganizedWheel} (listed : ∀ e, e ∈ list ↔ e ∈ (Organize.side d₀ limit side wheels).map (entry d₀)) :
    HoldsJust d limit side folder list := by
  have some (name : String) : d.file? (folder ++ [name]) ≠ none ↔
      ∃ p ∈ Organize.side d₀ limit side wheels, p.baseName = name := by
    rw [h.file?_name inside, Ne, latest_eq_none_iff fun p member => files p (mem_side.1 member).1]
    simp
  refine ⟨fun rel => ⟨fun file => ?_, ?_⟩, fun rel contents found => ?_⟩
  · obtain ⟨name, rfl⟩ := h.file?_below inside file
    obtain ⟨p, member, rfl⟩ := (some name).1 file
    exact ⟨entry d₀ p, (listed _).2 (List.mem_map_of_mem member), rfl⟩
  · rintro ⟨e, member, rfl⟩
    obtain ⟨p, member', rfl⟩ := List.mem_map.1 ((listed e).1 member)
    exact (some _).2 ⟨p, member', rfl⟩
  · have file : d.file? (folder ++ rel) ≠ none := by simp [found]
    obtain ⟨name, rfl⟩ := h.file?_below inside file
    obtain ⟨p, member, rfl⟩ := (some name).1 file
    obtain ⟨q, member, _, last⟩ := exists_latest (d := d₀) member
    rw [h.file?_name inside, last] at found
    have sized := (mem_side.1 member).2
    rwa [isLarge, found] at sized

theorem Placed.same_files (h : Placed d₀ d output (heldAfter d₀ limit output wheels)) (rel : Path) :
    d.file? ((folders output).packages ++ rel) = d.file? ((folders output).small ++ rel) := by
  have home : (folders output).packages ∈ homes (folders output) false := by simp [homes]
  have home' : (folders output).small ∈ homes (folders output) false := by simp [homes]
  by_cases single : ∃ name, rel = [name]
  · obtain ⟨name, rfl⟩ := single
    rw [h.file?_name home, h.file?_name home']
  · rw [not_not.1 (mt (h.file?_below home) single), not_not.1 (mt (h.file?_below home') single)]

/-- A run into a new folder reports each wheel that it finds: on its side by its size, or as one that failed. The
large ones come by their sizes, the others in the order of their paths. If none has failed, two folders hold the same
files, which are those on one side, and the third folder those on the other. -/
theorem run_partitions {artifacts : Path} {result : OrganizeResult} {w : Workspace} (plain : output.bare.IsPlain)
    (absent : w.disk.find? output.bare = none) (ran : run artifacts output options w = .ok result v) :
    ∃ wheels, w.disk.findWheels artifacts = .ok wheels ∧ AreWheels w.disk artifacts wheels ∧
      IsPartition w.disk options.sizeLimit wheels result ∧
      progressOf v.trace = progressOf w.trace ++
        (if options.showsProgress then (List.range' 1 wheels.length).map fun i => .wheels i wheels.length else []) ∧
      (result.failed = [] →
        (∀ rel, v.disk.file? ((folders output).packages ++ rel) = v.disk.file? ((folders output).small ++ rel)) ∧
        HoldsJust v.disk options.sizeLimit false (folders output).packages result.small ∧
        HoldsJust v.disk options.sizeLimit false (folders output).small result.small ∧
        HoldsJust v.disk options.sizeLimit true (folders output).large result.large) ∧
      ∀ q n, options.sizeLimit = .finite q → n < 2 ^ 53 →
        ((Number.ofNat n).exceeds options.sizeLimit = true ↔ q < n) := by
  obtain ⟨wheels, s, u₁, u₂, u₃, u₄, e, listed, packages, large, small, sorted, noted, reported⟩ := run_steps ran
  have sources := sources_of_findWheels listed absent
  have ordered := Disk.pairwise_of_findWheels listed
  obtain ⟨packages', large', small'⟩ := isPlain_folderNames
  have start := trans_of (Quiet output) (trans_of (Quiet output) (quiet_of_ensureFolder plain packages' packages)
    (quiet_of_ensureFolder plain large' large)) (quiet_of_ensureFolder plain small' small)
  obtain ⟨⟨larges, smalls, failed, split, onLarge, onSmall, lost⟩, progress⟩ :=
    sortAll_goesOn plain sources (fun q outside => start.file? outside) sorted
  have partition : IsPartition w.disk options.sizeLimit wheels result := by
    refine isPartition_of_split ordered split ?_ ?_ ?_ ?_ ?_ <;> subst reported
    · rfl
    · rw [← List.nil_append (larges.map _), ← onLarge]
    · exact onSmall
    · exact lost
    · exact ⟨rfl, rfl⟩
  refine ⟨wheels, listed, ⟨mem_findWheels listed, Disk.nodup_of_findWheels listed, ordered⟩, partition, ?_,
    fun complete => ?_, ?_⟩
  · rw [noted, progressOf_noting, progress, start.2]
    exact List.append_nil _
  · obtain ⟨wheels', s', listed', _, byLarge, bySmall, placed, larges', smalls'⟩ := run_sorted plain absent ran complete
    cases listed.symm.trans listed'
    have files := fun p inside => (sources p inside).1
    have homes : (folders output).packages ∈ homes (folders output) false ∧
        (folders output).small ∈ Organize.homes (folders output) false ∧
        (folders output).large ∈ Organize.homes (folders output) true := by simp [Organize.homes]
    have members (e : OrganizedWheel) : e ∈ result.small ↔
        e ∈ (side w.disk options.sizeLimit false wheels).map (entry w.disk) := by
      rw [bySmall, smalls']
    refine ⟨placed.same_files, placed.holdsJust files homes.1 members, placed.holdsJust files homes.2.1 members,
      placed.holdsJust files homes.2.2 fun e => ?_⟩
    rw [byLarge, List.mem_mergeSort, larges']
  · rintro q n finite short
    rw [finite, Number.exceeds_ofNat short]

end

section Sample

-- A wheel at the limit, and two of one size above it.
def sizedDisk : Disk :=
  (((Disk.empty.put ["a"] .folder).put ["a", "p.whl"] (.file (Text.encode "1"))).put ["a", "q.whl"]
    (.file (Text.encode "22"))).put ["a", "r.whl"] (.file (Text.encode "33"))

def sizedWorkspace : Workspace := ⟨sizedDisk, [], [], [], [], 0⟩

def sizedOptions : OrganizeOptions := ⟨.ofNat 1, none, true⟩

def sizedWheels : List Path := [["a", "p.whl"], ["a", "q.whl"], ["a", "r.whl"]]

theorem sized_listed : sizedDisk.findWheels ["a"] = .ok sizedWheels := by
  have ordered : sizedWheels.Pairwise fun p q => Disk.pathPrecedes p q = true := by decide +kernel
  have walked : sizedDisk.walkWheels 5 ["a"] = sizedWheels.mergeSort Disk.pathPrecedes := by
    rw [Disk.walkWheels]
    rfl
  exact Disk.findWheels_ok_iff.2 ⟨rfl, walked.trans (List.mergeSort_of_pairwise ordered)⟩

theorem run_partitions_sized : ∃ result v, run ["a"] ["o"] sizedOptions sizedWorkspace = .ok result v ∧
    result.failed = [] ∧ result.totalWheels = 3 ∧
    progressOf v.trace = [.wheels 1 3, .wheels 2 3, .wheels 3 3] ∧
    HoldsJust v.disk sizedOptions.sizeLimit true ["o", "packages-large"] result.large := by
  obtain ⟨result, v, ran, complete⟩ : ∃ result v, run ["a"] ["o"] sizedOptions sizedWorkspace = .ok result v ∧
      result.failed = [] := run_of_sorting sized_listed (by decide) (by decide +kernel)
  obtain ⟨wheels, listed, _, partition, progress, held, _⟩ := run_partitions (by unfold Path.IsPlain; decide) rfl ran
  cases sized_listed.symm.trans listed
  exact ⟨result, v, ran, complete, partition.total.1, progress, (held complete).2.2.2⟩

end Sample

end Organize

end Wheelhouse
