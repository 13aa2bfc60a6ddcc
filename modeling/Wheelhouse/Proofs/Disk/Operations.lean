import Mathlib.Data.List.Basic
import Mathlib.Data.List.TakeWhile
import Wheelhouse.Proofs.Disk.Gains

/-!
What the operations do to every place of a disk. Making a folder adds folders on the way to it and
nothing else, also when it fails half way. Copying or writing a file into a folder sets one place or
leaves the disk alone.
-/

set_option autoImplicit false

namespace Wheelhouse.Disk

variable {d d' : Disk}

theorem file?_of_isFolder {p : Path} (folder : d.find? p = some .folder) : d.file? p = none := by
  rw [file?, folder]

-- Names lead nowhere if only the last of them may be a file.
theorem obstacle_of_clear {folder : Path} {names : List String}
    (short : ∀ name ∈ names, Path.isTooLong name = false)
    (clear : ∀ init, init <+: names → init ≠ names → d.file? (folder ++ init) = none) :
    d.obstacle folder names = .notFound := by
  induction names generalizing folder with
  | nil => rfl
  | cons name rest ih =>
    rw [obstacle, if_neg (by simp [short name List.mem_cons_self])]
    split
    · refine ih (fun n inside => short n (List.mem_cons_of_mem _ inside)) fun init before proper => ?_
      have noFile := clear (name :: init) (List.cons_prefix_cons.2 ⟨rfl, before⟩)
        fun same => proper (List.cons.inj same).2
      simpa using noFile
    · rename_i contents here
      cases rest with
      | nil => rfl
      | cons next rest =>
        have noFile := clear [name] (by simp) (by simp)
        rw [file?, here] at noFile
        cases noFile
    · rfl

theorem file?_of_obstacle {folder : Path} {names : List String} (there : d.find? folder = some .folder)
    (short : ∀ name ∈ names, Path.isTooLong name = false)
    (clear : d.obstacle folder names ≠ .notFolder) :
    ∀ init, init <+: names → init ≠ names → d.file? (folder ++ init) = none := by
  induction names generalizing folder with
  | nil =>
    intro init before proper
    exact absurd (List.prefix_nil.1 before) proper
  | cons name rest ih =>
    intro init before proper
    rw [obstacle, if_neg (by simp [short name List.mem_cons_self])] at clear
    cases init with
    | nil => simpa using file?_of_isFolder there
    | cons n init =>
      obtain ⟨rfl, inner⟩ := List.cons_prefix_cons.1 before
      have innerProper : init ≠ rest := fun same => proper (by rw [same])
      split at clear
      · rename_i here
        simpa using ih here (fun n inside => short n (List.mem_cons_of_mem _ inside)) clear init inner innerProper
      · cases rest with
        | nil => exact absurd (List.prefix_nil.1 inner) innerProper
        | cons _ _ => simp at clear
      · rename_i here
        -- Nothing lies below a place where nothing is.
        cases inside : d.file? (folder ++ n :: init) with
        | none => rfl
        | some contents =>
          have found : d.find? (folder ++ n :: init) ≠ none := by
            rw [file?_eq_some_iff.1 inside]
            simp
          by_cases last : init = []
          · rw [last] at found
            exact absurd here found
          · have folder := find?_above (p := folder ++ [n]) found ⟨init, by simp⟩ (by simpa using Ne.symm last)
            rw [here] at folder
            cases folder

theorem absence_of_clear {p : Path} (near : p.isFarTooLong = false)
    (short : ∀ name ∈ p, Path.isTooLong name = false)
    (clear : ∀ q, q <+: p → q ≠ p → d.file? q = none) : d.absence p = .notFound := by
  rw [absence, if_neg (by simp [near])]
  exact obstacle_of_clear short fun init before proper => by simpa using clear init before proper

theorem get_bind {α : Type} (f : Disk → Change α) (d : Disk) : (get >>= f) d = f d d := rfl

theorem ensureFolder_eq (p : Path) (d : Disk) :
    ensureFolder p d =
      let named := p.bare.takeWhile fun name => !Path.isTooLong name
      if p.hasNull = true then .error (.nullCharacter p.text) d
      else if (p.isFarTooLong || d.absence p = .notFolder) = true then .error (d.refusal "mkdir" p) d
      else if (d.file? p).isSome = true then .error (.system .taken "mkdir" (some p.text)) d
      else if named.length < p.bare.length then
        .error (.system .nameTooLong "mkdir" (some p.text)) ((ancestry named).foldl addFolder d)
      else .ok () ((ancestry named).foldl addFolder d) := by
  unfold ensureFolder
  rw [get_bind]
  simp only [bind, set]
  split_ifs <;> rfl

theorem gains_of_ensureFolder {p : Path}
    (made : ensureFolder p d = .ok () d' ∨ ∃ x, ensureFolder p d = .error x d') : d.Gains d' p.bare := by
  have partly := foldl_addFolder_gains (p := p.bare)
    (ancestry (p.bare.takeWhile fun name => !Path.isTooLong name))
    (fun q inside => (mem_ancestry.1 inside).1.trans (List.takeWhile_prefix _)) d
  rw [ensureFolder_eq] at made
  simp only at made
  split_ifs at made <;> rcases made with made | ⟨x, made⟩ <;> cases made <;>
    first | exact .refl d _ | exact partly

theorem takeWhile_short_eq {names : List String}
    (whole : ¬(names.takeWhile fun name => !Path.isTooLong name).length < names.length) :
    (names.takeWhile fun name => !Path.isTooLong name) = names :=
  (List.takeWhile_prefix _).eq_of_length_le (Nat.not_lt.1 whole)

theorem marked_or_bare (p : Path) : p = p.bare ∨ p = p.bare ++ [""] := by
  unfold Path.bare
  split_ifs with marked
  · refine .inr (List.dropLast_append_getLast? "" ?_).symm
    simpa [Path.isMarked] using marked
  · exact .inl rfl

-- When a folder has been made, all names on the way to it are names, and lead to folders.
theorem find?_of_ensureFolder {p : Path} (plain : p.bare.IsPlain) (made : ensureFolder p d = .ok () d') :
    (∀ name ∈ p.bare, Path.isName name = true) ∧
      ∀ q, d'.find? q = if q <+: p.bare then some .folder else d.find? q := by
  rw [ensureFolder_eq] at made
  simp only at made
  split_ifs at made with null far file long
  have same := takeWhile_short_eq long
  cases made
  have short : ∀ name ∈ p.bare, Path.isTooLong name = false := by
    intro name inside
    rw [← same] at inside
    simpa using List.mem_takeWhile_imp inside
  have within : ∀ name ∈ p.bare, name ∈ p := by
    rcases marked_or_bare p with h | h <;> intro name inside <;> rw [h]
    · exact inside
    · exact List.mem_append_left _ inside
  have named : ∀ name ∈ p.bare, Path.isName name = true := by
    intro name inside
    obtain ⟨filled, notHere, notUp, unbroken⟩ := plain name inside
    refine Path.isName_iff.2 ⟨filled, notHere, notUp, unbroken, fun null' => null ?_, short name inside⟩
    exact List.any_eq_true.2 ⟨name, within name inside, by simpa using null'⟩
  have clear : ∀ q, q <+: p.bare → d.file? q = none := by
    simp only [Bool.or_eq_true, decide_eq_true_eq, not_or, Bool.not_eq_true] at far
    have passable : d.obstacle [] p ≠ .notFolder := by
      intro blocked
      refine far.2 ?_
      rw [absence, if_neg (by simp [far.1])]
      exact blocked
    have shortAll : ∀ name ∈ p, Path.isTooLong name = false := by
      rcases marked_or_bare p with h | h <;> intro name inside <;> rw [h] at inside
      · exact short name inside
      · rcases List.mem_append.1 inside with inside | inside
        · exact short name inside
        · rw [List.mem_singleton.1 inside]
          decide
    have passed := file?_of_obstacle find?_nil shortAll passable
    intro q before
    rcases marked_or_bare p with h | h
    · rw [← h] at before
      by_cases last : q = p
      · rw [last]
        simpa using file
      · simpa using passed q before last
    · refine passed q (by rw [h]; exact before.trans (List.prefix_append _ _)) fun last => ?_
      have bound := before.length_le
      rw [last, h, Path.bare_append_slash, List.length_append, List.length_singleton] at bound
      omega
  rw [same]
  exact ⟨named, find?_foldl_addFolder named clear⟩

theorem ensureFolder_of_clear {p : Path} (near : p.isFarTooLong = false)
    (named : ∀ name ∈ p.bare, Path.isName name = true) (clear : ∀ q, q <+: p.bare → d.file? q = none) :
    ∃ d', ensureFolder p d = .ok () d' ∧
      ∀ q, d'.find? q = if q <+: p.bare then some .folder else d.find? q := by
  have short := Path.isTooLong_of_isName named
  have whole : (p.bare.takeWhile fun name => !Path.isTooLong name) = p.bare := by
    rw [List.takeWhile_eq_self_iff]
    intro name inside
    simp [short name inside]
  have null : p.hasNull = false := by
    rcases marked_or_bare p with h | h
    · rw [h]
      exact Path.hasNull_of_isName named
    · have bare := Path.hasNull_of_isName named
      rw [h, Path.hasNull, List.any_append, ← Path.hasNull, bare]
      decide
  have absent : d.absence p = .notFound := by
    refine absence_of_clear near ?_ ?_
    · intro name inside
      rcases marked_or_bare p with h | h <;> rw [h] at inside
      · exact short name inside
      · rcases List.mem_append.1 inside with inside | inside
        · exact short name inside
        · rw [List.mem_singleton.1 inside]
          decide
    · intro q before proper
      rcases marked_or_bare p with h | h
      · exact clear q (h ▸ before)
      · rw [h, List.prefix_concat_iff] at before
        exact before.elim (fun last => absurd (last.trans h.symm) proper) (clear q)
  have file : d.file? p = none := by
    rcases marked_or_bare p with h | h
    · rw [h]
      exact clear _ List.prefix_rfl
    · cases found : d.file? p with
      | none => rfl
      | some contents =>
        have odd := isPlain_of_file? (d := d) (p := p) (by rw [found]; simp)
        rw [h] at odd
        exact absurd rfl (odd "" (by simp)).1
  refine ⟨(ancestry p.bare).foldl addFolder d, ?_, find?_foldl_addFolder named clear⟩
  rw [ensureFolder_eq]
  simp [null, near, absent, file, whole]

theorem near_of_ensureFolder {p : Path} (made : ensureFolder p d = .ok () d') : p.isFarTooLong = false := by
  rw [ensureFolder_eq] at made
  simp only at made
  split_ifs at made with null far
  simp only [Bool.or_eq_true, not_or, Bool.not_eq_true] at far
  exact far.1

theorem ensureFolder_of_isFolder {p : Path} (there : d.find? p = some .folder) :
    ensureFolder p d = .ok () d ∨ ∃ x, ensureFolder p d = .error x d ∧ p.isFarTooLong = true := by
  have found : d.find? p ≠ none := by simp [there]
  have named := isName_of_find? found
  have plain := isPlain_of_find? found
  have below : ∀ q, q <+: p → d.find? q = some .folder := by
    intro q before
    by_cases last : q = p
    · rw [last, there]
    · exact find?_above found before last
  have whole : (p.takeWhile fun name => !Path.isTooLong name) = p := by
    rw [List.takeWhile_eq_self_iff]
    intro name inside
    simp [Path.isTooLong_of_isName named name inside]
  have same : (ancestry p).foldl addFolder d = d :=
    foldl_addFolder_of_isFolder _ fun q inside => below q (mem_ancestry.1 inside).1
  cases far : p.isFarTooLong with
  | true =>
    refine .inr ⟨d.refusal "mkdir" p, ?_, rfl⟩
    rw [ensureFolder_eq]
    simp [Path.hasNull_of_isName named, far]
  | false =>
    have absent := absence_of_clear (d := d) far (Path.isTooLong_of_isName named)
      fun q before _ => file?_of_isFolder (below q before)
    left
    rw [ensureFolder_eq]
    simp [Path.hasNull_of_isName named, far, absent, file?_of_isFolder there, plain.bare, whole, same]

theorem copy_eq (source target : Path) (d : Disk) :
    copy source target d =
      match d.checkCopy source target with
      | .error e => .error e d
      | .ok _ =>
        match ensureFolder target.parent d with
        | .error e d' => .error e d'
        | .ok _ d' => copyTree (d'.entries.length + 1) source.bare target.bare d' := by
  unfold copy
  simp only [bind, EStateM.bind, check]
  cases d.checkCopy source target with
  | error e => rfl
  | ok _ =>
    simp only
    cases ensureFolder target.parent d <;> rfl

theorem copyTree_file {source target : Path} {contents : ByteArray} (fuel : Nat)
    (file : d.find? source = some (.file contents)) :
    copyTree (fuel + 1) source target d = .ok () (d.put target (.file contents)) := by
  rw [copyTree, get_bind, file]
  rfl

section

variable {source target : Path} {contents : ByteArray}

theorem isFolder_of_checkCopy (file : d.find? source = some (.file contents)) (plain : target.IsPlain)
    (checked : d.checkCopy source target = .ok ()) : d.isFolder target = false := by
  have sourcePlain : source.IsPlain := isPlain_of_find? (by rw [file]; simp)
  cases folder : d.isFolder target with
  | false => rfl
  | true =>
    -- A file does not replace a folder.
    have apart : source ≠ target := by
      rintro rfl
      rw [isFolder, file] at folder
      cases folder
    rw [checkCopy, inspect, at?_of_isPlain sourcePlain, file, at?_of_isPlain plain,
      isFolder_iff.1 folder, sourcePlain.bare, plain.bare] at checked
    simp [Entry.isFolder, apart, bind, Except.bind, throw, throwThe, MonadExceptOf.throw] at checked

theorem checkCopy_of_free (file : d.find? source = some (.file contents)) (plain : target.IsPlain)
    (free : d.find? target = none) (absent : d.absence target = .notFound)
    (null : target.hasNull = false) : d.checkCopy source target = .ok () := by
  have sourcePlain : source.IsPlain := isPlain_of_find? (by rw [file]; simp)
  rw [checkCopy, inspect, at?_of_isPlain sourcePlain, file, at?_of_isPlain plain, free]
  simp [absent, null, plain.unmarked, Entry.isFolder, bind, Except.bind, pure, Except.pure]

theorem checkCopy_of_file {old : ByteArray} (file : d.find? source = some (.file contents))
    (there : d.find? target = some (.file old)) (apart : source ≠ target) : d.checkCopy source target = .ok () := by
  have sourcePlain : source.IsPlain := isPlain_of_find? (by rw [file]; simp)
  have plain : target.IsPlain := isPlain_of_find? (by rw [there]; simp)
  rw [checkCopy, inspect, at?_of_isPlain sourcePlain, file, at?_of_isPlain plain, there, sourcePlain.bare, plain.bare]
  simp [apart, plain.unmarked, Entry.isFolder, bind, Except.bind, pure, Except.pure]

theorem checkCopy_of_far (plain : target.IsPlain) (free : d.find? target = none)
    (far : target.isFarTooLong = true) : ∃ x, d.checkCopy source target = .error x := by
  have absent : d.absence target = .nameTooLong := by rw [absence, if_pos far]
  unfold checkCopy
  cases d.inspect "lstat" source with
  | error x => exact ⟨x, rfl⟩
  | ok e =>
    rw [at?_of_isPlain plain, free]
    refine ⟨d.refusal "lstat" target, ?_⟩
    simp [absent, bind, Except.bind, throw, throwThe, MonadExceptOf.throw]

-- A file is copied into a folder as a whole or not at all.
theorem copy_file (file : d.find? source = some (.file contents)) (plain : target.IsPlain)
    (parent : d.find? target.dropLast = some .folder) :
    (∃ x, copy source target d = .error x d) ∨
      (copy source target d = .ok () (d.put target (.file contents)) ∧ d.isFolder target = false) := by
  have sourcePlain : source.IsPlain := isPlain_of_find? (by rw [file]; simp)
  rw [copy_eq, Path.parent, plain.bare, sourcePlain.bare]
  cases checked : d.checkCopy source target with
  | error x => exact .inl ⟨x, rfl⟩
  | ok _ =>
    rcases ensureFolder_of_isFolder parent with made | ⟨x, made, _⟩
    · rw [made]
      exact .inr ⟨copyTree_file _ file, isFolder_of_checkCopy file plain checked⟩
    · rw [made]
      exact .inl ⟨x, rfl⟩

theorem copy_file_of_free (file : d.find? source = some (.file contents))
    (named : ∀ name ∈ target, Path.isName name = true) (parent : d.find? target.dropLast = some .folder)
    (free : d.find? target = none) (near : target.isFarTooLong = false) :
    copy source target d = .ok () (d.put target (.file contents)) := by
  have sourcePlain : source.IsPlain := isPlain_of_find? (by rw [file]; simp)
  have plain := Path.IsPlain.of_isName named
  have below : ∀ q, q <+: target → q ≠ target → d.file? q = none := by
    intro q before proper
    by_cases last : q = target.dropLast
    · exact file?_of_isFolder (last ▸ parent)
    · have inside : q <+: target.dropLast := by
        rcases List.eq_nil_or_concat target with none | ⟨init, name, split⟩
        · rw [none] at before ⊢
          exact before
        · rw [split, List.concat_eq_append] at before proper ⊢
          rw [List.dropLast_concat]
          exact (List.prefix_concat_iff.1 before).resolve_left proper
      exact file?_of_isFolder (find?_above (by rw [parent]; simp) inside last)
  have absent := absence_of_clear near (Path.isTooLong_of_isName named) below
  rw [copy_eq, checkCopy_of_free file plain free absent (Path.hasNull_of_isName named), Path.parent,
    plain.bare, sourcePlain.bare]
  rcases ensureFolder_of_isFolder parent with made | ⟨x, _, far⟩
  · rw [made]
    exact copyTree_file _ file
  · rw [Path.isFarTooLong_above (List.dropLast_prefix target) near] at far
    cases far

-- A file that is there already is replaced.
theorem copy_file_of_not_folder (file : d.find? source = some (.file contents))
    (named : ∀ name ∈ target, Path.isName name = true) (parent : d.find? target.dropLast = some .folder)
    (free : d.find? target ≠ some .folder) (near : target.isFarTooLong = false) (apart : source ≠ target) :
    copy source target d = .ok () (d.put target (.file contents)) := by
  cases there : d.find? target with
  | none => exact copy_file_of_free file named parent there near
  | some e =>
    cases e with
    | folder => exact absurd there free
    | file old =>
      have sourcePlain : source.IsPlain := isPlain_of_find? (by rw [file]; simp)
      rw [copy_eq, checkCopy_of_file file there apart, Path.parent, (Path.IsPlain.of_isName named).bare, sourcePlain.bare]
      rcases ensureFolder_of_isFolder parent with made | ⟨x, _, far⟩
      · rw [made]
        exact copyTree_file _ file
      · rw [Path.isFarTooLong_above (List.dropLast_prefix target) near] at far
        cases far

theorem takes_of_parent (named : ∀ name ∈ target, Path.isName name = true) (filled : target ≠ [])
    (parent : d.find? target.dropLast = some .folder) (free : d.isFolder target = false) :
    d.takes target = true :=
  takes_iff.2 ⟨filled, isFolder_iff.2 parent, free, named⟩

end

theorem not_folder_of_takes {p : Path} (fits : d.takes p = true) : d.find? p ≠ some .folder := by
  intro folder
  have free := (takes_iff.1 fits).2.2.1
  rw [isFolder_iff.2 folder] at free
  cases free

theorem attempt_ok_iff {f : Disk → Except DiskError Disk} : attempt f d = .ok () d' ↔ f d = .ok d' := by
  unfold attempt
  cases f d <;> simp

theorem attempt_error {f : Disk → Except DiskError Disk} {x : DiskError} (failed : f d = .error x) :
    attempt f d = .error x d := by
  simp only [attempt, failed]

theorem readFile_ok {p : Path} {contents : ByteArray} (read : d.readFile p = .ok contents) :
    d.has p = true ∧ d.find? p = some (.file contents) := by
  have here : d.at? p = some (.file contents) := by
    unfold readFile at read
    split at read <;> simp_all
  refine ⟨by rw [has, here]; rfl, ?_⟩
  unfold at? at here
  split_ifs at here
  · cases here
  · exact here

theorem readFile_of_find? {p : Path} {contents : ByteArray} (file : d.find? p = some (.file contents)) :
    d.readFile p = .ok contents := by
  have found : d.find? p ≠ none := by simp [file]
  rw [readFile, at?_of_isPlain (isPlain_of_find? found), file]

theorem remove_ok {p : Path} (removed : d.remove p = .ok d') : d' = d.erase p.bare := by
  unfold remove at removed
  split_ifs at removed
  cases removed
  rfl

-- A place that holds something can be removed.
theorem remove_of_found {p q : Path} (found : d.find? q ≠ none) (before : p <+: q) (near : p.isFarTooLong = false) :
    d.remove p = .ok (d.erase p.bare) := by
  have named : ∀ name ∈ p, Path.isName name = true := fun name inside => isName_of_find? found name (before.subset inside)
  have clear : ∀ r, r <+: p → r ≠ p → d.file? r = none := by
    intro r above proper
    refine file?_of_isFolder (find?_above found (above.trans before) ?_)
    rintro rfl
    exact proper (above.eq_of_length_le before.length_le)
  have absent := absence_of_clear near (Path.isTooLong_of_isName named) clear
  simp [remove, absent, Path.hasNull_of_isName named]

theorem writeFile_ok_iff {p : Path} {contents : ByteArray} : d.writeFile p contents = .ok d' ↔
    d.takes p = true ∧ p.namesFile = true ∧ d' = d.put p (.file contents) := by
  rw [← and_assoc, ← Bool.and_eq_true, writeFile]
  by_cases fits : (d.takes p && p.namesFile) = true
  · rw [if_pos fits, Except.ok.injEq]
    exact ⟨fun same => ⟨fits, same.symm⟩, fun h => h.2.symm⟩
  · rw [if_neg fits]
    refine iff_of_false ?_ fun h => fits h.1
    split_ifs <;> simp

theorem writeFile_ok {p : Path} {contents : ByteArray} (written : d.writeFile p contents = .ok d') :
    d.takes p = true ∧ d' = d.put p (.file contents) := by
  obtain ⟨fits, _, rfl⟩ := writeFile_ok_iff.1 written
  exact ⟨fits, rfl⟩

theorem writeFile_of_file {p : Path} {old : ByteArray} (file : d.find? p = some (.file old))
    (near : p.isFarTooLong = false) (contents : ByteArray) :
    d.writeFile p contents = .ok (d.put p (.file contents)) := by
  have found : d.find? p ≠ none := by simp [file]
  have named := isName_of_find? found
  have plain := isPlain_of_find? found
  have filled : p ≠ [] := by
    rintro rfl
    simp [find?_nil] at file
  have parent := isFolder_iff.1 (isFolder_parent found)
  have fits := takes_of_parent named filled parent (by simp [isFolder, file])
  have short : Path.isTooLong p.baseName = false := by
    obtain ⟨init, last, rfl⟩ := (List.eq_nil_or_concat p).resolve_left filled
    rw [Path.baseName, plain.bare]
    simpa using Path.isTooLong_of_isName named last
  rw [writeFile, if_pos]
  simp [fits, Path.namesFile, plain.unmarked, Path.hasNull_of_isName named, near, short]

end Wheelhouse.Disk
