import Wheelhouse.Proofs.Cache.Completeness
import Wheelhouse.Proofs.Cache.Containment
import Wheelhouse.Proofs.Disk.Lockstep
import Wheelhouse.Proofs.Store.Confinement

/-!
The isolation of cache entries in a folder store. A download decides from the manifest alone whether it makes
anything, and then reads the store where the listed files lead from the entry. So two stores that hold the same in
the entry give the same download, whatever else they hold, unless a listed file leads out of the entry. The check of
a download is about the way from the folder: a file that goes up and comes down into the folder again passes, but the
same way in the store ends beside the entry.
-/

set_option autoImplicit false

namespace Wheelhouse

namespace Job

variable {α : Type} {R : Workspace → Workspace → Prop} {seen ordered : Path → Prop} {w w' : Workspace}

/-- Workspaces whose disks are in step. -/
def InStep (seen ordered : Path → Prop) (w w' : Workspace) : Prop := Disk.SameAt seen ordered w.disk w'.disk

theorem change_inStep {f : Disk.Change Unit} (same : SameEnd (Disk.SameAt seen ordered) (f w.disk) (f w'.disk)) :
    SameEnd (InStep seen ordered) (change f w) (change f w') := by
  unfold change
  generalize f w.disk = r at same ⊢
  generalize f w'.disk = r' at same ⊢
  cases same with
  | ok left => exact .ok left
  | error left => exact .error left

theorem outcome_sameEnd {t t' : Job α} (same : SameEnd R (t w) (t' w')) : SameEnd R (outcome t w) (outcome t' w') := by
  unfold outcome
  generalize t w = r at same ⊢
  generalize t' w' = r' at same ⊢
  cases same with
  | ok left => exact .ok left
  | error left => exact .ok left

theorem ofExcept_sameEnd (r : Except Failure α) (left : R w w') : SameEnd R (ofExcept r w) (ofExcept r w') := by
  cases r with
  | ok a => exact .ok left
  | error e => exact .error left

end Job

namespace Disk

variable {d : Disk} {p q : Path}

theorem children_eq_nil (file : d.find? p ≠ some .folder) (below : p <+: q) : d.children q = [] := by
  rw [List.eq_nil_iff_forall_not_mem]
  intro child member
  have there : d.find? (q ++ [child.1]) ≠ none := by simp [mem_children.1 member]
  refine file (find?_above there (below.trans (List.prefix_append _ _)) fun same => ?_)
  have lengths := below.length_le
  rw [same, List.length_append, List.length_singleton] at lengths
  omega

end Disk

theorem Path.prefix_descend {names : List String} (noUp : ".." ∉ names) (p : Path) : p <+: descend p names := by
  induction names generalizing p with
  | nil => exact List.prefix_rfl
  | cons name rest ih =>
    have step : p <+: follow p name := by
      unfold follow
      split_ifs with still up
      · exact List.prefix_rfl
      · exact absurd (up ▸ List.mem_cons_self) noUp
      · exact List.prefix_append _ _
    exact step.trans (ih (fun inside => noUp (List.mem_cons_of_mem _ inside)) _)

namespace FolderStore

variable {root target : Path} {key : String} {seen ordered : Path → Prop} {w w' : Workspace}

theorem contains_inStep (plainRoot : root.bare.IsPlain) (reads : ∀ p, place root key = .ok p → seen p)
    (left : Job.InStep seen ordered w w') :
    SameEnd (Job.InStep seen ordered) ((store root).contains key w) ((store root).contains key w') := by
  cases placed : place root key with
  | error e =>
    rw [refused_of_place placed .contains, refused_of_place placed .contains]
    exact .error left
  | ok p =>
    have uses := uses_of_place (isPlain_of_place plainRoot placed) placed
    rw [uses.contains, uses.contains, left.there p (reads p placed)]
    exact .ok left

theorem getText_inStep (plainRoot : root.bare.IsPlain) (reads : ∀ p, place root key = .ok p → seen p)
    (left : Job.InStep seen ordered w w') :
    SameEnd (Job.InStep seen ordered) ((store root).getText key w) ((store root).getText key w') := by
  cases placed : place root key with
  | error e =>
    rw [refused_of_place placed .getText, refused_of_place placed .getText]
    exact .error left
  | ok p =>
    have uses := uses_of_place (isPlain_of_place plainRoot placed) placed
    rw [uses.getText, uses.getText, left.there p (reads p placed)]
    cases w.disk.find? p with
    | none => exact .error left
    | some e =>
      cases e with
      | folder => exact .error left
      | file contents => exact .ok left

theorem getFile_inStep (plainRoot : root.bare.IsPlain) (plain : target.IsPlain)
    (reads : ∀ p, place root key = .ok p → ∀ q, p <+: q → seen q ∧ ordered q)
    (writes : ∀ q, target.Meets q → seen q) (left : Job.InStep seen ordered w w') :
    SameEnd (Job.InStep seen ordered) ((store root).getFile key target w) ((store root).getFile key target w') := by
  cases placed : place root key with
  | error e =>
    rw [refused_of_place placed (.getFile target), refused_of_place placed (.getFile target)]
    exact .error left
  | ok p =>
    have uses := uses_of_place (isPlain_of_place plainRoot placed) placed
    rw [uses.getFile, uses.getFile, left.there p (reads p placed p List.prefix_rfl).1]
    split_ifs with found
    · have parent : ∀ q, q <+: target.parent.bare → seen q := by
        intro q before
        have above := before.trans (prefix_parent_bare target)
        rw [plain.bare] at above
        exact writes q (.inl above)
      refine SameEnd.bind (Job.change_inStep (left.ensureFolder parent)) fun _ u u' made left' => ?_
      obtain ⟨d, ensured, rfl⟩ := Job.change_ok_iff.1 made
      have gains := Disk.gains_of_ensureFolder (.inl ensured)
      have there : d.find? p ≠ none := by
        have there : w.disk.find? p ≠ none := by simpa [Option.isSome_iff_ne_none] using found
        rwa [gains.kept there]
      exact Job.change_inStep (left'.copy (reads p placed) there plain writes)
    · exact .error left

-- Where a getting begins decides nothing outside its target.
theorem getFile_within (plainRoot : root.bare.IsPlain) (key : String) (target : Path) :
    Respects (Job.OnDisk (Disk.Within target.bare)) ((store root).getFile key target) := by
  cases placed : place root key with
  | error e =>
    intro w
    rw [final_error (refused_of_place placed (.getFile target) w)]
    exact refl_of (Job.OnDisk (Disk.Within target.bare)) w
  | ok p =>
    have plain := isPlain_of_place plainRoot placed
    exact ((uses_of_place plain placed).keeps plain).getFile_within target

end FolderStore

namespace Cache

section

variable {root folder entry : Path} {scope key home file : String} {files : List String} {d d' : Disk} {q : Path}
  {w w' : Workspace}

/-- The place of an entry in a folder store. -/
def entryPlace (root : Path) (scope key : String) : Path :=
  Path.descend root.bare (ObjectKey.segments [scope, "cache", key])

/-- The place that a listed file leads to from an entry. -/
def source (entry : Path) (file : String) : Path := Path.descend entry (Path.segments file)

/-- The files that the manifest of an entry lists. -/
def IsListed (entry : Path) (d : Disk) (file : String) : Prop :=
  ∃ contents files, d.find? (source entry Manifest.fileName) = some (.file contents) ∧
    Manifest.Lists (Text.decode contents) files ∧ file ∈ files

/-- The places that a listed file leads to from an entry, and all below them. -/
def Fetches (entry : Path) (d : Disk) (q : Path) : Prop := ∃ file, IsListed entry d file ∧ source entry file <+: q

/-- The places that a download comes upon where it writes: on the way to a listed file, and at and below it. -/
def Touches (entry folder : Path) (d : Disk) (q : Path) : Prop :=
  q <+: folder.bare ∨ ∃ file, IsListed entry d file ∧ (target folder file).Meets q

/-- Two disks with the same manifest in an entry, or none. -/
def SameManifest (entry : Path) (d d' : Disk) : Prop :=
  d'.find? (source entry Manifest.fileName) = d.find? (source entry Manifest.fileName)

/-- A file that a download takes for one that goes below the folder, but finds in the store beside the entry. -/
structure Strays (root entry folder : Path) (file : String) : Prop where
  below : GoesBelow folder file
  stored : root.bare <+: source entry file
  outside : ¬entry <+: source entry file

-- A file that never goes up stays in the entry, whatever the folder is.
theorem not_strays (noUp : ".." ∉ Path.segments file) : ¬Strays root entry folder file :=
  fun strays => strays.outside (Path.prefix_descend noUp entry)

-- A file that goes up and down again into a folder of the last name of the folder goes below it, but lies in the
-- store in the neighbour of the entry that has this name.
theorem strays_of_name {name : String} {init rest : Path} (called : folder.bare = init ++ [name])
    (plain : Path.IsPlain (name :: rest)) (filled : rest ≠ []) (within : root.bare <+: entry.dropLast)
    (other : entry.getLast? ≠ some name) (deep : entry ≠ []) :
    Strays root entry folder (Text.joined "/" (".." :: name :: rest)) := by
  have unbroken : ∀ n ∈ ".." :: name :: rest, '/' ∉ n.toList := by
    intro n inside
    rcases List.mem_cons.1 inside with rfl | inside
    · decide
    · exact (plain n inside).2.2.2
  have way (p : Path) : Path.descend p (Path.segments (Text.joined "/" (".." :: name :: rest))) =
      p.dropLast ++ name :: rest := by
    rw [Path.segments_joined (List.cons_ne_nil _ _) unbroken]
    change Path.descend (Path.follow p "..") (name :: rest) = _
    rw [Path.descend_of_isPlain plain]
    rfl
  have goes : target folder (Text.joined "/" (".." :: name :: rest)) = folder.bare ++ rest := by
    rw [target, way, called, List.dropLast_concat, List.append_assoc, List.singleton_append]
  refine ⟨⟨?_, ?_⟩, ?_, ?_⟩
  · rw [goes]
    exact List.prefix_append _ _
  · rw [goes]
    simpa using filled
  · rw [source, way]
    exact within.trans (List.prefix_append _ _)
  · rw [source, way]
    intro before
    obtain ⟨last, ends⟩ : ∃ last, entry = entry.dropLast ++ [last] :=
      ⟨entry.getLast deep, (List.dropLast_concat_getLast deep).symm⟩
    rw [ends, List.dropLast_concat, List.prefix_append_right_inj, List.cons_prefix_cons] at before
    rw [ends, List.getLast?_concat, before.1] at other
    exact other rfl

theorem entryKey_eq {remote : Remote} (valid : entryKey remote key = .ok home) :
    home = ObjectKey.join [remote.scope, "cache", key] := by
  unfold entryKey at valid
  split at valid
  · cases valid
    rfl
  · cases valid

-- The object of a listed file is where the file leads to from the entry.
theorem place_ok_iff_source (plainRoot : root.bare.IsPlain) (scope key file : String) {p : Path} :
    FolderStore.place root (ObjectKey.join [ObjectKey.join [scope, "cache", key], file]) = .ok p ↔
      p = source (entryPlace root scope key) file ∧ root.bare <+: p := by
  rw [FolderStore.place_ok_iff plainRoot, ObjectKey.segments_join, ObjectKey.segments_cons, ObjectKey.segments_join,
    Path.descend_append, ObjectKey.segments_singleton, ObjectKey.descend_filter_isKept]
  rfl

theorem source_manifest (entry : Path) : source entry Manifest.fileName = entry ++ [Manifest.fileName] := rfl

-- What a download accepts is what the manifest on the disk lists.
theorem Accepts.isListed (plainRoot : root.bare.IsPlain) {v : Workspace}
    (accepts : Accepts ⟨FolderStore.store root, scope⟩ key folder w home files v) :
    ∀ file ∈ files, IsListed (entryPlace root scope key) w.disk file := by
  obtain rfl := entryKey_eq accepts.valid
  obtain ⟨u, text, looked, read, lists⟩ := accepts.manifest
  cases placed : FolderStore.place root (manifestKey (ObjectKey.join [scope, "cache", key])) with
  | error e =>
    have refused := FolderStore.refused_of_place placed .contains w
    cases refused.symm.trans looked
  | ok p =>
    have uses := FolderStore.uses_of_place (FolderStore.isPlain_of_place plainRoot placed) placed
    obtain ⟨rfl, _⟩ := (place_ok_iff_source plainRoot scope key Manifest.fileName).1 placed
    have begun := (uses.contains w).symm.trans looked
    cases found : w.disk.find? (source (entryPlace root scope key) Manifest.fileName) with
    | none =>
      rw [found] at begun
      cases begun
    | some e =>
      rw [found] at begun
      cases begun
      have ended := uses.getText w
      rw [read, found] at ended
      cases e with
      | folder => cases ended
      | file contents =>
        cases ended
        exact fun file inside => ⟨contents, files, found, lists, inside⟩

variable {seen ordered : Path → Prop}

theorem fetchAll_inStep (plainRoot : root.bare.IsPlain) (plain : folder.bare.IsPlain) (reads : ∀ file ∈ files, ∀ p,
      FolderStore.place root (ObjectKey.join [home, file]) = .ok p → ∀ q, p <+: q → seen q ∧ ordered q)
    (writes : ∀ file ∈ files, ∀ q, (target folder file).Meets q → seen q)
    (left : Job.InStep seen ordered w w') : SameEnd (Job.InStep seen ordered)
      (fetchAll ⟨FolderStore.store root, scope⟩ key home folder files w)
      (fetchAll ⟨FolderStore.store root, scope⟩ key home folder files w') := by
  induction files generalizing w w' with
  | nil => exact .ok left
  | cons file rest ih =>
    have later {u u' : Workspace} (left : Job.InStep seen ordered u u') := ih
      (fun other inside => reads other (List.mem_cons_of_mem _ inside))
      (fun other inside => writes other (List.mem_cons_of_mem _ inside)) left
    have got := FolderStore.getFile_inStep plainRoot (isPlain_target plain file) (reads file List.mem_cons_self)
      (writes file List.mem_cons_self) left
    refine (Job.outcome_sameEnd got).bind fun outcome u u' _ left => ?_
    cases outcome with
    | ok _ => exact SameEnd.bind (.ok left) fun _ _ _ _ left => later left
    | error e => exact (later left).bind fun _ _ _ _ left => .ok left

theorem fetchListed_inStep (plainRoot : root.bare.IsPlain) (plain : folder.bare.IsPlain) (options : CacheOptions)
    (way : ∀ q, q <+: folder.bare → seen q) (reads : ∀ file ∈ files, ∀ p,
      FolderStore.place root (ObjectKey.join [home, file]) = .ok p → ∀ q, p <+: q → seen q ∧ ordered q)
    (writes : ∀ file ∈ files, ∀ q, (target folder file).Meets q → seen q)
    (left : Job.InStep seen ordered w w') : SameEnd (Job.InStep seen ordered)
      (fetchListed ⟨FolderStore.store root, scope⟩ options key home folder files w)
      (fetchListed ⟨FolderStore.store root, scope⟩ options key home folder files w') := by
  refine (Job.change_inStep (left.ensureFolder way)).bind fun _ _ _ _ left => ?_
  refine (Job.ofExcept_sameEnd _ left).bind fun _ _ _ _ left => ?_
  refine (fetchAll_inStep plainRoot plain reads writes left).bind fun failure _ _ _ left => ?_
  cases failure with
  | some e => exact .error left
  | none => exact .ok left

theorem alters_fetchListed {places : Path → Prop} (plainRoot : root.bare.IsPlain) (plain : folder.bare.IsPlain)
    (options : CacheOptions) (scope key home : String) (way : ∀ q, q <+: folder.bare → places q)
    (writes : ∀ file ∈ files, ∀ q, (target folder file).Meets q → places q) :
    Respects (Job.OnDisk (Disk.Alters places folder.bare))
      (fetchListed ⟨FolderStore.store root, scope⟩ options key home folder files) := by
  apply respects_fetchListed
  · intro w v same q changed
    rw [same] at changed
    exact absurd rfl changed
  · apply Job.respects_change_onDisk
    apply Disk.respects_ensureFolder_of
    intro d d' gains q changed
    exact .inl (way q ((gains q).resolve_left changed).2.2)
  · intro file inside w q changed
    have within := FolderStore.getFile_within plainRoot (ObjectKey.join [home, file]) (target folder file) w q changed
    rw [(isPlain_target plain file).bare] at within
    rcases within with below | ⟨above, _⟩
    · exact .inl (writes file inside q (.inr below))
    · exact .inl (writes file inside q (.inl above))

theorem SameManifest.isListed_iff (same : SameManifest entry d d') : IsListed entry d' file ↔ IsListed entry d file := by
  rw [IsListed, show d'.find? _ = d.find? _ from same, IsListed]

theorem SameManifest.touches_iff (same : SameManifest entry d d') : Touches entry folder d' q ↔ Touches entry folder d q := by
  simp only [Touches, same.isListed_iff]

-- A download changes only what it comes upon.
theorem touches_of_download (plainRoot : root.bare.IsPlain) (plain : folder.bare.IsPlain) (options : CacheOptions)
    (w : Workspace) (changed : (final (download ⟨FolderStore.store root, scope⟩ options key folder) w).disk.find? q ≠
      w.disk.find? q) : Touches (entryPlace root scope key) folder w.disk q := by
  have built : (⟨FolderStore.store root, scope⟩ : Remote).store.IsBuilt := .folder root
  rcases download_cases built plain options key w with ⟨e, v, failed, same⟩ | ⟨home, files, v, accepts, same⟩
  · rw [final_error failed, same] at changed
    exact absurd rfl changed
  · have listed := accepts.isListed plainRoot
    have way : ∀ q, q <+: folder.bare → Touches (entryPlace root scope key) folder w.disk q := fun q before => .inl before
    have alters := alters_fetchListed plainRoot plain options scope key home way
      (fun file inside _ near => .inr ⟨file, listed file inside, near⟩) v
    rw [Job.OnDisk, same] at alters
    rw [final, accepts.download_eq plain options] at changed
    rcases alters q changed with near | ⟨before, _⟩
    · exact near
    · exact .inl before

theorem find?_of_isListed (listed : IsListed entry d file) : d.find? entry = some .folder := by
  obtain ⟨contents, files, found, _, _⟩ := listed
  rw [source_manifest] at found
  exact Disk.find?_above (by rw [found]; simp) (List.prefix_append entry [Manifest.fileName]) (by simp)

-- Two downloads go on together as long as what they read and write is seen.
theorem download_inStep (plainRoot : root.bare.IsPlain) (plain : folder.bare.IsPlain) (options : CacheOptions)
    (manifest : seen (source (entryPlace root scope key) Manifest.fileName)) (way : ∀ q, q <+: folder.bare → seen q)
    (reads : ∀ file, IsListed (entryPlace root scope key) w.disk file → GoesBelow folder file →
      root.bare <+: source (entryPlace root scope key) file →
      ∀ q, source (entryPlace root scope key) file <+: q → seen q ∧ ordered q)
    (writes : ∀ file, IsListed (entryPlace root scope key) w.disk file → ∀ q, (target folder file).Meets q → seen q)
    (start : Job.InStep seen ordered w w') :
    SameEnd (Job.InStep seen ordered) (download ⟨FolderStore.store root, scope⟩ options key folder w)
      (download ⟨FolderStore.store root, scope⟩ options key folder w') := by
  unfold download
  refine (Job.ofExcept_sameEnd _ start).bind fun home u u' begun left => ?_
  obtain ⟨valid, same⟩ := Job.ofExcept_ok_iff.1 begun
  rw [← same] at reads writes
  obtain rfl := entryKey_eq valid
  have place : ∀ p, FolderStore.place root (manifestKey (ObjectKey.join [scope, "cache", key])) = .ok p → seen p := by
    intro p placed
    obtain ⟨rfl, _⟩ := (place_ok_iff_source plainRoot scope key Manifest.fileName).1 placed
    exact manifest
  refine (FolderStore.contains_inStep plainRoot place left).bind fun found v v' looked left => ?_
  cases found with
  | false => exact .error left
  | true =>
    refine (FolderStore.getText_inStep plainRoot place left).bind fun text t t' read left => ?_
    refine (Job.ofExcept_sameEnd _ left).bind fun files s s' given left => ?_
    obtain ⟨lists, _⟩ := Job.ofExcept_ok_iff.1 given
    cases leaves : files.find? fun file => !staysInside folder file with
    | some file => exact .error left
    | none =>
      have below := goesBelow_of_find? plain leaves
      have accepts : Accepts ⟨FolderStore.store root, scope⟩ key folder u (ObjectKey.join [scope, "cache", key]) files t :=
        ⟨valid, ⟨v, text, looked, read, Manifest.readFiles_ok_iff.1 lists⟩, below⟩
      have listed := accepts.isListed plainRoot
      refine fetchListed_inStep plainRoot plain options way (fun file inside p placed => ?_)
        (fun file inside => writes file (listed file inside)) left
      obtain ⟨rfl, within⟩ := (place_ok_iff_source plainRoot scope key file).1 placed
      exact reads file (listed file inside) (below file inside) within

/-- What a download looks at: the manifest, what it lists in the entry, and what it comes upon where it writes. -/
def Sees (entry folder : Path) (d : Disk) (q : Path) : Prop :=
  q = source entry Manifest.fileName ∨ (∃ file, IsListed entry d file ∧ entry <+: q) ∨ Touches entry folder d q

/-- A download from an entry of a folder store ends alike from any two stores that hold the same below the place of
the entry: with the same value or the same error, and having written the same at the same places and nothing else.
What is copied as a whole folder has to be listed in one order, and no listed file may stray. -/
theorem download_isolated (plainRoot : root.bare.IsPlain) (plain : folder.bare.IsPlain) (options : CacheOptions)
    (stored : SameEntry (entryPlace root scope key) w.disk w'.disk)
    (order : ∀ q, Fetches (entryPlace root scope key) w.disk q → w'.disk.children q = w.disk.children q)
    (around : ∀ q, Touches (entryPlace root scope key) folder w.disk q → w'.disk.find? q = w.disk.find? q)
    (kept : ∀ file, IsListed (entryPlace root scope key) w.disk file → ¬Strays root (entryPlace root scope key) folder file) :
    SameEnd (fun u u' => ∀ q,
        (Touches (entryPlace root scope key) folder w.disk q → u'.disk.find? q = u.disk.find? q) ∧
        (¬Touches (entryPlace root scope key) folder w.disk q →
          u.disk.find? q = w.disk.find? q ∧ u'.disk.find? q = w'.disk.find? q))
      (download ⟨FolderStore.store root, scope⟩ options key folder w)
      (download ⟨FolderStore.store root, scope⟩ options key folder w') := by
  have same : SameManifest (entryPlace root scope key) w.disk w'.disk := stored _ ⟨[Manifest.fileName], by simp, rfl⟩
  have start : Job.InStep (Sees (entryPlace root scope key) folder w.disk) (Fetches (entryPlace root scope key) w.disk) w w' := by
    refine ⟨fun q near => ?_, order⟩
    rcases near with rfl | ⟨file, listed, rel, rfl⟩ | near
    · exact same
    · by_cases here : rel = []
      · have listed' := same.isListed_iff.2 listed
        rw [here, List.append_nil, find?_of_isListed listed, find?_of_isListed listed']
      · exact stored _ ⟨rel, here, rfl⟩
    · exact around q near
  have reads : ∀ file, IsListed (entryPlace root scope key) w.disk file → GoesBelow folder file →
      root.bare <+: source (entryPlace root scope key) file → ∀ q, source (entryPlace root scope key) file <+: q →
        Sees (entryPlace root scope key) folder w.disk q ∧ Fetches (entryPlace root scope key) w.disk q := by
    intro file listed below within q after
    have stays : entryPlace root scope key <+: source (entryPlace root scope key) file := by
      by_contra outside
      exact kept file listed ⟨below, within, outside⟩
    exact ⟨.inr (.inl ⟨file, listed, stays.trans after⟩), file, listed, after⟩
  have ends := download_inStep plainRoot plain options (.inl rfl) (fun _ before => .inr (.inr (.inl before))) reads
    (fun file listed _ near => .inr (.inr (.inr ⟨file, listed, near⟩))) start
  refine ends.of_final fun left q => ⟨fun near => left.there q (.inr (.inr near)), fun apart => ⟨?_, ?_⟩⟩
  · by_contra changed
    exact apart (touches_of_download plainRoot plain options w changed)
  · by_contra changed
    exact apart (same.touches_iff.1 (touches_of_download plainRoot plain options w' changed))

end

section Sample

def listedText : String := Manifest.text ⟨sampleKey, ["a"], "now"⟩

-- The disk when the file of an entry has been put, but not the manifest.
def sampleFilled : Disk :=
  (((sampleDisk.put ["s"] .folder).put ["s", "cache"] .folder).put sampleHome .folder).put
    (sampleHome ++ ["a"]) (.file (Text.encode "1"))

-- A store with one entry, and the store with a neighbour of the entry.
def singleDisk : Disk := sampleFilled.put (sampleHome ++ [Manifest.fileName]) (.file (Text.encode listedText))

def neighbourDisk : Disk := singleDisk.put ["s", "cache", "out"] (.file (Text.encode "2"))

def singleWorkspace : Workspace := ⟨singleDisk, [], [], [], [], 0⟩

def neighbourWorkspace : Workspace := ⟨neighbourDisk, [], [], [], [], 0⟩

theorem takes_neighbour : singleDisk.takes ["s", "cache", "out"] = true := by decide +kernel

theorem find?_neighbourDisk {q : Path} (other : q ≠ ["s", "cache", "out"]) : neighbourDisk.find? q = singleDisk.find? q := by
  rw [neighbourDisk, Disk.find?_put takes_neighbour, if_neg other]

theorem isListed_singleDisk {file : String} (listed : IsListed sampleHome singleDisk file) : file = "a" := by
  obtain ⟨contents, files, found, lists, inside⟩ := listed
  have takes : sampleFilled.takes (sampleHome ++ [Manifest.fileName]) = true := by decide +kernel
  rw [source_manifest, singleDisk, Disk.find?_put takes, if_pos rfl] at found
  rw [← Entry.file.inj (Option.some.inj found), Text.decode_encode, ← @Manifest.readFiles_ok_iff ""] at lists
  have single : Text.IsSingle sampleKey ∧ Text.IsSingle "a" ∧ Text.IsSingle "now" := by decide
  have written := Manifest.readFiles_text (m := ⟨sampleKey, ["a"], "now"⟩) single.1.isWhole
    (fun file inside => List.mem_singleton.1 inside ▸ single.2.1.isWhole) single.2.2.isWhole ""
  rw [← Except.ok.inj (written.symm.trans lists)] at inside
  exact List.mem_singleton.1 inside

theorem touches_singleDisk {q : Path} (near : Touches sampleHome ["out"] singleDisk q) : q ≠ ["s", "cache", "out"] := by
  rintro rfl
  rcases near with before | ⟨file, listed, near⟩
  · revert before
    decide
  · obtain rfl := isListed_singleDisk listed
    unfold Path.Meets at near
    revert near
    decide

theorem download_isolated_from_neighbour :
    singleWorkspace.disk.find? ["s", "cache", "out"] = none ∧
      neighbourWorkspace.disk.find? ["s", "cache", "out"] = some (.file (Text.encode "2")) ∧
      SameEnd (fun u u' => ∀ q,
          (Touches (entryPlace ["s"] "" sampleKey) ["out"] singleWorkspace.disk q → u'.disk.find? q = u.disk.find? q) ∧
          (¬Touches (entryPlace ["s"] "" sampleKey) ["out"] singleWorkspace.disk q →
            u.disk.find? q = singleWorkspace.disk.find? q ∧ u'.disk.find? q = neighbourWorkspace.disk.find? q))
        (download ⟨FolderStore.store ["s"], ""⟩ ⟨false, none⟩ sampleKey ["out"] singleWorkspace)
        (download ⟨FolderStore.store ["s"], ""⟩ ⟨false, none⟩ sampleKey ["out"] neighbourWorkspace) := by
  have place : entryPlace ["s"] "" sampleKey = sampleHome := by decide +kernel
  have free : (singleDisk.find? ["s", "cache", "out"]).isNone = true := by decide +kernel
  have file : singleDisk.isFolder (source sampleHome "a") = false := by decide +kernel
  have single : singleDisk.find? (source sampleHome "a") ≠ some .folder := by
    rw [ne_eq, ← Disk.isFolder_iff, file]
    decide
  refine ⟨Option.isNone_iff_eq_none.1 free, ?_, download_isolated ?_ ?_ ⟨false, none⟩ ?_ ?_ ?_ ?_⟩
  · change neighbourDisk.find? _ = _
    rw [neighbourDisk, Disk.find?_put takes_neighbour, if_pos rfl]
  · change ∀ name ∈ ["s"], _
    decide
  · change ∀ name ∈ ["out"], _
    decide
  · rw [place]
    rintro q ⟨rel, filled, rfl⟩
    apply find?_neighbourDisk
    simp [sampleHome, sampleKey]
  · rw [place]
    rintro q ⟨file, listed, below⟩
    obtain rfl := isListed_singleDisk listed
    have beside : neighbourDisk.find? (source sampleHome "a") ≠ some .folder := by
      rwa [find?_neighbourDisk (by decide +kernel)]
    change neighbourDisk.children q = singleDisk.children q
    rw [Disk.children_eq_nil single below, Disk.children_eq_nil beside below]
  · rw [place]
    exact fun q near => find?_neighbourDisk (touches_singleDisk near)
  · rw [place]
    intro file listed
    obtain rfl := isListed_singleDisk listed
    exact not_strays (by decide)

end Sample

end Cache

end Wheelhouse
