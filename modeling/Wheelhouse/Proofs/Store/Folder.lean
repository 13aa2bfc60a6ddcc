import Wheelhouse.Proofs.Disk.Operations
import Wheelhouse.Proofs.Job
import Wheelhouse.Store.Folder

/-!
A store in a folder, which may refuse to put some objects. The object of a key has one place on the disk;
a put that succeeds sets this place, one that fails may leave folders on the way to it, and nothing else
on the disk changes.
-/

set_option autoImplicit false

namespace Wheelhouse.FolderStore

-- The store in a folder, or this store where some puts are refused.
def IsAt (store : ObjectStore) (root : Path) : Prop :=
  store = FolderStore.store root ∨ ∃ refuses, store = (FolderStore.store root).refusing refuses

variable {root : Path} {key : String} {p : Path}

theorem place_ok_iff (plain : root.bare.IsPlain) : place root key = .ok p ↔
    p = Path.descend root.bare (ObjectKey.segments [key]) ∧ root.bare <+: p := by
  have inside : (Path.descend root.bare (ObjectKey.segments [key])).IsPlain :=
    Path.isPlain_descend plain fun name member => ObjectKey.slash_not_mem_of_mem_segments member
  rw [place, ObjectKey.descend_segments_join]
  split
  · rename_i below
    rw [Path.isInside_iff inside] at below
    simp only [Except.ok.injEq]
    constructor
    · rintro rfl
      exact ⟨rfl, below⟩
    · exact fun h => h.1.symm
  · rename_i outside
    rw [Path.isInside_iff inside] at outside
    constructor
    · intro h
      cases h
    · rintro ⟨rfl, below⟩
      exact absurd below outside

theorem isPlain_of_place (plain : root.bare.IsPlain) (placed : place root key = .ok p) : p.IsPlain := by
  obtain ⟨rfl, _⟩ := (place_ok_iff plain).1 placed
  exact Path.isPlain_descend plain fun name member => ObjectKey.slash_not_mem_of_mem_segments member

-- A relative path below a key lies below the place of the key.
theorem place_join (plain : root.bare.IsPlain) (placed : place root key = .ok p) {names : List String}
    (filled : names ≠ []) (proper : Path.IsPlain names) :
    place root (ObjectKey.join [key, Text.joined "/" names]) = .ok (p ++ names) := by
  obtain ⟨same, below⟩ := (place_ok_iff plain).1 placed
  rw [place_ok_iff plain, ObjectKey.segments_join, ObjectKey.segments_cons,
    ObjectKey.segments_joined_of_isPlain filled proper, Path.descend_append, ← same,
    Path.descend_of_isPlain proper]
  exact ⟨rfl, below.trans (List.prefix_append p names)⟩

theorem contains_eq {store : ObjectStore} (here : IsAt store root) (plain : root.bare.IsPlain)
    (placed : place root key = .ok p) (w : Workspace) :
    store.contains key w = .ok (w.disk.find? p).isSome w := by
  have found : (FolderStore.store root).contains key w = .ok (w.disk.find? p).isSome w := by
    change (Job.ofExcept (place root key) >>= Job.has) w = _
    rw [Job.bind_ok (Job.ofExcept_ok_iff.2 ⟨placed, rfl⟩), Job.has_run,
      Disk.has_of_isPlain (isPlain_of_place plain placed)]
  rcases here with rfl | ⟨refuses, rfl⟩ <;> exact found

end Wheelhouse.FolderStore

namespace Wheelhouse

-- What a put of a file at a place does to a disk.
def Disk.Stores (d d' : Disk) (p : Path) (contents : ByteArray) : Prop :=
  ∃ made : Disk, d.Gains made p.dropLast ∧ made.takes p = true ∧ d' = made.put p (.file contents)

namespace Disk.Stores

variable {d d' : Disk} {p : Path} {contents : ByteArray}

theorem find?_self (h : d.Stores d' p contents) : d'.find? p = some (.file contents) := by
  obtain ⟨made, _, taken, rfl⟩ := h
  rw [find?_put taken, if_pos rfl]

theorem find?_of_ne (h : d.Stores d' p contents) {q : Path} (other : q ≠ p) (found : d.find? q ≠ none) :
    d'.find? q = d.find? q := by
  obtain ⟨made, gains, taken, rfl⟩ := h
  rw [find?_put taken, if_neg other, gains.kept found]

theorem find?_outside (h : d.Stores d' p contents) {q : Path} (other : q ≠ p) (apart : ¬q <+: p.dropLast) :
    d'.find? q = d.find? q := by
  obtain ⟨made, gains, taken, rfl⟩ := h
  rw [find?_put taken, if_neg other, gains.outside apart]

theorem file?_of_ne (h : d.Stores d' p contents) {q : Path} (other : q ≠ p) : d'.file? q = d.file? q := by
  obtain ⟨made, gains, taken, rfl⟩ := h
  rw [← gains.file? q, file?, find?_put taken, if_neg other, file?]

theorem isName (h : d.Stores d' p contents) : ∀ name ∈ p, Path.isName name = true := by
  obtain ⟨made, _, taken, rfl⟩ := h
  exact (takes_iff.1 taken).2.2.2

end Disk.Stores

namespace FolderStore

-- How a put that is asked to store contents at a place may end.
inductive PutEnds (d : Disk) (p : Path) (contents : ByteArray) : EStateM.Result Failure Workspace Unit → Prop
  | stored {w : Workspace} (stores : d.Stores w.disk p contents) : PutEnds d p contents (.ok () w)
  | failed {e : Failure} {w : Workspace} (gains : d.Gains w.disk p.dropLast) : PutEnds d p contents (.error e w)

variable {root : Path} {key : String} {p : Path}

-- The folder of a place is made with all above it, or some of these are.
theorem ensureParent_cases (proper : p.IsPlain) (w : Workspace) :
    (∃ made, Job.ensureFolder p.parent w = .ok () { w with disk := made } ∧ w.disk.Gains made p.dropLast ∧
      (∀ q, q <+: p.dropLast → made.find? q = some .folder) ∧ ∀ name ∈ p.dropLast, Path.isName name = true) ∨
    ∃ e made, Job.ensureFolder p.parent w = .error e { w with disk := made } ∧ w.disk.Gains made p.dropLast := by
  have above : Path.IsPlain p.dropLast := proper.above (List.dropLast_prefix p)
  rw [Path.parent, proper.bare, Job.ensureFolder]
  cases made : Disk.ensureFolder p.dropLast w.disk with
  | ok _ d =>
    have gains := Disk.gains_of_ensureFolder (.inl made)
    have reached := Disk.find?_of_ensureFolder (above.bare.symm ▸ above) made
    rw [above.bare] at gains reached
    exact .inl ⟨d, Job.change_ok_iff.2 ⟨d, made, rfl⟩, gains, fun q before => by rw [reached.2, if_pos before], reached.1⟩
  | error x d =>
    have gains := Disk.gains_of_ensureFolder (.inr ⟨x, made⟩)
    rw [above.bare] at gains
    exact .inr ⟨.disk x, d, Job.change_error_iff.2 ⟨x, d, made, rfl, rfl⟩, gains⟩

theorem prepare_cases (plain : root.bare.IsPlain) (placed : place root key = .ok p) (w : Workspace) :
    (∃ made, prepare root key w = .ok p { w with disk := made } ∧ w.disk.Gains made p.dropLast ∧
      made.find? p.dropLast = some .folder ∧ ∀ name ∈ p.dropLast, Path.isName name = true) ∨
    ∃ e made, prepare root key w = .error e { w with disk := made } ∧ w.disk.Gains made p.dropLast := by
  unfold prepare
  rw [Job.bind_ok (Job.ofExcept_ok_iff.2 ⟨placed, rfl⟩)]
  rcases ensureParent_cases (isPlain_of_place plain placed) w with
    ⟨made, ensured, gains, there, named⟩ | ⟨e, made, failed, gains⟩
  · exact .inl ⟨made, by rw [Job.bind_ok ensured]; rfl, gains, there _ List.prefix_rfl, named⟩
  · exact .inr ⟨e, made, Job.bind_error failed, gains⟩

theorem isName_of_parent {p : Path} (above : ∀ name ∈ p.dropLast, Path.isName name = true)
    (last : ∀ name ∈ p.getLast?, Path.isName name = true) : ∀ name ∈ p, Path.isName name = true := by
  intro name inside
  rcases List.eq_nil_or_concat p with rfl | ⟨init, l, rfl⟩
  · cases inside
  · rw [List.concat_eq_append] at above last inside
    rw [List.dropLast_concat] at above
    rcases List.mem_append.1 inside with inside | inside
    · exact above name inside
    · exact last name (by rw [List.getLast?_concat, List.mem_singleton.1 inside]; rfl)

theorem putFile_refusing (store : ObjectStore) (refuses : String → Bool) (key : String) (file : Path)
    (contentType : Option String) (w : Workspace) : (store.refusing refuses).putFile key file contentType w =
      if refuses key then .error (.other ("simulated failure: " ++ key)) (w.noting (.attempt key))
      else store.putFile key file contentType (w.noting (.attempt key)) := by
  change (Job.record (.attempt key) >>= fun _ => _) w = _
  rw [Job.bind_ok (Job.record_run _ w)]
  cases refuses key <;> rfl

-- A wrapper that refuses some puts lets the others through.
theorem refusing_ends {d : Disk} {contents : ByteArray} {refuses : Bool} {put : Job Unit} {message : String}
    {w : Workspace} (same : w.disk = d) (ends : ∀ v : Workspace, v.disk = d → PutEnds d p contents (put v)) :
    PutEnds d p contents ((do
      Job.record (.attempt key)
      if refuses then throw (.other message)
      put : Job Unit) w) := by
  rw [Job.bind_ok (Job.record_run _ w)]
  cases refuses with
  | true => exact .failed (by rw [Workspace.noting_disk, same]; exact .refl d _)
  | false => exact ends _ (by rw [Workspace.noting_disk, same])

theorem putFile_ends {store : ObjectStore} (here : IsAt store root) (plain : root.bare.IsPlain)
    (placed : place root key = .ok p) (filled : p ≠ []) (last : ∀ name ∈ p.getLast?, Path.isName name = true)
    {file : Path} {contents : ByteArray} {w : Workspace} (source : w.disk.find? file = some (.file contents))
    (contentType : Option String) : PutEnds w.disk p contents (store.putFile key file contentType w) := by
  have direct (v : Workspace) (same : v.disk = w.disk) :
      PutEnds w.disk p contents ((FolderStore.store root).putFile key file contentType v) := by
    change PutEnds _ _ _ ((prepare root key >>= fun p => Job.copy file p) v)
    rw [← same] at source ⊢
    rcases prepare_cases plain placed v with ⟨made, prepared, gains, parent, above⟩ | ⟨e, made, failed, gains⟩
    · have still : made.find? file = some (.file contents) := by
        rw [gains.kept (by rw [source]; simp), source]
      rw [Job.bind_ok prepared]
      rcases Disk.copy_file still (isPlain_of_place plain placed) parent with ⟨x, copied⟩ | ⟨copied, free⟩
      · rw [Job.copy, Job.change_error_iff.2 ⟨x, made, copied, rfl, rfl⟩]
        exact .failed gains
      · rw [Job.copy, Job.change_ok_iff.2 ⟨_, copied, rfl⟩]
        exact .stored ⟨made, gains, Disk.takes_of_parent (isName_of_parent above last) filled parent free, rfl⟩
    · rw [Job.bind_error failed]
      exact .failed gains
  rcases here with rfl | ⟨refuses, rfl⟩
  · exact direct w rfl
  · exact refusing_ends rfl direct

theorem putText_ends {store : ObjectStore} (here : IsAt store root) (plain : root.bare.IsPlain)
    (placed : place root key = .ok p) (text : String) (contentType : Option String) (w : Workspace) :
    PutEnds w.disk p (Text.encode text) (store.putText key text contentType w) := by
  have direct (v : Workspace) (same : v.disk = w.disk) :
      PutEnds w.disk p (Text.encode text) ((FolderStore.store root).putText key text contentType v) := by
    change PutEnds _ _ _ ((prepare root key >>= fun p => Job.writeText p text) v)
    rw [← same]
    rcases prepare_cases plain placed v with ⟨made, prepared, gains, _⟩ | ⟨e, made, failed, gains⟩
    · rw [Job.bind_ok prepared, Job.writeText, Job.writeFile]
      cases written : made.writeFile p (Text.encode text) with
      | ok d =>
        have change : Disk.attempt (fun d => d.writeFile p (Text.encode text)) made = .ok () d := by
          simp only [Disk.attempt, written]
        rw [Job.change_ok_iff.2 ⟨d, change, rfl⟩]
        obtain ⟨taken, put⟩ := Disk.writeFile_ok written
        exact .stored ⟨made, gains, taken, put⟩
      | error x =>
        have change : Disk.attempt (fun d => d.writeFile p (Text.encode text)) made = .error x made := by
          simp only [Disk.attempt, written]
        rw [Job.change_error_iff.2 ⟨x, made, change, rfl, rfl⟩]
        exact .failed gains
    · rw [Job.bind_error failed]
      exact .failed gains
  rcases here with rfl | ⟨refuses, rfl⟩
  · exact direct w rfl
  · exact refusing_ends rfl direct

theorem existing_ok (plain : root.bare.IsPlain) (placed : place root key = .ok p) {w : Workspace}
    (there : w.disk.find? p ≠ none) : existing root key w = .ok p w := by
  unfold existing
  rw [Job.bind_ok (Job.ofExcept_ok_iff.2 ⟨placed, rfl⟩), Job.bind_ok (Job.has_run p w),
    Disk.has_of_isPlain (isPlain_of_place plain placed), Option.isSome_iff_ne_none.2 there]
  rfl

theorem getText_ok {store : ObjectStore} (here : IsAt store root) (plain : root.bare.IsPlain)
    (placed : place root key = .ok p) {w : Workspace} {contents : ByteArray}
    (object : w.disk.find? p = some (.file contents)) :
    store.getText key w = .ok (Text.decode contents) w := by
  have read : w.disk.readFile p = .ok contents := by
    rw [Disk.readFile, Disk.at?_of_isPlain (isPlain_of_place plain placed), object]
  have found : (FolderStore.store root).getText key w = .ok (Text.decode contents) w := by
    change (existing root key >>= Job.readText) w = _
    rw [Job.bind_ok (existing_ok plain placed (by rw [object]; simp))]
    exact Job.readText_ok_iff.2 ⟨contents, read, rfl, rfl⟩
  rcases here with rfl | ⟨refuses, rfl⟩ <;> exact found

-- An object is fetched to a place where nothing is, if the way there is free.
theorem getFile_ok {store : ObjectStore} (here : IsAt store root) (plain : root.bare.IsPlain)
    (placed : place root key = .ok p) {w : Workspace} {contents : ByteArray}
    (object : w.disk.find? p = some (.file contents)) {target : Path} (filled : target ≠ [])
    (named : ∀ name ∈ target, Path.isName name = true) (near : target.isFarTooLong = false)
    (free : w.disk.find? target = none) (clear : ∀ q, q <+: target.dropLast → w.disk.file? q = none) :
    ∃ d, store.getFile key target w = .ok () { w with disk := d } ∧
      ∀ q, d.find? q = if q = target then some (.file contents)
        else if q <+: target.dropLast then some .folder else w.disk.find? q := by
  have proper := Path.IsPlain.of_isName named
  have above : Path.IsPlain target.dropLast := proper.above (List.dropLast_prefix target)
  have parent : target.parent = target.dropLast := by rw [Path.parent, proper.bare]
  have short := Path.isFarTooLong_above (List.dropLast_prefix target) near
  obtain ⟨made, ensured, reached⟩ := Disk.ensureFolder_of_clear (d := w.disk) short
    (by rw [above.bare]; exact fun name inside => named name ((List.dropLast_prefix target).subset inside))
    (by rw [above.bare]; exact clear)
  rw [above.bare] at reached
  have folder : made.find? target.dropLast = some .folder := by rw [reached, if_pos List.prefix_rfl]
  have still : made.find? p = some (.file contents) := by
    rw [reached, if_neg, object]
    intro before
    have none := clear p before
    rw [Disk.file?_eq_some_iff.2 object] at none
    cases none
  have outside : ¬target <+: target.dropLast := by
    intro before
    have bound := before.length_le
    have positive := List.length_pos_iff.2 filled
    rw [List.length_dropLast] at bound
    omega
  have open' : made.find? target = none := by rw [reached, if_neg outside, free]
  have taken : made.takes target = true :=
    Disk.takes_of_parent named filled folder (by rw [Disk.isFolder, open'])
  have copied := Disk.copy_file_of_free still named folder open' near
  refine ⟨made.put target (.file contents), ?_, fun q => ?_⟩
  · have got : (FolderStore.store root).getFile key target w =
        .ok () { w with disk := made.put target (.file contents) } := by
      change (existing root key >>= fun source =>
        Job.ensureFolder target.parent >>= fun _ => Job.copy source target) w = _
      rw [Job.bind_ok (existing_ok plain placed (by rw [object]; simp)), parent, Job.ensureFolder,
        Job.bind_ok (Job.change_ok_iff.2 ⟨made, ensured, rfl⟩), Job.copy]
      exact Job.change_ok_iff.2 ⟨_, copied, rfl⟩
    rcases here with rfl | ⟨refuses, rfl⟩ <;> exact got
  · rw [Disk.find?_put taken, reached]

theorem getFile_far {store : ObjectStore} (here : IsAt store root) (plain : root.bare.IsPlain)
    (placed : place root key = .ok p) {w : Workspace} {contents : ByteArray}
    (object : w.disk.find? p = some (.file contents)) {target : Path} (filled : target ≠ [])
    (proper : target.IsPlain) (far : target.isFarTooLong = true) (free : w.disk.find? target = none) :
    ∃ e v, store.getFile key target w = .error e v := by
  have parent : target.parent = target.dropLast := by rw [Path.parent, proper.bare]
  have above : Path.IsPlain target.dropLast := proper.above (List.dropLast_prefix target)
  have got : ∃ e v, (FolderStore.store root).getFile key target w = .error e v := by
    change ∃ e v, (existing root key >>= fun source =>
      Job.ensureFolder target.parent >>= fun _ => Job.copy source target) w = .error e v
    rw [Job.bind_ok (existing_ok plain placed (by rw [object]; simp)), parent, Job.ensureFolder]
    cases made : Disk.ensureFolder target.dropLast w.disk with
    | error x d => exact ⟨_, _, Job.bind_error (Job.change_error_iff.2 ⟨x, d, made, rfl, rfl⟩)⟩
    | ok _ d =>
      have gains := Disk.gains_of_ensureFolder (.inl made)
      rw [above.bare] at gains
      have open' : d.find? target = none := by
        rw [gains.outside, free]
        intro before
        have bound := before.length_le
        have positive := List.length_pos_iff.2 filled
        rw [List.length_dropLast] at bound
        omega
      obtain ⟨x, checked⟩ : ∃ x, d.checkCopy p target = .error x := Disk.checkCopy_of_far proper open' far
      have failed : Disk.copy p target d = .error x d := by rw [Disk.copy_eq, checked]
      rw [Job.bind_ok (Job.change_ok_iff.2 ⟨d, made, rfl⟩), Job.copy]
      exact ⟨_, _, Job.change_error_iff.2 ⟨x, d, failed, rfl, rfl⟩⟩
  rcases here with rfl | ⟨refuses, rfl⟩ <;> exact got

end FolderStore

end Wheelhouse
