import Mathlib.Logic.Function.Basic
import Wheelhouse.Proofs.Store.Confinement

/-!
A store in a folder as a map from keys to what was put last. Keys with the same segments have one place. As
long as no key is the beginning of another, folders are only made above the places of objects, and neither
is ever in the way of the other.
-/

set_option autoImplicit false

namespace Wheelhouse

namespace Disk

variable {d : Disk} {p source : Path} {contents : ByteArray} {w v : Workspace}

/-- A place for a file: it is not too long, no folder is there, and no file is on the way. -/
structure IsWritable (d : Disk) (p : Path) : Prop where
  named : ∀ name ∈ p, Path.isName name = true
  near : p.isFarTooLong = false
  free : d.find? p ≠ some .folder
  clear : ∀ q, q <+: p.dropLast → d.file? q = none

theorem not_prefix_dropLast {p : Path} (filled : p ≠ []) : ¬p <+: p.dropLast := by
  intro before
  have bound := before.length_le
  have positive := List.length_pos_iff.2 filled
  rw [List.length_dropLast] at bound
  omega

namespace IsWritable

theorem filled (h : d.IsWritable p) : p ≠ [] := by
  rintro rfl
  exact h.free find?_nil

theorem namesFile (h : d.IsWritable p) : p.namesFile = true := by
  have plain := Path.IsPlain.of_isName h.named
  have short : Path.isTooLong p.baseName = false := by
    obtain ⟨init, last, rfl⟩ := (List.eq_nil_or_concat p).resolve_left h.filled
    rw [Path.baseName, plain.bare]
    simpa using Path.isTooLong_of_isName h.named last
  simp [Path.namesFile, plain.unmarked, Path.hasNull_of_isName h.named, h.near, short]

-- The folders on the way can be made, and then the file fits.
theorem ensured (h : w.disk.IsWritable p) : ∃ made, Job.ensureFolder p.parent w = .ok () { w with disk := made } ∧
    w.disk.Gains made p.dropLast ∧ made.find? p.dropLast = some .folder ∧ made.find? p = w.disk.find? p := by
  have plain := Path.IsPlain.of_isName h.named
  have above : Path.IsPlain p.dropLast := plain.above (List.dropLast_prefix p)
  obtain ⟨made, folders, reached⟩ := ensureFolder_of_clear (d := w.disk) (p := p.dropLast)
    (Path.isFarTooLong_above (List.dropLast_prefix p) h.near)
    (by rw [above.bare]; exact fun name inside => h.named name ((List.dropLast_prefix p).subset inside))
    (by rw [above.bare]; exact h.clear)
  have gains := gains_of_ensureFolder (.inl folders)
  rw [above.bare] at reached gains
  refine ⟨made, ?_, gains, by rw [reached, if_pos List.prefix_rfl], gains.outside (not_prefix_dropLast h.filled)⟩
  rw [Path.parent, plain.bare]
  exact Job.change_ok_iff.2 ⟨made, folders, rfl⟩

theorem copied (h : w.disk.IsWritable p) (file : w.disk.find? source = some (.file contents)) (apart : source ≠ p) :
    ∃ v, (do Job.ensureFolder p.parent; Job.copy source p : Job Unit) w = .ok () v := by
  obtain ⟨made, ensured, gains, parent, same⟩ := h.ensured
  have still : made.find? source = some (.file contents) := by rw [gains.kept (by simp [file]), file]
  have copied := copy_file_of_not_folder still h.named parent (by rw [same]; exact h.free) h.near apart
  exact ⟨_, (Job.bind_ok ensured).trans (Job.change_ok_iff.2 ⟨_, copied, rfl⟩)⟩

theorem written (h : w.disk.IsWritable p) (text : String) :
    ∃ v, (do Job.ensureFolder p.parent; Job.writeText p text : Job Unit) w = .ok () v := by
  obtain ⟨made, ensured, gains, parent, same⟩ := h.ensured
  have free : made.isFolder p = false := by
    rw [← Bool.not_eq_true, isFolder_iff, same]
    exact h.free
  have fits := takes_of_parent h.named h.filled parent free
  exact ⟨_, (Job.bind_ok ensured).trans (Job.writeText_ok_iff.2 ⟨_, writeFile_ok_iff.2 ⟨fits, h.namesFile, rfl⟩, rfl⟩)⟩

end IsWritable

theorem near_of_absence (absent : d.absence p = .notFound) : p.isFarTooLong = false := by
  by_contra far
  rw [absence, if_pos (by simpa using far)] at absent
  cases absent

end Disk

namespace FolderStore

inductive Put where
  | text (key body : String) (contentType : Option String)
  | file (key : String) (source : Path) (contentType : Option String)
  deriving DecidableEq

namespace Put

def key : Put → String
  | .text key _ _ => key
  | .file key _ _ => key

def run (store : ObjectStore) : Put → Job Unit
  | .text key body contentType => store.putText key body contentType
  | .file key source contentType => store.putFile key source contentType

/-- What is put, when files are read from a disk. -/
def contents (d : Disk) : Put → ByteArray
  | .text _ body _ => Text.encode body
  | .file _ source _ => (d.file? source).getD .empty

def body (d : Disk) : Put → String
  | .text _ body _ => body
  | .file _ source _ => Text.decode ((d.file? source).getD .empty)

theorem decode_contents (d : Disk) (put : Put) : Text.decode (put.contents d) = put.body d := by
  cases put with
  | text key body contentType => exact Text.decode_encode body
  | file key source contentType => rfl

def IsReadable (d : Disk) : Put → Prop
  | .text _ _ _ => True
  | .file _ source _ => d.file? source ≠ none

-- What is done with the place of the object once its folder is there.
def place (p : Path) : Put → Job Unit
  | .text _ body _ => Job.writeText p body
  | .file _ source _ => Job.copy source p

theorem run_eq {store : ObjectStore} {put : Put} {p : Path} (uses : Uses store put.key p) :
    put.run store = (do Job.ensureFolder p.parent; put.place p) := by
  cases put with
  | text key body contentType => exact uses.putText body contentType
  | file key source contentType => exact uses.putFile source contentType

-- The bytes that are put, and that a file of them is at another place.
def Gives (d : Disk) (p : Path) (contents : ByteArray) : Put → Prop
  | .text _ body _ => contents = Text.encode body
  | .file _ source _ => d.find? source = some (.file contents) ∧ source ≠ p

-- In a folder that is there a file is put as a whole or not at all.
theorem place_cases {put : Put} {p : Path} {contents : ByteArray} {w : Workspace} (plain : p.IsPlain)
    (parent : w.disk.find? p.dropLast = some .folder) (gives : put.Gives w.disk p contents) :
    (∃ e, put.place p w = .error e w) ∨
      put.place p w = .ok () { w with disk := w.disk.put p (.file contents) } ∧ w.disk.takes p = true ∧
        (p.isFarTooLong = false ∨ w.disk.file? p ≠ none) := by
  cases put with
  | text key body contentType =>
    obtain rfl := gives
    cases written : w.disk.writeFile p (Text.encode body) with
    | ok d =>
      obtain ⟨fits, named, rfl⟩ := Disk.writeFile_ok_iff.1 written
      have near : p.isFarTooLong = false := by
        simp only [Path.namesFile, Bool.and_eq_true, Bool.not_eq_true'] at named
        exact named.1.2
      exact .inr ⟨Job.writeText_ok_iff.2 ⟨_, written, rfl⟩, fits, .inl near⟩
    | error x =>
      exact .inl ⟨.disk x, Job.change_error_iff.2 ⟨x, w.disk, Disk.attempt_error written, rfl, rfl⟩⟩
  | file key source contentType =>
    obtain ⟨file, _⟩ := gives
    rcases Disk.copy_file file plain parent with ⟨x, failed⟩ | ⟨copied, free⟩
    · exact .inl ⟨.disk x, Job.change_error_iff.2 ⟨x, w.disk, failed, rfl, rfl⟩⟩
    · have checked := Disk.checkCopy_of_copy copied
      have filled : p ≠ [] := by
        rintro rfl
        rw [Disk.isFolder, Disk.find?_nil] at free
        cases free
      have fits := Disk.takes_of_parent (Disk.isName_of_checkCopy plain parent checked) filled parent free
      refine .inr ⟨Job.change_ok_iff.2 ⟨_, copied, rfl⟩, fits, ?_⟩
      cases there : w.disk.find? p with
      | none => exact .inl (Disk.near_of_absence (Disk.free_of_checkCopy plain there checked).1)
      | some e =>
        cases e with
        | folder => exact absurd there (Disk.not_folder_of_takes fits)
        | file old => exact .inr (by simp [Disk.file?_eq_some_iff.2 there])

-- Where a file can be put, it is put.
theorem exists_place {put : Put} {p : Path} {contents : ByteArray} {w : Workspace} (writable : w.disk.IsWritable p)
    (gives : put.Gives w.disk p contents) : ∃ v, (do Job.ensureFolder p.parent; put.place p : Job Unit) w = .ok () v := by
  cases put with
  | text key body contentType => exact writable.written body
  | file key source contentType => exact writable.copied gives.1 gives.2

end Put

/-- The workspace after some puts, whether they succeed or not. -/
def attempts (store : ObjectStore) : List Put → Workspace → Workspace
  | [], w => w
  | put :: rest, w => attempts store rest (final (put.run store) w)

def objectPlace (root : Path) (key : String) : Path := root.bare ++ ObjectKey.segments [key]

/-- Whether the system takes the object of a key: its names and its path are not too long, and no file is
where the folder of the store belongs. -/
def admits (root : Path) (d : Disk) (key : String) : Bool :=
  (objectPlace root key).all Path.isName && !(objectPlace root key).isFarTooLong &&
    (Disk.ancestry root.bare).all fun q => (d.file? q).isNone

/-- For the segments of each key the last put that the system takes. -/
def latest (root : Path) (d : Disk) (puts : List Put) : List String → Option Put :=
  puts.foldl (fun found put =>
    if admits root d put.key then Function.update found (ObjectKey.segments [put.key]) (some put) else found)
    fun _ => none

/-- Keys that lead to different places below the folder, none of which lies in another. -/
structure IsSeparate (keys : List String) : Prop where
  filled : ∀ k ∈ keys, ObjectKey.segments [k] ≠ []
  inside : ∀ k ∈ keys, ".." ∉ ObjectKey.segments [k]
  apart : ∀ k ∈ keys, ∀ l ∈ keys, ObjectKey.segments [k] <+: ObjectKey.segments [l] →
    ObjectKey.segments [k] = ObjectKey.segments [l]

section

variable {root : Path} {d₀ d : Disk} {key : String} {keys : List String} {puts : List Put} {put : Put}
  {names : List String} {w v : Workspace}

theorem admits_iff : admits root d key = true ↔ (∀ name ∈ objectPlace root key, Path.isName name = true) ∧
    (objectPlace root key).isFarTooLong = false ∧ ∀ q, q <+: root.bare → d.file? q = none := by
  have way : (∀ q ∈ Disk.ancestry root.bare, d.file? q = none) ↔ ∀ q, q <+: root.bare → d.file? q = none := by
    constructor
    · intro clear q before
      by_cases here : q = []
      · exact here ▸ Disk.file?_of_isFolder Disk.find?_nil
      · exact clear q (Disk.mem_ancestry.2 ⟨before, here⟩)
    · exact fun clear q inside => clear q (Disk.mem_ancestry.1 inside).1
  rw [← way]
  simp [admits, and_assoc]

theorem admits_congr {key' : String} (same : ObjectKey.segments [key] = ObjectKey.segments [key']) :
    admits root d key = admits root d key' := by
  rw [admits, objectPlace, same, ← objectPlace, ← admits]

theorem latest_concat : latest root d (puts ++ [put]) names =
    if admits root d put.key = true ∧ names = ObjectKey.segments [put.key] then some put else latest root d puts names := by
  unfold latest
  rw [List.foldl_append, List.foldl_cons, List.foldl_nil]
  by_cases admitted : admits root d put.key = true <;> simp [admitted, Function.update_apply]

theorem latest_isSome_iff : (latest root d puts names).isSome = true ↔
    ∃ put ∈ puts, ObjectKey.segments [put.key] = names ∧ admits root d put.key = true := by
  induction puts using List.reverseRecOn with
  | nil => simp [latest]
  | append_singleton puts put ih =>
    rw [latest_concat]
    split_ifs with here
    · simp [here.1, here.2]
    · rw [ih]
      constructor
      · rintro ⟨earlier, inside, found⟩
        exact ⟨earlier, List.mem_append_left _ inside, found⟩
      · rintro ⟨any, inside, found⟩
        rcases List.mem_append.1 inside with earlier | last
        · exact ⟨any, earlier, found⟩
        · obtain rfl := List.mem_singleton.1 last
          exact absurd ⟨found.2, found.1.symm⟩ here

theorem isPlain_segments (inside : ".." ∉ ObjectKey.segments [key]) : Path.IsPlain (ObjectKey.segments [key]) := by
  intro name member
  obtain ⟨_, filled, notHere⟩ := ObjectKey.mem_segments.1 member
  refine ⟨filled, notHere, ?_, ObjectKey.slash_not_mem_of_mem_segments member⟩
  rintro rfl
  exact inside member

theorem uses_objectPlace (plain : root.bare.IsPlain) (inside : ".." ∉ ObjectKey.segments [key]) :
    Uses (store root) key (objectPlace root key) := by
  have proper := isPlain_segments inside
  refine uses_of_place (plain.append proper) ((place_ok_iff plain).2 ⟨?_, List.prefix_append _ _⟩)
  rw [objectPlace, Path.descend_of_isPlain proper]

theorem dropLast_objectPlace (filled : ObjectKey.segments [key] ≠ []) :
    (objectPlace root key).dropLast = root.bare ++ (ObjectKey.segments [key]).dropLast :=
  List.dropLast_append_of_ne_nil filled

theorem IsSeparate.subset {fewer : List String} (h : IsSeparate keys) (within : fewer ⊆ keys) : IsSeparate fewer where
  filled k inside := h.filled k (within inside)
  inside k inside := h.inside k (within inside)
  apart k inside l inside' := h.apart k (within inside) l (within inside')

-- A folder on the way to one object is not at the place of another.
theorem IsSeparate.not_above (h : IsSeparate keys) {k l : String} (inside : k ∈ keys) (inside' : l ∈ keys) :
    ¬ObjectKey.segments [k] <+: (ObjectKey.segments [l]).dropLast := by
  intro above
  have same := h.apart k inside l inside' (above.trans (List.dropLast_prefix _))
  exact Disk.not_prefix_dropLast (h.filled l inside') (same ▸ above)

-- What a disk holds after some puts: files at the places of objects as they were put last, folders only above
-- these places, and outside the folder of the store the files that were there before.
structure Reflects (root : Path) (d₀ d : Disk) (puts : List Put) : Prop where
  outside : ∀ q, ¬root.bare <+: q → d.file? q = d₀.file? q
  folders : ∀ names, d.find? (root.bare ++ names) = some .folder →
    ∃ put ∈ puts, names <+: (ObjectKey.segments [put.key]).dropLast
  files : ∀ names, d.file? (root.bare ++ names) = (latest root d₀ puts names).map (Put.contents d₀)

theorem reflects_nil (absent : d.find? root.bare = none) : Reflects root d d [] where
  outside _ _ := rfl
  folders names folder := by
    rw [Disk.find?_eq_none_below absent (List.prefix_append _ _)] at folder
    cases folder
  files names := by
    rw [Disk.file?, Disk.find?_eq_none_below absent (List.prefix_append _ _)]
    rfl

namespace Reflects

theorem find?_objectPlace (h : Reflects root d₀ d puts) (separate : IsSeparate (key :: puts.map Put.key)) :
    d.find? (objectPlace root key) =
      (latest root d₀ puts (ObjectKey.segments [key])).map fun put => .file (put.contents d₀) := by
  have file : d.file? (objectPlace root key) = _ := h.files (ObjectKey.segments [key])
  cases found : d.find? (objectPlace root key) with
  | none =>
    rw [Disk.file?, found] at file
    rw [Option.map_eq_none_iff.1 file.symm]
    rfl
  | some e =>
    cases e with
    | folder =>
      obtain ⟨put, inside, above⟩ := h.folders _ found
      exact absurd above (separate.not_above List.mem_cons_self (List.mem_cons_of_mem _ (List.mem_map_of_mem inside)))
    | file contents =>
      rw [Disk.file?_eq_some_iff.2 found] at file
      obtain ⟨put, last, same⟩ := Option.map_eq_some_iff.1 file.symm
      rw [last, ← same]
      rfl

theorem isWritable (h : Reflects root d₀ d puts) (separate : IsSeparate (key :: puts.map Put.key))
    (admitted : admits root d₀ key = true) : d.IsWritable (objectPlace root key) := by
  obtain ⟨named, near, clear⟩ := admits_iff.1 admitted
  refine ⟨named, near, ?_, fun q before => ?_⟩
  · rw [h.find?_objectPlace separate]
    cases latest root d₀ puts (ObjectKey.segments [key]) <;> simp
  · rw [dropLast_objectPlace (separate.filled key List.mem_cons_self)] at before
    by_cases below : root.bare <+: q
    · obtain ⟨names, rfl⟩ := below
      have above := (List.prefix_append_right_inj root.bare).1 before
      rw [h.files, Option.map_eq_none_iff, ← Option.not_isSome_iff_eq_none, latest_isSome_iff]
      rintro ⟨put, inside, rfl, _⟩
      exact separate.not_above (List.mem_cons_of_mem _ (List.mem_map_of_mem inside)) List.mem_cons_self above
    · rw [h.outside q below]
      exact clear q ((List.prefix_or_prefix_of_prefix before (List.prefix_append _ _)).resolve_right below)

-- The files that are put were there before the store, so they are as they were.
theorem gives (h : Reflects root d₀ d puts) (absent : d₀.find? root.bare = none) (readable : put.IsReadable d₀) :
    put.Gives d (objectPlace root put.key) (put.contents d₀) := by
  cases put with
  | text key body contentType => rfl
  | file key source contentType =>
    obtain ⟨contents, file⟩ := Option.ne_none_iff_exists'.1 readable
    have outside : ¬root.bare <+: source := by
      intro below
      exact Disk.found_of_file? readable (Disk.find?_eq_none_below absent below)
    refine ⟨Disk.file?_eq_some_iff.1 ?_, ?_⟩
    · rw [h.outside source outside, Put.contents, file, Option.getD_some]
    · exact fun same => outside (same ▸ List.prefix_append _ _)

-- A put that fails has made folders at most; one that returns has found nothing in its way.
theorem run_cases (h : Reflects root d₀ w.disk puts) (plain : root.bare.IsPlain) (absent : d₀.find? root.bare = none)
    (inside : ".." ∉ ObjectKey.segments [put.key]) (readable : put.IsReadable d₀) :
    (∃ e v, put.run (store root) w = .error e v ∧ w.disk.Gains v.disk (objectPlace root put.key).dropLast) ∨
    ∃ v, put.run (store root) w = .ok () v ∧ w.disk.Stores v.disk (objectPlace root put.key) (put.contents d₀) ∧
      (∀ q, q <+: (objectPlace root put.key).dropLast → w.disk.file? q = none) ∧
      ((objectPlace root put.key).isFarTooLong = false ∨ w.disk.file? (objectPlace root put.key) ≠ none) := by
  have proper : (objectPlace root put.key).IsPlain := plain.append (isPlain_segments inside)
  have gives := h.gives absent readable
  rw [Put.run_eq (uses_objectPlace plain inside)]
  generalize objectPlace root put.key = p at *
  rcases ensureParent_cases proper w with ⟨made, ensured, gains, there, _⟩ | ⟨e, made, failed, gains⟩
  · have gives' : put.Gives made p (put.contents d₀) := by
      cases put with
      | text key body contentType => exact gives
      | file key source contentType => exact ⟨by rw [gains.kept (by simp [gives.1]), gives.1], gives.2⟩
    rcases Put.place_cases (w := { w with disk := made }) proper (there _ List.prefix_rfl) gives' with
      ⟨e, failed⟩ | ⟨done, fits, near⟩
    · exact .inl ⟨e, _, (Job.bind_ok ensured).trans failed, gains⟩
    · refine .inr ⟨_, (Job.bind_ok ensured).trans done, ⟨made, gains, fits, rfl⟩, fun q before => ?_, ?_⟩
      · rw [← gains.file? q, Disk.file?_of_isFolder (there q before)]
      · rwa [← gains.file? p]
  · exact .inl ⟨e, _, Job.bind_error failed, gains⟩

-- A put returns just if the system takes the object.
theorem returns_iff (h : Reflects root d₀ w.disk puts) (plain : root.bare.IsPlain) (absent : d₀.find? root.bare = none)
    (separate : IsSeparate (put.key :: puts.map Put.key)) (readable : put.IsReadable d₀) :
    (∃ v, put.run (store root) w = .ok () v) ↔ admits root d₀ put.key = true := by
  have inside := separate.inside put.key List.mem_cons_self
  constructor
  · rintro ⟨v, ran⟩
    rcases h.run_cases plain absent inside readable with ⟨e, v', failed, _⟩ | ⟨v', ran', stores, clear, near⟩
    · rw [failed] at ran
      cases ran
    · refine admits_iff.2 ⟨stores.isName, near.elim id fun found => ?_, fun q before => ?_⟩
      · -- An object that is there already has been taken before.
        obtain ⟨earlier, last⟩ := Option.ne_none_iff_exists'.1 (h.files _ ▸ found)
        obtain ⟨put', found', _⟩ := Option.map_eq_some_iff.1 last
        obtain ⟨_, _, same, admitted⟩ := latest_isSome_iff.1 (Option.isSome_iff_exists.2 ⟨put', found'⟩)
        exact (admits_iff.1 (admits_congr same ▸ admitted)).2.1
      · by_cases here : root.bare <+: q
        · obtain rfl := before.eq_of_length_le here.length_le
          rw [Disk.file?, absent]
        · rw [← h.outside q here]
          refine clear q (before.trans ?_)
          rw [dropLast_objectPlace (separate.filled put.key List.mem_cons_self)]
          exact List.prefix_append _ _
  · intro admitted
    rw [Put.run_eq (uses_objectPlace plain inside)]
    exact Put.exists_place (h.isWritable separate admitted) (h.gives absent readable)

-- One put more.
theorem attempt (h : Reflects root d₀ w.disk puts) (plain : root.bare.IsPlain) (absent : d₀.find? root.bare = none)
    (separate : IsSeparate (put.key :: puts.map Put.key)) (readable : put.IsReadable d₀) :
    Reflects root d₀ (final (put.run (store root)) w).disk (puts ++ [put]) := by
  have returns := h.returns_iff plain absent separate readable
  have way : (objectPlace root put.key).dropLast = root.bare ++ (ObjectKey.segments [put.key]).dropLast :=
    dropLast_objectPlace (separate.filled put.key List.mem_cons_self)
  have grown {names : List String} {d : Disk} (gains : w.disk.Gains d (objectPlace root put.key).dropLast)
      (folder : d.find? (root.bare ++ names) = some .folder) :
      ∃ put' ∈ puts ++ [put], names <+: (ObjectKey.segments [put'.key]).dropLast := by
    rcases gains (root.bare ++ names) with same | ⟨_, _, before⟩
    · obtain ⟨put', inside, above⟩ := h.folders names (same ▸ folder)
      exact ⟨put', List.mem_append_left _ inside, above⟩
    · rw [way, List.prefix_append_right_inj] at before
      exact ⟨put, by simp, before⟩
  rcases h.run_cases plain absent (separate.inside put.key List.mem_cons_self) readable with
    ⟨e, v, failed, gains⟩ | ⟨v, ran, stores, _, _⟩
  · have refused : admits root d₀ put.key = false := by
      rw [← Bool.not_eq_true, ← returns, failed]
      rintro ⟨_, ran⟩
      cases ran
    rw [final_error failed]
    refine ⟨fun q outside => (gains.file? q).trans (h.outside q outside), fun names => grown gains, fun names => ?_⟩
    rw [gains.file?, h.files, latest_concat, if_neg (by simp [refused])]
  · have admitted := returns.1 ⟨v, ran⟩
    rw [final_ok ran]
    refine ⟨fun q outside => ?_, fun names folder => ?_, fun names => ?_⟩
    · rw [stores.file?_of_ne, h.outside q outside]
      rintro rfl
      exact outside (List.prefix_append _ _)
    · obtain ⟨made, gains, fits, same⟩ := stores
      rw [same, Disk.find?_put fits] at folder
      split_ifs at folder
      · cases folder
      · exact grown gains folder
    · rw [latest_concat]
      by_cases here : names = ObjectKey.segments [put.key]
      · rw [if_pos ⟨admitted, here⟩, here]
        exact Disk.file?_eq_some_iff.2 stores.find?_self
      · rw [if_neg fun both => here both.2, ← h.files]
        exact stores.file?_of_ne fun same => here (List.append_cancel_left same)

end Reflects

-- Any number of puts more.
theorem reflects_attempts {more : List Put} (plain : root.bare.IsPlain) (absent : d₀.find? root.bare = none)
    (separate : IsSeparate ((puts ++ more).map Put.key)) (readable : ∀ put ∈ more, put.IsReadable d₀)
    (h : Reflects root d₀ w.disk puts) : Reflects root d₀ (attempts (store root) more w).disk (puts ++ more) := by
  induction more generalizing puts w with
  | nil => rwa [List.append_nil]
  | cons put more ih =>
    rw [List.append_cons] at separate ⊢
    have here : IsSeparate (put.key :: puts.map Put.key) := separate.subset (by simp)
    exact ih separate (fun put' inside => readable put' (List.mem_cons_of_mem _ inside))
      (h.attempt plain absent here (readable put List.mem_cons_self))

/-- What a store answers for a key with its object at a place: what was put last, or that nothing was. -/
def Answers (store : ObjectStore) (key : String) (p : Path) (d₀ : Disk) (w : Workspace) : Option Put → Prop
  | some put =>
    store.contains key w = .ok true w ∧ store.getText key w = .ok (put.body d₀) w ∧
      (∀ target, w.disk.IsWritable target → target ≠ p → ∃ v, store.getFile key target w = .ok () v) ∧
      ∀ target v, target.IsPlain → store.getFile key target w = .ok () v →
        v.disk.find? target = some (.file (put.contents d₀))
  | none =>
    store.contains key w = .ok false w ∧ store.getText key w = .error (missing store key) w ∧
      ∀ target, store.getFile key target w = .error (missing store key) w

theorem Reflects.answers (h : Reflects root d₀ w.disk puts) (plain : root.bare.IsPlain)
    (separate : IsSeparate (key :: puts.map Put.key)) :
    Answers (store root) key (objectPlace root key) d₀ w (latest root d₀ puts (ObjectKey.segments [key])) := by
  have uses := uses_objectPlace plain (separate.inside key List.mem_cons_self)
  have found := h.find?_objectPlace separate
  cases last : latest root d₀ puts (ObjectKey.segments [key]) with
  | none =>
    rw [last, Option.map_none] at found
    refine ⟨by rw [uses.contains, found]; rfl, by rw [uses.getText, found], fun target => ?_⟩
    rw [uses.getFile, found]
    rfl
  | some put =>
    rw [last, Option.map_some] at found
    have keeps := uses.keeps (plain.append (isPlain_segments (separate.inside key List.mem_cons_self)))
    refine ⟨by rw [uses.contains, found]; rfl, by rw [uses.getText, found, ← Put.decode_contents], ?_, ?_⟩
    · intro target writable other
      rw [uses.getFile, found]
      exact writable.copied found (Ne.symm other)
    · exact fun target v proper got => keeps.getFile_fetches proper found got

theorem Answers.contains {store : ObjectStore} {p : Path} {last : Option Put} (h : Answers store key p d₀ w last) :
    store.contains key w = .ok last.isSome w := by
  cases last <;> exact h.1

/-- A store in a new folder is a map. Of any puts exactly those return whose object the system takes. Then
there is an object for a key just if one of these had the key in some spelling, and what the store answers is
what the last of them has put. -/
theorem store_is_map (plain : root.bare.IsPlain) (absent : w.disk.find? root.bare = none)
    (readable : ∀ put ∈ puts, put.IsReadable w.disk) (separate : IsSeparate (key :: puts.map Put.key)) :
    (∀ done put later, puts = done ++ put :: later →
      ((∃ v, put.run (store root) (attempts (store root) done w) = .ok () v) ↔ admits root w.disk put.key = true)) ∧
    ((store root).contains key (attempts (store root) puts w) = .ok true (attempts (store root) puts w) ↔
      ∃ put ∈ puts, ObjectKey.join [put.key] = ObjectKey.join [key] ∧ admits root w.disk put.key = true) ∧
    Answers (store root) key (objectPlace root key) w.disk (attempts (store root) puts w)
      (latest root w.disk puts (ObjectKey.segments [key])) := by
  have start : Reflects root w.disk w.disk [] := reflects_nil absent
  have all : IsSeparate (([] ++ puts).map Put.key) := separate.subset (List.subset_cons_self _ _)
  have answers := (reflects_attempts plain absent all readable start).answers plain separate
  refine ⟨?_, ?_, answers⟩
  · rintro done put later rfl
    have before : IsSeparate (([] ++ done).map Put.key) := all.subset (by simp)
    have reached := reflects_attempts plain absent before (fun p inside => readable p (by simp [inside])) start
    exact reached.returns_iff plain absent (all.subset (by simp)) (readable put (by simp))
  · simp only [answers.contains, ObjectKey.join_eq_join_iff, ← latest_isSome_iff]
    simp

end

section Sample

def sampleDisk : Disk := Disk.empty.put ["f"] (.file (Text.encode "3"))

def sampleWorkspace : Workspace := ⟨sampleDisk, [], [], [], [], 0⟩

-- One object in two spellings, and another one.
def samplePuts : List Put := [.text "a/b" "1" none, .text "c" "2" none, .file "./a//b" ["f"] none]

theorem store_is_map_sample : (store ["s"]).getText "a/b/" (attempts (store ["s"]) samplePuts sampleWorkspace) =
      .ok "3" (attempts (store ["s"]) samplePuts sampleWorkspace) ∧
    (store ["s"]).contains "d" (attempts (store ["s"]) samplePuts sampleWorkspace) =
      .ok false (attempts (store ["s"]) samplePuts sampleWorkspace) := by
  have plain : Path.IsPlain (Path.bare ["s"]) := by unfold Path.IsPlain; decide
  have readable : ∀ put ∈ samplePuts, put.IsReadable sampleWorkspace.disk := by
    have file : sampleWorkspace.disk.file? ["f"] ≠ none := by decide +kernel
    exact List.forall_mem_cons.2 ⟨trivial, List.forall_mem_cons.2 ⟨trivial, List.forall_mem_singleton.2 file⟩⟩
  have separate (key : String) (new : IsSeparate (key :: samplePuts.map Put.key)) :=
    (store_is_map (w := sampleWorkspace) plain rfl readable new).2.2
  have last : latest ["s"] sampleWorkspace.disk samplePuts (ObjectKey.segments ["a/b/"]) =
      some (.file "./a//b" ["f"] none) := by decide +kernel
  have none : latest ["s"] sampleWorkspace.disk samplePuts (ObjectKey.segments ["d"]) = none := by decide +kernel
  have found := separate "a/b/" ⟨by decide +kernel, by decide +kernel, by decide +kernel⟩
  have missing := separate "d" ⟨by decide +kernel, by decide +kernel, by decide +kernel⟩
  rw [last] at found
  rw [none] at missing
  exact ⟨found.2.1.trans (congrArg (EStateM.Result.ok · _) (Text.decode_encode "3")), missing.1⟩

def refusedPut : Put := .text "a" "1" none

-- There cannot be a folder below a file, and then a put leaves nothing.
theorem store_is_not_map : IsSeparate ["a"] ∧ sampleDisk.find? ["f", "s"] = none ∧
    ∃ e w, (store ["f", "s"]).putText "a" "1" none sampleWorkspace = .error e w ∧
      (store ["f", "s"]).contains "a" w = .ok false w := by
  have plain : Path.IsPlain (Path.bare ["f", "s"]) := by unfold Path.IsPlain; decide
  have separate : IsSeparate ["a"] := ⟨by decide +kernel, by decide +kernel, by decide +kernel⟩
  have start : Reflects ["f", "s"] sampleDisk sampleWorkspace.disk [] := reflects_nil rfl
  have refused : admits ["f", "s"] sampleDisk "a" = false := by decide +kernel
  have returns : (∃ v, refusedPut.run (store ["f", "s"]) sampleWorkspace = .ok () v) ↔
      admits ["f", "s"] sampleDisk "a" = true := start.returns_iff plain rfl separate trivial
  have left : Reflects ["f", "s"] sampleDisk (final (refusedPut.run (store ["f", "s"])) sampleWorkspace).disk
      [refusedPut] := start.attempt plain rfl separate trivial
  refine ⟨separate, rfl, ?_⟩
  change ∃ e w, refusedPut.run (store ["f", "s"]) sampleWorkspace = .error e w ∧ _
  cases ran : refusedPut.run (store ["f", "s"]) sampleWorkspace with
  | ok _ w => exact absurd (returns.1 ⟨w, ran⟩) (Bool.eq_false_iff.1 refused)
  | error e w =>
    rw [final_error ran] at left
    have again : IsSeparate ["a", "a"] := ⟨by decide +kernel, by decide +kernel, by decide +kernel⟩
    have answers := left.answers plain again
    have none : latest ["f", "s"] sampleDisk [refusedPut] (ObjectKey.segments ["a"]) = none := by decide +kernel
    exact ⟨e, w, rfl, answers.contains.trans (by rw [none]; rfl)⟩

end Sample

end FolderStore

end Wheelhouse
