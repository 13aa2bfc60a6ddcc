import Wheelhouse.Proofs.Disk.Locality
import Wheelhouse.Proofs.Store.Fetch
import Wheelhouse.Proofs.Store.Folder

/-!
The confinement of a store in a folder. A key is walked name by name from the folder of the store; what ends
outside is refused before anything is done, and for all other keys the place where the walk ends is the only
one that is read or written.
-/

set_option autoImplicit false

namespace Wheelhouse

theorem Text.head?_split_iff {sep : Char} {f : List Char} (unbroken : sep ∉ f) (cs : List Char) :
    (split (· == sep) cs).head? = some f ↔ cs = f ∨ f ++ [sep] <+: cs := by
  constructor
  · intro head
    obtain ⟨fs, fields⟩ := List.head?_eq_some_iff.1 head
    have joined := join_split sep cs
    rw [fields] at joined
    cases fs with
    | nil => exact .inl joined.symm
    | cons g gs => exact .inr ⟨_, joined⟩
  · have apart : ∀ d ∈ f, (d == sep) = false := fun d inside => by
      simpa using fun same : d = sep => unbroken (same ▸ inside)
    rintro (rfl | ⟨rest, rfl⟩)
    · rw [split_of_forall_not apart]
      rfl
    · rw [List.append_assoc, List.singleton_append, split_append_cons rest apart (by simp)]
      rfl

namespace Path

-- The first of some names stands before the first slash of their text.
theorem head?_eq_some_iff_joined {names : List String} (filled : names ≠ []) (unbroken : ∀ name ∈ names, '/' ∉ name.toList)
    (first : String) (whole : '/' ∉ first.toList) : names.head? = some first ↔
      Text.joined "/" names = first ∨ (first ++ "/").toList <+: (Text.joined "/" names).toList := by
  have parted : ∀ f ∈ names.map String.toList, '/' ∉ f := by
    rintro _ inside
    obtain ⟨n, member, rfl⟩ := List.mem_map.1 inside
    exact unbroken n member
  have fields := Text.split_join (by simpa using filled) parted
  have head := Text.head?_split_iff whole (Text.joined "/" names).toList
  have single : "/".toList = ['/'] := rfl
  rw [String.toList_inj] at head
  rw [String.toList_append, single, ← head, Text.joined, String.toList_ofList, single, fields, List.head?_map,
    Option.map_eq_some_iff]
  constructor
  · exact fun here => ⟨first, here, rfl⟩
  · rintro ⟨name, here, same⟩
    rw [here, String.toList_inj.1 same]

theorem mem_relative {root target : Path} {name : String} (inside : name ∈ relative root target) :
    name = ".." ∨ name ∈ target := by
  induction root generalizing target with
  | nil =>
    have same : relative [] target = target := by cases target <;> rfl
    exact .inr (same ▸ inside)
  | cons a root ih =>
    cases target with
    | nil =>
      obtain ⟨_, _, rfl⟩ := List.mem_map.1 ((List.mem_append.1 inside).resolve_right List.not_mem_nil)
      exact .inl rfl
    | cons b target =>
      by_cases same : a = b
      · rw [relative, if_pos same] at inside
        exact (ih inside).imp_right (List.mem_cons_of_mem _)
      · rw [relative, if_neg same] at inside
        refine (List.mem_append.1 inside).imp_left fun up => ?_
        obtain ⟨_, _, rfl⟩ := List.mem_map.1 up
        rfl

-- The text of the way from one place to another tells whether the other lies in the first.
theorem isInside_iff_relativeText {root target : Path} (plain : target.bare.IsPlain) :
    isInside root target = true ↔ relativeText root target ≠ ".." ∧
      ¬"../".toList <+: (relativeText root target).toList ∧ ¬"/".toList <+: (relativeText root target).toList := by
  have proper : ∀ name ∈ relative root.bare target.bare, name ≠ "" ∧ '/' ∉ name.toList := by
    intro name inside
    rcases mem_relative inside with rfl | below
    · decide
    · exact ⟨(plain name below).1, (plain name below).2.2.2⟩
  unfold isInside relativeText
  generalize relative root.bare target.bare = names at proper
  rw [bne_iff_ne]
  by_cases filled : names = []
  · rw [filled]
    decide
  · have unbroken := fun name inside => (proper name inside).2
    have up := head?_eq_some_iff_joined filled unbroken ".." (by decide)
    have rooted := head?_eq_some_iff_joined filled unbroken "" (by decide)
    have relative : names.head? ≠ some "" := fun empty => (proper "" (List.mem_of_head? empty)).1 rfl
    rw [ne_eq, up, not_or]
    rw [ne_eq, rooted, not_or] at relative
    exact ⟨fun below => ⟨below.1, below.2, relative.2⟩, fun below => ⟨below.1, below.2.1⟩⟩

end Path

namespace Disk

variable {d d' : Disk} {source target : Path} {contents : ByteArray}

theorem free_of_checkCopy (plain : target.IsPlain) (free : d.find? target = none)
    (checked : d.checkCopy source target = .ok ()) : d.absence target = .notFound ∧ target.hasNull = false := by
  by_contra blocked
  unfold checkCopy at checked
  cases found : d.inspect "lstat" source with
  | error x =>
    rw [found] at checked
    cases checked
  | ok e =>
    have refused : (d.absence target != .notFound || target.hasNull) = true := by
      by_cases absent : d.absence target = .notFound
      · simpa [absent] using blocked
      · simp [absent]
    rw [found, at?_of_isPlain plain, free] at checked
    simp [refused, bind, Except.bind, throw, throwThe, MonadExceptOf.throw] at checked

-- What may be copied to a place in a folder gives it only a name that the system takes.
theorem isName_of_checkCopy (plain : target.IsPlain) (parent : d.find? target.dropLast = some .folder)
    (checked : d.checkCopy source target = .ok ()) : ∀ name ∈ target, Path.isName name = true := by
  cases found : d.find? target with
  | some e => exact isName_of_find? (by rw [found]; simp)
  | none =>
    obtain ⟨absent, null⟩ := free_of_checkCopy plain found checked
    rcases List.eq_nil_or_concat target with rfl | ⟨init, last, rfl⟩
    · rw [find?_nil] at found
      cases found
    · rw [List.concat_eq_append] at *
      rw [List.dropLast_concat] at parent
      have way : d.obstacle [] (init ++ [last]) = d.obstacle init [last] := obstacle_append (p := []) parent [last]
      have short : Path.isTooLong last = false := by
        by_contra long
        rw [Bool.not_eq_false] at long
        unfold absence at absent
        rw [way, obstacle, if_pos long] at absent
        split_ifs at absent
      refine FolderStore.isName_of_parent ?_ ?_
      · rw [List.dropLast_concat]
        exact isName_of_find? (by rw [parent]; simp)
      · intro name inside
        rw [List.getLast?_concat, Option.mem_some_iff] at inside
        subst inside
        obtain ⟨filled, notHere, notUp, unbroken⟩ := plain last (by simp)
        refine Path.isName_iff.2 ⟨filled, notHere, notUp, unbroken, fun odd => ?_, short⟩
        rw [Path.hasNull, List.any_eq_false] at null
        exact null last (by simp) (by simpa using odd)

theorem checkCopy_of_copy (copied : copy source target d = .ok () d') : d.checkCopy source target = .ok () := by
  rw [copy_eq] at copied
  cases checked : d.checkCopy source target with
  | ok _ => rfl
  | error x =>
    rw [checked] at copied
    cases copied

-- A file that has been copied to a place in a folder is there.
theorem copy_stores (file : d.find? source = some (.file contents)) (plain : target.IsPlain)
    (parent : d.find? target.dropLast = some .folder) (copied : copy source target d = .ok () d') :
    d'.find? target = some (.file contents) := by
  have checked := checkCopy_of_copy copied
  rcases copy_file file plain parent with ⟨x, failed⟩ | ⟨put, free⟩
  · rw [failed] at copied
    cases copied
  · rw [put] at copied
    cases copied
    have filled : target ≠ [] := by
      rintro rfl
      rw [isFolder, find?_nil] at free
      cases free
    rw [find?_put (takes_of_parent (isName_of_checkCopy plain parent checked) filled parent free), if_pos rfl]

end Disk

namespace FolderStore

-- Goes along names, where `..` takes the last one away.
def walk (p : Path) : List String → Path
  | [] => p
  | name :: rest => walk (if name = ".." then p.dropLast else p ++ [name]) rest

-- The names in a text between slashes that are neither empty nor a point.
def names (text : String) : List String :=
  (Path.segments text).filter fun name => name ≠ "" ∧ name ≠ "."

/-- The components of an absolute path. -/
def components (text : String) : Path := walk [] (names text)

/-- The place that a key leads to from a folder. -/
def objectPath (folder key : String) : Path := walk (components folder) (names key)

theorem descend_eq_walk_of_kept {list : List String} (kept : ∀ name ∈ list, name ≠ "" ∧ name ≠ ".") (p : Path) :
    Path.descend p list = walk p list := by
  induction list generalizing p with
  | nil => rfl
  | cons name rest ih =>
    obtain ⟨filled, notHere⟩ := kept name List.mem_cons_self
    have step : Path.follow p name = if name = ".." then p.dropLast else p ++ [name] := by
      simp [Path.follow, filled, notHere]
    change Path.descend (Path.follow p name) rest = walk _ rest
    rw [ih (fun n inside => kept n (List.mem_cons_of_mem _ inside)), step]

theorem descend_eq_walk (p : Path) (text : String) : Path.descend p (Path.segments text) = walk p (names text) := by
  have same : names text = (Path.segments text).filter ObjectKey.isKept :=
    List.filter_congr fun name _ => Bool.eq_iff_iff.2 (by simp [ObjectKey.isKept])
  rw [← ObjectKey.descend_filter_isKept, ← same]
  exact descend_eq_walk_of_kept (fun name inside => by simpa using (List.mem_filter.1 inside).2) p

theorem resolve_eq {text : String} (absolute : "/".toList <+: text.toList) (cwd : Path) :
    Path.resolve cwd text = components text := by
  rw [Path.resolve, if_pos (List.isPrefixOf_iff_prefix.2 absolute), descend_eq_walk]
  rfl

theorem isPlain_components (text : String) : (components text).IsPlain := by
  rw [components, ← descend_eq_walk]
  exact Path.isPlain_descend (by simp [Path.IsPlain]) fun name inside => Path.slash_not_mem_of_mem_segments inside

theorem isPlain_objectPath (folder key : String) : (objectPath folder key).IsPlain := by
  rw [objectPath, ← descend_eq_walk]
  exact Path.isPlain_descend (isPlain_components folder) fun name inside => Path.slash_not_mem_of_mem_segments inside

theorem objectPath_eq (folder key : String) :
    Path.descend (components folder) (Path.segments (ObjectKey.join [key])) = objectPath folder key := by
  rw [ObjectKey.descend_segments_join, ObjectKey.segments_singleton, ObjectKey.descend_filter_isKept, descend_eq_walk]
  rfl

/-- The failure of a key that leads out of the folder. -/
def escaping (key : String) : Failure :=
  .configuration ("저장소 루트를 벗어나는 키: " ++ key) (some [("key", .string key)])

theorem place_eq (folder key : String) : place (components folder) key =
    if components folder <+: objectPath folder key then .ok (objectPath folder key) else .error (escaping key) := by
  have inside : Path.isInside (components folder) (objectPath folder key) = true ↔ _ :=
    Path.isInside_iff (isPlain_objectPath folder key)
  rw [(isPlain_components folder).bare] at inside
  unfold place
  rw [(isPlain_components folder).bare, objectPath_eq]
  simp only [inside]
  rfl

-- The failure of a key that has no object.
def missing (store : ObjectStore) (key : String) : Failure :=
  .missing "원격 객체" (store.description ++ "/" ++ ObjectKey.join [key]) none

/-- What a store can be asked to do with a key. -/
inductive Asks (store : ObjectStore) (key : String) : {α : Type} → Job α → Prop
  | contains : Asks store key (store.contains key)
  | putFile (file : Path) (contentType : Option String) : Asks store key (store.putFile key file contentType)
  | putText (text : String) (contentType : Option String) : Asks store key (store.putText key text contentType)
  | getFile (target : Path) : Asks store key (store.getFile key target)
  | getText : Asks store key (store.getText key)

/-- What a store does with a key whose object is at a place, in terms of the disk. -/
structure Uses (store : ObjectStore) (key : String) (p : Path) : Prop where
  contains (w : Workspace) : store.contains key w = .ok (w.disk.find? p).isSome w
  getText (w : Workspace) : store.getText key w =
    match w.disk.find? p with
    | some (.file contents) => .ok (Text.decode contents) w
    | some .folder => .error (.disk (.system .isFolder "read" none)) w
    | none => .error (missing store key) w
  getFile (target : Path) (w : Workspace) : store.getFile key target w =
    if (w.disk.find? p).isSome then (do Job.ensureFolder target.parent; Job.copy p target : Job Unit) w
    else .error (missing store key) w
  putFile (file : Path) (contentType : Option String) :
    store.putFile key file contentType = do Job.ensureFolder p.parent; Job.copy file p
  putText (text : String) (contentType : Option String) :
    store.putText key text contentType = do Job.ensureFolder p.parent; Job.writeText p text

/-- A store keeps the object of a key at a place: a put changes only what is there, and a get only what is
where the object goes, apart from folders that are missing on the way. What has been put or got is the object. -/
structure Keeps (store : ObjectStore) (key : String) (p : Path) : Prop extends Uses store key p where
  fails {α : Type} {t : Job α} (asks : Asks store key t) {w v : Workspace} {e : Failure} (failed : t w = .error e v) :
    (∃ x, e = .disk x) ∨ e = missing store key
  putFile_within (file : Path) (contentType : Option String) :
    Respects (Job.OnDisk (Disk.Within p)) (store.putFile key file contentType)
  putText_within (text : String) (contentType : Option String) :
    Respects (Job.OnDisk (Disk.Within p)) (store.putText key text contentType)
  getFile_within (target : Path) : Respects (Job.OnDisk (Disk.Within target.bare)) (store.getFile key target)
  putFile_stores {file : Path} {contentType : Option String} {contents : ByteArray} {w v : Workspace}
    (source : w.disk.find? file = some (.file contents)) (put : store.putFile key file contentType w = .ok () v) :
    v.disk.find? p = some (.file contents)
  putText_stores {text : String} {contentType : Option String} {w v : Workspace}
    (put : store.putText key text contentType w = .ok () v) : v.disk.find? p = some (.file (Text.encode text))
  getFile_fetches {target : Path} (plain : target.IsPlain) {contents : ByteArray} {w v : Workspace}
    (object : w.disk.find? p = some (.file contents)) (got : store.getFile key target w = .ok () v) :
    v.disk.find? target = some (.file contents)

section

variable {root p : Path} {key : String} {α : Type} {t : Job α}

theorem refused_of_place {e : Failure} (placed : place root key = .error e) (asks : Asks (store root) key t)
    (w : Workspace) : t w = .error e w := by
  have thrown : Job.ofExcept (place root key) w = .error e w := Job.ofExcept_error_iff.2 ⟨placed, rfl⟩
  have prepared : prepare root key w = .error e w := Job.bind_error thrown
  have sought : existing root key w = .error e w := Job.bind_error thrown
  cases asks with
  | contains => exact Job.bind_error thrown
  | putFile file contentType => exact Job.bind_error prepared
  | putText text contentType => exact Job.bind_error prepared
  | getFile target => exact Job.bind_error sought
  | getText => exact Job.bind_error sought

theorem existing_eq (plain : p.IsPlain) (placed : place root key = .ok p) (w : Workspace) :
    existing root key w = if (w.disk.find? p).isSome then .ok p w else .error (missing (store root) key) w := by
  unfold existing
  rw [Job.bind_ok (Job.ofExcept_ok_iff.2 ⟨placed, rfl⟩), Job.bind_ok (Job.has_run p w), Disk.has_of_isPlain plain]
  cases w.disk.find? p <;> rfl

theorem prepare_eq (placed : place root key = .ok p) :
    prepare root key = (do Job.ensureFolder p.parent; return p : Job Path) := by
  funext w
  exact Job.bind_ok (Job.ofExcept_ok_iff.2 ⟨placed, rfl⟩)

theorem uses_of_place (plain : p.IsPlain) (placed : place root key = .ok p) : Uses (store root) key p where
  contains w := by
    change (Job.ofExcept (place root key) >>= Job.has) w = _
    rw [Job.bind_ok (Job.ofExcept_ok_iff.2 ⟨placed, rfl⟩), Job.has_run, Disk.has_of_isPlain plain]
  getText w := by
    change (existing root key >>= Job.readText) w = _
    have sought := existing_eq plain placed w
    have read : w.disk.at? p = w.disk.find? p := Disk.at?_of_isPlain plain
    cases found : w.disk.find? p with
    | none =>
      rw [found] at sought
      exact Job.bind_error sought
    | some e =>
      rw [found] at sought read
      rw [Job.bind_ok sought]
      cases e with
      | file contents =>
        have contained : w.disk.readFile p = .ok contents := by rw [Disk.readFile, read]
        exact Job.readText_ok_iff.2 ⟨contents, contained, rfl, rfl⟩
      | folder =>
        have refused : w.disk.readFile p = .error (.system .isFolder "read" none) := by rw [Disk.readFile, read]
        exact Job.bind_error (Job.look_error_iff.2 ⟨_, refused, rfl, rfl⟩)
  getFile target w := by
    change (existing root key >>= fun source => Job.ensureFolder target.parent >>= fun _ => Job.copy source target) w = _
    have sought := existing_eq plain placed w
    split_ifs at sought ⊢
    · exact Job.bind_ok sought
    · exact Job.bind_error sought
  putFile file contentType := by
    change (prepare root key >>= fun p => Job.copy file p) = _
    rw [prepare_eq placed, bind_assoc]
    rfl
  putText text contentType := by
    change (prepare root key >>= fun p => Job.writeText p text) = _
    rw [prepare_eq placed, bind_assoc]
    rfl

end

section

variable {store : ObjectStore} {key : String} {p source target : Path} {w v : Workspace}

theorem prefix_bare_self (p : Path) : p.bare <+: p := by
  unfold Path.bare
  split_ifs
  · exact List.dropLast_prefix p
  · exact List.prefix_rfl

theorem prefix_parent_bare (p : Path) : p.parent.bare <+: p.bare :=
  (prefix_bare_self p.parent).trans (List.dropLast_prefix p.bare)

theorem ensureFolder_within (p : Path) : Respects (Job.OnDisk (Disk.Within p.bare)) (Job.ensureFolder p.parent) :=
  Job.respects_change_onDisk (Disk.respects_ensureFolder_of fun _ _ gains => gains.within (prefix_parent_bare p))

theorem copied_within (source target : Path) : Respects (Job.OnDisk (Disk.Within target.bare))
    (do Job.ensureFolder target.parent; Job.copy source target) := by
  refine (ensureFolder_within target).bind fun _ => Job.respects_change_onDisk ?_
  exact Disk.respects_copy_of (fun _ _ gains => gains.within (prefix_parent_bare target)) fun _ _ e below =>
    Disk.within_put below e

theorem written_within (p : Path) (plain : p.IsPlain) (text : String) : Respects (Job.OnDisk (Disk.Within p))
    (do Job.ensureFolder p.parent; Job.writeText p text) := by
  have ensured := ensureFolder_within p
  rw [plain.bare] at ensured
  exact ensured.bind fun _ => Job.respects_change_onDisk (Disk.respects_writeFile_of fun _ =>
    Disk.within_put List.prefix_rfl _)

theorem fails_change {f g : Disk.Change Unit} {e : Failure}
    (failed : (do Job.change f; Job.change g : Job Unit) w = .error e v) : ∃ x, e = .disk x := by
  rcases Job.bind_error_iff.1 failed with first | ⟨_, _, _, later⟩
  · obtain ⟨x, _, _, rfl, _⟩ := Job.change_error_iff.1 first
    exact ⟨x, rfl⟩
  · obtain ⟨x, _, _, rfl, _⟩ := Job.change_error_iff.1 later
    exact ⟨x, rfl⟩

theorem stored_of_copied {contents : ByteArray} (file : w.disk.find? source = some (.file contents))
    (plain : target.IsPlain) (ran : (do Job.ensureFolder target.parent; Job.copy source target : Job Unit) w = .ok () v) :
    v.disk.find? target = some (.file contents) := by
  have above : Path.IsPlain target.dropLast := plain.above (List.dropLast_prefix target)
  obtain ⟨_, u, ensured, copied⟩ := Job.bind_ok_iff.1 ran
  rw [Path.parent, plain.bare] at ensured
  obtain ⟨made, folder, rfl⟩ := Job.change_ok_iff.1 ensured
  obtain ⟨d, stored, rfl⟩ := Job.change_ok_iff.1 copied
  have gains := Disk.gains_of_ensureFolder (.inl folder)
  have reached := (Disk.find?_of_ensureFolder (by rwa [above.bare]) folder).2
  rw [above.bare] at reached
  refine Disk.copy_stores ?_ plain (by rw [reached, if_pos List.prefix_rfl]) stored
  rw [gains.kept (by rw [file]; simp), file]

theorem Uses.keeps (uses : Uses store key p) (plain : p.IsPlain) : Keeps store key p where
  toUses := uses
  fails asks w v e failed := by
    cases asks with
    | contains =>
      rw [uses.contains] at failed
      cases failed
    | putFile file contentType =>
      rw [uses.putFile] at failed
      exact .inl (fails_change failed)
    | putText text contentType =>
      rw [uses.putText] at failed
      exact .inl (fails_change failed)
    | getFile target =>
      rw [uses.getFile] at failed
      split_ifs at failed
      · exact .inl (fails_change failed)
      · cases failed
        exact .inr rfl
    | getText =>
      rw [uses.getText] at failed
      split at failed <;> cases failed
      · exact .inl ⟨_, rfl⟩
      · exact .inr rfl
  putFile_within file contentType := by
    rw [uses.putFile]
    have within := copied_within file p
    rwa [plain.bare] at within
  putText_within text contentType := by
    rw [uses.putText]
    exact written_within p plain text
  getFile_within target w := by
    have copied := copied_within p target w
    unfold final at copied ⊢
    rw [uses.getFile]
    split_ifs
    · exact copied
    · exact refl_of (Disk.Within target.bare) w.disk
  putFile_stores source put := by
    rw [uses.putFile] at put
    exact stored_of_copied source plain put
  putText_stores put := by
    rw [uses.putText] at put
    obtain ⟨_, u, _, ran⟩ := Job.bind_ok_iff.1 put
    obtain ⟨d, written, rfl⟩ := Job.writeText_ok_iff.1 ran
    obtain ⟨fits, rfl⟩ := Disk.writeFile_ok written
    rw [Disk.find?_put fits, if_pos rfl]
  getFile_fetches proper _ _ _ object got := by
    rw [uses.getFile, object] at got
    exact stored_of_copied object proper got

end

section

variable {folder name more : String} {list : List String}

theorem names_joined (filled : list ≠ []) (kept : ∀ name ∈ list, name ≠ "" ∧ name ≠ "." ∧ '/' ∉ name.toList) :
    names (Text.joined "/" list) = list := by
  rw [names, Path.segments_joined filled fun name inside => (kept name inside).2.2, List.filter_eq_self]
  intro name inside
  simpa using ⟨(kept name inside).1, (kept name inside).2.1⟩

theorem walk_of_isPlain (plain : Path.IsPlain list) (p : Path) : walk p list = p ++ list := by
  rw [← descend_eq_walk_of_kept fun name inside => ⟨(plain name inside).1, (plain name inside).2.1⟩]
  exact Path.descend_of_isPlain plain p

-- A name that goes on stands for itself, whatever it begins with, unless this is one point.
theorem isPlain_longer (filled : name ≠ "") (notHere : name ≠ ".") (unbroken : '/' ∉ name.toList)
    (longer : more ≠ "") (whole : '/' ∉ more.toList) : Path.IsPlain [name ++ more] := by
  obtain ⟨a, as, first⟩ := List.exists_cons_of_ne_nil (show name.toList ≠ [] by simpa using filled)
  obtain ⟨b, bs, later⟩ := List.exists_cons_of_ne_nil (show more.toList ≠ [] by simpa using longer)
  have both : (name ++ more).toList = a :: (as ++ b :: bs) := by rw [String.toList_append, first, later, List.cons_append]
  intro n inside
  rw [List.mem_singleton.1 inside]
  refine ⟨fun same => ?_, fun same => ?_, fun same => ?_, fun slash => ?_⟩
  · rw [same] at both
    cases both
  · rw [same] at both
    simp at both
  · rw [same] at both
    obtain ⟨rfl, rest⟩ := List.cons.inj both
    have alone : as = [] := by
      cases as with
      | nil => rfl
      | cons c cs => simp at rest
    rw [alone] at first
    exact notHere (String.toList_inj.1 first)
  · rw [String.toList_append] at slash
    exact (List.mem_append.1 slash).elim unbroken whole

-- A sibling of the folder whose name goes on where that of the folder ends, and what lies in it.
theorem objectPath_sibling {init : Path} {rest : List String} (root : components folder = init ++ [name])
    (longer : more ≠ "") (whole : '/' ∉ more.toList) (plain : Path.IsPlain rest) :
    objectPath folder (Text.joined "/" (".." :: (name ++ more) :: rest)) = init ++ (name ++ more) :: rest := by
  obtain ⟨filled, notHere, _, unbroken⟩ := isPlain_components folder name (by simp [root])
  have below : Path.IsPlain ((name ++ more) :: rest) :=
    (isPlain_longer filled notHere unbroken longer whole).append plain
  have listed : names (Text.joined "/" (".." :: (name ++ more) :: rest)) = ".." :: (name ++ more) :: rest := by
    refine names_joined (List.cons_ne_nil _ _) fun n inside => ?_
    rcases List.mem_cons.1 inside with rfl | later
    · decide
    · exact ⟨(below n later).1, (below n later).2.1, (below n later).2.2.2⟩
  rw [objectPath, listed, walk, if_pos rfl, root, List.dropLast_concat, walk_of_isPlain below]

theorem objectPath_dots (longer : more ≠ "") (whole : '/' ∉ more.toList) (folder : String) :
    objectPath folder (".." ++ more) = components folder ++ [".." ++ more] := by
  have plain : Path.IsPlain [".." ++ more] := isPlain_longer (by decide) (by decide) (by decide) longer whole
  have listed : names (".." ++ more) = [".." ++ more] := by
    have single : names (Text.joined "/" [".." ++ more]) = [".." ++ more] :=
      names_joined (List.cons_ne_nil _ _) fun n inside =>
        ⟨(plain n inside).1, (plain n inside).2.1, (plain n inside).2.2.2⟩
    rwa [Text.joined_singleton] at single
  rw [objectPath, listed, walk_of_isPlain plain]

end

/-- A key is refused by all requests, and nothing is done, exactly if the place that it leads to is not below
the folder of the store; otherwise the store keeps its object at this place. A sibling of the folder is
refused although its name begins with that of the folder, and names that only begin with two points are not.
Whether a place lies in another can be read off their components, and off the text of the way between them. -/
theorem store_confined (cwd : Path) {folder : String} (absolute : "/".toList <+: folder.toList) :
    (∀ key, (∀ {α : Type} {t : Job α}, Asks (store (Path.resolve cwd folder)) key t → ∀ w,
        ((∃ message details v, t w = .error (.configuration message details) v) ↔
          ¬components folder <+: objectPath folder key) ∧
        (¬components folder <+: objectPath folder key → t w = .error (escaping key) w)) ∧
      (components folder <+: objectPath folder key →
        Keeps (store (Path.resolve cwd folder)) key (objectPath folder key))) ∧
    (∀ init name more rest, components folder = init ++ [name] → more ≠ "" → '/' ∉ more.toList → Path.IsPlain rest →
      ¬components folder <+: objectPath folder (Text.joined "/" (".." :: (name ++ more) :: rest))) ∧
    (∀ more, more ≠ "" → '/' ∉ more.toList → objectPath folder (".." ++ more) = components folder ++ [".." ++ more]) ∧
    ∀ target, "/".toList <+: target.toList →
      (Path.isInside (Path.resolve cwd folder) (Path.resolve cwd target) = true ↔
        components folder <+: components target) ∧
      (Path.isInside (Path.resolve cwd folder) (Path.resolve cwd target) = true ↔
        let way := Path.relativeText (Path.resolve cwd folder) (Path.resolve cwd target)
        way ≠ ".." ∧ ¬"../".toList <+: way.toList ∧ ¬"/".toList <+: way.toList) := by
  rw [resolve_eq absolute cwd]
  have rooted := isPlain_components folder
  refine ⟨fun key => ?_, fun init name more rest root longer whole plain below => ?_, ?_, fun target absolute' => ?_⟩
  · have placed := place_eq folder key
    by_cases inside : components folder <+: objectPath folder key
    · rw [if_pos inside] at placed
      have plain := isPlain_objectPath folder key
      have keeps := (uses_of_place plain placed).keeps plain
      refine ⟨fun asks w => ⟨⟨?_, fun outside => absurd inside outside⟩, fun outside => absurd inside outside⟩,
        fun _ => keeps⟩
      rintro ⟨message, details, v, thrown⟩
      rcases keeps.fails asks thrown with ⟨x, other⟩ | other <;> cases other
    · rw [if_neg inside] at placed
      refine ⟨fun asks w => ?_, fun below => absurd below inside⟩
      have refused := refused_of_place placed asks w
      exact ⟨⟨fun _ => inside, fun _ => ⟨_, _, _, refused⟩⟩, fun _ => refused⟩
  · rw [objectPath_sibling root longer whole plain, root, List.prefix_append_right_inj, List.cons_prefix_cons] at below
    have grown := congrArg String.length below.1
    rw [String.length_append] at grown
    exact longer (String.length_eq_zero_iff.1 (by omega))
  · exact fun more longer whole => objectPath_dots longer whole folder
  · rw [resolve_eq absolute' cwd]
    have proper := isPlain_components target
    refine ⟨?_, Path.isInside_iff_relativeText (by rwa [proper.bare])⟩
    rw [Path.isInside_iff proper, rooted.bare]

section Sample

def emptyWorkspace : Workspace := ⟨.empty, [], [], [], [], 0⟩

-- A sibling, a name that begins with two points, and a key that leaves the folder and comes back.
theorem store_confined_sample :
    (store (Path.resolve [] "/s")).contains "../s-x/a" emptyWorkspace = .error (escaping "../s-x/a") emptyWorkspace ∧
      (store (Path.resolve [] "/s")).contains "..x" emptyWorkspace = .ok false emptyWorkspace ∧
      (store (Path.resolve [] "/s")).contains "../s/./a" emptyWorkspace = .ok false emptyWorkspace ∧
      Path.isInside (Path.resolve [] "/s") (Path.resolve [] "/s-x") = false := by
  obtain ⟨confined, _, _, inside⟩ := store_confined [] (show "/".toList <+: "/s".toList by decide)
  have outside : ¬components "/s" <+: objectPath "/s" "../s-x/a" := by decide +kernel
  have dots := (confined "..x").2 (by decide +kernel)
  have back := (confined "../s/./a").2 (by decide +kernel)
  have sibling := (inside "/s-x" (by decide)).1
  refine ⟨((confined "../s-x/a").1 .contains emptyWorkspace).2 outside, dots.contains _, back.contains _, ?_⟩
  rw [← Bool.not_eq_true, sibling]
  decide +kernel

end Sample

end FolderStore

end Wheelhouse
