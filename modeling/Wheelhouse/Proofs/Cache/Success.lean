import Wheelhouse.Proofs.Cache.Filling
import Wheelhouse.Proofs.Store.Contents

/-!
Uploads that succeed. When a store in a folder refuses nothing and the system takes every place of the entry, all
files are stored, and so is the manifest.
-/

set_option autoImplicit false

namespace Wheelhouse

namespace Disk

variable {d d' : Disk} {p q : Path} {contents : ByteArray}

-- A put leaves room for what neither lies below it nor has it below itself.
theorem Stores.isWritable (h : d.Stores d' p contents) (writable : d.IsWritable q) (above : ¬p <+: q.dropLast)
    (below : ¬q <+: p.dropLast) : d'.IsWritable q where
  named := writable.named
  near := writable.near
  free := by
    by_cases same : q = p
    · rw [same, h.find?_self]
      simp
    · rw [h.find?_outside same below]
      exact writable.free
  clear r before := by
    have other : r ≠ p := fun same => above (same ▸ before)
    rw [h.file?_of_ne other]
    exact writable.clear r before

theorem isWritable_of_absent (absent : d.find? p = none) (clear : ∀ q, q <+: p → d.file? q = none) (rel : Path)
    (filled : rel ≠ []) (named : ∀ name ∈ p ++ rel, Path.isName name = true)
    (near : Path.isFarTooLong (p ++ rel) = false) : d.IsWritable (p ++ rel) where
  named := named
  near := near
  free := by
    rw [find?_eq_none_below absent (List.prefix_append p rel)]
    simp
  clear q before := by
    rw [List.dropLast_append_of_ne_nil filled] at before
    rcases List.prefix_or_prefix_of_prefix before (List.prefix_append p rel.dropLast) with above | below
    · exact clear q above
    · rw [file?, find?_eq_none_below absent below]

-- A file may be replaced.
theorem isWritable_of_file (file : d.find? p = some (.file contents)) (near : p.isFarTooLong = false) :
    d.IsWritable p where
  named := isName_of_find? (d := d) (by simp [file])
  near := near
  free := by simp [file]
  clear q before := by
    have above := before.trans (List.dropLast_prefix p)
    refine file?_of_isFolder (find?_above (by simp [file]) above fun same => ?_)
    have filled : p ≠ [] := by
      rintro rfl
      rw [find?_nil] at file
      cases file
    exact not_prefix_dropLast filled (same ▸ before)

end Disk

namespace FolderStore

variable {root : Path} {key : String} {p : Path} {w : Workspace}

theorem putFile_ok (plain : root.bare.IsPlain) (placed : place root key = .ok p) (writable : w.disk.IsWritable p)
    {file : Path} {contents : ByteArray} (source : w.disk.find? file = some (.file contents)) (apart : file ≠ p)
    (contentType : Option String) :
    ∃ v, (store root).putFile key file contentType w = .ok () v ∧ w.disk.Stores v.disk p contents := by
  have uses := uses_of_place (isPlain_of_place plain placed) placed
  obtain ⟨v, copied⟩ := writable.copied source apart
  rw [← uses.putFile file contentType] at copied
  have ends := putFile_ends (.inl rfl) plain placed writable.filled
    (fun name last => writable.named name (List.mem_of_getLast? last)) source contentType
  rw [copied] at ends
  cases ends with
  | stored stores => exact ⟨v, copied, stores⟩

theorem putText_ok (plain : root.bare.IsPlain) (placed : place root key = .ok p) (writable : w.disk.IsWritable p)
    (text : String) (contentType : Option String) : ∃ v, (store root).putText key text contentType w = .ok () v := by
  have uses := uses_of_place (isPlain_of_place plain placed) placed
  rw [uses.putText text contentType]
  exact writable.written text

end FolderStore

namespace Cache.Setting

variable {remote : Remote} {root home folder : Path} {key entry : String} {files : List String} {w : Workspace}

-- The places of two files of the entry, or of a file and the manifest, are not one below the other.
theorem not_prefix_dropLast (set : Setting remote root home folder entry files w) {rel rel' : Path}
    (inside : rel ∈ files.map Path.segments) (inside' : rel' ∈ [Manifest.fileName] :: files.map Path.segments) :
    ¬home ++ rel <+: (home ++ rel').dropLast ∧ ¬home ++ rel' <+: (home ++ rel).dropLast := by
  have file := set.mem_iff.1 inside
  have proper := set.isProper inside
  obtain ⟨contents, found⟩ := Option.ne_none_iff_exists'.1 file
  rcases List.mem_cons.1 inside' with rfl | listed
  · constructor
    · intro before
      have bound := before.length_le
      have positive := List.length_pos_iff.2 proper.1
      simp only [List.length_append, List.length_dropLast, List.length_singleton] at bound
      omega
    · intro before
      rw [List.dropLast_append_of_ne_nil proper.1, List.prefix_append_right_inj] at before
      exact set.not_fileName_prefix (Disk.found_of_file? file) (before.trans (List.dropLast_prefix rel))
  · have file' := set.mem_iff.1 listed
    obtain ⟨contents', found'⟩ := Option.ne_none_iff_exists'.1 file'
    have apart {a b : Path} {c : ByteArray} (proper : Path.IsProper b) (file : w.disk.file? (folder.bare ++ a) = some c)
        (file' : w.disk.file? (folder.bare ++ b) ≠ none) : ¬home ++ a <+: (home ++ b).dropLast := by
      intro before
      rw [List.dropLast_append_of_ne_nil proper.1, List.prefix_append_right_inj] at before
      have below := before.trans (List.dropLast_prefix b)
      refine Disk.found_of_file? file' (Disk.find?_eq_none_of_file (Disk.file?_eq_some_iff.1 file)
        ((List.prefix_append_right_inj folder.bare).2 below) fun same => ?_)
      rw [List.append_cancel_left same] at before
      exact Disk.not_prefix_dropLast proper.1 before
    exact ⟨apart (set.isProper listed) found file', apart proper found' file⟩

theorem putAll_ok (set : Setting remote root home folder entry files w) (allows : remote.store = FolderStore.store root)
    {rest : List Path} (within : rest ⊆ files.map Path.segments) {v : Workspace}
    (kept : ∀ rel ∈ files.map Path.segments, v.disk.find? (folder.bare ++ rel) = w.disk.find? (folder.bare ++ rel))
    (writable : ∀ rel ∈ [Manifest.fileName] :: rest, v.disk.IsWritable (home ++ rel)) :
    ∃ u, putAll remote entry folder (rest.map (Text.joined "/")) v = .ok [] u ∧
      u.disk.IsWritable (home ++ [Manifest.fileName]) := by
  induction rest generalizing v with
  | nil => exact ⟨v, rfl, writable _ List.mem_cons_self⟩
  | cons rel rest ih =>
    have inside := within List.mem_cons_self
    have within' : rest ⊆ files.map Path.segments := List.Subset.trans (List.subset_cons_self rel rest) within
    obtain ⟨contents, file⟩ := Option.ne_none_iff_exists'.1 (set.mem_iff.1 inside)
    have beside (r : Path) (listed : r ∈ files.map Path.segments) : folder.bare ++ r ≠ home ++ rel := fun same =>
      set.source.apart r (set.mem_iff.1 listed) ⟨rel, (set.isProper inside).1, same⟩
    have source : v.disk.find? (folder.bare ++ rel) = some (.file contents) := by
      rw [kept rel inside, Disk.file?_eq_some_iff.1 file]
    obtain ⟨u, put, stores⟩ := FolderStore.putFile_ok set.plain (set.placed_join (set.isProper inside))
      (writable rel (by simp)) source (beside rel inside) none
    have kept' (r : Path) (listed : r ∈ files.map Path.segments) :
        u.disk.find? (folder.bare ++ r) = w.disk.find? (folder.bare ++ r) := by
      rw [← kept r listed, stores.find?_of_ne (beside r listed)]
      rw [kept r listed]
      exact Disk.found_of_file? (set.mem_iff.1 listed)
    have writable' (r : Path) (member : r ∈ [Manifest.fileName] :: rest) : u.disk.IsWritable (home ++ r) := by
      have listed : r ∈ [Manifest.fileName] :: files.map Path.segments :=
        List.cons_subset_cons _ within' member
      obtain ⟨above, below⟩ := set.not_prefix_dropLast inside listed
      exact stores.isWritable (writable r (List.cons_subset_cons _ (List.subset_cons_self rel rest) member)) above below
    obtain ⟨u', puts, last⟩ := ih within' kept' writable'
    rw [← allows, ← target_joined (set.isProper inside)] at put
    exact ⟨u', (Filling.putAll_stored put _).trans puts, last⟩

/-- An upload to a store that refuses nothing ends well if all places of the entry can be written. -/
theorem upload_ok (set : Setting remote root home folder entry files w) (allows : remote.store = FolderStore.store root)
    (options : CacheOptions) (valid : entryKey remote key = .ok entry) (good : Workers.check (workers options) = .ok ())
    (writable : ∀ rel ∈ [Manifest.fileName] :: files.map Path.segments, w.disk.IsWritable (home ++ rel)) :
    ∃ x v, upload remote options key folder w = .ok x v := by
  obtain ⟨v, puts, last⟩ := set.putAll_ok allows (List.Subset.refl _) (fun _ _ => rfl) writable
  rw [set.joined_segments] at puts
  have placed := set.placed_join isProper_fileName
  rw [Text.joined_singleton] at placed
  obtain ⟨v', put⟩ := FolderStore.putText_ok set.plain placed last
    (Manifest.text ⟨key, files, Calendar.stamp v.now⟩) (some "application/json")
  obtain ⟨x, u, ended, _⟩ :=
    Filling.upload_ok options valid good set.listed puts (by rw [allows, manifestKey]; exact put)
  exact ⟨x, u, ended⟩

end Cache.Setting

end Wheelhouse
