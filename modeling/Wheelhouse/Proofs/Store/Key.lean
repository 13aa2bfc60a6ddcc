import Mathlib.Data.List.Basic
import Wheelhouse.Proofs.Disk.Path
import Wheelhouse.Proofs.Text.Fields

/-!
Keys that are put together. A key is settled by its names, which are those of its parts in order, but for the
empty ones and `.`; so it does not matter how the parts are grouped, and what stands below the same key is
told apart.
-/

set_option autoImplicit false

namespace Wheelhouse.ObjectKey

/-- The names between the slashes of a key; the empty key has none. -/
def names (key : String) : List String := if key = "" then [] else Path.segments key

def IsClean (key : String) : Prop := ∀ name ∈ names key, name ≠ "" ∧ name ≠ "."

instance (key : String) : Decidable (IsClean key) := List.decidableBAll _ (names key)

theorem names_inj {key key' : String} (same : names key = names key') : key = key' := by
  have filled (text : String) : Path.segments text ≠ [] := by simp [Path.segments, Text.fields, Text.split_ne_nil]
  unfold names at same
  split_ifs at same with empty empty' empty'
  · exact empty.trans empty'.symm
  · exact absurd same.symm (filled key')
  · exact absurd same (filled key)
  · exact Path.segments_inj same

theorem mem_segments_ne {parts : List String} {name : String} (inside : name ∈ segments parts) :
    name ≠ "" ∧ name ≠ "." := (mem_segments.1 inside).2

theorem join_eq_empty_iff {parts : List String} : join parts = "" ↔ segments parts = [] := by
  have none : join [] = "" := rfl
  rw [← none, join_eq_join_iff]
  rfl

theorem names_join (parts : List String) : names (join parts) = segments parts := by
  unfold names
  split_ifs with empty
  · exact (join_eq_empty_iff.1 empty).symm
  · exact Path.segments_joined (fun none => empty (join_eq_empty_iff.2 none)) fun name => slash_not_mem_of_mem_segments

theorem segments_of_isClean {key : String} (clean : IsClean key) : segments [key] = names key := by
  unfold IsClean at clean
  unfold names at clean ⊢
  split_ifs with empty
  · rw [empty]
    rfl
  · rw [if_neg empty] at clean
    rw [segments_singleton, List.filter_eq_self]
    intro name inside
    simpa [isKept] using clean name inside

theorem join_below_inj_of_isClean {key f g : String} (clean : IsClean f) (clean' : IsClean g) :
    join [key, f] = join [key, g] ↔ f = g := by
  rw [join_eq_join_iff, segments_cons key [f], segments_cons key [g], List.append_cancel_left_eq,
    segments_of_isClean clean, segments_of_isClean clean']
  exact ⟨names_inj, congrArg names⟩

-- No slash at an end of a key, and no two beside each other.
theorem slashes_join (parts : List String) : ¬['/'] <+: (join parts).toList ∧ ¬['/'] <:+ (join parts).toList ∧
    ¬['/', '/'] <:+: (join parts).toList := by
  by_cases none : segments parts = []
  next => simp [join_eq_empty_iff.2 none]
  next =>
    refine Text.not_sep_of_filled fun empty => ?_
    have fields : Path.segments (join parts) = segments parts :=
      Path.segments_joined none fun name => slash_not_mem_of_mem_segments
    have member : String.ofList [] ∈ segments parts := fields ▸ List.mem_map_of_mem empty
    exact (mem_segments_ne member).1 rfl

/-- Keys can be put together in any grouping, and one that is put together stays as it is. Its names are those
of its parts in order, without the empty ones and `.`; so no slash stands at an end of it or beside another.
Below the same key, different relative paths without such names have different keys. -/
theorem join_normalizes (parts more : List String) :
    join (parts ++ more) = join [join parts, join more] ∧ join [join parts] = join parts ∧
    names (join parts) = (parts.flatMap Path.segments).filter (fun name => name != "" && name != ".") ∧
    (¬['/'] <+: (join parts).toList ∧ ¬['/'] <:+ (join parts).toList ∧ ¬['/', '/'] <:+: (join parts).toList) ∧
    ∀ key f g : String, IsClean f → IsClean g → (join [key, f] = join [key, g] ↔ f = g) := by
  refine ⟨?_, ?_, ?_, slashes_join parts, fun key f g => join_below_inj_of_isClean⟩
  · rw [join_eq_join_iff, segments_append, segments_cons (join parts), segments_join, segments_join]
  · rw [join_eq_join_iff, segments_join]
  · rw [names_join]
    rfl

theorem join_normalizes_sample :
    IsClean "a/b" ∧ IsClean "../b" ∧ join ["r/", "a/b"] = join [join ["r/"], join ["", "a", "./b"]] ∧
      join ["r/", "a/b"] ≠ join ["r/", "../b"] := by
  have clean : IsClean "a/b" := by decide +kernel
  have clean' : IsClean "../b" := by decide +kernel
  refine ⟨clean, clean', ?_, ?_⟩
  · have grouped := (join_normalizes ["r/"] ["", "a", "./b"]).1
    rwa [show join (["r/"] ++ ["", "a", "./b"]) = join ["r/", "a/b"] by decide +kernel] at grouped
  · intro same
    have equal := ((join_normalizes [] []).2.2.2.2 "r/" "a/b" "../b" clean clean').1 same
    exact absurd equal (by decide)

end Wheelhouse.ObjectKey
