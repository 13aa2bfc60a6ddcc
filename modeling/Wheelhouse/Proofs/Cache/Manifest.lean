import Wheelhouse.Cache.Key
import Wheelhouse.Cache.Manifest
import Wheelhouse.Proofs.Calendar
import Wheelhouse.Proofs.Json.Page
import Wheelhouse.Proofs.Text.Units

/-!
A manifest is read back: the files that it lists are those that were written into it.
-/

set_option autoImplicit false

namespace Wheelhouse

namespace Text

theorem IsSingle.isWhole {s : String} (h : IsSingle s) : IsWhole s.toList := isWhole_of_half?_eq_none h

theorem isWhole_joined {names : List String} (whole : ∀ name ∈ names, IsWhole name.toList) :
    IsWhole (joined "/" names).toList := by
  rw [joined, String.toList_ofList]
  induction names with
  | nil => exact .nil
  | cons name rest ih =>
    have first := whole name List.mem_cons_self
    cases rest with
    | nil => exact first
    | cons next rest =>
      rw [List.map_cons, List.map_cons, join_cons_cons, List.append_assoc]
      exact first.append_cons (ih fun n inside => whole n (List.mem_cons_of_mem _ inside)) (by decide)

end Text

namespace Calendar

theorem isSingle_padded (width n : Nat) : Text.IsSingle (padded width n) :=
  fun _ inside => Text.half?_of_isDigit (isDigit_of_mem_padded inside)

theorem isSingle_stampYear (year : Int) : Text.IsSingle (stampYear year) := by
  unfold stampYear
  split
  · exact isSingle_padded 4 _
  · refine .append ?_ (isSingle_padded 6 _)
    split <;> decide

theorem isSingle_stamp (ms : Int) : Text.IsSingle (stamp ms) := by
  unfold stamp
  have dash : Text.IsSingle "-" := by decide
  have colon : Text.IsSingle ":" := by decide
  have date := (((isSingle_stampYear (moment ms).year).append dash).append
    (isSingle_padded 2 (moment ms).month)).append dash
  have day := (date.append (isSingle_padded 2 (moment ms).day)).append (by decide : Text.IsSingle "T")
  have hour := (day.append (isSingle_padded 2 (moment ms).hour)).append colon
  have minute := (hour.append (isSingle_padded 2 (moment ms).minute)).append colon
  have second := (minute.append (isSingle_padded 2 (moment ms).second)).append (by decide : Text.IsSingle ".")
  exact (second.append (isSingle_padded 3 (moment ms).millisecond)).append (by decide)

end Calendar

namespace CacheKey

theorem half?_of_isPart {cs : List Char} (part : isPart cs = true) {c : Char} (inside : c ∈ cs) :
    Text.half? c = none := by
  have digit := List.all_eq_true.1 (Bool.and_eq_true _ _ ▸ part).2 c inside
  rcases Bool.or_eq_true _ _ ▸ digit with decimal | letter
  · exact Text.half?_of_isDigit decimal
  · have bound : c ≤ 'f' := of_decide_eq_true (Bool.and_eq_true _ _ ▸ letter).2
    exact Text.half?_of_isAscii (Nat.lt_of_le_of_lt (UInt32.le_iff_toNat_le.1 bound) (by decide))

theorem isWhole_of_isKey {key : String} (valid : isKey key = true) : Text.IsWhole key.toList := by
  unfold isKey at valid
  split at valid
  · rename_i recipe args parts
    obtain ⟨left, right⟩ := Bool.and_eq_true _ _ ▸ valid
    have whole := Text.join_split '-' key.toList
    rw [parts, Text.join, Text.join, List.append_assoc] at whole
    rw [← whole]
    have first := Text.isWhole_of_half?_eq_none fun c => half?_of_isPart left (c := c)
    have second := Text.isWhole_of_half?_eq_none fun c => half?_of_isPart right (c := c)
    have dash : Text.half? '-' = none := by decide
    exact first.append_cons second dash
  · cases valid

end CacheKey

namespace Manifest

theorem areLegible_map_string {files : List String} (whole : ∀ f ∈ files, Text.IsWhole f.toList) :
    Json.AreLegible (files.map .string) := by
  induction files with
  | nil => trivial
  | cons f rest ih =>
    exact ⟨whole f List.mem_cons_self, ih fun g inside => whole g (List.mem_cons_of_mem _ inside)⟩

theorem isLegible_json {m : Manifest} (key : Text.IsWhole m.key.toList)
    (files : ∀ f ∈ m.files, Text.IsWhole f.toList) (created : Text.IsWhole m.createdAt.toList) :
    m.json.IsLegible := by
  have apart : ["key", "files", "createdAt"].Nodup := by decide
  have names : Text.IsSingle "key" ∧ Text.IsSingle "files" ∧ Text.IsSingle "createdAt" := by decide
  exact ⟨apart, names.1.isWhole, key, names.2.1.isWhole, areLegible_map_string files, names.2.2.isWhole,
    created, trivial⟩

theorem mapM_string? (files : List String) : (files.map Json.string).mapM Json.string? = some files := by
  induction files with
  | nil => rfl
  | cons f rest ih => simp [Json.string?, ih]

theorem files?_json (m : Manifest) : files? m.json = some m.files := by
  have found : List.lookup "files" [("key", Json.string m.key), ("files", .array (m.files.map .string)),
      ("createdAt", .string m.createdAt)] = some (.array (m.files.map .string)) := rfl
  rw [json, files?, found]
  exact mapM_string? m.files

theorem readFiles_text {m : Manifest} (key : Text.IsWhole m.key.toList)
    (files : ∀ f ∈ m.files, Text.IsWhole f.toList) (created : Text.IsWhole m.createdAt.toList)
    (place : String) : readFiles place m.text = .ok m.files := by
  rw [readFiles, text, Json.parse_page (isLegible_json key files created)]
  simp only [files?_json]

end Manifest

end Wheelhouse
