import Mathlib.Data.List.Nodup
import Mathlib.Logic.Function.Basic
import Wheelhouse.Proofs.Json.Page
import Wheelhouse.Proofs.Text.Units
import Wheelhouse.Settings.File

/-!
Stored settings as a map from keys to values. The settings that are found in a file are those of a map, the
members of stored settings are found again by the names of their keys, and the text of stored settings is read
back as the values that a file may hold.
-/

set_option autoImplicit false

namespace Wheelhouse

/-- What is stored for every key. -/
abbrev SettingsMap := SettingKey → Option SettingValue

namespace SettingKey

theorem ofName?_name (k : SettingKey) : ofName? k.name = some k := by
  cases k <;> decide

theorem name_injective : Function.Injective name := by
  intro k k' same
  have read := ofName?_name k
  rw [same, ofName?_name k', Option.some.injEq] at read
  exact read.symm

theorem nodup_all : all.Nodup := by decide

theorem isSingle_name (k : SettingKey) : Text.IsSingle k.name := by
  cases k <;> decide

end SettingKey

namespace SettingValue

variable {kind : SettingKind} {j : Json} {v : SettingValue}

-- A value that is taken from a file is taken again when it has been written.
theorem accept_json (accepted : accept kind j = some v) : accept kind v.json = some v := by
  unfold accept at accepted
  split at accepted
  · split_ifs at accepted with empty
    cases accepted
    simp [accept, json, empty]
  · split_ifs at accepted with good
    cases accepted
    simp [accept, json, good]
  · cases accepted
    rfl
  · cases accepted

theorem of_accept_number {n : Number} (accepted : accept kind j = some (.number n)) :
    n.isFinite = true ∧ j = .number n := by
  unfold accept at accepted
  split at accepted
  · split_ifs at accepted
    cases accepted
  · split_ifs at accepted with good
    cases accepted
    exact ⟨(Bool.and_eq_true _ _ ▸ good).1, rfl⟩
  · cases accepted
  · cases accepted

/-- Whether a text stands for itself and a number has a form, so that the value can be written and read. -/
def IsWritable : SettingValue → Prop
  | .text s => Text.IsWhole s.toList
  | .number n => n.HasForm
  | .flag _ => True

theorem isLegible_json (writable : v.IsWritable) : v.json.IsLegible := by
  cases v with
  | text s => exact writable
  | number n => exact writable
  | flag b => trivial

end SettingValue

namespace StoredSettings

/-- The settings of a map, in the order of the keys. -/
def ofMap (m : SettingsMap) : StoredSettings :=
  SettingKey.all.filterMap fun k => (m k).map fun v => (k, v)

variable {stored : StoredSettings} {k key : SettingKey} {v value : SettingValue} {m : SettingsMap}

/-! ### Looking up settings -/

theorem lookup_filterMap (m : SettingsMap) (ks : List SettingKey) :
    (ks.filterMap fun k => (m k).map fun v => (k, v)).lookup key = if key ∈ ks then m key else none := by
  induction ks with
  | nil => rfl
  | cons k ks ih =>
    rw [List.filterMap_cons]
    by_cases same : key = k
    · subst same
      cases found : m key with
      | some v => simp
      | none => simp [ih, found]
    · cases m k with
      | some v => simp [List.lookup_cons, beq_false_of_ne same, ih, same]
      | none => simp [ih, same]

theorem lookup_ofMap (m : SettingsMap) (key : SettingKey) : (ofMap m).lookup key = m key := by
  rw [ofMap, lookup_filterMap, if_pos (SettingKey.mem_all key)]

theorem lookup_set (key : SettingKey) (value : SettingValue) (stored : StoredSettings) (k : SettingKey) :
    (stored.set key value).lookup k = if k = key then some value else stored.lookup k := by
  induction stored with
  | nil =>
    by_cases same : k = key
    · simp [set, same]
    · simp [set, List.lookup_cons, same, beq_false_of_ne same]
  | cons s stored ih =>
    obtain ⟨other, old⟩ := s
    by_cases here : other = key
    · subst here
      by_cases same : k = other
      · simp [set, same]
      · simp [set, List.lookup_cons, same, beq_false_of_ne same]
    · by_cases same : k = other
      · subst same
        simp [set, here]
      · simp [set, here, List.lookup_cons, beq_false_of_ne same, ih]

theorem lookup_members (stored : StoredSettings) (k : SettingKey) :
    stored.members.lookup k.name = (stored.lookup k).map SettingValue.json := by
  induction stored with
  | nil => rfl
  | cons s stored ih =>
    obtain ⟨other, old⟩ := s
    rw [members, List.map_cons, ← members]
    by_cases same : k = other
    · subst same
      simp
    · have apart : k.name ≠ other.name := fun names => same (SettingKey.name_injective names)
      simp [List.lookup_cons, beq_false_of_ne same, beq_false_of_ne apart, ih]

/-! ### Writing and reading settings -/

-- Every key is set once, and every value can be written.
structure IsSound (stored : StoredSettings) : Prop where
  nodup : (stored.map Prod.fst).Nodup
  writable : ∀ s ∈ stored, s.2.IsWritable

theorem mem_keys_set : k ∈ (stored.set key value).map Prod.fst ↔ k = key ∨ k ∈ stored.map Prod.fst := by
  induction stored with
  | nil => simp [set]
  | cons s stored ih =>
    obtain ⟨other, old⟩ := s
    by_cases here : other = key
    · subst here
      simp [set]
    · rw [set, if_neg here, List.map_cons, List.mem_cons, ih, List.map_cons, List.mem_cons]
      exact or_left_comm

theorem mem_set {s : SettingKey × SettingValue} (member : s ∈ stored.set key value) :
    s = (key, value) ∨ s ∈ stored := by
  induction stored with
  | nil => exact .inl (List.mem_singleton.1 member)
  | cons other stored ih =>
    rw [set] at member
    split at member
    · exact (List.mem_cons.1 member).imp_right fun later => List.mem_cons_of_mem _ later
    · rcases List.mem_cons.1 member with first | later
      · exact .inr (first ▸ List.mem_cons_self)
      · exact (ih later).imp_right fun inside => List.mem_cons_of_mem _ inside

theorem nodup_set (nodup : (stored.map Prod.fst).Nodup) : ((stored.set key value).map Prod.fst).Nodup := by
  induction stored with
  | nil => simp [set]
  | cons s stored ih =>
    obtain ⟨other, old⟩ := s
    rw [List.map_cons, List.nodup_cons] at nodup
    by_cases here : other = key
    · subst here
      rw [set, if_pos rfl]
      exact List.nodup_cons.2 nodup
    · rw [set, if_neg here, List.map_cons, List.nodup_cons, mem_keys_set, not_or]
      exact ⟨⟨here, nodup.1⟩, ih nodup.2⟩

theorem IsSound.set (sound : IsSound stored) (writable : value.IsWritable) : IsSound (stored.set key value) := by
  refine ⟨nodup_set sound.nodup, fun s member => ?_⟩
  rcases mem_set member with rfl | inside
  · exact writable
  · exact sound.writable s inside

theorem keys_filterMap (m : SettingsMap) (ks : List SettingKey) :
    (ks.filterMap fun k => (m k).map fun v => (k, v)).map Prod.fst = ks.filter fun k => (m k).isSome := by
  induction ks with
  | nil => rfl
  | cons k ks ih => cases found : m k <;> simp [found, ih]

theorem nodup_keys_ofMap (m : SettingsMap) : ((ofMap m).map Prod.fst).Nodup := by
  rw [ofMap, keys_filterMap]
  exact SettingKey.nodup_all.filter _

theorem isSound_ofMap (writable : ∀ k v, m k = some v → v.IsWritable) : IsSound (ofMap m) := by
  constructor
  · exact nodup_keys_ofMap m
  · intro s member
    obtain ⟨k, _, found⟩ := List.mem_filterMap.1 member
    obtain ⟨v, here, rfl⟩ := Option.map_eq_some_iff.1 found
    exact writable k v here

theorem isSound_defaults : IsSound defaults := by
  have eight : Number.HasForm (.ofNat 8) := Number.hasForm_ofNat 8 (by decide +kernel)
  have hundred : Number.HasForm (.ofNat 100) := Number.hasForm_ofNat 100 (by decide +kernel)
  have whole {s : String} (single : Text.IsSingle s) : Text.IsWhole s.toList := Text.isWhole_of_half?_eq_none single
  refine ⟨by decide, fun s member => ?_⟩
  simp only [defaults, List.mem_cons, List.not_mem_nil, or_false] at member
  rcases member with rfl | rfl | rfl | rfl | rfl | rfl | rfl | rfl
  · exact whole (by decide)
  · exact whole (by decide)
  · trivial
  · exact whole (by decide)
  · exact whole (by decide)
  · exact eight
  · exact hundred
  · exact whole (by decide)

theorem hasLegible_members (writable : ∀ s ∈ stored, s.2.IsWritable) : Json.HasLegible stored.members := by
  induction stored with
  | nil => trivial
  | cons s stored ih =>
    exact ⟨Text.isWhole_of_half?_eq_none (SettingKey.isSingle_name s.1),
      SettingValue.isLegible_json (writable s List.mem_cons_self),
      ih fun s' inside => writable s' (List.mem_cons_of_mem _ inside)⟩

theorem nodup_names (nodup : (stored.map Prod.fst).Nodup) : (stored.members.map Prod.fst).Nodup := by
  have names : stored.members.map Prod.fst = (stored.map Prod.fst).map SettingKey.name := by
    simp [members]
  rw [names]
  exact List.Nodup.map SettingKey.name_injective nodup

theorem IsSound.isLegible (sound : IsSound stored) : (Json.object stored.members).IsLegible :=
  ⟨nodup_names sound.nodup, hasLegible_members sound.writable⟩

/-- What is read from settings that were written. -/
def readBack (stored : StoredSettings) : SettingsMap :=
  fun k => (stored.lookup k).bind fun v => SettingValue.accept k.kind v.json

theorem accept_lookup_members (stored : StoredSettings) (k : SettingKey) :
    (stored.members.lookup k.name).bind (SettingValue.accept k.kind) = stored.readBack k := by
  rw [lookup_members, Option.bind_map]
  rfl

theorem readBack_defaults : readBack defaults = fun k => defaults.lookup k := by
  funext k
  cases k <;> decide +kernel

-- Of settings that were read before, one is set and the others stay as they were.
theorem readBack_set (typed : ∀ k v, m k = some v → SettingValue.accept k.kind v.json = some v) :
    readBack ((ofMap m).set key value) = Function.update m key (SettingValue.accept key.kind value.json) := by
  funext k
  rw [readBack, lookup_set]
  by_cases same : k = key
  · subst same
    simp
  · rw [if_neg same, lookup_ofMap, Function.update_of_ne same]
    cases found : m k with
    | none => rfl
    | some v => exact typed k v found

end StoredSettings

end Wheelhouse
