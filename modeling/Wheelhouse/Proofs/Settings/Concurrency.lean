import Wheelhouse.Proofs.Publish.Report
import Wheelhouse.Proofs.Settings.History
import Wheelhouse.Request.Run
import Wheelhouse.Settings.Effective

/-!
The number of workers that the settings give. Whatever the file holds and the environment says, it is finite and
greater than zero; the workers take it exactly if it is whole, and without that no publication and no transfer of
a cache entry succeeds.
-/

set_option autoImplicit false

namespace Wheelhouse

/-! ### The settings that hold -/

namespace Settings

variable {m : SettingsMap} {k : SettingKey}

theorem lookup_foldl_setMember {members base : Members} (nodup : (members.map Prod.fst).Nodup) (name : String) :
    (members.foldl (fun all m => Json.setMember m.1 m.2 all) base).lookup name =
      (members.lookup name).or (base.lookup name) := by
  induction members generalizing base with
  | nil => rfl
  | cons m members ih =>
    rw [List.map_cons, List.nodup_cons] at nodup
    rw [List.foldl_cons, ih nodup.2, Json.lookup_setMember]
    obtain ⟨other, value⟩ := m
    by_cases same : name = other
    · subst same
      have absent : members.lookup name = none := by
        rw [List.lookup_eq_none_iff]
        intro later inside
        exact bne_iff_ne.2 fun same => nodup.1 (List.mem_map.2 ⟨later, inside, same.symm⟩)
      simp [absent]
    · simp [List.lookup_cons, beq_false_of_ne same, same]

theorem lookup_override {name : String} {environment : List (String × String)} {settings : Members}
    {source : String × SettingKey} (other : source.2.name ≠ name) :
    (override environment settings source).lookup name = settings.lookup name := by
  unfold override
  split
  · split_ifs
    · rfl
    · rw [Json.lookup_setMember, if_neg other.symm]
  · rfl

-- A setting that no variable replaces is the stored one, or else the usual one.
theorem lookup_merge (m : SettingsMap) (environment : List (String × String)) (free : k ∉ sources.map Prod.snd) :
    (merge (StoredSettings.ofMap m).members environment).lookup k.name =
      ((m k).or (StoredSettings.defaults.lookup k)).map SettingValue.json := by
  have overridden (environment : List (String × String)) (settings : Members) :
      ∀ names ⊆ sources, (names.foldl (override environment) settings).lookup k.name = settings.lookup k.name := by
    intro names
    induction names generalizing settings with
    | nil => exact fun _ => rfl
    | cons source names ih =>
      intro inside
      rw [List.cons_subset] at inside
      rw [List.foldl_cons, ih _ inside.2, lookup_override]
      intro same
      exact free (List.mem_map.2 ⟨source, inside.1, SettingKey.name_injective same⟩)
  have other : k.name ≠ "forceRebuild" := by cases k <;> decide
  have nodup := StoredSettings.nodup_names (StoredSettings.nodup_keys_ofMap m)
  unfold merge
  simp only
  rw [overridden _ _ _ (List.Subset.refl _), Json.lookup_setMember, if_neg other, lookup_foldl_setMember nodup,
    StoredSettings.lookup_members, StoredSettings.lookup_members, StoredSettings.lookup_ofMap, Option.map_or]

end Settings

/-! ### Workers -/

namespace Workers

theorem check_finite_iff {q : ℚ} (positive : 0 < q) : check (.finite q) = .ok () ↔ ∃ n : ℕ, q = n := by
  have good : isGood (.finite q) = true ↔ q.den = 1 ∧ 1 ≤ q.num := by simp [isGood]
  have whole : (q.den = 1 ∧ 1 ≤ q.num) ↔ ∃ n : ℕ, q = n := by
    constructor
    · rintro ⟨denominator, numerator⟩
      refine ⟨q.num.toNat, ?_⟩
      have value : (q.num.toNat : ℤ) = q.num := Int.toNat_of_nonneg (by omega)
      rw [← Int.cast_natCast, value]
      exact ((Rat.den_eq_one_iff q).1 denominator).symm
    · rintro ⟨n, rfl⟩
      have filled : 0 < n := by exact_mod_cast positive
      exact ⟨Rat.den_natCast n, by rw [Rat.num_natCast]; omega⟩
  rw [← whole, ← good, check]
  split <;> simp_all

end Workers

namespace Cache

variable {remote : Remote} {options : CacheOptions} {key : String} {folder : Path} {w v : Workspace}

theorem check_of_download {p : Path} (ran : download remote options key folder w = .ok p v) :
    Workers.check (workers options) = .ok () := by
  unfold download at ran
  obtain ⟨entry, _, _, ran⟩ := Job.bind_ok_iff.1 ran
  obtain ⟨there, u, _, ran⟩ := Job.bind_ok_iff.1 ran
  simp only at ran
  split_ifs at ran
  · obtain ⟨text, _, _, ran⟩ := Job.bind_ok_iff.1 ran
    obtain ⟨files, _, _, ran⟩ := Job.bind_ok_iff.1 ran
    cases strays : files.find? fun file => !staysInside folder file with
    | some file =>
      rw [strays] at ran
      cases ran
    | none =>
      rw [strays] at ran
      obtain ⟨_, _, _, ran⟩ := Job.bind_ok_iff.1 ran
      obtain ⟨_, _, checked, _⟩ := Job.bind_ok_iff.1 ran
      exact (Job.ofExcept_ok_iff.1 checked).1
  · cases ran

theorem check_of_upload {r : CacheUpload} (ran : upload remote options key folder w = .ok r v) :
    Workers.check (workers options) = .ok () := by
  unfold upload at ran
  obtain ⟨entry, _, _, ran⟩ := Job.bind_ok_iff.1 ran
  obtain ⟨there, _, _, ran⟩ := Job.bind_ok_iff.1 ran
  simp only at ran
  split_ifs at ran
  · obtain ⟨files, _, _, ran⟩ := Job.bind_ok_iff.1 ran
    obtain ⟨_, _, checked, _⟩ := Job.bind_ok_iff.1 ran
    exact (Job.ofExcept_ok_iff.1 checked).1
  · cases ran

end Cache

namespace Publish

theorem check_of_run {wheels index : Path} {remote : Remote} {scope : PublishScope} {options : PublishOptions}
    {w v : Workspace} {r : PublishResult} (wet : options.dryRun = false)
    (ran : run wheels index remote scope options w = .ok r v) : Workers.check options.workers = .ok () := by
  rw [run_eq] at ran
  obtain ⟨plans, u, prepared, _⟩ := Job.bind_ok_iff.1 ran
  obtain ⟨_, _, _, _, good, _⟩ := prepare_ok_iff.1 prepared
  rw [wet] at good
  exact check_of_isGood (good.resolve_left Bool.false_ne_true)

end Publish

namespace SettingsFile

open SettingsCall

theorem uploadConcurrency_load (m : SettingsMap) (environment : List (String × String)) :
    (Settings.load (.ofMap m) environment).uploadConcurrency =
      match m .uploadConcurrency with
      | some (.number n) => n
      | some _ => .undefined
      | none => .finite 8 := by
  have free : SettingKey.uploadConcurrency ∉ Settings.sources.map Prod.snd := by decide
  have eight : StoredSettings.defaults.lookup .uploadConcurrency = some (.number (.finite 8)) := by decide +kernel
  unfold Settings.load Settings.ofMembers
  simp only [Settings.lookup_merge m environment free, eight]
  cases m .uploadConcurrency with
  | none => rfl
  | some v => cases v <;> rfl

theorem uploadConcurrency_of_number {m : SettingsMap} {q : ℚ}
    (number : (m .uploadConcurrency).getD (.number (.finite 8)) = .number (.finite q))
    (environment : List (String × String)) : (Settings.load (.ofMap m) environment).uploadConcurrency = .finite q := by
  rw [uploadConcurrency_load]
  cases there : m .uploadConcurrency <;> rw [there] at number <;> cases number <;> rfl

/-- What the file holds under the key is a positive number. -/
theorem positive_of_held {file : SettingsFile} {d : Disk} {v : SettingValue}
    (there : file.held d .uploadConcurrency = some v) : ∃ q, v = .number (.finite q) ∧ 0 < q := by
  have accepted := accept_held there
  cases v with
  | text s => cases accepted
  | flag b => cases accepted
  | number n =>
    have good : (n.isFinite && n.isPositive) = true := by
      by_contra bad
      simp [SettingValue.accept, SettingValue.json, SettingKey.kind, bad] at accepted
    cases n with
    | finite q => exact ⟨q, rfl, by simpa [Number.isFinite, Number.isPositive] using good⟩
    | infinite negative => cases good
    | undefined => cases good

theorem exists_positive (file : SettingsFile) (d : Disk) : ∃ q,
    (file.held d .uploadConcurrency).getD (.number (.finite 8)) = .number (.finite q) ∧ 0 < q := by
  cases there : file.held d .uploadConcurrency with
  | none => exact ⟨8, rfl, by norm_num⟩
  | some v =>
    obtain ⟨q, rfl, positive⟩ := positive_of_held there
    exact ⟨q, rfl, positive⟩

/-- Over every history and in every environment the number of workers is finite and greater than zero: the stored
number, or eight. The workers take it exactly if it is whole; otherwise no transfer of a cache entry and no
publication succeeds. -/
theorem workers_after_calls (file : SettingsFile) (w : Workspace) (calls : List SettingsCall)
    (environment : List (String × String)) :
    ∃ stored v q, file.read (after file w calls) = .ok stored v ∧
      (Settings.load stored environment).uploadConcurrency = .finite q ∧ 0 < q ∧
      (stored.lookup .uploadConcurrency).getD (.number (.finite 8)) = .number (.finite q) ∧
      (Workers.check (.finite q) = .ok () ↔ ∃ n : ℕ, q = n) ∧
      ((∃ n : ℕ, q = n) ∨
        (∀ remote key folder u p u', Cache.download remote (Request.transfer (Settings.load stored environment)) key
          folder u ≠ .ok p u') ∧
        (∀ remote key folder u r u', Cache.upload remote (Request.transfer (Settings.load stored environment)) key
          folder u ≠ .ok r u') ∧
        ∀ wheels index remote scope options u r u',
          options.workers = (Settings.load stored environment).uploadConcurrency → options.dryRun = false →
            Publish.run wheels index remote scope options u ≠ .ok r u') := by
  obtain ⟨v, read, _⟩ := file.read_run (after file w calls)
  obtain ⟨q, number, positive⟩ := exists_positive file (after file w calls).disk
  generalize file.held (after file w calls).disk = m at read number
  have loaded := uploadConcurrency_of_number number environment
  have given : Cache.workers (Request.transfer (Settings.load (.ofMap m) environment)) = .finite q := by
    rw [Request.transfer, loaded, Cache.workers]
    exact if_neg positive.ne'
  refine ⟨_, v, q, read, loaded, positive, ?_, Workers.check_finite_iff positive, ?_⟩
  · rw [StoredSettings.lookup_ofMap]
    exact number
  · rw [← Workers.check_finite_iff positive]
    by_cases good : Workers.check (.finite q) = .ok ()
    · exact .inl good
    · refine .inr ⟨fun remote key folder u p u' ran => ?_, fun remote key folder u r u' ran => ?_, ?_⟩
      · exact good (given ▸ Cache.check_of_download ran)
      · exact good (given ▸ Cache.check_of_upload ran)
      · intro wheels index remote scope options u r u' workers wet ran
        have checked := Publish.check_of_run wet ran
        rw [workers, loaded] at checked
        exact good checked

-- A fraction is stored, and no cache entry is uploaded with it.
theorem workers_after_fraction : ∃ stored v, sample.read (after sample bare [.set "uploadConcurrency" "1.5"]) = .ok stored v ∧
    stored = [(.uploadConcurrency, .number (.finite (3 / 2)))] ∧
      ∀ remote key folder u r u',
        Cache.upload remote (Request.transfer (Settings.load stored [])) key folder u ≠ .ok r u' := by
  have wholeCalls : ∀ call ∈ [SettingsCall.set "uploadConcurrency" "1.5"], call.IsWhole := by
    intro call member
    rw [List.mem_singleton] at member
    subst member
    have single : Text.IsSingle "1.5" := by decide
    exact Text.isWhole_of_half?_eq_none single
  obtain ⟨_, held, _⟩ := after_run permits_sample isWhole_sample wholeCalls
  obtain ⟨v', read', _⟩ := sample.read_run (after sample bare [.set "uploadConcurrency" "1.5"])
  have same : StoredSettings.ofMap (fold (sample.held bare.disk) [.set "uploadConcurrency" "1.5"]) =
      [(.uploadConcurrency, .number (.finite (3 / 2)))] := by
    decide +kernel
  rw [held, same] at read'
  obtain ⟨stored, v, q, read, _, _, number, _, refused⟩ :=
    workers_after_calls sample bare [.set "uploadConcurrency" "1.5"] []
  rw [read'] at read
  cases read
  have fraction : ¬∃ n : ℕ, q = n := by
    rintro ⟨n, rfl⟩
    have value : (3 / 2 : ℚ) = n := by simpa using number
    have denominator := congrArg Rat.den value
    rw [Rat.den_natCast] at denominator
    revert denominator
    decide +kernel
  exact ⟨_, _, read', rfl, (refused.resolve_left fraction).2.1⟩

end SettingsFile

end Wheelhouse
