import Wheelhouse.Proofs.Disk.Containment
import Wheelhouse.Proofs.Disk.Jobs
import Wheelhouse.Proofs.Settings.Flag
import Wheelhouse.Proofs.Settings.Stored

/-!
The settings file over a history of calls. A call that is accepted changes the map that the file holds as the
call says, and a call that is refused leaves the disk as it is; so what is read after any calls is what they
make of the map that was held before them.
-/

set_option autoImplicit false

namespace Wheelhouse

/-- Whether all texts of a map are texts of code units. -/
def SettingsMap.IsWhole (m : SettingsMap) : Prop := ∀ k s, m k = some (.text s) → Text.IsWhole s.toList

/-! ### What the file holds -/

namespace SettingsFile

variable {file : SettingsFile} {stored : StoredSettings} {w : Workspace}

-- The members in the file; a file that is missing, cannot be read or has no object in it has none.
def found (file : SettingsFile) (d : Disk) : Members :=
  if d.has file.path then
    match d.readFile file.path with
    | .ok bytes =>
      match Json.parse (withoutMark (Text.decode bytes)) with
      | .ok (.object members) => members
      | _ => []
    | .error _ => []
  else []

/-- The map that the file holds on a disk. -/
def held (file : SettingsFile) (d : Disk) : SettingsMap :=
  fun k => ((file.found d).lookup k.name).bind (SettingValue.accept k.kind)

theorem ofMap_held (d : Disk) : StoredSettings.ofMap (file.held d) = StoredSettings.ofMembers (file.found d) := rfl

theorem readData_run (p : Path) (w : Workspace) : readData p w =
    match w.disk.readFile p with
    | .error e => .error (.disk e) w
    | .ok bytes =>
      match Json.parse (withoutMark (Text.decode bytes)) with
      | .ok v => .ok v w
      | .error fault => .error (.notJson (some p.text) (withoutMark (Text.decode bytes)) fault) w := by
  unfold readData
  cases read : w.disk.readFile p with
  | error e =>
    have failed : Job.readText p w = .error (.disk e) w := Job.bind_error (Job.look_error_iff.2 ⟨e, read, rfl, rfl⟩)
    rw [Job.bind_error failed]
  | ok bytes =>
    have ran : Job.readText p w = .ok (Text.decode bytes) w := Job.readText_ok_iff.2 ⟨bytes, read, rfl, rfl⟩
    rw [Job.bind_ok ran]
    simp only
    cases Json.parse (withoutMark (Text.decode bytes)) <;> rfl

theorem ofJson_eq (v : Json) : StoredSettings.ofJson v =
    StoredSettings.ofMembers (match v with | .object members => members | _ => []) := by
  cases v <;> rfl

-- What is reported on the way is no change of the disk.
theorem read_of_error {e : Failure} (there : w.disk.has file.path = true) (failed : readData file.path w = .error e w) :
    ∃ v, file.read w = .ok [] v ∧ v.disk = w.disk := by
  unfold read
  rw [Job.bind_ok (Job.has_run file.path w), if_pos there, Job.bind_ok (Job.outcome_error failed)]
  exact ⟨_, rfl, rfl⟩

theorem read_of_ok {v : Json} (there : w.disk.has file.path = true) (ran : readData file.path w = .ok v w) :
    file.read w = .ok (StoredSettings.ofJson v) w := by
  unfold read
  rw [Job.bind_ok (Job.has_run file.path w), if_pos there, Job.bind_ok (Job.outcome_ok ran)]
  rfl

/-- Reading always succeeds, gives the map that the file holds, and leaves the disk as it is. -/
theorem read_run (file : SettingsFile) (w : Workspace) :
    ∃ v, file.read w = .ok (StoredSettings.ofMap (file.held w.disk)) v ∧ v.disk = w.disk := by
  rw [ofMap_held]
  unfold found
  by_cases there : w.disk.has file.path = true
  · rw [if_pos there]
    have data := readData_run file.path w
    cases read : w.disk.readFile file.path with
    | error e =>
      rw [read] at data
      exact read_of_error there data
    | ok bytes =>
      rw [read] at data
      simp only at data ⊢
      cases parsed : Json.parse (withoutMark (Text.decode bytes)) with
      | error fault =>
        rw [parsed] at data
        exact read_of_error there data
      | ok v =>
        rw [parsed] at data
        refine ⟨w, ?_, rfl⟩
        rw [read_of_ok there data, ofJson_eq]
        cases v <;> rfl
  · rw [if_neg there]
    refine ⟨w, ?_, rfl⟩
    unfold read
    rw [Job.bind_ok (Job.has_run file.path w), if_neg there]
    rfl

/-! ### Writing -/

/-- Whether the disk lets the file be written: its folder is there or can be made, and takes the file. -/
def Permits (file : SettingsFile) (d : Disk) : Prop :=
  ∃ d', Disk.ensureFolder file.path.parent d = .ok () d' ∧ d'.takes file.path = true ∧ file.path.namesFile = true

-- A path that takes a file has only names, and no slash at its end.
theorem bare_of_namesFile {p : Path} (names : p.namesFile = true) : p.bare = p ∧ p.isFarTooLong = false := by
  simp only [Path.namesFile, Bool.and_eq_true, Bool.not_eq_true'] at names
  obtain ⟨⟨⟨unmarked, _⟩, near⟩, _⟩ := names
  exact ⟨Path.bare_of_not_isMarked unmarked, near⟩

theorem permits_put {d : Disk} {contents : ByteArray} (takes : d.takes file.path = true)
    (names : file.path.namesFile = true) : file.Permits (d.put file.path (.file contents)) := by
  obtain ⟨bare, near⟩ := bare_of_namesFile names
  obtain ⟨filled, parent, _, named⟩ := Disk.takes_iff.1 takes
  have put := Disk.find?_put (e := .file contents) takes
  have apart : file.path.dropLast ≠ file.path := by
    intro same
    have lengths := congrArg List.length same
    have positive := List.length_pos_iff.2 filled
    rw [List.length_dropLast] at lengths
    omega
  have folder : (d.put file.path (.file contents)).find? file.path.dropLast = some .folder := by
    rw [put, if_neg apart]
    exact Disk.isFolder_iff.1 parent
  have here : (d.put file.path (.file contents)).find? file.path = some (.file contents) := by
    rw [put, if_pos rfl]
  refine ⟨d.put file.path (.file contents), ?_, ?_, names⟩
  · rw [Path.parent, bare]
    rcases Disk.ensureFolder_of_isFolder folder with made | ⟨x, _, far⟩
    · exact made
    · rw [Path.isFarTooLong_above (List.dropLast_prefix _) near] at far
      cases far
  · refine Disk.takes_iff.2 ⟨filled, Disk.isFolder_iff.2 folder, ?_, named⟩
    rw [Disk.isFolder, here]

theorem write_run (permits : file.Permits w.disk) (stored : StoredSettings) :
    ∃ v, file.write stored w = .ok () v ∧ file.Permits v.disk ∧
      v.disk.find? file.path = some (.file (Text.encode ((Json.object stored.members).page ++ "\n"))) := by
  obtain ⟨d, made, takes, names⟩ := permits
  generalize contents : Text.encode ((Json.object stored.members).page ++ "\n") = bytes
  have folder : Job.ensureFolder file.path.parent w = .ok () { w with disk := d } :=
    Job.change_ok_iff.2 ⟨d, made, rfl⟩
  have written : d.writeFile file.path bytes = .ok (d.put file.path (.file bytes)) := by
    rw [Disk.writeFile, takes, names]
    rfl
  refine ⟨{ w with disk := d.put file.path (.file bytes) }, ?_, permits_put takes names, ?_⟩
  · rw [write, Job.bind_ok folder]
    exact Job.writeText_ok_iff.2 ⟨_, contents ▸ written, rfl⟩
  · rw [Disk.find?_put takes, if_pos rfl]

-- An object is written with a bracket first, so no mark is taken off.
theorem withoutMark_page (members : Members) (ending : String) :
    withoutMark ((Json.object members).page ++ ending) = (Json.object members).page ++ ending := by
  have start : ∃ more, ((Json.object members).page ++ ending).toList = '\x7b' :: more := by
    rw [String.toList_append, Json.page, String.toList_ofList, Json.indented, Json.block]
    split <;> exact ⟨_, rfl⟩
  obtain ⟨more, start⟩ := start
  rw [withoutMark, start]
  split
  · rename_i mark
    cases mark
  · rfl

/-- What has been written is read back. -/
theorem held_of_written {d : Disk} (sound : stored.IsSound)
    (written : d.find? file.path = some (.file (Text.encode ((Json.object stored.members).page ++ "\n")))) :
    file.held d = stored.readBack := by
  have plain : file.path.IsPlain := Disk.isPlain_of_find? (by rw [written]; simp)
  have there : d.has file.path = true := by
    rw [Disk.has_of_isPlain plain, written]
    rfl
  have read : d.readFile file.path = .ok (Text.encode ((Json.object stored.members).page ++ "\n")) := by
    rw [Disk.readFile, Disk.at?_of_isPlain plain, written]
  have parsed := Json.parse_page_append sound.isLegible "\n" (by simp [Json.isSpace])
  have members : file.found d = stored.members := by
    rw [found, if_pos there, read]
    simp only [Text.decode_encode, withoutMark_page, parsed]
  funext k
  rw [held, members, StoredSettings.accept_lookup_members]

/-! ### What is held can be written -/

theorem hasForm_of_held {d : Disk} {k : SettingKey} {n : Number} (number : file.held d k = some (.number n)) : n.HasForm := by
  obtain ⟨j, member, accepted⟩ := Option.bind_eq_some_iff.1 number
  obtain ⟨finite, rfl⟩ := SettingValue.of_accept_number accepted
  obtain ⟨before, later, split, _⟩ := List.lookup_eq_some_iff.1 member
  have inside : (k.name, Json.number n) ∈ file.found d := by
    rw [split]
    simp
  unfold found at inside
  split_ifs at inside
  · split at inside
    · split at inside
      · rename_i parsed
        exact Json.formed_of_parse parsed _ inside n rfl finite
      · cases inside
    · cases inside
  · cases inside

theorem accept_held {d : Disk} {k : SettingKey} {v : SettingValue} (there : file.held d k = some v) :
    SettingValue.accept k.kind v.json = some v := by
  obtain ⟨j, _, accepted⟩ := Option.bind_eq_some_iff.1 there
  exact SettingValue.accept_json accepted

theorem isSound_held {d : Disk} (whole : (file.held d).IsWhole) : (StoredSettings.ofMap (file.held d)).IsSound := by
  apply StoredSettings.isSound_ofMap
  intro k v there
  cases v with
  | text s => exact whole k s there
  | number n => exact hasForm_of_held there
  | flag b => trivial

end SettingsFile

/-! ### Calls -/

/-- What is asked of the settings file. -/
inductive SettingsCall where
  | set (name value : String)
  | reset

namespace SettingKey

/-- What a text makes of a setting: nothing, if it is refused; otherwise the setting is removed or set. -/
def coerce? (key : SettingKey) (text : String) : Option (Option SettingValue) :=
  match key.kind with
  | .text => some (if text = "" then none else some (.text text))
  | .flag => some (some (.flag (SettingValue.isTrue text)))
  | .number =>
    let n := Number.ofText text
    if n.isFinite && n.isPositive then some (some (.number n)) else none

-- What is made of a text is what is read of the value that the text is stored as.
theorem coerce?_eq_some {key : SettingKey} {text : String} {r : Option SettingValue}
    (coerced : key.coerce? text = some r) :
    ∃ v, SettingsFile.readValue key text = .ok v ∧ SettingValue.accept key.kind v.json = r ∧
      (Text.IsWhole text.toList → v.IsWritable) := by
  unfold coerce? at coerced
  unfold SettingsFile.readValue
  cases kind : key.kind with
  | text =>
    rw [kind] at coerced
    cases coerced
    exact ⟨.text text, rfl, rfl, id⟩
  | flag =>
    rw [kind] at coerced
    cases coerced
    exact ⟨.flag _, rfl, rfl, fun _ => trivial⟩
  | number =>
    rw [kind] at coerced
    simp only [Option.ite_none_right_eq_some, Option.some.injEq] at coerced
    obtain ⟨good, rfl⟩ := coerced
    refine ⟨.number (Number.ofText text), if_pos good, ?_, fun _ => ?_⟩
    · exact if_pos good
    · exact Number.hasForm_ofText (Bool.and_eq_true _ _ ▸ good).1

theorem text_of_coerce? {key : SettingKey} {text s : String} {r : Option SettingValue}
    (coerced : key.coerce? text = some r) (there : r = some (.text s)) : s = text := by
  subst there
  unfold coerce? at coerced
  split at coerced
  · split_ifs at coerced
    · cases coerced
    · cases coerced
      rfl
  · cases coerced
  · simp only [Option.ite_none_right_eq_some, Option.some.injEq, reduceCtorEq, and_false] at coerced

theorem coerce?_eq_none {key : SettingKey} {text : String} (refused : key.coerce? text = none) :
    ∃ message, SettingsFile.readValue key text = .error (.configuration message none) := by
  unfold coerce? at refused
  unfold SettingsFile.readValue
  cases kind : key.kind with
  | text =>
    rw [kind] at refused
    cases refused
  | flag =>
    rw [kind] at refused
    cases refused
  | number =>
    rw [kind] at refused
    simp only [ite_eq_right_iff, reduceCtorEq, imp_false] at refused
    exact ⟨_, if_neg refused⟩

-- No text is refused for a flag, and four words switch it on.
theorem coerce?_of_flag {key : SettingKey} (kind : key.kind = .flag) (text : String) :
    ∃ on, key.coerce? text = some (some (.flag on)) ∧ (on = true ↔ SettingValue.SwitchesOn text.toList) := by
  refine ⟨SettingValue.isTrue text, ?_, SettingValue.isTrue_iff⟩
  rw [coerce?, kind]

end SettingKey

namespace SettingsCall

/-- What a call does to a map, unless it is refused. -/
def change? (m : SettingsMap) : SettingsCall → Option SettingsMap
  | .set name text => do
    let key ← SettingKey.ofName? name
    let value ← key.coerce? text
    return Function.update m key value
  | .reset => some fun k => StoredSettings.defaults.lookup k

/-- What a history of calls makes of a map; refused calls change nothing. -/
def fold (m : SettingsMap) (calls : List SettingsCall) : SettingsMap :=
  calls.foldl (fun m call => (call.change? m).getD m) m

def IsWhole : SettingsCall → Prop
  | .set _ text => Text.IsWhole text.toList
  | .reset => True

def perform (file : SettingsFile) : SettingsCall → Job Unit
  | .set name text => file.set name text
  | .reset => file.reset

/-- The workspace after calls, each of which may have failed. -/
def after (file : SettingsFile) (w : Workspace) (calls : List SettingsCall) : Workspace :=
  calls.foldl (fun w call => final (call.perform file) w) w

variable {file : SettingsFile} {w : Workspace} {m : SettingsMap}

theorem perform_reset (permits : file.Permits w.disk) :
    ∃ v, perform file .reset w = .ok () v ∧ file.Permits v.disk ∧
      file.held v.disk = fun k => StoredSettings.defaults.lookup k := by
  obtain ⟨v, ran, permits', written⟩ := SettingsFile.write_run permits .defaults
  refine ⟨v, ran, permits', ?_⟩
  rw [SettingsFile.held_of_written StoredSettings.isSound_defaults written, StoredSettings.readBack_defaults]

theorem perform_set {name text : String} {key : SettingKey} {value : Option SettingValue}
    (permits : file.Permits w.disk) (whole : (file.held w.disk).IsWhole) (wholeText : Text.IsWhole text.toList)
    (known : SettingKey.ofName? name = some key) (coerced : key.coerce? text = some value) :
    ∃ v, perform file (.set name text) w = .ok () v ∧ file.Permits v.disk ∧
      file.held v.disk = Function.update (file.held w.disk) key value := by
  obtain ⟨v, typed, accepted, writable⟩ := SettingKey.coerce?_eq_some coerced
  obtain ⟨u, read, same⟩ := file.read_run w
  have sound : ((StoredSettings.ofMap (file.held w.disk)).set key v).IsSound :=
    (file.isSound_held whole).set (writable wholeText)
  obtain ⟨u', ran, permits', written⟩ := SettingsFile.write_run (same ▸ permits)
    ((StoredSettings.ofMap (file.held w.disk)).set key v)
  refine ⟨u', ?_, permits', ?_⟩
  · rw [perform, SettingsFile.set, known]
    simp only
    rw [Job.bind_ok read, Job.bind_ok (Job.ofExcept_ok_iff.2 ⟨typed, rfl⟩)]
    exact ran
  · rw [SettingsFile.held_of_written sound written, StoredSettings.readBack_set fun _ _ => SettingsFile.accept_held,
      accepted]

theorem perform_refused {name text : String} (refused : change? (file.held w.disk) (.set name text) = none) :
    ∃ message v, perform file (.set name text) w = .error (.configuration message none) v ∧ v.disk = w.disk := by
  rw [perform, SettingsFile.set]
  cases known : SettingKey.ofName? name with
  | none => exact ⟨_, w, rfl, rfl⟩
  | some key =>
    obtain ⟨v, read, same⟩ := file.read_run w
    have coerced : key.coerce? text = none := by
      cases coerced : key.coerce? text with
      | none => rfl
      | some value => simp [change?, known, coerced] at refused
    obtain ⟨message, failed⟩ := SettingKey.coerce?_eq_none coerced
    refine ⟨message, v, ?_, same⟩
    simp only
    rw [Job.bind_ok read, Job.bind_error (Job.ofExcept_error_iff.2 ⟨failed, rfl⟩)]

/-- A call that is accepted changes the map as it says, and one that is refused leaves the disk as it is. -/
theorem perform_run (permits : file.Permits w.disk) (whole : (file.held w.disk).IsWhole) (call : SettingsCall)
    (wholeCall : call.IsWhole) :
    match call.change? (file.held w.disk) with
    | some m => ∃ v, call.perform file w = .ok () v ∧ file.Permits v.disk ∧ file.held v.disk = m
    | none => ∃ message v, call.perform file w = .error (.configuration message none) v ∧ v.disk = w.disk := by
  cases call with
  | reset => exact perform_reset permits
  | set name text =>
    cases applied : change? (file.held w.disk) (.set name text) with
    | none => exact perform_refused applied
    | some m =>
      simp only [change?, Option.bind_eq_bind, Option.bind_eq_some_iff] at applied
      obtain ⟨key, known, value, coerced, updated⟩ := applied
      cases updated
      exact perform_set permits whole wholeCall known coerced

theorem isWhole_of_change? {m m' : SettingsMap} {call : SettingsCall} (whole : m.IsWhole) (wholeCall : call.IsWhole)
    (applied : call.change? m = some m') : m'.IsWhole := by
  intro k s there
  cases call with
  | reset =>
    cases applied
    obtain ⟨before, later, split, _⟩ := List.lookup_eq_some_iff.1 there
    have inside : (k, SettingValue.text s) ∈ StoredSettings.defaults := by
      rw [split]
      simp
    exact StoredSettings.isSound_defaults.writable _ inside
  | set name text =>
    simp only [change?, Option.bind_eq_bind, Option.bind_eq_some_iff] at applied
    obtain ⟨key, _, value, coerced, updated⟩ := applied
    cases updated
    by_cases same : k = key
    · subst same
      rw [Function.update_self] at there
      rw [SettingKey.text_of_coerce? coerced there]
      exact wholeCall
    · rw [Function.update_of_ne same] at there
      exact whole k s there

-- What holds before a call holds after it, whether it is accepted or refused.
theorem final_perform (permits : file.Permits w.disk) (whole : (file.held w.disk).IsWhole) {call : SettingsCall}
    (wholeCall : call.IsWhole) :
    file.Permits (final (call.perform file) w).disk ∧
      file.held (final (call.perform file) w).disk = (call.change? (file.held w.disk)).getD (file.held w.disk) ∧
      (file.held (final (call.perform file) w).disk).IsWhole := by
  have ran := perform_run permits whole call wholeCall
  cases applied : call.change? (file.held w.disk) with
  | none =>
    rw [applied] at ran
    obtain ⟨message, v, failed, same⟩ := ran
    rw [final_error failed, same]
    exact ⟨permits, rfl, whole⟩
  | some m =>
    rw [applied] at ran
    obtain ⟨v, ran, permits', held⟩ := ran
    rw [final_ok ran, held]
    exact ⟨permits', rfl, isWhole_of_change? whole wholeCall applied⟩

theorem after_run (permits : file.Permits w.disk) (whole : (file.held w.disk).IsWhole) {calls : List SettingsCall}
    (wholeCalls : ∀ call ∈ calls, call.IsWhole) :
    file.Permits (after file w calls).disk ∧ file.held (after file w calls).disk = fold (file.held w.disk) calls ∧
      (file.held (after file w calls).disk).IsWhole := by
  induction calls generalizing w with
  | nil => exact ⟨permits, rfl, whole⟩
  | cons call calls ih =>
    obtain ⟨permits', held, whole'⟩ := final_perform permits whole (wholeCalls call List.mem_cons_self)
    have later := ih permits' whole' fun c inside => wholeCalls c (List.mem_cons_of_mem _ inside)
    rw [held] at later
    exact later

end SettingsCall

namespace SettingsFile

open SettingsCall

/-! ### A file that is not there yet -/

def sample : SettingsFile := ⟨"settings.json", ["settings.json"]⟩

-- A world with nothing in it.
def bare : Workspace := ⟨.empty, [], [], [], [], 0⟩

theorem permits_sample : sample.Permits bare.disk := by
  refine ⟨.empty, ?_, by decide, by decide⟩
  rcases Disk.ensureFolder_of_isFolder (d := .empty) (p := []) Disk.find?_nil with made | ⟨x, _, far⟩
  · exact made
  · exact absurd far (by decide)

theorem isWhole_sample : (sample.held bare.disk).IsWhole := by
  have none (k : SettingKey) : sample.held bare.disk k = none := rfl
  intro k s there
  rw [none] at there
  cases there

/-! ### Histories -/

/-- The settings file is a typed map over every history of calls: what is read after calls is what they make of
the map that was read before them; a further call is accepted and changes that map as it says, or is refused
with a configuration error and leaves the disk as it is. -/
theorem read_after_calls (file : SettingsFile) (w : Workspace) (permits : file.Permits w.disk)
    (whole : (file.held w.disk).IsWhole) (calls : List SettingsCall) (wholeCalls : ∀ call ∈ calls, call.IsWhole) :
    (∃ v, file.read w = .ok (.ofMap (file.held w.disk)) v ∧ v.disk = w.disk) ∧
      (∃ v, file.read (after file w calls) = .ok (.ofMap (fold (file.held w.disk) calls)) v ∧
        v.disk = (after file w calls).disk) ∧
      ∀ call : SettingsCall, call.IsWhole →
        match call.change? (fold (file.held w.disk) calls) with
        | some m => ∃ v u, call.perform file (after file w calls) = .ok () v ∧ file.read v = .ok (.ofMap m) u
        | none => ∃ message v, call.perform file (after file w calls) = .error (.configuration message none) v ∧
            v.disk = (after file w calls).disk := by
  obtain ⟨permits', held, whole'⟩ := after_run permits whole wholeCalls
  refine ⟨file.read_run w, ?_, fun call wholeCall => ?_⟩
  · rw [← held]
    exact file.read_run _
  · have ran := perform_run permits' whole' call wholeCall
    rw [held] at ran
    cases applied : call.change? (fold (file.held w.disk) calls) with
    | none =>
      rw [applied] at ran
      exact ran
    | some m =>
      rw [applied] at ran
      obtain ⟨v, ran, _, held'⟩ := ran
      obtain ⟨u, read, _⟩ := file.read_run v
      rw [held'] at read
      exact ⟨v, u, ran, read⟩

theorem read_after_three_calls :
    let calls : List SettingsCall := [.set "bucket" "wheels", .set "uploadConcurrency" "12", .set "bucket" ""]
    sample.Permits bare.disk ∧ (sample.held bare.disk).IsWhole ∧ (∀ call ∈ calls, call.IsWhole) ∧
      ∃ v, sample.read (after sample bare calls) = .ok [(.uploadConcurrency, .number (.finite 12))] v := by
  intro calls
  have single {s : String} (single : Text.IsSingle s) : Text.IsWhole s.toList := Text.isWhole_of_half?_eq_none single
  have wholeCalls : ∀ call ∈ calls, call.IsWhole := by
    intro call member
    simp only [calls, List.mem_cons, List.not_mem_nil, or_false] at member
    rcases member with rfl | rfl | rfl
    · exact single (by decide)
    · exact single (by decide)
    · exact single (by decide)
  obtain ⟨_, ⟨v, read, _⟩, _⟩ := read_after_calls sample bare permits_sample isWhole_sample calls wholeCalls
  have same : StoredSettings.ofMap (fold (sample.held bare.disk) calls) = [(.uploadConcurrency, .number (.finite 12))] := by
    decide +kernel
  rw [same] at read
  exact ⟨permits_sample, isWhole_sample, wholeCalls, v, read⟩

end SettingsFile

end Wheelhouse
