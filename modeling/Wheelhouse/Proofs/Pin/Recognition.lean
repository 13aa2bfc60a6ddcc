import Mathlib.Logic.Function.Iterate
import Wheelhouse.Proofs.Json.Page
import Wheelhouse.Proofs.Package.FileName
import Wheelhouse.Proofs.Package.PinLine
import Wheelhouse.Proofs.Pin.LineEnds
import Wheelhouse.Proofs.Settings.History

/-!
Which pins are recognised by later runs. A mapping file is accepted with any names in it. A pin whose name is none
of a package is a line about something else to the next run, which puts it at the start of the file once more.
-/

set_option autoImplicit false

namespace Wheelhouse

namespace Text

-- The lines of a text that is put before another one are the first ones.
theorem fields_append (before text : String) :
    fields (· == '\n') (before ++ "\n" ++ text) = fields (· == '\n') before ++ fields (· == '\n') text := by
  refine fields_eq_iff.2 ⟨by simp [fields_ne_nil], fun f inside => ?_, ?_⟩
  · rcases List.mem_append.1 inside with first | later
    · exact newLine_not_mem_of_mem_fields first
    · exact newLine_not_mem_of_mem_fields later
  · have whole := joined_append "\n" (fields_ne_nil before) (fields_ne_nil text)
    rw [joined_fields, joined_fields] at whole
    exact whole.symm

end Text

namespace RequirementFile

variable {c : Candidate} {text line : String}

/-- The text with the pin of a candidate at its start. -/
def put (c : Candidate) (text : String) : String := Requirement.pin c.name c.version ++ "\n" ++ text

theorem linesOf_append (before text : String) :
    linesOf (before ++ "\n" ++ text) = Text.fields (· == '\n') before ++ linesOf text := by
  have ended : endedLines (before ++ "\n" ++ text) = Text.fields (· == '\n') before ++ endedLines text := by
    rw [endedLines, Text.fields_append, List.dropLast_append_of_ne_nil (Text.fields_ne_nil text), endedLines]
  have final : openLine (before ++ "\n" ++ text) = openLine text := by
    rw [openLine, Text.fields_append, fields_eq text, ← List.append_assoc, List.getLastD_concat]
  rw [(linesOf_eq _).1, (linesOf_eq text).1, ended, final, List.append_assoc]

theorem textOf_cons (line text : String) :
    textOf (line :: linesOf text) (text = "" || endsLine text) = line ++ "\n" ++ text := by
  obtain ⟨lines, ends⟩ := linesOf_eq text
  have whole : Text.joined "\n" ([line] ++ (endedLines text ++ [openLine text])) = line ++ "\n" ++ text := by
    rw [Text.joined_append _ (by simp) (by simp), joined_lines]
    simp [Text.joined, Text.join]
  rw [← whole, lines, ends, textOf]
  by_cases closed : openLine text = ""
  · rw [closed, ← List.append_assoc, Text.joined_concat (by simp)]
    simp
  · simp [closed]

theorem fields_pin {name version : String} (unbroken : '\n' ∉ name.toList)
    (versioned : Archive.isVersion version.toList = true) :
    Text.fields (· == '\n') (Requirement.pin name version) = [Requirement.pin name version] := by
  refine Text.fields_eq_iff.2 ⟨by simp, fun f inside broken => ?_, by simp [Text.joined, Text.join]⟩
  rw [List.mem_singleton.1 inside] at broken
  rcases Requirement.mem_pin broken with first | later
  · exact unbroken first
  · exact (Requirement.isPinChar_of_mem_condition versioned later).ne.1 rfl

section

variable (versioned : Archive.isVersion c.version.toList = true)

include versioned

-- The pin of a candidate asks for the candidate's package just if the package has a name.
theorem asks_own : asks c (Requirement.pin c.name c.version) = PackageName.isName c.name := by
  by_cases named : PackageName.isName c.name = true
  · rw [asks_pin ⟨named, versioned⟩, named, decide_eq_true rfl]
  · rw [Bool.eq_false_iff.2 named, Bool.eq_false_iff]
    intro asked
    obtain ⟨r, read, same⟩ := (Option.any_eq_true _ _).1 asked
    exact named (Requirement.isName_of_parse?_pin versioned read (of_decide_eq_true same))

theorem lineClass_own : lineClass c (Requirement.pin c.name c.version) =
    if PackageName.isName c.name then .exact else .unrelated := by
  have asked := asks_own versioned
  rw [lineClass_eq]
  cases named : PackageName.isName c.name with
  | true => simp [pins_pin ⟨named, versioned⟩]
  | false =>
    rw [named] at asked
    simp [asked, pins_of_not_asks asked]

-- A name with a line end in it makes several lines of a pin, none of which asks for its package.
theorem not_asks_field (unnamed : PackageName.isName c.name = false)
    (inside : line ∈ Text.fields (· == '\n') (Requirement.pin c.name c.version)) : asks c line = false := by
  rw [Bool.eq_false_iff]
  intro asked
  obtain ⟨r, read, same⟩ := (Option.any_eq_true _ _).1 asked
  have plain := PackageName.plain_of_normalize (Requirement.isName_of_parse? read) (of_decide_eq_true same).symm
  have unbroken : '\n' ∉ c.name.toList := fun broken => absurd (plain '\n' broken).1 (by decide)
  rw [fields_pin unbroken versioned, List.mem_singleton] at inside
  rw [inside, asks_own versioned, unnamed] at asked
  cases asked

end

/-- Whether no line of a text asks for the package of a candidate. -/
def IsFree (c : Candidate) (text : String) : Prop := ∀ line ∈ linesOf text, asks c line = false

theorem pin_of_isFree (free : IsFree c text) : (pin text [c]).1 = put c text := by
  have unasked : (linesOf text).filter (asks c) = [] := by
    rw [List.filter_eq_nil_iff]
    intro line inside
    simp [free line inside]
  have marked : markAll [c] (linesOf text) = (linesOf text, [⟨c, [], false⟩]) := by
    simp [markAll, markLines_of_unasked c false unasked]
  rw [put, ← textOf_cons]
  simp [pin, marked, Pinned.line]

theorem pin_put_of_isName (written : IsWritten c) (free : IsFree c text) : (pin (put c text) [c]).1 = put c text := by
  have unbroken : '\n' ∉ c.name.toList := fun broken =>
    (Requirement.isPinChar_of_isNameChar ((PackageName.of_isSpelling written.1).2.2 _ broken)).ne.1 rfl
  have alone : (linesOf (put c text)).filter (asks c) = [Requirement.pin c.name c.version] := by
    have unasked : (linesOf text).filter (asks c) = [] := by
      rw [List.filter_eq_nil_iff]
      intro line inside
      simp [free line inside]
    rw [put, linesOf_append, fields_pin unbroken written.2, List.filter_append, unasked]
    simp [asks_own written.2, written.1]
  have marked : markAll [c] (linesOf (put c text)) = (linesOf (put c text), [⟨c, [], true⟩]) := by
    simp [markAll, markLines_of_single alone (pins_pin written)]
  simp [pin, marked]

theorem isFree_put (versioned : Archive.isVersion c.version.toList = true) (unnamed : PackageName.isName c.name = false)
    (free : IsFree c text) : IsFree c (put c text) := by
  intro line inside
  rw [put, linesOf_append, List.mem_append] at inside
  exact inside.elim (not_asks_field versioned unnamed) (free line)

-- One run after the other puts the pin at the start: once if it is read back, and otherwise each time.
theorem pin_iterate (versioned : Archive.isVersion c.version.toList = true) (free : IsFree c text) (runs : Nat) :
    (fun t => (pin t [c]).1)^[runs] text = (put c)^[if PackageName.isName c.name then min runs 1 else runs] text := by
  cases named : PackageName.isName c.name with
  | true =>
    cases runs with
    | zero => rfl
    | succ runs =>
      rw [Function.iterate_succ_apply, pin_of_isFree free, Function.iterate_fixed (pin_put_of_isName ⟨named, versioned⟩ free)]
      simp
  | false =>
    have grown : (fun t => (pin t [c]).1)^[runs] text = (put c)^[runs] text ∧ IsFree c ((put c)^[runs] text) := by
      induction runs with
      | zero => exact ⟨rfl, free⟩
      | succ runs ih =>
        obtain ⟨same, unasked⟩ := ih
        rw [Function.iterate_succ_apply', Function.iterate_succ_apply', same, pin_of_isFree unasked]
        exact ⟨rfl, isFree_put versioned named unasked⟩
    exact grown.1

end RequirementFile

namespace Mapping

variable {path : Path} {mapping : Mapping} {w w' : Workspace}

theorem ofItems_ok_iff {shown : String} {items : List Json} (index : Nat) :
    ofItems shown index items = .ok mapping ↔ items.map entry? = mapping.map some := by
  induction items generalizing index mapping with
  | nil =>
    cases mapping <;> simp [ofItems, pure, Except.pure]
  | cons item items ih =>
    rw [ofItems]
    cases found : entry? item with
    | none =>
      cases mapping <;> simp [found, throw, throwThe, MonadExceptOf.throw]
    | some e =>
      have rest := @ih
      cases read : ofItems shown (index + 1) items with
      | error x =>
        have none (more : Mapping) : items.map entry? ≠ more.map some := fun same => by
          have made := (ih (index + 1)).2 same
          rw [read] at made
          cases made
        cases mapping with
        | nil => simp [bind, Except.bind]
        | cons d more => simpa [bind, Except.bind, found] using fun _ => none more
      | ok made =>
        have same : items.map entry? = made.map some := (ih (index + 1)).1 read
        cases mapping with
        | nil => simp [bind, Except.bind, pure, Except.pure]
        | cons d more =>
          have inj : made.map some = more.map some ↔ made = more := (List.map_injective_iff.2 (Option.some_injective _)).eq_iff
          simp [bind, Except.bind, pure, Except.pure, found, same, inj]

/-- A mapping file is accepted just if it holds an array of entries whose two texts are not empty. -/
theorem load_ok_iff : load path w = .ok mapping w' ↔
    w.disk.has path = true ∧ ∃ items, readData path w = .ok (.array items) w' ∧ items.map entry? = mapping.map some := by
  unfold load
  rw [Job.bind_ok (Job.has_run _ _)]
  by_cases there : w.disk.has path = true
  · simp only [there, if_true, true_and]
    constructor
    · intro ran
      obtain ⟨v, u, read, ended⟩ := Job.bind_ok_iff.1 ran
      obtain ⟨made, rfl⟩ := Job.ofExcept_ok_iff.1 ended
      cases v with
      | array items => exact ⟨items, read, (ofItems_ok_iff 0).1 made⟩
      | _ => cases made
    · rintro ⟨items, read, same⟩
      exact Job.bind_ok_iff.2 ⟨_, _, read, Job.ofExcept_ok_iff.2 ⟨(ofItems_ok_iff 0).2 same, rfl⟩⟩
  · simp only [there, if_false, false_and, iff_false, Bool.false_eq_true]
    intro ran
    cases ran

/-- The pins of an accepted mapping are read back for the entries whose names are names of packages, and for no
others: those a run takes for lines about something else, and puts them at the start again each time. -/
theorem readsBack_of_load (loaded : load path w = .ok mapping w') :
    (∃ items, readData path w = .ok (.array items) w' ∧ items.map entry? = mapping.map some) ∧
      ∀ e ∈ mapping, ∀ filename a, Archive.parse filename = .ok a →
        (Requirement.ReadsBack e.name a.version ↔ PackageName.isName e.name = true) ∧
        RequirementFile.lineClass ⟨e.name, a.version, filename⟩ (Requirement.pin e.name a.version) =
          (if PackageName.isName e.name then .exact else .unrelated) ∧
        ∀ text, RequirementFile.IsFree ⟨e.name, a.version, filename⟩ text → ∀ runs,
          (fun t => (RequirementFile.pin t [⟨e.name, a.version, filename⟩]).1)^[runs] text =
            (RequirementFile.put ⟨e.name, a.version, filename⟩)^[if PackageName.isName e.name then min runs 1 else runs]
              text := by
  refine ⟨(load_ok_iff.1 loaded).2, fun e _ filename a parsed => ?_⟩
  obtain ⟨_, _, versioned⟩ := Archive.isOf_of_parse parsed
  let c : Candidate := ⟨e.name, a.version, filename⟩
  exact ⟨Requirement.readsBack_iff versioned, RequirementFile.lineClass_own (c := c) versioned,
    fun text free runs => RequirementFile.pin_iterate (c := c) versioned free runs⟩

theorem withoutMark_array (items : List Json) : withoutMark (Json.array items).page = (Json.array items).page := by
  have start : ∃ more, (Json.array items).page.toList = '[' :: more := by
    rw [Json.page, String.toList_ofList, Json.indented, Json.block]
    split <;> exact ⟨_, rfl⟩
  obtain ⟨more, start⟩ := start
  simp [withoutMark, start]

theorem readData_of_file {items : List Json} (legible : Json.IsLegible (.array items))
    (file : w.disk.find? path = some (.file (Text.encode (Json.array items).page))) :
    readData path w = .ok (.array items) w := by
  rw [SettingsFile.readData_run, Disk.readFile_of_find? file]
  simp only [Text.decode_encode, withoutMark_array, Json.parse_page legible]

def item (start name : String) : Json := .object [("prefix", .string start), ("name", .string name)]

def bracketed : Json := .array [item "torch-" "torch", item "foo-" "foo[rocm]"]

-- A world with a mapping file in it.
def mapped : Workspace :=
  ⟨Disk.empty.put ["m.json"] (.file (Text.encode bracketed.page)), [], [], [], [], 0⟩

theorem load_bracketed : load ["m.json"] mapped = .ok [⟨"torch-", "torch"⟩, ⟨"foo-", "foo[rocm]"⟩] mapped := by
  have fits : Disk.empty.takes ["m.json"] = true := by decide
  have file : mapped.disk.find? ["m.json"] = some (.file (Text.encode bracketed.page)) := by
    rw [mapped, Disk.find?_put fits, if_pos rfl]
  have plain := Disk.isPlain_of_find? (d := mapped.disk) (p := ["m.json"]) (by simp [file])
  have there : mapped.disk.has ["m.json"] = true := by rw [Disk.has_of_isPlain plain, file]; rfl
  have whole {s : String} (single : Text.IsSingle s) : Text.IsWhole s.toList := Text.isWhole_of_half?_eq_none single
  have legibleItem {start name : String} (single : Text.IsSingle start) (single' : Text.IsSingle name) :
      Json.IsLegible (item start name) :=
    ⟨by simp, whole (by decide), whole single, whole (by decide), whole single', trivial⟩
  have legible : Json.IsLegible bracketed :=
    ⟨legibleItem (by decide) (by decide), legibleItem (by decide) (by decide), trivial⟩
  exact load_ok_iff.2 ⟨there, _, readData_of_file legible file, by simp [item, entry?, List.lookup_cons]⟩

-- Extras in a name are taken, and the pin with them is put into the file by each run.
theorem readsBack_of_load_bracketed :
    load ["m.json"] mapped = .ok [⟨"torch-", "torch"⟩, ⟨"foo-", "foo[rocm]"⟩] mapped ∧
      ¬Requirement.ReadsBack "foo[rocm]" "1.0" ∧
      (fun t => (RequirementFile.pin t [⟨"foo[rocm]", "1.0", "foo-1.0.zip"⟩]).1)^[2] "" =
        "foo[rocm]==1.0\nfoo[rocm]==1.0\n" := by
  obtain ⟨_, each⟩ := readsBack_of_load load_bracketed
  have other : ¬∃ stem, "foo-1.0.zip" = stem ++ ".whl" := by
    rintro ⟨stem, text⟩
    have ends : ".whl".toList <:+ "foo-1.0.zip".toList := ⟨stem.toList, by rw [text, String.toList_append]⟩
    revert ends
    decide
  have parsed : Archive.parse "foo-1.0.zip" = .ok ⟨"foo-1.0.zip", "foo", "1.0", .sdist⟩ := by
    refine (Archive.parse_of_not_wheel other).2 ⟨".zip", by decide, "foo" ++ "-" ++ "1.0", by decide, ?_⟩
    exact .cut (PackageName.isSpelling_name_iff.1 (by decide)) (Archive.startsWithDigit_iff.1 (by decide))
      (Archive.isVersion_iff.1 (by decide)) (by decide)
  obtain ⟨same, _, runs⟩ := each ⟨"foo-", "foo[rocm]"⟩ (by simp) _ _ parsed
  have unnamed : PackageName.isName "foo[rocm]" = false := by decide
  refine ⟨load_bracketed, fun read => ?_, ?_⟩
  · rw [same.1 read] at unnamed
    cases unnamed
  · have free : RequirementFile.IsFree ⟨"foo[rocm]", "1.0", "foo-1.0.zip"⟩ "" := by
      simp [RequirementFile.IsFree, RequirementFile.linesOf]
    have grown := runs "" free 2
    rw [unnamed, if_neg (by simp)] at grown
    rw [grown]
    simp [RequirementFile.put, Requirement.pin]

end Mapping

end Wheelhouse
