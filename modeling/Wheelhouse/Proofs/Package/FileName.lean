import Mathlib.Data.List.Basic
import Wheelhouse.Pin.Candidate
import Wheelhouse.Proofs.Package.Archive
import Wheelhouse.Proofs.Package.Name
import Wheelhouse.Proofs.Text.Fields

/-!
The grammar of file names of archives. A wheel is told by its fields, a source distribution by what stands
around its last hyphen. However the parts are looked for, a file name falls into them in one way only, and the
reader finds them.
-/

set_option autoImplicit false

namespace Wheelhouse.Archive

def IsVersionText (cs : List Char) : Prop := cs ≠ [] ∧ ∀ c ∈ cs, c.isAlphanum = true ∨ c ∈ ['_', '.', '!', '+']

def StartsWithDigit (cs : List Char) : Prop := ∃ digit rest, cs = digit :: rest ∧ digit.isDigit = true

-- What the fields of a wheel have to be, its build tag apart.
structure AreWheelParts (name version : String) (tags : WheelTags) : Prop where
  named : PackageName.Spelling ['.', '_'] name.toList
  versioned : IsVersionText version.toList
  python : tags.python ≠ ""
  abi : tags.abi ≠ ""
  platform : tags.platform ≠ ""

/-- The wheel that a file name describes by its fields. -/
inductive IsWheelOf (f : String) : List String → Archive → Prop
  | untagged {name version python abi platform : String} (parts : AreWheelParts name version ⟨python, abi, platform⟩) :
      IsWheelOf f [name, version, python, abi, platform] ⟨f, name, version, .wheel none ⟨python, abi, platform⟩⟩
  | tagged {name version build python abi platform : String}
      (parts : AreWheelParts name version ⟨python, abi, platform⟩) (numbered : StartsWithDigit build.toList) :
      IsWheelOf f [name, version, build, python, abi, platform]
        ⟨f, name, version, .wheel (some build) ⟨python, abi, platform⟩⟩

/-- The source distribution that a file name describes by the text before its ending. -/
inductive IsSourceOf (f : String) : String → Archive → Prop
  | cut {name version : String} (named : PackageName.Spelling ['.', '_', '-'] name.toList)
      (numbered : StartsWithDigit version.toList) (versioned : IsVersionText version.toList)
      (last : '-' ∉ version.toList) : IsSourceOf f (name ++ "-" ++ version) ⟨f, name, version, .sdist⟩

def sourceEndings : List String := [".tar.gz", ".zip", ".tar.bz2", ".tar.xz"]

/-- A way to take a file name apart, part after part and with no regard to where its hyphens are: the parts are
told by their characters alone. -/
inductive Describes (f : String) : Archive → Prop
  | wheel {name version : String} {build : Option String} {tags : WheelTags}
      (text : f = name ++ "-" ++ version ++ (build.map ("-" ++ ·)).getD "" ++ "-" ++ tags.python ++ "-" ++ tags.abi ++
        "-" ++ tags.platform ++ ".whl")
      (parts : AreWheelParts name version tags)
      (built : ∀ b ∈ build, StartsWithDigit b.toList ∧ '-' ∉ b.toList)
      (whole : '-' ∉ tags.python.toList ∧ '-' ∉ tags.abi.toList ∧ '-' ∉ tags.platform.toList) :
      Describes f ⟨f, name, version, .wheel build tags⟩
  | sdist {name version ending : String} (text : f = name ++ "-" ++ version ++ ending)
      (named : PackageName.Spelling ['.', '_', '-'] name.toList) (numbered : StartsWithDigit version.toList)
      (versioned : IsVersionText version.toList) (ended : ending ∈ sourceEndings) :
      Describes f ⟨f, name, version, .sdist⟩

variable {f : String} {a : Archive}

theorem isVersion_iff {cs : List Char} : isVersion cs = true ↔ IsVersionText cs := by
  simp [isVersion, isVersionChar, IsVersionText, or_assoc]

theorem startsWithDigit_iff {cs : List Char} : startsWithDigit cs = true ↔ StartsWithDigit cs := by
  cases cs <;> simp [startsWithDigit, StartsWithDigit]

theorem IsVersionText.hyphen_not_mem {cs : List Char} (h : IsVersionText cs) : '-' ∉ cs := by
  intro inside
  have bad := h.2 '-' inside
  simp at bad

theorem hyphen_not_mem_of_spelling {cs : List Char} (h : PackageName.Spelling ['.', '_'] cs) : '-' ∉ cs := by
  intro inside
  have bad := h.mem '-' inside
  simp at bad

theorem make_eq_some_iff {name version python abi platform : String} (build : Option String) :
    ofFields.make f name.toList version.toList (build.map String.toList) python.toList abi.toList platform.toList =
        some a ↔
      AreWheelParts name version ⟨python, abi, platform⟩ ∧
        a = ⟨f, name, version, .wheel build ⟨python, abi, platform⟩⟩ := by
  have kept : (build.map String.toList).map String.ofList = build := by cases build <;> simp
  unfold ofFields.make
  rw [Option.ite_none_right_eq_some, kept]
  simp only [Bool.and_eq_true, Bool.not_eq_true', List.isEmpty_eq_false_iff, PackageName.isSpelling_wheel_iff,
    isVersion_iff, ne_eq, String.toList_eq_nil_iff, String.ofList_toList, Option.some.injEq]
  constructor
  · rintro ⟨⟨⟨⟨⟨named, versioned⟩, python⟩, abi⟩, platform⟩, rfl⟩
    exact ⟨⟨named, versioned, python, abi, platform⟩, rfl⟩
  · rintro ⟨⟨named, versioned, python, abi, platform⟩, rfl⟩
    exact ⟨⟨⟨⟨⟨named, versioned⟩, python⟩, abi⟩, platform⟩, rfl⟩

theorem ofFields_eq_some_iff {fields : List String} :
    ofFields f (fields.map String.toList) = some a ↔ IsWheelOf f fields a := by
  constructor
  · intro made
    unfold ofFields at made
    split at made
    · rename_i shape
      match fields, shape with
      | [name, version, python, abi, platform], rfl =>
        obtain ⟨parts, rfl⟩ := (make_eq_some_iff none).1 made
        exact .untagged parts
    · rename_i shape
      match fields, shape with
      | [name, version, build, python, abi, platform], rfl =>
        split at made
        · rename_i digit
          obtain ⟨parts, rfl⟩ := (make_eq_some_iff (some build)).1 made
          exact .tagged parts (startsWithDigit_iff.1 digit)
        · cases made
    · cases made
  · rintro (⟨parts⟩ | ⟨parts, numbered⟩)
    · exact (make_eq_some_iff none).2 ⟨parts, rfl⟩
    · have digit := startsWithDigit_iff.2 numbered
      simp only [List.map_cons, List.map_nil, ofFields, digit, if_true]
      exact (make_eq_some_iff (some _)).2 ⟨parts, rfl⟩

theorem ofStem_eq_some_iff {stem : String} : ofStem f stem.toList = some a ↔ IsSourceOf f stem a := by
  constructor
  · intro made
    unfold ofStem at made
    split at made
    · cases made
    · rename_i name version found
      rw [Option.ite_none_right_eq_some] at made
      obtain ⟨formed, same⟩ := made
      cases same
      simp only [Bool.and_eq_true, PackageName.isSpelling_name_iff, isVersion_iff, startsWithDigit_iff] at formed
      obtain ⟨whole, last⟩ := Text.cutLast_eq_some_iff.1 found
      have text : stem = String.ofList name ++ "-" ++ String.ofList version := by
        apply String.toList_inj.1
        simp [whole]
      rw [text]
      exact .cut (by simpa using formed.1.1) (by simpa using formed.1.2) (by simpa using formed.2) (by simpa using last)
  · rintro ⟨named, numbered, versioned, last⟩
    rename_i name version
    have found : Text.cutLast '-' (name ++ "-" ++ version).toList = some (name.toList, version.toList) :=
      Text.cutLast_eq_some_iff.2 ⟨by simp, last⟩
    rw [ofStem, found]
    simp [PackageName.isSpelling_name_iff.2 named, startsWithDigit_iff.2 numbered, isVersion_iff.2 versioned]

theorem parse_of_wheel {stem : String} (text : f = stem ++ ".whl") :
    parse f = .ok a ↔ IsWheelOf f (Text.fields (· == '-') stem) a := by
  have dropped : Text.dropEnding? wheelEnding f.toList = some stem.toList :=
    Text.dropEnding?_eq_some_iff.2 (by rw [text, String.toList_append]; rfl)
  simp only [parse, dropped, Text.split_toList]
  rw [← ofFields_eq_some_iff]
  cases ofFields f ((Text.fields (· == '-') stem).map String.toList) <;> simp

-- No ending of archives ends another one.
theorem ending_unique {e e' : List Char} (cs : List Char) (inside : e ∈ wheelEnding :: sdistEndings)
    (inside' : e' ∈ wheelEnding :: sdistEndings) (ends : e <:+ cs) (ends' : e' <:+ cs) : e = e' := by
  have apart : ∀ e ∈ wheelEnding :: sdistEndings, ∀ e' ∈ wheelEnding :: sdistEndings, e <:+ e' → e = e' := by decide
  rcases List.suffix_or_suffix_of_suffix ends ends' with within | within
  · exact apart e inside e' inside' within
  · exact (apart e' inside' e inside within).symm

theorem findSome?_sdistEndings {cs stem : List Char} :
    (sdistEndings.findSome? fun e => Text.dropEnding? e cs) = some stem ↔ ∃ e ∈ sdistEndings, cs = stem ++ e := by
  constructor
  · intro found
    obtain ⟨e, inside, dropped⟩ := List.exists_of_findSome?_eq_some found
    exact ⟨e, inside, Text.dropEnding?_eq_some_iff.1 dropped⟩
  · rintro ⟨e, inside, rfl⟩
    cases found : sdistEndings.findSome? fun e' => Text.dropEnding? e' (stem ++ e) with
    | none =>
      have none := List.findSome?_eq_none_iff.1 found e inside
      rw [Text.dropEnding?_eq_some_iff.2 rfl] at none
      cases none
    | some stem' =>
      obtain ⟨e', inside', dropped⟩ := List.exists_of_findSome?_eq_some found
      have same := Text.dropEnding?_eq_some_iff.1 dropped
      obtain rfl : e = e' := ending_unique (stem ++ e) (List.mem_cons_of_mem _ inside) (List.mem_cons_of_mem _ inside')
        (List.suffix_append stem e) (same.symm ▸ List.suffix_append stem' e')
      rw [List.append_cancel_right same]

theorem parse_of_not_wheel (other : ¬∃ stem, f = stem ++ ".whl") :
    parse f = .ok a ↔ ∃ ending ∈ sourceEndings, ∃ stem, f = stem ++ ending ∧ IsSourceOf f stem a := by
  have kept : Text.dropEnding? wheelEnding f.toList = none := by
    rw [Option.eq_none_iff_forall_ne_some]
    intro stem dropped
    refine other ⟨String.ofList stem, String.toList_inj.1 ?_⟩
    rw [Text.dropEnding?_eq_some_iff.1 dropped, String.toList_append, String.toList_ofList]
    rfl
  have made : parse f = .ok a ↔
      ((sdistEndings.findSome? fun e => Text.dropEnding? e f.toList).bind (ofStem f)) = some a := by
    simp only [parse, kept]
    cases (sdistEndings.findSome? fun e => Text.dropEnding? e f.toList).bind (ofStem f) <;> simp
  rw [made, Option.bind_eq_some_iff]
  constructor
  · rintro ⟨stem, found, made⟩
    obtain ⟨e, inside, whole⟩ := findSome?_sdistEndings.1 found
    obtain ⟨ending, listed, rfl⟩ := List.mem_map.1 (show e ∈ sourceEndings.map String.toList from inside)
    refine ⟨ending, listed, String.ofList stem, String.toList_inj.1 (by simp [whole]), ?_⟩
    exact ofStem_eq_some_iff.1 (by simpa using made)
  · rintro ⟨ending, inside, stem, text, source⟩
    refine ⟨stem.toList, findSome?_sdistEndings.2 ⟨ending.toList, ?_, ?_⟩, ofStem_eq_some_iff.2 source⟩
    · exact List.mem_map_of_mem inside
    · rw [text, String.toList_append]

theorem fields_of_parts {parts : List String} (filled : parts ≠ []) (whole : ∀ p ∈ parts, '-' ∉ p.toList) :
    Text.fields (· == '-') (Text.joined "-" parts) = parts :=
  Text.fields_eq_iff.2 ⟨filled, whole, rfl⟩

theorem describes_of_isWheelOf {stem : String} (text : f = stem ++ ".whl")
    (described : IsWheelOf f (Text.fields (· == '-') stem) a) : Describes f a := by
  generalize shape : Text.fields (· == '-') stem = fields at described
  obtain ⟨-, whole, rfl⟩ := Text.fields_eq_iff.1 shape
  rcases described with ⟨parts⟩ | ⟨parts, numbered⟩
  · refine .wheel ?_ parts (by simp) ?_
    · rw [text]
      apply String.toList_inj.1
      simp [Text.joined, Text.join]
    · simp only [List.forall_mem_cons] at whole
      exact ⟨whole.2.2.1, whole.2.2.2.1, whole.2.2.2.2.1⟩
  · rename_i name version build python abi platform
    simp only [List.forall_mem_cons] at whole
    refine .wheel ?_ parts ?_ ⟨whole.2.2.2.1, whole.2.2.2.2.1, whole.2.2.2.2.2.1⟩
    · rw [text]
      apply String.toList_inj.1
      simp [Text.joined, Text.join]
    · intro b tag
      cases tag
      exact ⟨numbered, whole.2.2.1⟩

theorem AreWheelParts.hyphen_not_mem {name version : String} {tags : WheelTags} (parts : AreWheelParts name version tags) :
    '-' ∉ name.toList ∧ '-' ∉ version.toList :=
  ⟨hyphen_not_mem_of_spelling parts.named, parts.versioned.hyphen_not_mem⟩

-- A file name is taken apart in the way that its hyphens tell, and in no other.
theorem parse_ok_iff : parse f = .ok a ↔ Describes f a := by
  constructor
  · intro parsed
    by_cases wheel : ∃ stem, f = stem ++ ".whl"
    · obtain ⟨stem, text⟩ := wheel
      exact describes_of_isWheelOf text ((parse_of_wheel text).1 parsed)
    · obtain ⟨ending, inside, stem, text, source⟩ := (parse_of_not_wheel wheel).1 parsed
      cases source with
      | cut named numbered versioned last => exact .sdist text named numbered versioned inside
  · rintro (⟨text, parts, built, python, abi, platform⟩ | ⟨text, named, numbered, versioned, ended⟩)
    · rename_i name version build tags
      obtain ⟨plainName, plainVersion⟩ := parts.hyphen_not_mem
      cases build with
      | none =>
        let fields := [name, version, tags.python, tags.abi, tags.platform]
        have stem : f = Text.joined "-" fields ++ ".whl" := by
          rw [text]
          apply String.toList_inj.1
          simp [fields, Text.joined, Text.join]
        rw [parse_of_wheel stem, fields_of_parts (by simp [fields]) (by simp [fields, *])]
        exact .untagged parts
      | some build =>
        obtain ⟨numbered, plainBuild⟩ := built build rfl
        let fields := [name, version, build, tags.python, tags.abi, tags.platform]
        have stem : f = Text.joined "-" fields ++ ".whl" := by
          rw [text]
          apply String.toList_inj.1
          simp [fields, Text.joined, Text.join]
        rw [parse_of_wheel stem, fields_of_parts (by simp [fields]) (by simp [fields, *])]
        exact .tagged parts numbered
    · rename_i name version ending
      have other : ¬∃ stem, f = stem ++ ".whl" := by
        rintro ⟨stem, wheel⟩
        have same : wheelEnding = ending.toList := by
          refine ending_unique f.toList (by simp) (List.mem_cons_of_mem _ (List.mem_map_of_mem ended)) ?_ ?_
          · exact ⟨stem.toList, by rw [wheel, String.toList_append]; rfl⟩
          · exact ⟨(name ++ "-" ++ version).toList, by simp [text]⟩
        have apart : ∀ e ∈ sourceEndings, wheelEnding ≠ e.toList := by decide
        exact apart ending ended same
      exact (parse_of_not_wheel other).2
        ⟨ending, ended, _, text, .cut named numbered versioned versioned.hyphen_not_mem⟩

theorem isNormal_normalizedName (described : Describes f a) : PackageName.IsNormal a.normalizedName := by
  cases described with
  | wheel _ parts _ _ => exact PackageName.isNormal_normalize (parts.named.mono (by simp))
  | sdist _ named _ _ _ => exact PackageName.isNormal_normalize named

/-- The file names of archives. A wheel is read off its fields and a source distribution off what stands around
its last hyphen; there is no other way to take such a name apart, and any other text is refused. -/
theorem parse_grammar (f : String) :
    (∀ stem, f = stem ++ ".whl" → ∀ a, parse f = .ok a ↔ IsWheelOf f (Text.fields (· == '-') stem) a) ∧
      ((¬∃ stem, f = stem ++ ".whl") → ∀ a, parse f = .ok a ↔
        ∃ ending ∈ sourceEndings, ∃ stem, f = stem ++ ending ∧ IsSourceOf f stem a) ∧
      (∀ a, parse f = .ok a ↔ Describes f a) ∧
      ((∀ a, ¬Describes f a) → ∃ fault, parse f = .error fault ∧ (fault.failure f).kindName = "ParseError") ∧
      ∀ a, parse f = .ok a → hasExtension f = true ∧ PackageName.IsNormal a.normalizedName := by
  refine ⟨fun stem text a => parse_of_wheel text, fun other a => parse_of_not_wheel other, fun a => parse_ok_iff,
    ?_, fun a parsed => ⟨hasExtension_of_parse parsed, isNormal_normalizedName (parse_ok_iff.1 parsed)⟩⟩
  intro undescribed
  cases parsed : parse f with
  | ok a => exact absurd (parse_ok_iff.1 parsed) (undescribed a)
  | error fault => exact ⟨fault, rfl, rfl⟩

theorem parse_grammar_samples :
    parse "flash_attn-2.8.3-1-cp312-abi3-linux_x86_64.whl" =
        .ok ⟨"flash_attn-2.8.3-1-cp312-abi3-linux_x86_64.whl", "flash_attn", "2.8.3",
          .wheel (some "1") ⟨"cp312", "abi3", "linux_x86_64"⟩⟩ ∧
      (¬∃ stem, "amd-aiter-0.1.5.tar.gz" = stem ++ ".whl") ∧
      parse "amd-aiter-0.1.5.tar.gz" = .ok ⟨"amd-aiter-0.1.5.tar.gz", "amd-aiter", "0.1.5", .sdist⟩ ∧
      hasExtension "amd-aiter-0.1.5.tar.gz" = true ∧ PackageName.IsNormal (PackageName.normalize "amd-aiter") ∧
      (∀ a, ¬Describes "broken.whl" a) ∧ ∃ fault, parse "broken.whl" = .error fault := by
  obtain ⟨wheel, _⟩ := parse_grammar "flash_attn-2.8.3-1-cp312-abi3-linux_x86_64.whl"
  obtain ⟨_, source, _, _, named⟩ := parse_grammar "amd-aiter-0.1.5.tar.gz"
  obtain ⟨_, _, described, refused, _⟩ := parse_grammar "broken.whl"
  have fields : Text.fields (· == '-') "flash_attn-2.8.3-1-cp312-abi3-linux_x86_64" =
      ["flash_attn", "2.8.3", "1", "cp312", "abi3", "linux_x86_64"] := by decide +kernel
  have parts : AreWheelParts "flash_attn" "2.8.3" ⟨"cp312", "abi3", "linux_x86_64"⟩ :=
    ⟨PackageName.isSpelling_wheel_iff.1 (by decide), isVersion_iff.1 (by decide), by decide, by decide, by decide⟩
  have other : ¬∃ stem, "amd-aiter-0.1.5.tar.gz" = stem ++ ".whl" := by
    rintro ⟨stem, text⟩
    have ends : ".whl".toList <:+ "amd-aiter-0.1.5.tar.gz".toList :=
      ⟨stem.toList, by rw [text, String.toList_append]⟩
    revert ends
    decide
  have cut : parse "amd-aiter-0.1.5.tar.gz" = .ok ⟨"amd-aiter-0.1.5.tar.gz", "amd-aiter", "0.1.5", .sdist⟩ := by
    refine (source other _).2 ⟨".tar.gz", by decide, "amd-aiter" ++ "-" ++ "0.1.5", by decide, ?_⟩
    exact .cut (PackageName.isSpelling_name_iff.1 (by decide)) (startsWithDigit_iff.1 (by decide))
      (isVersion_iff.1 (by decide)) (by decide)
  have broken : ∀ a, ¬Describes "broken.whl" a := by
    intro a taken
    have fault : parse "broken.whl" = .error .notWheel := by decide +kernel
    cases fault.symm.trans ((described a).2 taken)
  obtain ⟨fault, failed, _⟩ := refused broken
  refine ⟨(wheel "flash_attn-2.8.3-1-cp312-abi3-linux_x86_64" (by decide) _).2 ?_, other, cut, (named _ cut).1,
    (named _ cut).2, broken, fault, failed⟩
  rw [fields]
  exact .tagged parts (startsWithDigit_iff.1 (by decide))

end Wheelhouse.Archive
