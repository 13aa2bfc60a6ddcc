import Mathlib.Data.List.Nodup
import Wheelhouse.Cache.Key
import Wheelhouse.Proofs.Job
import Wheelhouse.Proofs.Json.Line
import Wheelhouse.Proofs.Text.Fields

/-!
What a key tells of the arguments of a build. The text that the arguments are written in is the same for
two of them exactly if each name has the same value in both, so a key depends on nothing else; and it does
not depend on the order of pairs of different names, since each pair is only read into its own name.
-/

set_option autoImplicit false

namespace Wheelhouse

namespace BuildArguments

variable {args a b : BuildArguments} {name other : String} {value : ArgumentValue} {pairs : List String}

-- Arguments in which each name stands once.
def IsObject (args : BuildArguments) : Prop := (args.map Prod.fst).Nodup

instance (args : BuildArguments) : Decidable (IsObject args) := inferInstanceAs (Decidable (List.Nodup _))

theorem mem_iff_lookup (object : IsObject args) : (name, value) ∈ args ↔ args.lookup name = some value := by
  constructor
  · intro inside
    obtain ⟨before, after, rfl⟩ := List.append_of_mem inside
    refine List.lookup_eq_some_iff.2 ⟨before, after, rfl, fun entry early => bne_iff_ne.2 ?_⟩
    rintro rfl
    rw [IsObject, List.map_append, List.map_cons] at object
    exact List.disjoint_of_nodup_append object (List.mem_map_of_mem early) List.mem_cons_self
  · intro found
    obtain ⟨before, after, rfl, _⟩ := List.lookup_eq_some_iff.1 found
    exact List.mem_append_right before List.mem_cons_self

theorem perm_iff_lookup (object : IsObject a) (object' : IsObject b) :
    a.Perm b ↔ ∀ name, a.lookup name = b.lookup name := by
  rw [List.perm_ext_iff_of_nodup object.of_map object'.of_map, Prod.forall]
  refine forall_congr' fun name => ?_
  simp only [mem_iff_lookup object, mem_iff_lookup object']
  exact Option.ext_iff.symm

theorem pairwise_sorted (args : BuildArguments) :
    (args.mergeSort namePrecedes).Pairwise fun x y => namePrecedes x y = true :=
  List.pairwise_mergeSort (fun x y z => Text.unitsLe_trans (a := x.1.toList) (b := y.1.toList) (c := z.1.toList))
    (fun x y => Text.unitsLe_total x.1.toList y.1.toList) args

theorem sorted_eq_iff_perm (object : IsObject a) :
    a.mergeSort namePrecedes = b.mergeSort namePrecedes ↔ a.Perm b := by
  constructor
  · intro same
    have left := List.mergeSort_perm a namePrecedes
    exact left.symm.trans (same ▸ List.mergeSort_perm b namePrecedes)
  · intro perm
    have sorted : (a.mergeSort namePrecedes).Perm (b.mergeSort namePrecedes) :=
      (List.mergeSort_perm a _).trans (perm.trans (List.mergeSort_perm b _).symm)
    refine List.Perm.eq_of_pairwise (fun x y inside inside' before after => ?_) (pairwise_sorted a)
      (pairwise_sorted b) sorted
    have name : x.1 = y.1 := String.toList_inj.1 (Text.unitsLe_antisymm before after)
    have here := (List.mergeSort_perm a _).mem_iff.1 inside
    have there := perm.mem_iff.2 ((List.mergeSort_perm b _).mem_iff.1 inside')
    exact List.inj_on_of_nodup_map object here there name

-- An argument as it is written.
def written (arg : String × ArgumentValue) : Json := .array [.string arg.1, ArgumentValue.json arg.2]

theorem ArgumentValue.json_injective : Function.Injective ArgumentValue.json := by
  intro v v' same
  cases v <;> cases v' <;>
    simp only [ArgumentValue.json, Json.string.injEq, Json.array.injEq, reduceCtorEq] at same
  · rw [same]
  · rw [List.map_injective_iff.2 (fun _ _ => Json.string.inj) same]

theorem written_injective : Function.Injective written := by
  rintro ⟨name, value⟩ ⟨name', value'⟩ same
  simp only [written, Json.array.injEq, List.cons.injEq, Json.string.injEq, and_true] at same
  rw [same.1, ArgumentValue.json_injective same.2]

theorem isTextual_json (value : ArgumentValue) : Json.IsTextual (ArgumentValue.json value) := by
  cases value with
  | text => trivial
  | list values =>
    refine Json.areTextual_iff.2 fun item inside => ?_
    obtain ⟨s, _, rfl⟩ := List.mem_map.1 inside
    trivial

theorem isTextual_written (args : BuildArguments) : Json.IsTextual (.array (args.map written)) := by
  refine Json.areTextual_iff.2 fun item inside => ?_
  obtain ⟨arg, _, rfl⟩ := List.mem_map.1 inside
  exact ⟨trivial, isTextual_json arg.2, trivial⟩

theorem canonical_eq_iff (object : IsObject a) (object' : IsObject b) :
    a.canonical = b.canonical ↔ ∀ name, a.lookup name = b.lookup name := by
  have texts : a.canonical = b.canonical ↔ a.mergeSort namePrecedes = b.mergeSort namePrecedes := by
    unfold canonical
    refine (Json.line_inj (isTextual_written _) (isTextual_written _)).trans ?_
    rw [Json.array.injEq]
    exact (List.map_injective_iff.2 written_injective).eq_iff
  rw [texts, sorted_eq_iff_perm object, perm_iff_lookup object object']

theorem lookup_cons (name other : String) (value : ArgumentValue) (args : BuildArguments) :
    List.lookup other ((name, value) :: args) = if other = name then some value else args.lookup other := by
  rw [List.lookup_cons]
  by_cases asked : other = name <;> simp only [asked, beq_self_eq_true, beq_eq_false_iff_ne.2, if_true, if_false,
    ne_eq, not_false_eq_true]

theorem lookup_set (args : BuildArguments) (name other : String) (value : ArgumentValue) :
    (args.set name value).lookup other = if other = name then some value else args.lookup other := by
  induction args with
  | nil => exact lookup_cons name other value []
  | cons arg args ih =>
    obtain ⟨first, old⟩ := arg
    rw [set]
    by_cases here : first = name
    · subst here
      rw [if_pos rfl, lookup_cons, lookup_cons]
      split <;> rfl
    · rw [if_neg here, lookup_cons, lookup_cons, ih]
      by_cases asked : other = first
      · subst asked
        rw [if_pos rfl, if_neg here, if_pos rfl]
      · rw [if_neg asked, if_neg asked]

theorem mem_names_set : other ∈ (args.set name value).map Prod.fst ↔ other = name ∨ other ∈ args.map Prod.fst := by
  induction args with
  | nil => simp [set]
  | cons arg args ih =>
    obtain ⟨first, old⟩ := arg
    rw [set]
    by_cases here : first = name
    · subst here
      rw [if_pos rfl]
      simp
    · rw [if_neg here, List.map_cons, List.mem_cons, ih, List.map_cons, List.mem_cons]
      tauto

theorem IsObject.set (object : IsObject args) (name : String) (value : ArgumentValue) :
    IsObject (args.set name value) := by
  induction args with
  | nil => exact List.nodup_singleton name
  | cons arg args ih =>
    obtain ⟨first, old⟩ := arg
    obtain ⟨fresh, rest⟩ := List.nodup_cons.1 object
    rw [BuildArguments.set]
    by_cases here : first = name
    · subst here
      rw [if_pos rfl]
      exact object
    · rw [if_neg here]
      refine List.nodup_cons.2 ⟨fun inside => ?_, ih rest⟩
      exact (mem_names_set.1 inside).elim here fresh

/-- The name in a pair: the text before the first equals sign, without the blanks around it. -/
def pairName (pair : String) : String := String.ofList (Text.trim (Text.cut '=' pair.toList).1)

def namedBy (name pair : String) : Bool := pairName pair = name

theorem pairName_of_readPair {pair : String} (read : readPair pair = .ok (name, value)) : pairName pair = name := by
  unfold readPair at read
  unfold pairName
  split at read
  · cases read
  · cases read
  · rename_i before after parts
    rw [parts]
    exact congrArg Prod.fst (Except.ok.inj read)

-- What is kept of one pair.
def kept (args : BuildArguments) (name : String) (value : ArgumentValue) : BuildArguments :=
  if name = Json.reservedName then args else args.set name value

theorem lookup_kept (args : BuildArguments) (name other : String) (value : ArgumentValue) :
    (kept args name value).lookup other =
      if other = name ∧ name ≠ Json.reservedName then some value else args.lookup other := by
  unfold kept
  by_cases reserved : name = Json.reservedName
  · rw [if_pos reserved, if_neg fun asked => asked.2 reserved]
  · rw [if_neg reserved, lookup_set]
    exact if_congr (by tauto) rfl rfl

theorem IsObject.kept (object : IsObject args) (name : String) (value : ArgumentValue) :
    IsObject (kept args name value) := by
  unfold BuildArguments.kept
  split
  · exact object
  · exact object.set name value

theorem addPairs_cons_ok_iff {pair : String} :
    addPairs args (pair :: pairs) = .ok a ↔
      ∃ name value, readPair pair = .ok (name, value) ∧ addPairs (kept args name value) pairs = .ok a := by
  rw [addPairs]
  cases readPair pair with
  | error e => simp [bind, Except.bind]
  | ok read =>
    obtain ⟨name, value⟩ := read
    simp [bind, Except.bind, kept]

theorem IsObject.addPairs (object : IsObject args) (read : addPairs args pairs = .ok a) : IsObject a := by
  induction pairs generalizing args with
  | nil =>
    cases read
    exact object
  | cons pair pairs ih =>
    obtain ⟨name, value, _, later⟩ := addPairs_cons_ok_iff.1 read
    exact ih (object.kept name value) later

theorem addPairs_ok_iff (args : BuildArguments) : (∃ a, addPairs args pairs = .ok a) ↔ ∀ pair ∈ pairs, ∃ read, readPair pair = .ok read := by
  induction pairs generalizing args with
  | nil => simp [addPairs]
  | cons pair pairs ih =>
    rw [List.forall_mem_cons]
    constructor
    · rintro ⟨a, read⟩
      obtain ⟨name, value, first, later⟩ := addPairs_cons_ok_iff.1 read
      exact ⟨⟨_, first⟩, (ih _).1 ⟨a, later⟩⟩
    · rintro ⟨⟨⟨name, value⟩, first⟩, later⟩
      obtain ⟨a, later⟩ := (ih (kept args name value)).2 later
      exact ⟨a, addPairs_cons_ok_iff.2 ⟨name, value, first, later⟩⟩

-- The value of a name depends on the pairs of this name alone.
theorem lookup_addPairs {args' : BuildArguments} (same : args.lookup name = args'.lookup name)
    (read : addPairs args pairs = .ok a) (read' : addPairs args' (pairs.filter (namedBy name)) = .ok b) :
    a.lookup name = b.lookup name := by
  induction pairs generalizing args args' with
  | nil =>
    cases read
    cases read'
    exact same
  | cons pair pairs ih =>
    obtain ⟨other, value, first, later⟩ := addPairs_cons_ok_iff.1 read
    have named := pairName_of_readPair first
    by_cases asked : other = name
    · subst asked
      rw [List.filter_cons_of_pos (by simp [namedBy, named])] at read'
      obtain ⟨other', value', first', later'⟩ := addPairs_cons_ok_iff.1 read'
      cases first.symm.trans first'
      refine ih ?_ later later'
      rw [lookup_kept, lookup_kept, same]
    · rw [List.filter_cons_of_neg (by simp [namedBy, named, asked])] at read'
      refine ih ?_ later read'
      rw [lookup_kept, if_neg fun here => asked here.1.symm, same]

theorem isObject_of_ofPairs (read : ofPairs pairs = .ok a) : IsObject a :=
  have empty : IsObject [] := List.nodup_nil
  empty.addPairs read

theorem ofPairs_of_perm {pairs' : List String} (perm : pairs.Perm pairs')
    (order : ∀ name, pairs.filter (namedBy name) = pairs'.filter (namedBy name)) (read : ofPairs pairs = .ok a) :
    ∃ b, ofPairs pairs' = .ok b ∧ ∀ name, a.lookup name = b.lookup name := by
  have accepted := (addPairs_ok_iff []).1 ⟨a, read⟩
  obtain ⟨b, read'⟩ := (addPairs_ok_iff []).2 fun pair inside => accepted pair (perm.mem_iff.2 inside)
  refine ⟨b, read', fun name => ?_⟩
  obtain ⟨c, alone⟩ := (addPairs_ok_iff []).2 fun pair (inside : pair ∈ pairs.filter (namedBy name)) =>
    accepted pair (List.mem_of_mem_filter inside)
  rw [lookup_addPairs rfl read alone, lookup_addPairs rfl read' (order name ▸ alone)]

end BuildArguments

namespace CacheKey

theorem isPart_shortDigest (bytes : ByteArray) : isPart (shortDigest bytes) = true := by
  rw [isPart, shortDigest, Bool.and_eq_true, decide_eq_true_eq, List.all_eq_true]
  refine ⟨?_, fun c inside => Sha256.isHexDigit_of_mem_hex (List.mem_of_mem_take inside)⟩
  rw [List.length_take, Sha256.length_hex]
  rfl

theorem hyphen_not_mem {cs : List Char} (part : isPart cs = true) : '-' ∉ cs := by
  intro inside
  have digit := List.all_eq_true.1 (Bool.and_eq_true _ _ ▸ part).2 '-' inside
  exact absurd digit (by decide)

theorem isKey_ofContents (recipe : ByteArray) (args : BuildArguments) : isKey (ofContents recipe args) = true := by
  have left := isPart_shortDigest recipe
  have right := isPart_shortDigest (Text.encode args.canonical)
  have parts : Text.split (· == '-') (ofContents recipe args).toList =
      [shortDigest recipe, shortDigest (Text.encode args.canonical)] := by
    refine Text.split_eq_iff.2 ⟨List.cons_ne_nil _ _, ?_, ?_⟩
    · simp [hyphen_not_mem left, hyphen_not_mem right]
    · simp [ofContents, Text.join]
  rw [isKey, parts]
  simp only [left, right, Bool.and_self]

theorem compute_congr {a b : BuildArguments} (same : a.canonical = b.canonical) (recipe : Path) :
    compute recipe a = compute recipe b := by
  unfold compute ofContents
  rw [same]

theorem compute_ok_iff {recipe : Path} {args : BuildArguments} {w w' : Workspace} {key : String} :
    compute recipe args w = .ok key w' ↔ ∃ contents, w.disk.readFile recipe = .ok contents ∧
      key = ofContents contents args ∧ w' = w.noting (.notice ⟨.debug, "캐시 키 계산",
        [("recipePath", .string recipe.text), ("recipeHash", .string (String.ofList (shortDigest contents))),
          ("argsHash", .string (String.ofList (shortDigest (Text.encode args.canonical))))]⟩) := by
  unfold compute
  rw [Job.bind_ok (Job.has_run recipe w)]
  constructor
  · intro ran
    cases there : w.disk.has recipe with
    | false =>
      rw [there] at ran
      cases ran
    | true =>
      rw [there, if_pos rfl] at ran
      obtain ⟨contents, v, looked, rest⟩ := Job.bind_ok_iff.1 ran
      obtain ⟨read, rfl⟩ := Job.look_ok_iff.1 looked
      obtain ⟨_, _, noted, ended⟩ := Job.bind_ok_iff.1 rest
      cases noted
      cases ended
      exact ⟨contents, read, rfl, rfl⟩
  · rintro ⟨contents, read, rfl, rfl⟩
    rw [(Disk.readFile_ok read).1, if_pos rfl]
    exact (Job.bind_ok (Job.look_ok_iff.2 ⟨read, rfl⟩)).trans (Job.bind_ok (Job.debug_run _ _ _))

/-- The text of the arguments identifies them, pairs may be given in any order that keeps the order of the
pairs of each name, and what is computed is a key. -/
theorem canonical_identifies :
    (∀ a b : BuildArguments, a.IsObject → b.IsObject →
      (a.canonical = b.canonical ↔ ∀ name, a.lookup name = b.lookup name)) ∧
    (∀ (pairs pairs' : List String) (args : BuildArguments) (recipe : Path),
      BuildArguments.ofPairs pairs = .ok args → pairs.Perm pairs' →
      (∀ name, (pairs.filter fun pair => BuildArguments.pairName pair = name) =
        pairs'.filter fun pair => BuildArguments.pairName pair = name) →
      args.IsObject ∧ ∃ args', BuildArguments.ofPairs pairs' = .ok args' ∧
        compute recipe args' = compute recipe args) ∧
    ∀ (recipe : Path) (args : BuildArguments) (w w' : Workspace) (key : String),
      compute recipe args w = .ok key w' → isKey key = true := by
  refine ⟨fun a b object object' => BuildArguments.canonical_eq_iff object object', ?_, ?_⟩
  · intro pairs pairs' args recipe read perm order
    obtain ⟨args', read', same⟩ := BuildArguments.ofPairs_of_perm perm order read
    have object := BuildArguments.isObject_of_ofPairs read
    have object' := BuildArguments.isObject_of_ofPairs read'
    refine ⟨object, args', read', compute_congr ?_ recipe⟩
    exact (BuildArguments.canonical_eq_iff object' object).2 fun name => (same name).symm
  · intro recipe args w w' key ran
    obtain ⟨contents, _, rfl, _⟩ := compute_ok_iff.1 ran
    exact isKey_ofContents contents args

section Sample

def sampleRecipe : Path := ["Dockerfile"]

def sampleWorkspace : Workspace := ⟨Disk.empty.put sampleRecipe (.file (Text.encode "FROM")), [], [], [], [], 0⟩

def samplePairs : List String := ["ARCH=gfx942;gfx950", "TORCH =2.9", "ARCH=gfx1100,"]

-- The pair of the other name comes first.
def movedPairs : List String := ["TORCH =2.9", "ARCH=gfx942;gfx950", "ARCH=gfx1100,"]

def sampleArguments : BuildArguments := [("ARCH", .list ["gfx1100"]), ("TORCH", .text "2.9")]

theorem canonical_identifies_sample :
    BuildArguments.IsObject sampleArguments ∧
      sampleArguments.canonical = BuildArguments.canonical sampleArguments.reverse ∧
      sampleArguments.canonical ≠
        BuildArguments.canonical [("ARCH", .text "gfx1100"), ("TORCH", .text "2.9")] ∧
      BuildArguments.ofPairs samplePairs = .ok sampleArguments ∧
      (∃ args', BuildArguments.ofPairs movedPairs = .ok args' ∧
        compute sampleRecipe args' = compute sampleRecipe sampleArguments) ∧
      ∃ key w', compute sampleRecipe sampleArguments sampleWorkspace = .ok key w' ∧ isKey key = true := by
  have object : BuildArguments.IsObject sampleArguments := by decide
  have turned : BuildArguments.IsObject sampleArguments.reverse := by decide
  have other : BuildArguments.IsObject [("ARCH", .text "gfx1100"), ("TORCH", .text "2.9")] := by decide
  have read : BuildArguments.ofPairs samplePairs = .ok sampleArguments := rfl
  have perm : samplePairs.Perm movedPairs := List.Perm.swap _ _ _
  have first : BuildArguments.pairName "ARCH=gfx942;gfx950" = "ARCH" := by decide +kernel
  have second : BuildArguments.pairName "TORCH =2.9" = "TORCH" := by decide +kernel
  have order (name : String) : (samplePairs.filter fun pair => BuildArguments.pairName pair = name) =
      movedPairs.filter fun pair => BuildArguments.pairName pair = name := by
    unfold samplePairs movedPairs
    by_cases asked : "TORCH" = name
    · have passed : "ARCH" ≠ name := asked ▸ by decide
      simp [List.filter_cons, first, second, passed]
    · simp [List.filter_cons, first, second, asked]
  have found : sampleWorkspace.disk.find? sampleRecipe = some (.file (Text.encode "FROM")) := rfl
  have computed : ∃ key w', compute sampleRecipe sampleArguments sampleWorkspace = .ok key w' :=
    ⟨_, _, compute_ok_iff.2 ⟨_, Disk.readFile_of_find? found, rfl, rfl⟩⟩
  obtain ⟨key, w', computed⟩ := computed
  obtain ⟨identifies, permutes, isKey_of_compute⟩ := canonical_identifies
  refine ⟨object, (identifies _ _ object turned).2 ?_, fun same => ?_, read, ?_, key, w', computed, ?_⟩
  · exact (BuildArguments.perm_iff_lookup object turned).1 (List.reverse_perm sampleArguments).symm
  · exact absurd ((identifies _ _ object other).1 same "ARCH") (by decide)
  · exact (permutes samplePairs movedPairs sampleArguments sampleRecipe read perm order).2
  · exact isKey_of_compute sampleRecipe sampleArguments sampleWorkspace w' key computed

end Sample

end CacheKey

end Wheelhouse
