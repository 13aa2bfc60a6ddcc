import Wheelhouse.Proofs.Publish.Pass

/-!
What a publication puts before what. The stages of a plan are the archives and then the pages by their
depth, and a pass keeps to the stages however its puts are spread over workers: no page is ever put
before everything that it leads to.
-/

set_option autoImplicit false

namespace Wheelhouse.Publish

theorem mem_distinct_foldr {l : List Nat} {n : Nat} :
    n ∈ l.foldr (fun n seen => if seen.contains n then seen else n :: seen) [] ↔ n ∈ l := by
  induction l generalizing n with
  | nil => simp
  | cons m rest ih =>
    rw [List.foldr_cons]
    split
    next seen =>
      have old : m ∈ rest := ih.1 (List.contains_iff_mem.1 seen)
      rw [ih, List.mem_cons]
      constructor
      · exact .inr
      · rintro (rfl | h)
        · exact old
        · exact h
    next => rw [List.mem_cons, List.mem_cons, ih]

theorem nodup_distinct_foldr (l : List Nat) :
    (l.foldr (fun n seen => if seen.contains n then seen else n :: seen) []).Nodup := by
  induction l with
  | nil => simp
  | cons m rest ih =>
    rw [List.foldr_cons]
    split
    next => exact ih
    next new => exact List.nodup_cons.2 ⟨by simpa using new, ih⟩

theorem mem_depths {files : List String} {n : Nat} : n ∈ depths files ↔ ∃ f ∈ files, depth f = n := by
  rw [depths, List.mem_mergeSort, mem_distinct_foldr, List.mem_map]

theorem depths_decreasing (files : List String) : (depths files).Pairwise (· > ·) := by
  have sorted := @List.pairwise_mergeSort Nat (fun a b => decide (b ≤ a))
    (fun a b c hab hbc => by simp only [decide_eq_true_eq] at *; omega)
    (fun a b => by simp only [Bool.or_eq_true, decide_eq_true_eq]; omega)
    ((files.map depth).foldr (fun n seen => if seen.contains n then seen else n :: seen) [])
  have nodup : (depths files).Nodup := (List.mergeSort_perm _ _).nodup_iff.2 (nodup_distinct_foldr _)
  refine (List.pairwise_and_iff.2 ⟨sorted, nodup⟩).imp ?_
  intro a b h
  have le : b ≤ a := of_decide_eq_true h.1
  exact Nat.lt_of_le_of_ne le (Ne.symm h.2)

theorem idxOf_lt_idxOf {l : List Nat} (h : l.Pairwise (· > ·)) {a b : Nat} (ha : a ∈ l) (hb : b ∈ l)
    (hab : b < a) : l.idxOf a < l.idxOf b := by
  have ia := List.idxOf_lt_length_of_mem ha
  have ib := List.idxOf_lt_length_of_mem hb
  rcases Nat.lt_trichotomy (l.idxOf a) (l.idxOf b) with lt | eq | gt
  · exact lt
  · have same : a = b := by
      rw [← List.getElem_idxOf ia, ← List.getElem_idxOf ib]
      simp only [eq]
    omega
  · have desc := List.pairwise_iff_getElem.1 h _ _ ib ia gt
    rw [List.getElem_idxOf ib, List.getElem_idxOf ia] at desc
    omega

/-- The stage of a page: the deepest pages come right after the archives, which are stage 0. -/
def pageStage (files : List String) (f : String) : Nat := (depths files).idxOf (depth f) + 1

theorem pageStage_lt {files : List String} {f g : String} (hf : f ∈ files) (hg : g ∈ files)
    (deeper : depth f < depth g) : pageStage files g < pageStage files f := by
  have := idxOf_lt_idxOf (depths_decreasing files) (mem_depths.2 ⟨g, hg, rfl⟩)
    (mem_depths.2 ⟨f, hf, rfl⟩) deeper
  simp only [pageStage]
  omega

section

variable (scope : String) (wheels index : Path) (sources : Sources) (destination : String)

def sitePlan : DestinationPlan :=
  planFor scope wheels index sources.archives (byDepth sources.indexFiles) destination

theorem mem_archive_stage {o : PlannedObject} :
    o ∈ (sitePlan scope wheels index sources destination).stages.getD 0 [] ↔
      ∃ f ∈ sources.archives, object scope destination wheels f = o := by
  simp [sitePlan, planFor]

theorem mem_page_stage {o : PlannedObject} {i : Nat} :
    o ∈ (sitePlan scope wheels index sources destination).stages.getD (i + 1) [] ↔
      ∃ f ∈ sources.indexFiles, pageStage sources.indexFiles f = i + 1 ∧
        object scope destination index f = o := by
  have nodup : (depths sources.indexFiles).Nodup :=
    (depths_decreasing sources.indexFiles).imp fun h => Nat.ne_of_gt h
  have level : (sitePlan scope wheels index sources destination).stages.getD (i + 1) [] =
      (((depths sources.indexFiles)[i]?.map fun n =>
        sources.indexFiles.filter fun f => depth f = n).getD []).map (object scope destination index) := by
    simp only [sitePlan, planFor, byDepth, List.getD_eq_getElem?_getD, List.getElem?_cons_succ,
      List.getElem?_map]
    cases (depths sources.indexFiles)[i]? <;> rfl
  rw [level, List.mem_map]
  constructor
  · rintro ⟨f, hf, rfl⟩
    cases found : (depths sources.indexFiles)[i]? with
    | none => simp [found] at hf
    | some n =>
      simp only [found, Option.map_some, Option.getD_some, List.mem_filter, decide_eq_true_eq] at hf
      obtain ⟨inside, here⟩ := List.getElem?_eq_some_iff.1 found
      refine ⟨f, hf.1, ?_, rfl⟩
      rw [pageStage, hf.2, ← here, nodup.idxOf_getElem]
  · rintro ⟨f, hf, stage, rfl⟩
    have place : (depths sources.indexFiles).idxOf (depth f) = i := Nat.succ.inj stage
    have inside := List.idxOf_lt_length_of_mem (mem_depths.2 ⟨f, hf, rfl⟩)
    have found : (depths sources.indexFiles)[i]? = some (depth f) := by
      rw [← place, List.getElem?_eq_getElem inside, List.getElem_idxOf]
    exact ⟨f, by simp [found, hf], rfl⟩

/-- What holds of the puts of a pass at every moment. -/
structure InOrder (log : List PutEvent) : Prop where
  known : ∀ i o, .begun i o ∈ log →
    (i = 0 ∧ ∃ f ∈ sources.archives, o = object scope destination wheels f) ∨
      ∃ f ∈ sources.indexFiles, i = pageStage sources.indexFiles f ∧
        o = object scope destination index f
  archives : ∀ before after f, f ∈ sources.indexFiles →
    log = before ++ .begun (pageStage sources.indexFiles f) (object scope destination index f) :: after →
      ∀ a ∈ sources.archives, .stored 0 (object scope destination wheels a) ∈ before
  deeper : ∀ before after f, f ∈ sources.indexFiles →
    log = before ++ .begun (pageStage sources.indexFiles f) (object scope destination index f) :: after →
      ∀ g ∈ sources.indexFiles, depth f < depth g →
        .stored (pageStage sources.indexFiles g) (object scope destination index g) ∈ before
  stops : ∀ before after i o, log = before ++ .begun i o :: after → ∀ j < i, ∀ x, .refused j x ∉ before

theorem Ordered.inOrder {log : List PutEvent}
    (h : Ordered (sitePlan scope wheels index sources destination).stages log) :
    InOrder scope wheels index sources destination log := by
  constructor
  · intro i o begun
    obtain ⟨before, after, split⟩ := List.append_of_mem begun
    have planned := (h before after i o split).1
    cases i with
    | zero =>
      obtain ⟨f, hf, same⟩ := (mem_archive_stage scope wheels index sources destination).1 planned
      exact .inl ⟨rfl, f, hf, same.symm⟩
    | succ i =>
      obtain ⟨f, hf, stage, same⟩ := (mem_page_stage scope wheels index sources destination).1 planned
      exact .inr ⟨f, hf, stage.symm, same.symm⟩
  · intro before after f hf split a ha
    refine ((h before after _ _ split).2 0 (Nat.succ_pos _)).1 _ ?_
    exact (mem_archive_stage scope wheels index sources destination).2 ⟨a, ha, rfl⟩
  · intro before after f hf split g hg deeper
    refine ((h before after _ _ split).2 _ (pageStage_lt hf hg deeper)).1 _ ?_
    exact (mem_page_stage scope wheels index sources destination).2 ⟨g, hg, rfl, rfl⟩
  · intro before after i o split j earlier
    exact ((h before after i o split).2 j earlier).2

end

end Wheelhouse.Publish
