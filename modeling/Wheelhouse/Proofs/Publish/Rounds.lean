import Wheelhouse.Proofs.Publish.Attempt

/-!
Passes over all destinations. They are visited in turn, whatever happened to those before, and the state that the
passes leave is the sum of what the logs of the visits show. Putting all plans in their order, as `putPlans` does,
is one way of doing it.
-/

set_option autoImplicit false

namespace Wheelhouse.Publish

/-- A pass over a destination that is over. -/
structure Visit where
  plan : DestinationPlan
  log : List PutEvent

namespace Visit

def objects (v : Visit) : List PlannedObject := DestinationPlan.objects v.plan

/-- Every object of the plan has been stored. -/
def IsComplete (v : Visit) : Prop := (stored v.log).Perm v.objects

instance : DecidablePred IsComplete := fun v => inferInstanceAs (Decidable ((stored v.log).Perm v.objects))

def refusedKeys (v : Visit) : List String := (refused v.log).map PlannedObject.key

def destination (v : Visit) : String := v.plan.destination

end Visit

def refusedKeys (visits : List Visit) : List String := visits.flatMap Visit.refusedKeys

def completeOf (visits : List Visit) : List String :=
  (visits.filter fun v => v.IsComplete).map Visit.destination

def incompleteOf (visits : List Visit) : List String :=
  (visits.filter fun v => ¬v.IsComplete).map Visit.destination

section

variable (store : ObjectStore) (total : Nat) (shows : Bool)

def completion (plan : DestinationPlan) : Event :=
  .notice ⟨.info, "prefix 업로드 완료", [("prefix", .string plan.destination),
    ("objects", .number (.ofNat (DestinationPlan.objects plan).length))]⟩

/-- Passes over destinations one after the other, each spread over workers in some way. -/
inductive Rounds : PublishState → Workspace → List Visit → PublishState → Workspace → Prop
  | nil {s : PublishState} {w : Workspace} : Rounds s w [] s w
  | complete {s s' : PublishState} {w w' : Workspace} {plan : DestinationPlan} {q : Pass} {visits : List Visit}
      (steps : (Pass.start plan s w).Reaches store total shows q) (done : q.IsComplete)
      (more : Rounds { q.state with completed := q.state.completed ++ [plan.destination] }
        (q.world.noting (completion plan)) visits s' w') :
      Rounds s w (⟨plan, q.log⟩ :: visits) s' w'
  | incomplete {s s' : PublishState} {w w' : Workspace} {plan : DestinationPlan} {q : Pass} {visits : List Visit}
      (steps : (Pass.start plan s w).Reaches store total shows q) (ended : q.IsOver) (failed : ¬q.FailureFree)
      (more : Rounds { q.state with incomplete := q.state.incomplete ++ [plan.destination] }
        (q.left plan.destination) visits s' w') :
      Rounds s w (⟨plan, q.log⟩ :: visits) s' w'

end

section

variable {store : ObjectStore} {total : Nat} {shows : Bool} {plan : DestinationPlan} {s s' : PublishState}
  {w w' : Workspace} {visits : List Visit}

-- What visits add to a state.
structure Sums (s : PublishState) (visits : List Visit) (s' : PublishState) : Prop where
  attempted : ∀ v ∈ visits, Attempted 0 v.plan.stages v.log
  uploaded : s'.uploaded = s.uploaded + (visits.flatMap fun v => stored v.log).length
  failed : s'.failed.map Prod.fst = s.failed.map Prod.fst ++ refusedKeys visits
  completed : s'.completed = s.completed ++ completeOf visits
  incomplete : s'.incomplete = s.incomplete ++ incompleteOf visits

theorem Rounds.sums (h : Rounds store total shows s w visits s' w') (filled : ∀ v ∈ visits, v.plan.stages ≠ []) :
    Sums s visits s' := by
  induction h with
  | nil => exact ⟨by simp, by simp, by simp [refusedKeys], by simp [completeOf], by simp [incompleteOf]⟩
  | @complete s s' w w' plan q visits steps done _ ih =>
    obtain ⟨later, uploaded, failed, completed, incomplete⟩ := ih fun v inside => filled v (List.mem_cons_of_mem _ inside)
    obtain ⟨attempted, tallies, free⟩ := Pass.attempted_of_reaches (filled _ List.mem_cons_self) steps done.1
    have whole : Visit.IsComplete ⟨plan, q.log⟩ := attempted.stored_perm_iff.2 (free.1 done.2)
    refine ⟨List.forall_mem_cons.2 ⟨attempted, later⟩, ?_, ?_, ?_, ?_⟩
    · simp [uploaded, tallies.uploaded, Nat.add_assoc]
    · simp [failed, tallies.failed, refusedKeys, Visit.refusedKeys]
    · simp [completed, tallies.completed, completeOf, whole, Visit.destination]
    · simp [incomplete, tallies.incomplete, incompleteOf, whole]
  | @incomplete s s' w w' plan q visits steps ended broken _ ih =>
    obtain ⟨later, uploaded, failed, completed, incomplete⟩ := ih fun v inside => filled v (List.mem_cons_of_mem _ inside)
    obtain ⟨attempted, tallies, free⟩ := Pass.attempted_of_reaches (filled _ List.mem_cons_self) steps ended
    have part : ¬Visit.IsComplete ⟨plan, q.log⟩ := fun whole => broken (free.2 (attempted.stored_perm_iff.1 whole))
    refine ⟨List.forall_mem_cons.2 ⟨attempted, later⟩, ?_, ?_, ?_, ?_⟩
    · simp [uploaded, tallies.uploaded, Nat.add_assoc]
    · simp [failed, tallies.failed, refusedKeys, Visit.refusedKeys]
    · simp [completed, tallies.completed, completeOf, part]
    · simp [incomplete, tallies.incomplete, incompleteOf, part, Visit.destination]

variable (store total shows) in
-- `putPlans` is one of the ways: a single worker, who takes the objects in the order of the plans.
theorem putPlans_rounds (plans : List DestinationPlan) (filled : ∀ p ∈ plans, p.stages ≠ []) (s : PublishState)
    (w : Workspace) :
    ∃ visits s' w', putPlans store total shows s plans w = .ok s' w' ∧ visits.map Visit.plan = plans ∧
      Rounds store total shows s w visits s' w' ∧ ∀ v ∈ visits, ∃ os, os <+: v.objects ∧ OneByOne os v.log := by
  induction plans generalizing s w with
  | nil => exact ⟨[], s, w, rfl, rfl, .nil, by simp⟩
  | cons plan rest ih =>
    obtain ⟨q, b, put, steps, ended, complete, inOrder⟩ :=
      putStages_plan store total shows (filled plan List.mem_cons_self) s w
    have filled' := fun p inside => filled p (List.mem_cons_of_mem _ inside)
    cases b with
    | true =>
      have done := complete.1 rfl
      have none : q.later = [] := done.1.2.2.resolve_right (not_not_intro done.2)
      have left : q.left plan.destination = q.world := by simp [Pass.left, none]
      rw [left] at put
      obtain ⟨visits, s', w', puts, visited, rounds, orders⟩ := ih filled'
        { q.state with completed := q.state.completed ++ [plan.destination] } (q.world.noting (completion plan))
      refine ⟨_, s', w', ?_, ?_, .complete steps done rounds, List.forall_mem_cons.2 ⟨inOrder, orders⟩⟩
      · rw [putPlans, Job.bind_ok put]
        exact puts
      · rw [List.map_cons, visited]
    | false =>
      have failed : ¬q.FailureFree := fun free => Bool.false_ne_true (complete.2 ⟨ended, free⟩)
      obtain ⟨visits, s', w', puts, visited, rounds, orders⟩ := ih filled'
        { q.state with incomplete := q.state.incomplete ++ [plan.destination] } (q.left plan.destination)
      refine ⟨_, s', w', ?_, ?_, .incomplete steps ended failed rounds, List.forall_mem_cons.2 ⟨inOrder, orders⟩⟩
      · rw [putPlans, Job.bind_ok put]
        exact puts
      · rw [List.map_cons, visited]

end

end Wheelhouse.Publish
