import Mathlib.Data.List.Perm.Basic
import Wheelhouse.Proofs.Publish.Pass

/-!
What a pass attempts. It takes up the stages of a plan one after the other, puts every object of a stage that
it takes up, and stops after the first stage with a failure. However the puts of a stage are spread over
workers, what is counted and kept on the way is what the log shows.
-/

set_option autoImplicit false

namespace Wheelhouse.Publish

/-- Every object of the stage has been put, and the store has answered. -/
structure IsBatch (i : Nat) (stage : List PlannedObject) (log : List PutEvent) : Prop where
  here : ∀ e ∈ log, e.stage = i
  taken : (begun log).Perm stage
  answered : (stored log ++ refused log).Perm stage

/-- The stages from the one with number `i` on are attempted until one has a failure. -/
inductive Attempted : Nat → List (List PlannedObject) → List PutEvent → Prop
  | nil {i : Nat} : Attempted i [] []
  | next {i : Nat} {stage : List PlannedObject} {later : List (List PlannedObject)} {batch log : List PutEvent}
      (whole : IsBatch i stage batch) (sound : refused batch = []) (more : Attempted (i + 1) later log) :
      Attempted i (stage :: later) (batch ++ log)
  | stopped {i : Nat} {stage : List PlannedObject} {later : List (List PlannedObject)} {batch : List PutEvent}
      (whole : IsBatch i stage batch) (failed : refused batch ≠ []) : Attempted i (stage :: later) batch

namespace Attempted

variable {i : Nat} {stages : List (List PlannedObject)} {log : List PutEvent}

/-- Everything has been stored exactly if nothing has been refused. -/
theorem stored_perm_iff (h : Attempted i stages log) : (stored log).Perm stages.flatten ↔ refused log = [] := by
  induction h with
  | nil => simp
  | @next i stage later batch log whole sound more ih =>
    have all : (stored batch).Perm stage := by simpa [sound] using whole.answered
    rw [stored_append, refused_append, sound, List.nil_append, List.flatten_cons, ← ih]
    constructor
    · exact fun perm => (List.perm_append_left_iff stage).1 ((all.symm.append_right _).trans perm)
    · exact fun perm => all.append perm
  | @stopped i stage later batch whole failed =>
    refine ⟨fun perm => absurd perm fun perm => ?_, fun none => absurd none failed⟩
    have some := List.length_pos_of_ne_nil failed
    have lengths := whole.answered.length_eq
    have more := perm.length_eq
    simp only [List.length_append, List.flatten_cons] at lengths more
    omega

theorem begun_perm (h : Attempted i stages log) (sound : refused log = []) : (begun log).Perm stages.flatten := by
  induction h with
  | nil => simp
  | next whole _ _ ih =>
    rw [refused_append, List.append_eq_nil_iff] at sound
    rw [begun_append, List.flatten_cons]
    exact whole.taken.append (ih sound.2)
  | stopped _ failed => exact absurd sound failed

end Attempted

-- The invariant of a pass. Its log has a part for the stages that are over, which is an attempt at all stages
-- together with any attempt from the current stage on, and a part for the current stage.
structure Pass.Tracks (stages : List (List PlannedObject)) (s : PublishState) (current : List PlannedObject)
    (past batch : List PutEvent) (p : Pass) : Prop where
  log : p.log = past ++ batch
  earlier : ∀ e ∈ past, e.stage < p.stage
  here : ∀ e ∈ batch, e.stage = p.stage
  sound : refused past = []
  goesOn : ∀ rest, Attempted p.stage (current :: p.later) rest → Attempted 0 stages (past ++ rest)
  taken : (begun batch ++ p.waiting).Perm current
  answered : (stored batch ++ refused batch ++ p.underway).Perm (begun batch)
  tallies : Tallies s p.log p.state

namespace Pass.Tracks

variable {stages : List (List PlannedObject)} {s : PublishState} {current : List PlannedObject}
  {past batch : List PutEvent} {p q : Pass} {o : PlannedObject}

theorem failureFree_iff (h : p.Tracks stages s current past batch) : p.FailureFree ↔ refused batch = [] := by
  rw [refused_eq_nil_iff h.here, FailureFree, h.log]
  refine forall_congr' fun o => not_congr ?_
  rw [List.mem_append, or_iff_right]
  exact fun inside => absurd (h.earlier _ inside) (Nat.lt_irrefl _)

theorem begin (h : p.Tracks stages s current past batch) (waits : o ∈ p.waiting) :
    Pass.Tracks stages s current past (batch ++ [.begun p.stage o])
      { p with waiting := p.waiting.erase o, underway := o :: p.underway, log := p.log ++ [.begun p.stage o] } := by
  refine ⟨?_, h.earlier, ?_, h.sound, h.goesOn, ?_, ?_, ?_⟩
  · simp [h.log]
  · simpa [or_imp, forall_and] using ⟨h.here, rfl⟩
  · have taken := (List.perm_cons_erase waits).symm.append_left (begun batch)
    simpa using (taken.trans h.taken)
  · have more := List.perm_middle.trans ((h.answered.cons o).trans (List.perm_append_singleton o _).symm)
    simpa using more
  · have taken : Tallies p.state [.begun p.stage o] p.state := ⟨rfl, by simp, rfl, rfl⟩
    exact h.tallies.append taken

theorem finish {store : ObjectStore} {total : Nat} {shows : Bool} {e : PutEvent} {s' : PublishState} {w : Workspace}
    (h : p.Tracks stages s current past batch) (under : o ∈ p.underway)
    (answer : PutAnswer store total shows p.stage o p.state p.world e s' w) :
    Pass.Tracks stages s current past (batch ++ [e])
      { p with underway := p.underway.erase o, state := s', world := w, log := p.log ++ [e] } := by
  refine ⟨?_, h.earlier, ?_, h.sound, h.goesOn, ?_, ?_, h.tallies.append answer.tallies⟩
  · simp [h.log]
  · simpa [or_imp, forall_and] using ⟨h.here, answer.stage_eq⟩
  · simpa [answer.begun_eq_nil] using h.taken
  · have one : (stored [e] ++ refused [e] ++ p.underway.erase o).Perm p.underway := by
      rw [answer.stored_append_refused]
      exact (List.perm_cons_erase under).symm
    have moved : (stored batch ++ stored [e] ++ (refused batch ++ refused [e]) ++ p.underway.erase o).Perm
        (stored batch ++ refused batch ++ (stored [e] ++ refused [e] ++ p.underway.erase o)) := by
      simp only [List.append_assoc]
      exact (List.perm_append_comm_assoc _ _ _).append_left _
    simpa [answer.begun_eq_nil] using moved.trans ((one.append_left _).trans h.answered)

theorem isBatch (h : p.Tracks stages s current past batch) (taken : p.waiting = []) (idle : p.underway = []) :
    IsBatch p.stage current batch := by
  have all : (begun batch).Perm current := by simpa [taken] using h.taken
  exact ⟨h.here, all, by simpa [idle] using h.answered.trans all⟩

theorem advance {next : List PlannedObject} {rest : List (List PlannedObject)}
    (h : p.Tracks stages s current past batch) (taken : p.waiting = []) (idle : p.underway = [])
    (sound : p.FailureFree) (more : p.later = next :: rest) :
    Pass.Tracks stages s next p.log [] { p with stage := p.stage + 1, waiting := next, later := rest } := by
  have free := h.failureFree_iff.1 sound
  refine ⟨by simp, ?_, by simp, ?_, ?_, by simp, by simp [idle], h.tallies⟩
  · intro e inside
    rw [h.log] at inside
    rcases List.mem_append.1 inside with old | new
    · exact Nat.lt_succ_of_lt (h.earlier e old)
    · exact h.here e new ▸ Nat.lt_succ_self _
  · simp [h.log, h.sound, free]
  · intro log attempted
    have on := h.goesOn (batch ++ log)
    rw [more] at on
    rw [h.log, List.append_assoc]
    exact on (.next (h.isBatch taken idle) free attempted)

theorem step {store : ObjectStore} {total : Nat} {shows : Bool} (h : p.Tracks stages s current past batch)
    (step : p.Step store total shows q) : ∃ current past batch, q.Tracks stages s current past batch := by
  cases step with
  | begin waits => exact ⟨_, _, _, h.begin waits⟩
  | finish under answer => exact ⟨_, _, _, h.finish under answer⟩
  | advance taken idle sound more => exact ⟨_, _, _, h.advance taken idle sound more⟩

theorem reaches {store : ObjectStore} {total : Nat} {shows : Bool} (h : p.Tracks stages s current past batch)
    (steps : p.Reaches store total shows q) : ∃ current past batch, q.Tracks stages s current past batch := by
  induction steps with
  | refl => exact ⟨_, _, _, h⟩
  | tail _ step ih =>
    obtain ⟨current, past, batch, h⟩ := ih
    exact h.step step

theorem attempted (h : p.Tracks stages s current past batch) (ended : p.IsOver) : Attempted 0 stages p.log := by
  obtain ⟨taken, idle, ends⟩ := ended
  have whole := h.isBatch taken idle
  rw [h.log]
  by_cases free : refused batch = []
  · have none : p.later = [] := ends.resolve_right (not_not_intro (h.failureFree_iff.2 free))
    have on := h.goesOn batch
    rw [none] at on
    simpa using on (by simpa using Attempted.next whole free .nil)
  · exact h.goesOn batch (.stopped whole free)

theorem failureFree_iff_log (h : p.Tracks stages s current past batch) : p.FailureFree ↔ refused p.log = [] := by
  rw [h.failureFree_iff, h.log, refused_append, h.sound, List.nil_append]

end Pass.Tracks

variable {store : ObjectStore} {total : Nat} {shows : Bool} {plan : DestinationPlan} {s : PublishState}
  {w : Workspace} {q : Pass}

theorem Pass.start_tracks (filled : plan.stages ≠ []) (s : PublishState) (w : Workspace) :
    (start plan s w).Tracks plan.stages s (plan.stages.headD []) [] [] := by
  obtain ⟨stage, later, stages⟩ := List.exists_cons_of_ne_nil filled
  refine ⟨rfl, by simp, by simp, rfl, fun rest attempted => ?_, by simp [start], by simp [start], .nil s⟩
  simpa [start, stages] using attempted

/-- When a pass is over, its log is an attempt at the stages of the plan, and the state has what the log adds. -/
theorem Pass.attempted_of_reaches (filled : plan.stages ≠ []) (steps : (start plan s w).Reaches store total shows q)
    (ended : q.IsOver) :
    Attempted 0 plan.stages q.log ∧ Tallies s q.log q.state ∧ (q.FailureFree ↔ refused q.log = []) := by
  obtain ⟨current, past, batch, tracks⟩ := (start_tracks filled s w).reaches steps
  exact ⟨tracks.attempted ended, tracks.tallies, tracks.failureFree_iff_log⟩

end Wheelhouse.Publish
