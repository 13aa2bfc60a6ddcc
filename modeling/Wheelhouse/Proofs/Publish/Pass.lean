import Mathlib.Logic.Relation
import Wheelhouse.Proofs.Job
import Wheelhouse.Publish.Run

/-!
Passes over one destination with several workers. The puts of a stage begin and end in any order, and
some may be under way at the same time; the next stage is taken up when the one before is over without
a failure. Putting everything in the order of the plan, as `putStages` does, is one way of doing it.
-/

set_option autoImplicit false

namespace Wheelhouse.Publish

/-- What is seen of the puts of a pass, each with the number of its stage. -/
inductive PutEvent where
  | begun (stage : Nat) (object : PlannedObject)
  | stored (stage : Nat) (object : PlannedObject)
  | refused (stage : Nat) (object : PlannedObject)

def PutEvent.stage : PutEvent → Nat
  | .begun i _ | .stored i _ | .refused i _ => i

def PutEvent.begun? : PutEvent → Option PlannedObject
  | .begun _ o => some o
  | _ => none

def PutEvent.stored? : PutEvent → Option PlannedObject
  | .stored _ o => some o
  | _ => none

def PutEvent.refused? : PutEvent → Option PlannedObject
  | .refused _ o => some o
  | _ => none

/-- The objects of the puts that have begun, in that order. -/
def begun (log : List PutEvent) : List PlannedObject := log.filterMap PutEvent.begun?

def stored (log : List PutEvent) : List PlannedObject := log.filterMap PutEvent.stored?

def refused (log : List PutEvent) : List PlannedObject := log.filterMap PutEvent.refused?

@[simp] theorem begun_nil : begun [] = [] := rfl

@[simp] theorem stored_nil : stored [] = [] := rfl

@[simp] theorem refused_nil : refused [] = [] := rfl

@[simp] theorem begun_append (log later : List PutEvent) : begun (log ++ later) = begun log ++ begun later :=
  List.filterMap_append

@[simp] theorem stored_append (log later : List PutEvent) : stored (log ++ later) = stored log ++ stored later :=
  List.filterMap_append

@[simp] theorem refused_append (log later : List PutEvent) : refused (log ++ later) = refused log ++ refused later :=
  List.filterMap_append

@[simp] theorem begun_begun (i : Nat) (o : PlannedObject) : begun [.begun i o] = [o] := rfl

@[simp] theorem stored_begun (i : Nat) (o : PlannedObject) : stored [.begun i o] = [] := rfl

@[simp] theorem refused_begun (i : Nat) (o : PlannedObject) : refused [.begun i o] = [] := rfl

theorem refused_eq_nil_iff {log : List PutEvent} {i : Nat} (same : ∀ e ∈ log, e.stage = i) :
    refused log = [] ↔ ∀ o, .refused i o ∉ log := by
  rw [refused, List.filterMap_eq_nil_iff]
  constructor
  · intro none o there
    simpa [PutEvent.refused?] using none _ there
  · intro free e he
    cases e with
    | begun _ _ => rfl
    | stored _ _ => rfl
    | refused j o =>
      have here : j = i := same _ he
      exact absurd he (here ▸ free o)

/-- What the puts of a log add to a state. -/
structure Tallies (s : PublishState) (log : List PutEvent) (s' : PublishState) : Prop where
  uploaded : s'.uploaded = s.uploaded + (stored log).length
  failed : s'.failed.map Prod.fst = s.failed.map Prod.fst ++ (refused log).map PlannedObject.key
  completed : s'.completed = s.completed
  incomplete : s'.incomplete = s.incomplete

theorem Tallies.nil (s : PublishState) : Tallies s [] s := ⟨rfl, by simp, rfl, rfl⟩

theorem Tallies.append {s s' s'' : PublishState} {log later : List PutEvent} (h : Tallies s log s')
    (h' : Tallies s' later s'') : Tallies s (log ++ later) s'' := by
  constructor
  · rw [h'.uploaded, h.uploaded, stored_append, List.length_append, Nat.add_assoc]
  · rw [h'.failed, h.failed, refused_append, List.map_append, List.append_assoc]
  · rw [h'.completed, h.completed]
  · rw [h'.incomplete, h.incomplete]

/-- How a put ends: as the store answers in the workspace that it finds. Each answer has what is seen of it, and the
state and the workspace that it leaves. -/
inductive PutAnswer (store : ObjectStore) (total : Nat) (shows : Bool) (i : Nat) (o : PlannedObject)
    (s : PublishState) (w : Workspace) : PutEvent → PublishState → Workspace → Prop
  | accepts {v : Workspace} (put : store.putFile o.key o.file (some (ObjectKey.contentType o.key)) w = .ok () v) :
      PutAnswer store total shows i o s w (.stored i o) { s with uploaded := s.uploaded + 1 }
        (if shows then v.noting (.progress (.objects (s.uploaded + 1) total o.key)) else v)
  | refuses {e : Failure} {v : Workspace}
      (put : store.putFile o.key o.file (some (ObjectKey.contentType o.key)) w = .error e v) :
      PutAnswer store total shows i o s w (.refused i o) { s with failed := s.failed ++ [(o.key, e)] }
        (v.noting (.notice ⟨.error, "객체 업로드 실패", [("key", .string o.key), ("error", .string e.message)]⟩))

namespace PutAnswer

variable {store : ObjectStore} {total : Nat} {shows : Bool} {i : Nat} {o : PlannedObject} {s s' : PublishState}
  {w w' : Workspace} {e : PutEvent}

theorem eq_or_eq (h : PutAnswer store total shows i o s w e s' w') : e = .stored i o ∨ e = .refused i o := by
  cases h with
  | accepts _ => exact .inl rfl
  | refuses _ => exact .inr rfl

theorem stage_eq (h : PutAnswer store total shows i o s w e s' w') : e.stage = i := by
  rcases h.eq_or_eq with rfl | rfl <;> rfl

theorem begun_eq_nil (h : PutAnswer store total shows i o s w e s' w') : begun [e] = [] := by
  rcases h.eq_or_eq with rfl | rfl <;> rfl

theorem stored_append_refused (h : PutAnswer store total shows i o s w e s' w') : stored [e] ++ refused [e] = [o] := by
  rcases h.eq_or_eq with rfl | rfl <;> rfl

theorem tallies (h : PutAnswer store total shows i o s w e s' w') : Tallies s [e] s' := by
  cases h with
  | accepts _ => exact ⟨rfl, by simp [refused, PutEvent.refused?], rfl, rfl⟩
  | refuses _ => exact ⟨rfl, by simp [refused, PutEvent.refused?], rfl, rfl⟩

end PutAnswer

-- `putObject` is one put, with the answer of the store in the workspace that it is made in.
theorem putObject_answer (store : ObjectStore) (total : Nat) (shows : Bool) (i : Nat) (o : PlannedObject)
    (s : PublishState) (w : Workspace) :
    ∃ e s' w', putObject store total shows s o w = .ok s' w' ∧ PutAnswer store total shows i o s w e s' w' := by
  unfold putObject
  cases put : store.putFile o.key o.file (some (ObjectKey.contentType o.key)) w with
  | ok _ v =>
    rw [Job.bind_ok (Job.outcome_ok put)]
    refine ⟨_, _, _, ?_, .accepts put⟩
    cases shows <;> rfl
  | error e v =>
    rw [Job.bind_ok (Job.outcome_error put)]
    exact ⟨_, _, _, rfl, .refuses put⟩

/-- The log of a single worker, who puts objects one by one: each put is over before the next one begins. -/
inductive OneByOne : List PlannedObject → List PutEvent → Prop
  | nil : OneByOne [] []
  | cons {i : Nat} {o : PlannedObject} {os : List PlannedObject} {e : PutEvent} {log : List PutEvent}
      (answer : e = .stored i o ∨ e = .refused i o) (later : OneByOne os log) :
      OneByOne (o :: os) (.begun i o :: e :: log)

theorem OneByOne.append {os os' : List PlannedObject} {log log' : List PutEvent} (h : OneByOne os log)
    (h' : OneByOne os' log') : OneByOne (os ++ os') (log ++ log') := by
  induction h with
  | nil => exact h'
  | cons answer _ ih => exact .cons answer ih

theorem OneByOne.begun_eq {os : List PlannedObject} {log : List PutEvent} (h : OneByOne os log) : begun log = os := by
  induction h with
  | nil => rfl
  | cons answer _ ih => rcases answer with rfl | rfl <;> exact congrArg (List.cons _) ih

structure Pass where
  stage : Nat
  waiting : List PlannedObject
  underway : List PlannedObject
  later : List (List PlannedObject)
  state : PublishState
  world : Workspace
  log : List PutEvent

namespace Pass

def start (plan : DestinationPlan) (s : PublishState) (w : Workspace) : Pass :=
  { stage := 0, waiting := plan.stages.headD [], underway := [], later := plan.stages.tail
    state := s, world := w, log := [] }

def FailureFree (p : Pass) : Prop := ∀ o, .refused p.stage o ∉ p.log

inductive Step (store : ObjectStore) (total : Nat) (shows : Bool) : Pass → Pass → Prop
  | begin {p : Pass} {o : PlannedObject} (waits : o ∈ p.waiting) :
      Step store total shows p
        { p with waiting := p.waiting.erase o, underway := o :: p.underway,
                 log := p.log ++ [.begun p.stage o] }
  | finish {p : Pass} {o : PlannedObject} {e : PutEvent} {s : PublishState} {w : Workspace} (begun : o ∈ p.underway)
      (answer : PutAnswer store total shows p.stage o p.state p.world e s w) :
      Step store total shows p
        { p with underway := p.underway.erase o, state := s, world := w, log := p.log ++ [e] }
  | advance {p : Pass} {next : List PlannedObject} {rest : List (List PlannedObject)}
      (taken : p.waiting = []) (idle : p.underway = []) (sound : p.FailureFree)
      (more : p.later = next :: rest) :
      Step store total shows p { p with stage := p.stage + 1, waiting := next, later := rest }

abbrev Reaches (store : ObjectStore) (total : Nat) (shows : Bool) : Pass → Pass → Prop :=
  Relation.ReflTransGen (Step store total shows)

-- Nothing is left to do: the last stage is over, or one with a failure.
def IsOver (p : Pass) : Prop :=
  p.waiting = [] ∧ p.underway = [] ∧ (p.later = [] ∨ ¬p.FailureFree)

def IsComplete (p : Pass) : Prop := p.IsOver ∧ p.FailureFree

def omitted (destination : String) (p : Pass) : Event :=
  .notice ⟨.error, "업로드 실패로 상위 인덱스 업로드 생략",
    [("prefix", .string destination), ("skipped", .number (.ofNat p.later.length))]⟩

-- Stages that are left out are worth a notice.
def left (destination : String) (p : Pass) : Workspace :=
  if p.later.isEmpty then p.world else p.world.noting (p.omitted destination)

end Pass

/-- A put may only begin when every put of the stages before has been stored. -/
def Follows (stages : List (List PlannedObject)) (before : List PutEvent) (i : Nat)
    (o : PlannedObject) : Prop :=
  o ∈ stages.getD i [] ∧
    ∀ j < i, (∀ x ∈ stages.getD j [], .stored j x ∈ before) ∧ ∀ x, .refused j x ∉ before

def Ordered (stages : List (List PlannedObject)) (log : List PutEvent) : Prop :=
  ∀ before after i o, log = before ++ .begun i o :: after → Follows stages before i o

theorem append_singleton_split {log before after : List PutEvent} {e x : PutEvent}
    (h : log ++ [e] = before ++ x :: after) :
    (before = log ∧ x = e) ∨ ∃ after', log = before ++ x :: after' := by
  rcases List.eq_nil_or_concat after with rfl | ⟨after', y, rfl⟩
  · have parts := List.append_inj' h rfl
    exact .inl ⟨parts.1.symm, (List.cons.inj parts.2).1.symm⟩
  · rw [List.concat_eq_append, ← List.cons_append, ← List.append_assoc] at h
    exact .inr ⟨after', (List.append_inj' h rfl).1⟩

theorem Ordered.append_begun {stages : List (List PlannedObject)} {log : List PutEvent} {i : Nat}
    {o : PlannedObject} (h : Ordered stages log) (follows : Follows stages log i o) :
    Ordered stages (log ++ [.begun i o]) := by
  intro before after j x split
  rcases append_singleton_split split with ⟨rfl, same⟩ | ⟨after', inside⟩
  · cases same
    exact follows
  · exact h before after' j x inside

theorem Ordered.append_answer {stages : List (List PlannedObject)} {log : List PutEvent} {i : Nat}
    {o : PlannedObject} {e : PutEvent} (h : Ordered stages log) (answer : e = .stored i o ∨ e = .refused i o) :
    Ordered stages (log ++ [e]) := by
  intro before after j x split
  rcases append_singleton_split split with ⟨rfl, same⟩ | ⟨after', inside⟩
  · rcases answer with rfl | rfl <;> cases same
  · exact h before after' j x inside

-- The invariant of a pass. What has been put of earlier stages is stored without exception, and every
-- object of the current stage is waiting, under way or over.
structure Pass.Sound (stages : List (List PlannedObject)) (p : Pass) : Prop where
  later : p.later = stages.drop (p.stage + 1)
  waiting : ∀ o ∈ p.waiting, o ∈ stages.getD p.stage []
  accounted : ∀ o ∈ stages.getD p.stage [], o ∈ p.waiting ∨ o ∈ p.underway ∨
    .stored p.stage o ∈ p.log ∨ .refused p.stage o ∈ p.log
  passed : ∀ j < p.stage, (∀ o ∈ stages.getD j [], .stored j o ∈ p.log) ∧ ∀ o, .refused j o ∉ p.log
  ordered : Ordered stages p.log

theorem Pass.start_sound (plan : DestinationPlan) (s : PublishState) (w : Workspace) :
    (start plan s w).Sound plan.stages := by
  have first : plan.stages.headD [] = plan.stages.getD 0 [] := by cases plan.stages <;> rfl
  constructor
  · cases h : plan.stages <;> simp [start, h]
  · intro o waits
    exact first ▸ waits
  · intro o planned
    exact .inl (show o ∈ plan.stages.headD [] from first ▸ planned)
  · intro j before
    exact absurd before (Nat.not_lt_zero j)
  · intro before after i o empty
    simp [start] at empty

theorem Pass.Sound.begin {stages : List (List PlannedObject)} {p : Pass} {o : PlannedObject}
    (h : p.Sound stages) (waits : o ∈ p.waiting) :
    Pass.Sound stages { p with waiting := p.waiting.erase o, underway := o :: p.underway,
                               log := p.log ++ [.begun p.stage o] } := by
  refine ⟨h.later, fun x hx => h.waiting x (List.mem_of_mem_erase hx), ?_, ?_, ?_⟩
  · intro x planned
    by_cases same : x = o
    · exact .inr (.inl (by simp [same]))
    · rcases h.accounted x planned with hx | hx | hx | hx
      · exact .inl ((List.mem_erase_of_ne same).2 hx)
      · exact .inr (.inl (List.mem_cons_of_mem _ hx))
      · exact .inr (.inr (.inl (List.mem_append_left _ hx)))
      · exact .inr (.inr (.inr (List.mem_append_left _ hx)))
  · intro j before
    refine ⟨fun x hx => List.mem_append_left _ ((h.passed j before).1 x hx), fun x hx => ?_⟩
    rcases List.mem_append.1 hx with hx | hx
    · exact (h.passed j before).2 x hx
    · simp at hx
  · exact h.ordered.append_begun ⟨h.waiting o waits, h.passed⟩

theorem Pass.Sound.finish {stages : List (List PlannedObject)} {p : Pass} {o : PlannedObject} {e : PutEvent}
    (h : p.Sound stages) (answer : e = .stored p.stage o ∨ e = .refused p.stage o) (s : PublishState) (w : Workspace) :
    Pass.Sound stages { p with underway := p.underway.erase o, state := s, world := w, log := p.log ++ [e] } := by
  refine ⟨h.later, h.waiting, ?_, ?_, h.ordered.append_answer answer⟩
  · intro x planned
    by_cases same : x = o
    · subst same
      refine .inr (.inr ?_)
      rcases answer with rfl | rfl <;> simp
    · rcases h.accounted x planned with hx | hx | hx | hx
      · exact .inl hx
      · exact .inr (.inl ((List.mem_erase_of_ne same).2 hx))
      · exact .inr (.inr (.inl (List.mem_append_left _ hx)))
      · exact .inr (.inr (.inr (List.mem_append_left _ hx)))
  · intro j before
    refine ⟨fun x hx => List.mem_append_left _ ((h.passed j before).1 x hx), fun x hx => ?_⟩
    rcases List.mem_append.1 hx with hx | hx
    · exact (h.passed j before).2 x hx
    · -- The new event belongs to the current stage, not to one before.
      rcases answer with rfl | rfl
      · simp at hx
      · simp only [List.mem_singleton, PutEvent.refused.injEq] at hx
        have current : j < p.stage := before
        omega

theorem Pass.Sound.advance {stages : List (List PlannedObject)} {p : Pass}
    {next : List PlannedObject} {rest : List (List PlannedObject)} (h : p.Sound stages)
    (taken : p.waiting = []) (idle : p.underway = []) (sound : p.FailureFree)
    (more : p.later = next :: rest) :
    Pass.Sound stages { p with stage := p.stage + 1, waiting := next, later := rest } := by
  have found : stages.drop (p.stage + 1) = next :: rest := h.later.symm.trans more
  have current : stages.getD (p.stage + 1) [] = next := by
    rw [List.getD_eq_getElem?_getD, ← List.head?_drop, found]
    rfl
  refine ⟨?_, ?_, ?_, ?_, h.ordered⟩
  · have dropped := congrArg List.tail found
    rw [List.tail_drop] at dropped
    exact dropped.symm
  · intro o waits
    exact current.symm ▸ waits
  · intro o planned
    exact .inl (show o ∈ next from current ▸ planned)
  · intro j before
    rcases Nat.lt_succ_iff_lt_or_eq.1 before with earlier | rfl
    · exact h.passed j earlier
    · refine ⟨fun o planned => ?_, sound⟩
      rcases h.accounted o planned with ho | ho | ho | ho
      · simp [taken] at ho
      · simp [idle] at ho
      · exact ho
      · exact absurd ho (sound o)

section

variable {store : ObjectStore} {total : Nat} {shows : Bool}

theorem Pass.Sound.step {stages : List (List PlannedObject)} {p q : Pass} (h : p.Sound stages)
    (step : p.Step store total shows q) : q.Sound stages := by
  cases step with
  | begin waits => exact h.begin waits
  | finish _ answer => exact h.finish answer.eq_or_eq _ _
  | advance taken idle sound more => exact h.advance taken idle sound more

theorem Pass.Sound.reaches {stages : List (List PlannedObject)} {p q : Pass} (h : p.Sound stages)
    (steps : p.Reaches store total shows q) : q.Sound stages := by
  induction steps with
  | refl => exact h
  | tail _ step ih => exact ih.step step

variable (store total shows) in
theorem putStage_total (p : Pass) (idle : p.underway = []) :
    ∃ s w ends, putStage store total shows p.state p.waiting p.world = .ok s w ∧
      p.Reaches store total shows
        { p with waiting := [], state := s, world := w, log := p.log ++ ends } ∧
      Tallies p.state ends s ∧ OneByOne p.waiting ends ∧ ∀ e ∈ ends, e.stage = p.stage := by
  obtain ⟨stage, waiting, underway, later, state, world, log⟩ := p
  subst idle
  induction waiting generalizing state world log with
  | nil => exact ⟨state, world, [], rfl, by simpa using Relation.ReflTransGen.refl, .nil state, .nil, by simp⟩
  | cons o rest ih =>
    obtain ⟨e, s, w, put, answer⟩ := putObject_answer store total shows stage o state world
    obtain ⟨s', w', ends, rested, steps, tallies, order, same⟩ := ih s w ((log ++ [.begun stage o]) ++ [e])
    refine ⟨s', w', [.begun stage o] ++ ([e] ++ ends), ?_, ?_, ?_, .cons answer.eq_or_eq order, ?_⟩
    · simp only [putStage]
      rw [Job.bind_ok put]
      exact rested
    · refine .head (.begin List.mem_cons_self) (.head (.finish List.mem_cons_self answer) ?_)
      simpa using steps
    · have taken : Tallies state [.begun stage o] state := ⟨rfl, by simp, rfl, rfl⟩
      exact taken.append (answer.tallies.append tallies)
    · intro x hx
      simp only [List.mem_append, List.mem_singleton] at hx
      rcases hx with rfl | rfl | hx
      · rfl
      · exact answer.stage_eq
      · exact same x hx

-- A stage has no failure exactly when the list of failed keys is as long as before.
theorem failureFree_append_iff {i : Nat} {log ends : List PutEvent} {s s' : PublishState}
    (fresh : ∀ e ∈ log, e.stage < i) (same : ∀ e ∈ ends, e.stage = i) (tallies : Tallies s ends s') :
    (∀ o, .refused i o ∉ log ++ ends) ↔ s'.failed.length = s.failed.length := by
  have lengths : s'.failed.length = s.failed.length ↔ ∀ o, .refused i o ∉ ends := by
    rw [← refused_eq_nil_iff same, ← List.length_eq_zero_iff]
    have := congrArg List.length tallies.failed
    simp only [List.length_map, List.length_append] at this
    omega
  rw [lengths]
  constructor
  · exact fun h o ho => h o (List.mem_append_right _ ho)
  · intro h o ho
    rcases List.mem_append.1 ho with old | new
    · exact absurd (fresh _ old) (Nat.lt_irrefl _)
    · exact h o new

variable (store total shows) in
-- `putStages` is the pass of a single worker, who takes the objects in the order of the plan.
theorem putStages_pass (destination : String) (p : Pass) (idle : p.underway = [])
    (fresh : ∀ e ∈ p.log, e.stage < p.stage) :
    ∃ q b, putStages store total shows destination p.state (p.waiting :: p.later) p.world =
        .ok (q.state, b) (q.left destination) ∧
      p.Reaches store total shows q ∧ q.IsOver ∧ (b = true ↔ q.IsComplete) ∧
      ∃ os ends, os <+: (p.waiting :: p.later).flatten ∧ q.log = p.log ++ ends ∧ OneByOne os ends := by
  obtain ⟨stage, waiting, underway, later, state, world, log⟩ := p
  subst idle
  induction later generalizing stage waiting state world log with
  | nil =>
    obtain ⟨s, w, ends, put, steps, tallies, order, same⟩ :=
      putStage_total store total shows
        ⟨stage, waiting, [], [], state, world, log⟩ rfl
    have free := failureFree_append_iff fresh same tallies
    have taken : waiting <+: [waiting].flatten := by simp
    by_cases equal : s.failed.length = state.failed.length
    · have done : Pass.IsOver ⟨stage, [], [], [], s, w, log ++ ends⟩ := ⟨rfl, rfl, .inl rfl⟩
      refine ⟨_, true, ?_, steps, done, ⟨fun _ => ⟨done, free.2 equal⟩, fun _ => rfl⟩, _, _, taken, rfl, order⟩
      simp only [putStages]
      rw [Job.bind_ok put, if_pos equal]
      rfl
    · have failed : ¬Pass.FailureFree ⟨stage, [], [], [], s, w, log ++ ends⟩ := fun h => equal (free.1 h)
      refine ⟨_, false, ?_, steps, ⟨rfl, rfl, .inl rfl⟩, ⟨fun h => absurd h (by decide),
        fun h => absurd h.2 failed⟩, _, _, taken, rfl, order⟩
      simp only [putStages]
      rw [Job.bind_ok put, if_neg equal]
      rfl
  | cons next rest ih =>
    obtain ⟨s, w, ends, put, steps, tallies, order, same⟩ :=
      putStage_total store total shows
        ⟨stage, waiting, [], next :: rest, state, world, log⟩ rfl
    have free := failureFree_append_iff fresh same tallies
    by_cases equal : s.failed.length = state.failed.length
    · have fresh' : ∀ e ∈ log ++ ends, e.stage < stage + 1 := by
        intro e he
        rcases List.mem_append.1 he with old | new
        · exact Nat.lt_succ_of_lt (fresh e old)
        · exact same e new ▸ Nat.lt_succ_self _
      obtain ⟨q, b, puts, steps', done, complete, os, ends', taken, whole, order'⟩ :=
        ih (stage + 1) next s w (log ++ ends) fresh'
      refine ⟨q, b, ?_, ?_, done, complete, waiting ++ os, ends ++ ends', ?_, ?_, order.append order'⟩
      · rw [putStages]
        rw [Job.bind_ok put, if_pos equal]
        exact puts
      · exact steps.trans (.head (.advance rfl rfl (free.2 equal) rfl) steps')
      · exact (List.prefix_append_right_inj waiting).2 taken
      · simpa using whole
    · have failed : ¬Pass.FailureFree ⟨stage, [], [], next :: rest, s, w, log ++ ends⟩ :=
        fun h => equal (free.1 h)
      refine ⟨_, false, ?_, steps, ⟨rfl, rfl, .inr failed⟩, ⟨fun h => absurd h (by decide),
        fun h => absurd h.2 failed⟩, waiting, ends, List.prefix_append _ _, rfl, order⟩
      rw [putStages]
      rw [Job.bind_ok put, if_neg equal]
      rfl

variable (store total shows) in
-- The same for a plan that has a stage, from the start of a pass over it.
theorem putStages_plan {plan : DestinationPlan} (filled : plan.stages ≠ []) (s : PublishState) (w : Workspace) :
    ∃ q b, putStages store total shows plan.destination s plan.stages w = .ok (q.state, b) (q.left plan.destination) ∧
      (Pass.start plan s w).Reaches store total shows q ∧ q.IsOver ∧ (b = true ↔ q.IsComplete) ∧
      ∃ os, os <+: DestinationPlan.objects plan ∧ OneByOne os q.log := by
  obtain ⟨stage, later, stages⟩ := List.exists_cons_of_ne_nil filled
  have all : (Pass.start plan s w).waiting :: (Pass.start plan s w).later = plan.stages := by simp [Pass.start, stages]
  obtain ⟨q, b, put, steps, ended, complete, os, ends, taken, whole, order⟩ :=
    putStages_pass store total shows plan.destination (Pass.start plan s w) rfl (by simp [Pass.start])
  rw [all] at put taken
  exact ⟨q, b, put, steps, ended, complete, os, taken, whole ▸ order⟩

end

end Wheelhouse.Publish
