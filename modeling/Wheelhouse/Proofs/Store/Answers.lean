import Wheelhouse.Proofs.Store.Confinement

/-!
What a store says about a key, told apart from what is left of the world. The answer depends on the disk and
on the objects of the service, and two objects below a key, neither of which lies in the other, do not get in
each other's way: a put of one does not change what is said about the other.
-/

set_option autoImplicit false

namespace Wheelhouse

namespace Job

variable {α : Type}

/-- What a job gives back, without the workspace that it leaves. -/
def answer (t : Job α) (w : Workspace) : Except Failure α :=
  match t w with
  | .ok a _ => .ok a
  | .error e _ => .error e

theorem answer_ok {t : Job α} {a : α} {w v : Workspace} (ran : t w = .ok a v) : answer t w = .ok a := by
  rw [answer, ran]

theorem answer_error {t : Job α} {e : Failure} {w v : Workspace} (failed : t w = .error e v) :
    answer t w = .error e := by
  rw [answer, failed]

def SameAnswer (t : Job α) (w v : Workspace) : Prop := answer t v = answer t w

instance (t : Job α) : IsPreorder Workspace (SameAnswer t) where
  refl _ := rfl
  trans _ _ _ first later := later.trans first

end Job

theorem Path.isMarked_append {rel : List String} (filled : rel ≠ []) (plain : IsPlain rel) (home : Path) :
    isMarked (home ++ rel) = false := by
  rw [isMarked, beq_eq_false_iff_ne]
  intro empty
  rw [List.getLast?_append_of_ne_nil _ filled] at empty
  exact (plain "" (List.mem_of_getLast? empty)).1 rfl

namespace ObjectKey

variable {rel rel' : List String} {key : String}

theorem segments_below (filled : rel ≠ []) (plain : Path.IsPlain rel) (key : String) :
    segments [key, Text.joined "/" rel] = segments [key] ++ rel := by
  rw [segments_cons, segments_joined_of_isPlain filled plain]

theorem join_below_inj (filled : rel ≠ []) (plain : Path.IsPlain rel) (filled' : rel' ≠ [])
    (plain' : Path.IsPlain rel') : join [key, Text.joined "/" rel] = join [key, Text.joined "/" rel'] ↔ rel = rel' := by
  rw [join_eq_join_iff, segments_below filled plain, segments_below filled' plain', List.append_right_inj]

end ObjectKey

namespace Disk

variable {d d' : Disk} {p q : Path}

theorem Within.find?_eq (within : Within p d d') (aside : ¬p <+: q) (off : ¬q <+: p) : d'.find? q = d.find? q := by
  by_contra changed
  rcases within q changed with below | ⟨above, _⟩
  · exact aside below
  · exact off above

theorem has_of_not_isMarked (unmarked : q.isMarked = false) : d.has q = (d.find? q).isSome := by
  rw [has, at?, unmarked, if_neg (by decide)]

end Disk

namespace FolderStore

variable {root p : Path} {key : String} {rel : List String}

theorem place_below (filled : rel ≠ []) (plain : Path.IsPlain rel)
    (placed : place root (ObjectKey.join [key, Text.joined "/" rel]) = .ok p) :
    p = Path.descend root.bare (ObjectKey.segments [key]) ++ rel := by
  rw [place, ObjectKey.descend_segments_join, ObjectKey.segments_join, ObjectKey.segments_below filled plain,
    Path.descend_append, Path.descend_of_isPlain plain] at placed
  split at placed <;> cases placed
  rfl

theorem putFile_within (placed : place root key = .ok p) (file : Path) (contentType : Option String) :
    Respects (Job.OnDisk (Disk.Within p.bare)) ((store root).putFile key file contentType) := by
  have copied : (store root).putFile key file contentType = (do Job.ensureFolder p.parent; Job.copy file p) := by
    change (prepare root key >>= fun p => Job.copy file p) = _
    rw [prepare_eq placed, bind_assoc]
    rfl
  rw [copied]
  exact copied_within file p

theorem answer_contains (root : Path) (key : String) (w : Workspace) :
    Job.answer ((store root).contains key) w = (place root key).map fun p => w.disk.has p := by
  have asked : (store root).contains key = (Job.ofExcept (place root key) >>= Job.has) := rfl
  rw [asked]
  cases placed : place root key with
  | error e => exact Job.answer_error (Job.bind_error rfl)
  | ok p => exact Job.answer_ok (Job.bind_ok rfl)

end FolderStore

namespace Bucket

variable (rules : ServiceRules)

theorem answer_contains (name key : String) (w : Workspace) : Job.answer ((store rules name).contains key) w =
    match rules.failure? key with
    | some e => if isAbsence (failure rules e) then .ok false else .error (failure rules e)
    | none => .ok (w.objects.lookup (name, key)).isSome := by
  have found {text : String} {v : Workspace} (sent : send rules (.head name key) w = .ok text v) :
      Job.answer ((store rules name).contains key) w = .ok true :=
    Job.answer_ok (Job.bind_ok (Job.outcome_ok sent))
  have failed {e : Failure} {v : Workspace} (sent : send rules (.head name key) w = .error e v) :
      Job.answer ((store rules name).contains key) w = if isAbsence e then .ok false else .error e := by
    have ran : (store rules name).contains key w = (if isAbsence e then return false else throw e : Job Bool) v :=
      Job.bind_ok (Job.outcome_error sent)
    split_ifs at ran ⊢
    · exact Job.answer_ok ran
    · exact Job.answer_error ran
  have sent : send rules (.head name key) w = (match rules.failure? key with
      | some e => throw (failure rules e)
      | none => answer rules (.head name key)) (w.noting (.sent (.head name key))) :=
    Job.bind_ok (Job.record_run _ w)
  cases refused : rules.failure? key with
  | some e =>
    rw [refused] at sent
    exact failed sent
  | none =>
    rw [refused] at sent
    change _ = (if (w.objects.lookup (name, key)).isSome then return "" else throw (failure rules "NotFound") : Job String) _
      at sent
    by_cases there : (w.objects.lookup (name, key)).isSome = true
    · rw [if_pos there] at sent
      rw [found sent, there]
    · rw [if_neg there] at sent
      have absent : isAbsence (failure rules "NotFound") = true := rfl
      rw [failed sent, if_pos absent, Bool.eq_false_iff.2 there]

def SameObject (name key : String) (w v : Workspace) : Prop :=
  v.objects.lookup (name, key) = w.objects.lookup (name, key)

instance (name key : String) : IsPreorder Workspace (SameObject name key) where
  refl _ := rfl
  trans _ _ _ first later := later.trans first

theorem lookup_filter_ne {α β : Type} [BEq α] [LawfulBEq α] {a b : α} (different : a ≠ b) (l : List (α × β)) :
    (l.filter (·.1 != b)).lookup a = l.lookup a := by
  induction l with
  | nil => rfl
  | cons e l ih =>
    by_cases here : e.1 = b
    · have other : (a == e.1) = false := by simpa [here] using different
      rw [List.filter_cons_of_neg (by simpa using here), ih, List.lookup_cons, other]
    · rw [List.filter_cons_of_pos (by simpa using here), List.lookup_cons, List.lookup_cons, ih]

theorem respects_put {name key other : String} (apart : key ≠ other) (contentType : String) (length : Option Nat)
    (body : String) : Respects (SameObject name other) (send rules (.put name key contentType length body)) := by
  intro w
  have sent : send rules (.put name key contentType length body) w = (match rules.failure? key with
      | some e => throw (failure rules e)
      | none => answer rules (.put name key contentType length body)) (w.noting (.sent _)) :=
    Job.bind_ok (Job.record_run _ w)
  cases refused : rules.failure? key with
  | some e =>
    rw [refused] at sent
    rw [final_error sent]
    rfl
  | none =>
    rw [refused] at sent
    rw [final_ok sent]
    have different : (name, other) ≠ (name, key) := fun same => apart (Prod.mk.inj same).2.symm
    change List.lookup (name, other) (((name, key), body) :: w.objects.filter (·.1 != (name, key))) =
      w.objects.lookup (name, other)
    rw [List.lookup_cons, beq_eq_false_iff_ne.2 different]
    exact lookup_filter_ne different w.objects

theorem respects_putFile {name key other : String} (apart : key ≠ other) (file : Path) (contentType : Option String) :
    Respects (SameObject name other) ((store rules name).putFile key file contentType) := by
  have looks {α : Type} (f : Disk → Except DiskError α) : Respects (SameObject name other) (Job.look f) := by
    intro w
    unfold final Job.look
    cases f w.disk <;> exact refl_of (SameObject name other) w
  refine (looks _).bind fun _ => (looks _).bind fun contents => ?_
  exact (respects_put rules apart _ _ _).bind fun _ => respects_pure ()

end Bucket

namespace ObjectStore.IsBuilt

variable {store : ObjectStore}

-- What a store says about a key depends on the disk and on the objects of the service.
theorem answer_contains_congr (built : IsBuilt store) (key : String) {w v : Workspace} (disk : v.disk = w.disk)
    (objects : v.objects = w.objects) : Job.SameAnswer (store.contains key) w v := by
  unfold Job.SameAnswer
  induction built with
  | folder root => rw [FolderStore.answer_contains, FolderStore.answer_contains, disk]
  | bucket rules name => rw [Bucket.answer_contains, Bucket.answer_contains, objects]
  | refusing refuses _ ih => exact ih

variable {rel rel' : List String}

-- Objects below a key, neither of which lies in the other, do not get in each other's way.
theorem respects_putFile (built : IsBuilt store) (key : String) (plain : Path.IsPlain rel)
    (plain' : Path.IsPlain rel') (apart : ¬rel <+: rel') (apart' : ¬rel' <+: rel) (file : Path)
    (contentType : Option String) :
    Respects (Job.SameAnswer (store.contains (ObjectKey.join [key, Text.joined "/" rel'])))
      (store.putFile (ObjectKey.join [key, Text.joined "/" rel]) file contentType) := by
  have filled : rel ≠ [] := fun empty => apart (empty ▸ List.nil_prefix)
  have filled' : rel' ≠ [] := fun empty => apart' (empty ▸ List.nil_prefix)
  induction built with
  | folder root =>
    intro w
    unfold Job.SameAnswer
    rw [FolderStore.answer_contains, FolderStore.answer_contains]
    cases asked : FolderStore.place root (ObjectKey.join [key, Text.joined "/" rel']) with
    | error e => rfl
    | ok q =>
      cases placed : FolderStore.place root (ObjectKey.join [key, Text.joined "/" rel]) with
      | error e => rw [final_error (FolderStore.refused_of_place placed (.putFile file contentType) w)]
      | ok p =>
        obtain rfl := FolderStore.place_below filled plain placed
        obtain rfl := FolderStore.place_below filled' plain' asked
        generalize Path.descend root.bare (ObjectKey.segments [key]) = home at *
        have within := FolderStore.putFile_within placed file contentType w
        rw [Path.bare_of_not_isMarked (Path.isMarked_append filled plain home)] at within
        have same := within.find?_eq (q := home ++ rel') (mt (List.prefix_append_right_inj home).1 apart)
          (mt (List.prefix_append_right_inj home).1 apart')
        have unmarked := Path.isMarked_append filled' plain' home
        simp only [Except.map, Disk.has_of_not_isMarked unmarked, same]
  | bucket rules name =>
    intro w
    have differs : ObjectKey.join [key, Text.joined "/" rel] ≠ ObjectKey.join [key, Text.joined "/" rel'] := by
      rw [ne_eq, ObjectKey.join_below_inj filled plain filled' plain']
      rintro rfl
      exact apart List.prefix_rfl
    have same : Bucket.SameObject name _ w _ := Bucket.respects_putFile rules differs file contentType w
    unfold Job.SameAnswer
    rw [Bucket.answer_contains, Bucket.answer_contains, same]
  | @refusing refuses inner built ih =>
    have recorded : Respects (Job.SameAnswer (inner.contains (ObjectKey.join [key, Text.joined "/" rel'])))
        (Job.record (.attempt (ObjectKey.join [key, Text.joined "/" rel]))) :=
      fun w => built.answer_contains_congr _ rfl rfl
    refine recorded.bind fun _ => ?_
    split
    · exact fun w => rfl
    · exact ih

end ObjectStore.IsBuilt

end Wheelhouse
