import Mathlib.Algebra.Order.Monoid.Unbundled.WithTop
import Mathlib.Data.List.DropRight
import Mathlib.Data.List.Lex
import Mathlib.Data.Prod.Lex
import Mathlib.Order.Compare
import Mathlib.Order.Nat
import Mathlib.Order.WithBot
import Wheelhouse.Package.Version

/-!
The order of versions. Each version has a key in a linear order: its epoch, its release numbers without
the zeros at their end, and its places among pre-releases, post-releases and development releases, one
after the other. Versions compare as their keys do, so any two texts compare, and `highest?` gives the
first of those that no other exceeds.
-/

set_option autoImplicit false

namespace Wheelhouse

theorem compares_then {α β : Type} [LT α] [LT β] {o o' : Ordering} {a b : α} {c d : β}
    (first : o.Compares a b) (later : o'.Compares c d) :
    (o.then o').Compares (toLex (a, c)) (toLex (b, d)) := by
  cases o with
  | lt => exact Prod.Lex.toLex_lt_toLex.2 (.inl first)
  | gt => exact Prod.Lex.toLex_lt_toLex.2 (.inl first)
  | eq =>
    obtain rfl : a = b := first
    cases o' with
    | lt => exact Prod.Lex.toLex_lt_toLex.2 (.inr ⟨rfl, later⟩)
    | gt => exact Prod.Lex.toLex_lt_toLex.2 (.inr ⟨rfl, later⟩)
    | eq =>
      obtain rfl : c = d := later
      rfl

namespace Numeral

def value : Numeral → WithTop ℕ
  | .finite n => n
  | .infinite => ⊤

theorem value_injective : Function.Injective value := by
  intro a b same
  cases a with
  | finite m =>
    cases b with
    | finite n => exact congrArg finite (WithTop.coe_inj.1 same)
    | infinite => exact absurd same WithTop.coe_ne_top
  | infinite =>
    cases b with
    | finite n => exact absurd same.symm WithTop.coe_ne_top
    | infinite => rfl

theorem compares_compare (a b : Numeral) : (compare a b).Compares a.value b.value := by
  cases a with
  | finite m =>
    cases b with
    | finite n => exact WithTop.coe_strictMono.compares.2 ((compare_iff m n).1 rfl)
    | infinite => exact WithTop.coe_lt_top m
  | infinite =>
    cases b with
    | finite n => exact WithTop.coe_lt_top n
    | infinite => rfl

-- The values of some numbers up to the last one that is not zero.
def significant (as : List Numeral) : List (WithTop ℕ) :=
  (as.rdropWhile (· = zero)).map value

@[simp] theorem significant_nil : significant [] = [] := rfl

theorem significant_cons (a : Numeral) (as : List Numeral) :
    significant (a :: as) = if a = zero ∧ significant as = [] then [] else a.value :: significant as := by
  have cut := @List.dropWhile_append _ (· = zero) as.reverse [a]
  have whole : significant (a :: as) = ((as.reverse ++ [a]).dropWhile (· = zero)).reverse.map value := by
    simp [significant, List.rdropWhile]
  have rest : significant as = (as.reverse.dropWhile (· = zero)).reverse.map value := rfl
  rw [whole, rest, cut]
  generalize as.reverse.dropWhile (· = zero) = kept
  by_cases none : kept = [] <;> by_cases first : a = zero <;> simp [none, first]

@[simp] theorem significant_zero : significant [zero] = [] := by
  simp [significant_cons]

theorem significant_cons_lt {a b : Numeral} (less : a.value < b.value) (as bs : List Numeral) :
    significant (a :: as) < significant (b :: bs) := by
  have positive : b ≠ zero := by
    rintro rfl
    exact not_lt_bot less
  have whole : significant (b :: bs) = b.value :: significant bs := by simp [significant_cons, positive]
  rw [whole, significant_cons]
  split
  · exact List.nil_lt_cons _ _
  · exact List.cons_lt_cons_iff.2 (.inl less)

theorem significant_cons_lt_of_eq {a b : Numeral} (same : a.value = b.value) {as bs : List Numeral}
    (less : significant as < significant bs) : significant (a :: as) < significant (b :: bs) := by
  have filled : significant bs ≠ [] := by
    intro none
    rw [none] at less
    exact List.not_lt_nil _ less
  have whole : significant (b :: bs) = b.value :: significant bs := by simp [significant_cons, filled]
  rw [whole, significant_cons]
  split
  · exact List.nil_lt_cons _ _
  · exact List.cons_lt_cons_iff.2 (.inr ⟨same, less⟩)

theorem compares_significant_cons {a b : Numeral} {as bs : List Numeral} {o o' : Ordering}
    (first : o.Compares a.value b.value) (later : o'.Compares (significant as) (significant bs)) :
    (o.then o').Compares (significant (a :: as)) (significant (b :: bs)) := by
  cases o with
  | lt => exact significant_cons_lt first as bs
  | gt => exact significant_cons_lt first bs as
  | eq =>
    cases o' with
    | lt => exact significant_cons_lt_of_eq first later
    | gt => exact significant_cons_lt_of_eq (Eq.symm first) later
    | eq =>
      have same : a = b := value_injective first
      have rest : significant as = significant bs := later
      change significant (a :: as) = significant (b :: bs)
      rw [significant_cons, significant_cons, same, rest]

theorem compares_compareZeros (bs : List Numeral) : (compareZeros bs).Compares [] (significant bs) := by
  induction bs with
  | nil => rfl
  | cons b bs ih =>
    have empty : (compareZeros bs).Compares (significant []) (significant bs) := ih
    have padded := compares_significant_cons (compares_compare zero b) empty
    rwa [significant_zero] at padded

theorem compares_compareAll (as bs : List Numeral) :
    (compareAll as bs).Compares (significant as) (significant bs) := by
  induction as generalizing bs with
  | nil => exact compares_compareZeros bs
  | cons a as ih =>
    cases bs with
    | nil =>
      have padded := compares_significant_cons (compares_compare a zero) (ih [])
      rwa [significant_zero] at padded
    | cons b bs => exact compares_significant_cons (compares_compare a b) (ih bs)

-- A number that may be missing; a missing one has the least value.
def valueOrBelow (n : Option Numeral) : WithBot (WithTop ℕ) := n.elim ⊥ fun n => n.value

theorem compares_compareOption (a b : Option Numeral) :
    (compareOption a b).Compares (valueOrBelow a) (valueOrBelow b) := by
  cases a with
  | none =>
    cases b with
    | none => rfl
    | some n => exact WithBot.bot_lt_coe n.value
  | some m =>
    cases b with
    | none => exact WithBot.bot_lt_coe m.value
    | some n => exact WithBot.coe_strictMono.compares.2 (compares_compare m n)

end Numeral

namespace Version

/-- The place of a version among those with its release numbers: that of its pre-release; without one it
comes before them all if it is a development release of the release itself, else after them all. -/
def prePlace (v : Version) : WithBot (WithTop (ℕ ×ₗ WithTop ℕ)) :=
  match v.pre with
  | some (phase, n) => ((toLex (phase.rank, n.value) : ℕ ×ₗ WithTop ℕ) : WithTop (ℕ ×ₗ WithTop ℕ))
  | none => if v.post = none ∧ v.dev ≠ none then ⊥ else ((⊤ : WithTop (ℕ ×ₗ WithTop ℕ)) : WithBot _)

def Key : Type :=
  WithTop ℕ ×ₗ List (WithTop ℕ) ×ₗ WithBot (WithTop (ℕ ×ₗ WithTop ℕ)) ×ₗ WithBot (WithTop ℕ) ×ₗ WithTop ℕ

instance : LinearOrder Key :=
  inferInstanceAs (LinearOrder (WithTop ℕ ×ₗ List (WithTop ℕ) ×ₗ WithBot (WithTop (ℕ ×ₗ WithTop ℕ)) ×ₗ
    WithBot (WithTop ℕ) ×ₗ WithTop ℕ))

/-- What versions are ordered by: epoch, release, pre-release, post-release, development release. A
missing development release comes after every other. -/
def key (v : Version) : Key :=
  toLex (v.epoch.value, toLex (Numeral.significant v.release, toLex (v.prePlace,
    toLex (Numeral.valueOrBelow v.post, v.dev.elim ⊤ Numeral.value))))

theorem prePlace_cases (v : Version) :
    (v.stage = 0 ∧ v.preKey = (0, .zero) ∧ v.prePlace = ⊥) ∨
    (∃ phase n, v.stage = 1 ∧ v.preKey = (Phase.rank phase, n) ∧
      v.prePlace = ((toLex (phase.rank, n.value) : ℕ ×ₗ WithTop ℕ) : WithTop (ℕ ×ₗ WithTop ℕ))) ∨
    (v.stage = 2 ∧ v.preKey = (0, .zero) ∧ v.prePlace = ((⊤ : WithTop (ℕ ×ₗ WithTop ℕ)) : WithBot _)) := by
  unfold stage preKey prePlace
  cases v.pre with
  | some part => exact .inr (.inl ⟨part.1, part.2, rfl, rfl, rfl⟩)
  | none =>
    cases v.post with
    | some n => exact .inr (.inr ⟨rfl, rfl, rfl⟩)
    | none =>
      cases v.dev with
      | some n => exact .inl ⟨rfl, rfl, by simp⟩
      | none => exact .inr (.inr ⟨rfl, rfl, by simp⟩)

theorem compares_prePlace (a b : Version) :
    ((Ord.compare a.stage b.stage).then ((Ord.compare a.preKey.1 b.preKey.1).then
      (Numeral.compare a.preKey.2 b.preKey.2))).Compares a.prePlace b.prePlace := by
  rcases prePlace_cases a with ⟨stage, key, place⟩ | ⟨phase, m, stage, key, place⟩ | ⟨stage, key, place⟩ <;>
    rcases prePlace_cases b with ⟨stage', key', place'⟩ | ⟨phase', n, stage', key', place'⟩ | ⟨stage', key', place'⟩ <;>
    rw [stage, stage', key, key', place, place']
  case inr.inl.inr.inl =>
    change ((Ord.compare phase.rank phase'.rank).then (Numeral.compare m n)).Compares _ _
    exact WithBot.coe_strictMono.compares.2 (WithTop.coe_strictMono.compares.2
      (compares_then ((compare_iff _ _).1 rfl) (Numeral.compares_compare m n)))
  case inl.inl | inr.inr.inr.inr => rfl
  case inl.inr.inl | inl.inr.inr => exact WithBot.bot_lt_coe _
  case inr.inl.inl | inr.inr.inl => exact WithBot.bot_lt_coe _
  case inr.inl.inr.inr => exact WithBot.coe_lt_coe.2 (WithTop.coe_lt_top _)
  case inr.inr.inr.inl => exact WithBot.coe_lt_coe.2 (WithTop.coe_lt_top _)

theorem compares_compare (a b : Version) : (compare a b).Compares a.key b.key := by
  have dev : (Numeral.compare (a.dev.getD .infinite) (b.dev.getD .infinite)).Compares
      (a.dev.elim ⊤ Numeral.value) (b.dev.elim ⊤ Numeral.value) := by
    have last (v : Version) : v.dev.elim ⊤ Numeral.value = (v.dev.getD .infinite).value := by
      cases v.dev <;> rfl
    rw [last, last]
    exact Numeral.compares_compare _ _
  have regrouped : compare a b = (Numeral.compare a.epoch b.epoch).then
      ((Numeral.compareAll a.release b.release).then
        (((Ord.compare a.stage b.stage).then ((Ord.compare a.preKey.1 b.preKey.1).then
            (Numeral.compare a.preKey.2 b.preKey.2))).then
          ((Numeral.compareOption a.post b.post).then
            (Numeral.compare (a.dev.getD .infinite) (b.dev.getD .infinite))))) := by
    simp [compare, Ordering.then_assoc]
  rw [regrouped]
  exact compares_then (Numeral.compares_compare a.epoch b.epoch)
    (compares_then (Numeral.compares_compareAll a.release b.release)
      (compares_then (compares_prePlace a b)
        (compares_then (Numeral.compares_compareOption a.post b.post) dev)))

theorem compare_eq_cmp (a b : Version) : compare a b = cmp a.key b.key :=
  (compares_compare a b).cmp_eq.symm

theorem compareTexts_eq_cmp (s t : String) : compareTexts s t = cmp (parse s).key (parse t).key :=
  compare_eq_cmp (parse s) (parse t)

theorem compareTexts_lt_iff {s t : String} : compareTexts s t = .lt ↔ (parse s).key < (parse t).key := by
  rw [compareTexts_eq_cmp, cmp_eq_lt_iff]

theorem compareTexts_ne_gt_iff {s t : String} : compareTexts s t ≠ .gt ↔ (parse s).key ≤ (parse t).key := by
  rw [compareTexts_eq_cmp, ne_eq, cmp_eq_gt_iff, not_lt]

-- Whether a text is the first of the greatest versions among some texts.
def IsFirstGreatest (texts : List String) (best : String) : Prop :=
  ∃ before after, texts = before ++ best :: after ∧ (∀ t ∈ before, compareTexts t best = .lt) ∧
    ∀ t ∈ after, compareTexts t best ≠ .gt

-- One more text replaces the best one so far only if it exceeds it.
theorem IsFirstGreatest.next {texts : List String} {best : String} (h : IsFirstGreatest texts best) (t : String) :
    IsFirstGreatest (texts ++ [t]) (if compareTexts t best = .gt then t else best) := by
  obtain ⟨before, after, rfl, below, within⟩ := h
  split
  · rename_i exceeds
    rw [compareTexts_eq_cmp, cmp_eq_gt_iff] at exceeds
    refine ⟨before ++ best :: after, [], by simp, ?_, by simp⟩
    intro u inside
    rw [compareTexts_lt_iff]
    rcases List.mem_append.1 inside with early | late
    · exact (compareTexts_lt_iff.1 (below u early)).trans exceeds
    · rcases List.mem_cons.1 late with rfl | late
      · exact exceeds
      · exact (compareTexts_ne_gt_iff.1 (within u late)).trans_lt exceeds
  · rename_i bounded
    refine ⟨before, after ++ [t], by simp, below, ?_⟩
    intro u inside
    rcases List.mem_append.1 inside with late | last
    · exact within u late
    · rw [List.mem_singleton.1 last]
      exact bounded

theorem IsFirstGreatest.foldl {texts : List String} {best : String} (h : IsFirstGreatest texts best)
    (rest : List String) : IsFirstGreatest (texts ++ rest)
      (rest.foldl (fun best v => if compareTexts v best = .gt then v else best) best) := by
  induction rest generalizing texts best with
  | nil => simpa using h
  | cons t rest ih => simpa using ih (h.next t)

theorem isFirstGreatest_of_highest? {texts : List String} {best : String} (found : highest? texts = some best) :
    IsFirstGreatest texts best := by
  cases texts with
  | nil => cases found
  | cons first rest =>
    cases found
    have start : IsFirstGreatest [first] first := ⟨[], [], rfl, by simp, by simp⟩
    exact start.foldl rest

theorem exists_highest? {texts : List String} (filled : texts ≠ []) : ∃ best, highest? texts = some best := by
  cases texts with
  | nil => exact absurd rfl filled
  | cons first rest => exact ⟨_, rfl⟩

theorem greatest_of_highest? {texts : List String} {best : String} (found : highest? texts = some best) :
    best ∈ texts ∧ ∀ t ∈ texts, compareTexts t best ≠ .gt := by
  obtain ⟨before, after, rfl, below, within⟩ := isFirstGreatest_of_highest? found
  constructor
  · simp
  · intro t inside
    rcases List.mem_append.1 inside with early | late
    · simp [below t early]
    · rcases List.mem_cons.1 late with rfl | late
      · simp [compareTexts]
      · exact within t late

/-- Texts compare as in a total preorder, whether they write versions or not, and of some texts the first
of the greatest ones is taken. -/
theorem compareTexts_preorder_and_highest :
    (∀ a, compareTexts a a = .eq) ∧
      (∀ a b, compareTexts a b = (compareTexts b a).swap) ∧
      (∀ a b c, (compareTexts a b).isLE → (compareTexts b c).isLE → (compareTexts a c).isLE) ∧
      ∀ texts, texts ≠ [] → ∃ before best after, highest? texts = some best ∧
        texts = before ++ best :: after ∧ (∀ t ∈ texts, compareTexts t best ≠ .gt) ∧
        ∀ t ∈ before, compareTexts t best = .lt := by
  refine ⟨fun a => compare_self _, ?_, ?_, ?_⟩
  · intro a b
    rw [compareTexts_eq_cmp, compareTexts_eq_cmp, cmp_swap]
  · intro a b c first later
    rw [Ordering.isLE_iff_ne_gt, ← ne_eq, compareTexts_ne_gt_iff] at first later ⊢
    exact first.trans later
  · intro texts filled
    obtain ⟨best, found⟩ := exists_highest? filled
    obtain ⟨before, after, split, below, _⟩ := isFirstGreatest_of_highest? found
    exact ⟨before, best, after, found, split, (greatest_of_highest? found).2, below⟩

theorem compareTexts_preorder_sample :
    (compareTexts "1.0rc1" " v1").isLE ∧ (compareTexts " v1" "1.0-1").isLE ∧ (compareTexts "1.0rc1" "1.0-1").isLE ∧
      ["1.0", "1.0.POST1", "not a version", "1-1+local"] ≠ [] ∧ ∃ before best after,
        highest? ["1.0", "1.0.POST1", "not a version", "1-1+local"] = some best ∧
        ["1.0", "1.0.POST1", "not a version", "1-1+local"] = before ++ best :: after ∧
        (∀ t ∈ ["1.0", "1.0.POST1", "not a version", "1-1+local"], compareTexts t best ≠ .gt) ∧
        ∀ t ∈ before, compareTexts t best = .lt := by
  have first : (compareTexts "1.0rc1" " v1").isLE := by decide +kernel
  have later : (compareTexts " v1" "1.0-1").isLE := by decide +kernel
  obtain ⟨_, _, trans, highest⟩ := compareTexts_preorder_and_highest
  exact ⟨first, later, trans "1.0rc1" " v1" "1.0-1" first later, by simp,
    highest ["1.0", "1.0.POST1", "not a version", "1-1+local"] (by simp)⟩

end Version

end Wheelhouse
