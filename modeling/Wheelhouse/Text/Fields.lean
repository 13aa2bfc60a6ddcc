set_option autoImplicit false

namespace Wheelhouse.Text

/-- The fields between the characters of the class `p`; there is always at least one. -/
def split (p : Char → Bool) : List Char → List (List Char)
  | [] => [[]]
  | c :: cs =>
    if p c then [] :: split p cs
    else
      match split p cs with
      | [] => [[c]]
      | f :: fs => (c :: f) :: fs

theorem split_ne_nil (p : Char → Bool) (cs : List Char) : split p cs ≠ [] := by
  cases cs with
  | nil => simp [split]
  | cons c cs =>
    simp only [split]
    split
    · simp
    · split <;> simp

def join (sep : List Char) : List (List Char) → List Char
  | [] => []
  | [f] => f
  | f :: g :: fs => f ++ sep ++ join sep (g :: fs)

theorem join_cons_cons (sep f g : List Char) (fs : List (List Char)) :
    join sep (f :: g :: fs) = f ++ sep ++ join sep (g :: fs) := rfl

theorem join_split (sep : Char) (cs : List Char) :
    join [sep] (split (· == sep) cs) = cs := by
  induction cs with
  | nil => rfl
  | cons c cs ih =>
    simp only [split]
    cases h : split (· == sep) cs with
    | nil => exact absurd h (split_ne_nil _ _)
    | cons f fs =>
      rw [h] at ih
      by_cases hc : c = sep
      · subst hc
        simp [join, ih]
      · cases fs with
        | nil => simp_all [join]
        | cons g gs => simp_all [join]

theorem not_mem_of_mem_split {p : Char → Bool} {cs f : List Char} (h : f ∈ split p cs) :
    ∀ c ∈ f, p c = false := by
  induction cs generalizing f with
  | nil => simp_all [split]
  | cons d cs ih =>
    cases hs : split p cs with
    | nil => exact absurd hs (split_ne_nil _ _)
    | cons g gs =>
      rw [split, hs] at h
      by_cases hd : p d = true
      · rw [if_pos hd, List.mem_cons] at h
        rcases h with rfl | h
        · simp
        · exact ih (hs ▸ h)
      · rw [if_neg hd] at h
        rcases List.mem_cons.1 h with rfl | h
        · intro c hc
          rcases List.mem_cons.1 hc with rfl | hc
          · simpa using hd
          · exact ih (by simp [hs]) c hc
        · exact ih (by simp [hs, h])

theorem split_of_forall_not {p : Char → Bool} {cs : List Char} (h : ∀ c ∈ cs, p c = false) :
    split p cs = [cs] := by
  induction cs with
  | nil => rfl
  | cons c cs ih =>
    have hc : p c = false := h c (by simp)
    rw [split, ih fun d hd => h d (by simp [hd])]
    simp [hc]

theorem split_append_cons {p : Char → Bool} {f : List Char} {c : Char} (rest : List Char)
    (hf : ∀ d ∈ f, p d = false) (hc : p c = true) :
    split p (f ++ c :: rest) = f :: split p rest := by
  induction f with
  | nil => simp [split, hc]
  | cons d f ih =>
    have hd : p d = false := hf d (by simp)
    rw [List.cons_append, split, ih fun e he => hf e (by simp [he])]
    simp [hd]

theorem split_join {sep : Char} {fs : List (List Char)} (hne : fs ≠ [])
    (h : ∀ f ∈ fs, sep ∉ f) : split (· == sep) (join [sep] fs) = fs := by
  induction fs with
  | nil => exact absurd rfl hne
  | cons f fs ih =>
    have hf : ∀ d ∈ f, (d == sep) = false := by
      intro d hd
      have := h f (by simp)
      simp only [beq_eq_false_iff_ne, ne_eq]
      rintro rfl
      exact this hd
    cases fs with
    | nil => exact split_of_forall_not hf
    | cons g gs =>
      rw [join_cons_cons, List.append_assoc, List.singleton_append,
        split_append_cons _ hf (by simp), ih (by simp) fun x hx => h x (by simp [hx])]

def cut (sep : Char) (cs : List Char) : List Char × Option (List Char) :=
  let head := cs.takeWhile (· != sep)
  match cs.dropWhile (· != sep) with
  | [] => (head, none)
  | _ :: tail => (head, some tail)

def cutLast (sep : Char) (cs : List Char) : Option (List Char × List Char) :=
  match cut sep cs.reverse with
  | (_, none) => none
  | (tail, some head) => some (head.reverse, tail.reverse)

def dropEnding? (ending cs : List Char) : Option (List Char) :=
  if ending.isSuffixOf cs then some (cs.take (cs.length - ending.length)) else none

def dropBeginning? : List Char → List Char → Option (List Char)
  | [], cs => some cs
  | _ :: _, [] => none
  | a :: as, c :: cs => if a = c then dropBeginning? as cs else none

theorem dropBeginning?_eq_some_iff {as cs rest : List Char} :
    dropBeginning? as cs = some rest ↔ cs = as ++ rest := by
  induction as generalizing cs with
  | nil => simp [dropBeginning?, eq_comm]
  | cons a as ih =>
    cases cs with
    | nil => simp [dropBeginning?]
    | cons c cs =>
      by_cases h : a = c
      · subst h
        simp [dropBeginning?, ih]
      · simp [dropBeginning?, h, Ne.symm h]

def fields (p : Char → Bool) (s : String) : List String :=
  (split p s.toList).map String.ofList

def joined (sep : String) (fs : List String) : String :=
  String.ofList (join sep.toList (fs.map String.toList))

end Wheelhouse.Text
