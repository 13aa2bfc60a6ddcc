import Mathlib.Data.List.Basic
import Wheelhouse.Proofs.Package.Name

/-!
The pieces of a name. The maximal runs of separators part a text into pieces, and the normal form of a name is
its pieces in small letters with a hyphen between neighbours. So two names have the same normal form just if
they have the same pieces up to letter case.
-/

set_option autoImplicit false

namespace Wheelhouse

-- A joined text has the characters of its fields and of the separator.
theorem Text.mem_of_mem_join {sep : List Char} {fs : List (List Char)} {c : Char} (inside : c ∈ join sep fs) :
    c ∈ sep ∨ ∃ f ∈ fs, c ∈ f := by
  induction fs with
  | nil => cases inside
  | cons f rest ih =>
    cases rest with
    | nil => exact .inr ⟨f, List.mem_cons_self, inside⟩
    | cons g rest =>
      rw [join_cons_cons, List.append_assoc, List.mem_append, List.mem_append] at inside
      rcases inside with first | between | later
      · exact .inr ⟨f, List.mem_cons_self, first⟩
      · exact .inl between
      · exact (ih later).imp_right fun ⟨field, member, here⟩ => ⟨field, List.mem_cons_of_mem _ member, here⟩

namespace PackageName

/-- The pieces that the maximal runs of separators leave of a text, from its start to its end. -/
inductive Parted : List Char → List (List Char) → Prop
  | last {piece : List Char} (whole : ∀ c ∈ piece, isSeparator c = false) : Parted piece [piece]
  | next {piece run rest : List Char} {ps : List (List Char)} (whole : ∀ c ∈ piece, isSeparator c = false)
      (filled : run ≠ []) (separates : ∀ c ∈ run, isSeparator c = true)
      (maximal : rest.head?.any isSeparator = false) (others : Parted rest ps) :
      Parted (piece ++ (run ++ rest)) (piece :: ps)

def pieces : List Char → List (List Char)
  | [] => [[]]
  | c :: cs =>
    if isSeparator c then
      -- Of a run of separators only the last one ends a piece.
      if cs.head?.any isSeparator then pieces cs else [] :: pieces cs
    else
      match pieces cs with
      | [] => [[c]]
      | piece :: rest => (c :: piece) :: rest

variable {c : Char} {cs : List Char} {ps : List (List Char)}

namespace Parted

theorem ne_nil (parted : Parted cs ps) : ps ≠ [] := by
  cases parted <;> simp

-- A text that starts with separators has an empty first piece.
theorem after_run {run rest : List Char} (filled : run ≠ []) (separates : ∀ c ∈ run, isSeparator c = true)
    (maximal : rest.head?.any isSeparator = false) (others : Parted rest ps) : Parted (run ++ rest) ([] :: ps) :=
  .next (List.forall_mem_nil _) filled separates maximal others

theorem longer_piece {piece : List Char} (parted : Parted cs (piece :: ps)) (other : isSeparator c = false) :
    Parted (c :: cs) ((c :: piece) :: ps) := by
  have more {piece : List Char} (whole : ∀ d ∈ piece, isSeparator d = false) : ∀ d ∈ c :: piece, isSeparator d = false :=
    List.forall_mem_cons.2 ⟨other, whole⟩
  cases parted with
  | last whole => exact .last (more whole)
  | next whole filled separates maximal others => exact .next (more whole) filled separates maximal others

theorem longer_run (parted : Parted cs ps) (separates : isSeparator c = true)
    (goesOn : cs.head?.any isSeparator = true) : Parted (c :: cs) ps := by
  cases parted with
  | last whole =>
    obtain ⟨d, first, here⟩ := Option.any_eq_true _ _ |>.1 goesOn
    rw [whole d (List.mem_of_head? first)] at here
    cases here
  | @next piece run rest ps whole filled others maximal later =>
    cases piece with
    | nil => exact after_run (List.cons_ne_nil c run) (List.forall_mem_cons.2 ⟨separates, others⟩) maximal later
    | cons d piece => simp [whole d] at goesOn

theorem chars (parted : Parted cs ps) : ∀ piece ∈ ps, ∀ c ∈ piece, c ∈ cs ∧ isSeparator c = false := by
  induction parted with
  | last whole =>
    intro piece inside c member
    obtain rfl := List.mem_singleton.1 inside
    exact ⟨member, whole c member⟩
  | next whole filled separates maximal others ih =>
    intro piece inside c member
    rcases List.mem_cons.1 inside with rfl | later
    · exact ⟨by simp [member], whole c member⟩
    · obtain ⟨known, other⟩ := ih piece later c member
      exact ⟨by simp [known], other⟩

end Parted

theorem parted_pieces (cs : List Char) : Parted cs (pieces cs) := by
  induction cs with
  | nil => exact .last (by simp)
  | cons c cs ih =>
    by_cases separates : isSeparator c = true
    next =>
      by_cases goesOn : cs.head?.any isSeparator = true
      next =>
        rw [pieces, if_pos separates, if_pos goesOn]
        exact ih.longer_run separates goesOn
      next =>
        rw [pieces, if_pos separates, if_neg goesOn]
        exact Parted.after_run (List.cons_ne_nil c []) (by simpa using separates) (Bool.not_eq_true _ ▸ goesOn) ih
    next =>
      have other : isSeparator c = false := by simpa using separates
      obtain ⟨piece, rest, same⟩ := List.exists_cons_of_ne_nil ih.ne_nil
      rw [same] at ih
      simpa [pieces, other, same] using ih.longer_piece other

theorem pieces_of_whole {piece : List Char} (whole : ∀ c ∈ piece, isSeparator c = false) : pieces piece = [piece] := by
  induction piece with
  | nil => rfl
  | cons c piece ih =>
    obtain ⟨other, rest⟩ := List.forall_mem_cons.1 whole
    simp [pieces, other, ih rest]

theorem pieces_append {piece run rest : List Char} (whole : ∀ c ∈ piece, isSeparator c = false) (filled : run ≠ [])
    (separates : ∀ c ∈ run, isSeparator c = true) (maximal : rest.head?.any isSeparator = false) :
    pieces (piece ++ (run ++ rest)) = piece :: pieces rest := by
  induction piece with
  | cons c piece ih =>
    obtain ⟨other, whole⟩ := List.forall_mem_cons.1 whole
    simp [pieces, other, ih whole]
  | nil =>
    induction run with
    | nil => exact absurd rfl filled
    | cons c run ih =>
      obtain ⟨here, separates⟩ := List.forall_mem_cons.1 separates
      cases run with
      | nil =>
        simp [pieces, here, maximal]
      | cons d run =>
        have goesOn : ((d :: run) ++ rest).head?.any isSeparator = true := by simpa using separates d (by simp)
        have later := ih (List.cons_ne_nil d run) separates
        rw [List.nil_append] at later ⊢
        rw [List.cons_append, pieces, if_pos here, if_pos goesOn, later]

theorem parted_iff : Parted cs ps ↔ pieces cs = ps := by
  constructor
  · intro parted
    induction parted with
    | last whole => exact pieces_of_whole whole
    | next whole filled separates maximal _ ih => rw [pieces_append whole filled separates maximal, ih]
  · rintro rfl
    exact parted_pieces cs

theorem collapse_append_of_whole {piece : List Char} (whole : ∀ c ∈ piece, isSeparator c = false) (rest : List Char) :
    collapse (piece ++ rest) = piece ++ collapse rest := by
  induction piece with
  | nil => rfl
  | cons c piece ih =>
    obtain ⟨other, whole⟩ := List.forall_mem_cons.1 whole
    simp [collapse, other, ih whole]

-- A maximal run of separators becomes one hyphen.
theorem collapse_run {run rest : List Char} (filled : run ≠ []) (separates : ∀ c ∈ run, isSeparator c = true)
    (maximal : rest.head?.any isSeparator = false) : collapse (run ++ rest) = '-' :: collapse rest := by
  induction run with
  | nil => exact absurd rfl filled
  | cons c run ih =>
    obtain ⟨here, separates⟩ := List.forall_mem_cons.1 separates
    refine collapse_cons_of_isSeparator here ?_
    cases run with
    | nil =>
      refine .inl ⟨rfl, ?_⟩
      cases rest with
      | nil => simp [collapse]
      | cons d rest =>
        have other : isSeparator d = false := by simpa using maximal
        rintro hyphen
        have first : d = '-' := by simpa [collapse, other] using hyphen
        rw [first] at other
        cases other
    | cons d run => exact .inr (ih (List.cons_ne_nil d run) separates)

theorem Parted.collapse_eq (parted : Parted cs ps) : collapse cs = Text.join ['-'] ps := by
  induction parted with
  | last whole => simpa [Text.join, collapse] using collapse_append_of_whole whole []
  | next whole filled separates maximal others ih =>
    obtain ⟨first, ps, rfl⟩ := List.exists_cons_of_ne_nil others.ne_nil
    rw [collapse_append_of_whole whole, collapse_run filled separates maximal, ih, Text.join_cons_cons]
    simp

theorem toLower_of_ascii (low : c.toNat < 128) : c.toLower.toNat < 128 ∧ c.toLower.isUpper = false ∧
    c.toLower.toLower = c.toLower ∧ isSeparator c.toLower = isSeparator c := by
  have codes : ∀ n < 128, (Char.ofNat n).toLower.toNat < 128 ∧ (Char.ofNat n).toLower.isUpper = false ∧
      (Char.ofNat n).toLower.toLower = (Char.ofNat n).toLower ∧
      isSeparator (Char.ofNat n).toLower = isSeparator (Char.ofNat n) := by decide
  have known := codes c.toNat low
  rwa [Char.ofNat_toNat] at known

-- Letter case does not move a separator.
theorem Parted.lower (parted : Parted cs ps) (ascii : ∀ c ∈ cs, c.toNat < 128) :
    Parted (cs.map Char.toLower) (ps.map (List.map Char.toLower)) := by
  have kept {b : Bool} {ds : List Char} (all : ∀ c ∈ ds, isSeparator c = b) (ascii : ∀ c ∈ ds, c.toNat < 128) :
      ∀ c ∈ ds.map Char.toLower, isSeparator c = b := by
    refine List.forall_mem_map.2 fun c inside => ?_
    rw [(toLower_of_ascii (ascii c inside)).2.2.2, all c inside]
  induction parted with
  | last whole => exact .last (kept whole ascii)
  | @next piece run rest ps whole filled separates maximal others ih =>
    obtain ⟨first, later⟩ := List.forall_mem_append.1 ascii
    obtain ⟨middle, later⟩ := List.forall_mem_append.1 later
    rw [List.map_append, List.map_append]
    refine .next (kept whole first) (by simpa using filled) (kept separates middle) ?_ (ih later)
    cases rest with
    | nil => rfl
    | cons d rest => simpa [(toLower_of_ascii (later d (by simp))).2.2.2] using maximal

variable {a b : String}

theorem normalize_toList (ascii : ∀ c ∈ a.toList, c.toNat < 128) :
    (normalize a).toList = Text.join ['-'] ((pieces a.toList).map (List.map Char.toLower)) := by
  rw [normalize, String.toList_ofList, Text.lower_of_ascii ascii]
  exact ((parted_pieces a.toList).lower ascii).collapse_eq

theorem mem_normalize (ascii : ∀ c ∈ a.toList, c.toNat < 128) (inside : c ∈ (normalize a).toList) :
    c = '-' ∨ ∃ d, d.toNat < 128 ∧ isSeparator d = false ∧ c = d.toLower := by
  rw [normalize_toList ascii] at inside
  refine (Text.mem_of_mem_join inside).imp List.mem_singleton.1 ?_
  rintro ⟨_, member, here⟩
  obtain ⟨piece, found, rfl⟩ := List.mem_map.1 member
  obtain ⟨d, letter, rfl⟩ := List.mem_map.1 here
  obtain ⟨known, other⟩ := (parted_pieces a.toList).chars piece found d letter
  exact ⟨d, ascii d known, other, rfl⟩

theorem hyphens_apart (cs : List Char) : ¬['-', '-'] <:+: collapse cs := by
  induction cs with
  | nil => simp [collapse]
  | cons c cs ih =>
    rw [collapse]
    split
    · split
      next same => rwa [same] at ih
      next other =>
        rw [List.infix_cons_iff, not_or]
        refine ⟨?_, ih⟩
        rintro ⟨rest, start⟩
        exact other rest (List.cons.inj start).2.symm
    next whole =>
      rw [List.infix_cons_iff, not_or]
      refine ⟨?_, ih⟩
      rintro ⟨rest, start⟩
      exact whole (congrArg isSeparator (List.cons.inj start).1).symm

theorem normalize_normalize (ascii : ∀ c ∈ a.toList, c.toNat < 128) : normalize (normalize a) = normalize a := by
  have small : ∀ c ∈ (normalize a).toList, c.toNat < 128 ∧ c.toLower = c := by
    intro c inside
    rcases mem_normalize ascii inside with rfl | ⟨d, low, _, rfl⟩
    · decide
    · exact ⟨(toLower_of_ascii low).1, (toLower_of_ascii low).2.2.1⟩
  have same : (normalize a).toList.map Char.toLower = (normalize a).toList :=
    (List.map_congr_left fun c inside => (small c inside).2).trans (List.map_id _)
  rw [normalize, Text.lower_of_ascii fun c inside => (small c inside).1, same]
  conv_lhs => rw [normalize, String.toList_ofList, collapse_idem]
  rfl

theorem normalize_eq_iff (ascii : ∀ c ∈ a.toList, c.toNat < 128) (ascii' : ∀ c ∈ b.toList, c.toNat < 128) :
    normalize a = normalize b ↔
      (pieces a.toList).map (List.map Char.toLower) = (pieces b.toList).map (List.map Char.toLower) := by
  have back {a : String} (ascii : ∀ c ∈ a.toList, c.toNat < 128) :
      Text.split (· == '-') (normalize a).toList = (pieces a.toList).map (List.map Char.toLower) := by
    have parted := (parted_pieces a.toList).lower ascii
    rw [normalize_toList ascii, Text.split_join parted.ne_nil]
    intro piece inside hyphen
    cases (parted.chars piece inside '-' hyphen).2
  constructor
  · intro same
    rw [← back ascii, same, back ascii']
  · intro same
    rw [← String.toList_inj, normalize_toList ascii, normalize_toList ascii', same]

/-- The normal form of an ASCII name is normal itself, has neither capital letters nor separators other than
hyphens, of which no two stand beside each other, and is the same for two names just if the maximal runs of
separators part them into the same pieces up to letter case. -/
theorem normalize_canonical (ascii : ∀ c ∈ a.toList, c.toNat < 128) (ascii' : ∀ c ∈ b.toList, c.toNat < 128) :
    normalize (normalize a) = normalize a ∧
    (∀ c ∈ (normalize a).toList, c.toNat < 128 ∧ c.isUpper = false ∧ c ≠ '_' ∧ c ≠ '.') ∧
    ¬['-', '-'] <:+: (normalize a).toList ∧
    (∃ ps, Parted a.toList ps) ∧ (∃ qs, Parted b.toList qs) ∧
    ∀ ps qs, Parted a.toList ps → Parted b.toList qs →
      (normalize a = normalize b ↔ ps.map (List.map Char.toLower) = qs.map (List.map Char.toLower)) := by
  refine ⟨normalize_normalize ascii, ?_, ?_, ⟨_, parted_pieces _⟩, ⟨_, parted_pieces _⟩, ?_⟩
  · intro c inside
    rcases mem_normalize ascii inside with rfl | ⟨d, low, other, rfl⟩
    · decide
    · obtain ⟨low', small, _, same⟩ := toLower_of_ascii low
      rw [other] at same
      refine ⟨low', small, ?_, ?_⟩ <;>
      · intro equal
        rw [equal] at same
        cases same
  · rw [normalize, String.toList_ofList]
    exact hyphens_apart _
  · intro ps qs parted parted'
    rw [← parted_iff.1 parted, ← parted_iff.1 parted']
    exact normalize_eq_iff ascii ascii'

theorem normalize_canonical_sample :
    normalize "Foo__bar.-" = normalize "foo-BAR_" ∧ normalize "-foo" ≠ normalize "foo" := by
  constructor
  · have canonical := normalize_canonical (a := "Foo__bar.-") (b := "foo-BAR_") (by simp) (by simp)
    exact (canonical.2.2.2.2.2 _ _ (parted_pieces _) (parted_pieces _)).2 (by decide)
  · have canonical := normalize_canonical (a := "-foo") (b := "foo") (by simp) (by simp)
    intro same
    exact absurd ((canonical.2.2.2.2.2 _ _ (parted_pieces _) (parted_pieces _)).1 same) (by decide)

end PackageName

end Wheelhouse
