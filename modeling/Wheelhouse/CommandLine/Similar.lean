import Wheelhouse.Text.Fields
import Wheelhouse.Text.Units

/-!
Guesses at mistyped words. Words are near if few steps lead from one to the other, where a step puts in,
leaves out or replaces one code unit, or swaps two neighbours.
-/

set_option autoImplicit false

namespace Wheelhouse.Similar

/-- Whether two words are at most a number of steps apart. No unit is part of two steps. -/
def within : Nat → List Nat → List Nat → Bool
  | n, [], bs => bs.length ≤ n
  | n, a :: as, [] => (a :: as).length ≤ n
  | n, a :: as, b :: bs =>
    if a = b then within n as bs
    else
      match n with
      | 0 => false
      | n + 1 =>
        within n as (b :: bs) || within n (a :: as) bs || within n as bs ||
          match as, bs with
          | a' :: as', b' :: bs' => a = b' && b = a' && within n as' bs'
          | _, _ => false
termination_by _ as bs => as.length + bs.length

def reach : Nat := 3

/-- How far two words are apart, if they are near: more than two fifths of the longer word must stay. -/
def distance? (word candidate : List Char) : Option Nat :=
  let a := Text.codeUnits word
  let b := Text.codeUnits candidate
  ((List.range (reach + 1)).find? fun n => within n a b).filter fun n =>
    b.length > 1 && 5 * (max a.length b.length - n) > 2 * max a.length b.length

def nearest (word : List Char) (candidates : List (List Char)) : List String :=
  let near := candidates.filterMap fun c => (distance? word c).map fun n => (n, c)
  let least := (near.map (·.1)).foldl min reach
  Text.sorted ((near.filter fun x => x.1 = least).map fun x => String.ofList x.2)

/-- What is said about a word that is none of the candidates. Options are compared without their
dashes. -/
def suggestion (word : String) (candidates : List String) : String :=
  let dashes := "--".toList
  let names :=
    if dashes.isPrefixOf word.toList then
      (nearest (word.toList.drop 2) (candidates.map fun c => c.toList.drop 2)).map ("--" ++ ·)
    else nearest word.toList (candidates.map String.toList)
  match names with
  | [] => ""
  | [name] => "\n(Did you mean " ++ name ++ "?)"
  | _ => "\n(Did you mean one of " ++ Text.joined ", " names ++ "?)"

end Wheelhouse.Similar
