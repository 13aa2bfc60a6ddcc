import Wheelhouse.Number.Binary64

/-!
Values of data files. An object keeps its members in order, and `setMember` replaces a member of the
same name where it stands, as a later member of one name does when a text is read.
-/

set_option autoImplicit false

namespace Wheelhouse

inductive Json where
  | null
  | bool (value : Bool)
  | number (value : Number)
  | string (text : String)
  | array (items : List Json)
  | object (members : List (String × Json))

abbrev Members := List (String × Json)

namespace Json

/-- The one name under which nothing can be kept: what is put there is dropped. -/
def reservedName : String := "__proto__"

def setMember (name : String) (value : Json) : Members → Members
  | [] => [(name, value)]
  | (other, old) :: rest =>
    if other = name then (name, value) :: rest else (other, old) :: setMember name value rest

theorem lookup_setMember (name other : String) (value : Json) (members : Members) :
    (setMember name value members).lookup other =
      if other = name then some value else members.lookup other := by
  induction members with
  | nil =>
    by_cases h : other = name
    · simp [setMember, h]
    · simp [setMember, List.lookup_cons, h, beq_false_of_ne h]
  | cons m rest ih =>
    obtain ⟨k, v⟩ := m
    by_cases hk : k = name
    · subst hk
      by_cases h : other = k
      · simp [setMember, h]
      · simp [setMember, List.lookup_cons, h, beq_false_of_ne h]
    · by_cases h : other = k
      · subst h
        simp [setMember, hk]
      · simp [setMember, hk, List.lookup_cons, beq_false_of_ne h, ih]

def string? : Json → Option String
  | .string s => some s
  | _ => none

def number? : Json → Option Number
  | .number n => some n
  | _ => none

def bool? : Json → Option Bool
  | .bool b => some b
  | _ => none

def array? : Json → Option (List Json)
  | .array items => some items
  | _ => none

def object? : Json → Option Members
  | .object members => some members
  | _ => none

/-- Whether a member's name is written as an array index: a number below 2³² - 1 in plain decimal. -/
def index? (name : String) : Option Nat :=
  match name.toList with
  | [] => none
  | c :: cs =>
    if (c :: cs).all Char.isDigit && (c != '0' || cs.isEmpty) then
      let n := (c :: cs).foldl (fun n d => n * 10 + (d.toNat - 48)) 0
      if n < 4294967295 then some n else none
    else none

/-- The order in which the members of an object are listed: first those named by an array index, from
the smallest index on, then the others in the order they were put in. -/
def listed {α : Type} (members : List (String × α)) : List (String × α) :=
  (members.filter fun m => (index? m.1).isSome).mergeSort
      (fun a b => (index? a.1).getD 0 ≤ (index? b.1).getD 0) ++
    members.filter fun m => (index? m.1).isNone

mutual

def arranged : Json → Json
  | .array items => .array (arrangedItems items)
  | .object members => .object (listed (arrangedMembers members))
  | v => v

def arrangedItems : List Json → List Json
  | [] => []
  | item :: rest => arranged item :: arrangedItems rest

def arrangedMembers : List (String × Json) → Members
  | [] => []
  | (name, value) :: rest => (name, arranged value) :: arrangedMembers rest

end

end Json

end Wheelhouse
