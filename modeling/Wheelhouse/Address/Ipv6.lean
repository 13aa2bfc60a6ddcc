import Wheelhouse.Number.Decimal
import Wheelhouse.Text.Fields

/-!
Internet addresses of 128 bits: eight groups in base sixteen with colons between them. Two colons stand
for as many groups of zeros as are missing, and the last two groups may be written as four decimal numbers.
-/

set_option autoImplicit false

namespace Wheelhouse.Ipv6

def groupCount : Nat := 8

def group? (cs : List Char) : Option Nat := if cs.length ≤ 4 then Number.natOfBase? 16 cs else none

/-- One of four decimal numbers, without needless zeros. -/
def byte? (cs : List Char) : Option Nat :=
  match cs with
  | '0' :: _ :: _ => none
  | _ => (Number.natOfBase? 10 cs).filter (· < 256)

/-- The last group, or the last two as four decimal numbers. -/
def lastGroups? (cs : List Char) : Option (List Nat) :=
  if cs.contains '.' then
    match (Text.split (· == '.') cs).mapM byte? with
    | some [a, b, c, d] => some [a * 256 + b, c * 256 + d]
    | _ => none
  else (group? cs).map ([·])

/-- The groups of a text, which may be empty. The last one is read by `last?`. -/
def groups? (last? : List Char → Option (List Nat)) (cs : List Char) : Option (List Nat) :=
  if cs.isEmpty then some []
  else do
    let all := Text.split (· == ':') cs
    return (← all.dropLast.mapM group?) ++ (← last? (all.getLastD []))

def cutGap : List Char → Option (List Char × List Char)
  | ':' :: ':' :: rest => some ([], rest)
  | c :: rest => (cutGap rest).map fun (before, after) => (c :: before, after)
  | [] => none

def read? (cs : List Char) : Option (List Nat) :=
  match cutGap cs with
  | none => (groups? lastGroups? cs).filter (·.length = groupCount)
  | some (before, after) => do
    let high ← groups? (fun cs => (group? cs).map ([·])) before
    let low ← groups? lastGroups? after
    let given := high.length + low.length
    if given < groupCount then return high ++ List.replicate (groupCount - given) 0 ++ low else none

def zerosAt (groups : List Nat) (place : Nat) : Nat := ((groups.drop place).takeWhile (· = 0)).length

def longestGap (groups : List Nat) : Nat :=
  (List.range groups.length).foldl
    (fun best place => if zerosAt groups best < zerosAt groups place then place else best) 0

def groupsText (groups : List Nat) : String :=
  Text.joined ":" (groups.map fun n => String.ofList (Nat.toDigits 16 n))

/-- The groups with two colons in place of the longest run of zeros, if there are at least two of them. -/
def text (groups : List Nat) : String :=
  let gap := longestGap groups
  let zeros := zerosAt groups gap
  if zeros < 2 then groupsText groups
  else groupsText (groups.take gap) ++ "::" ++ groupsText (groups.drop (gap + zeros))

end Wheelhouse.Ipv6
