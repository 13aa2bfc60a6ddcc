import Wheelhouse.Text.CaseTable

/-!
Lower-casing of whole texts. Beyond the mappings of single characters, the dotted capital I becomes
an `i` and a combining dot, and a capital sigma that ends a word takes its final form.
-/

set_option autoImplicit false

namespace Wheelhouse.Text

def inRuns (runs : List (Nat × Nat)) (c : Char) : Bool :=
  runs.any fun r => r.1 ≤ c.toNat && c.toNat ≤ r.2

def isCaseIgnorable (c : Char) : Bool := inRuns caseIgnorableRuns c

def isCased (c : Char) : Bool := inRuns casedRuns c

def lowerChar (c : Char) : Char :=
  if c.toNat < 0x80 then c.toLower
  else
    match lowerCaseRuns.find? (·.covers c.toNat) with
    | some r => Char.ofNat ((c.toNat : Int) + r.shift).toNat
    | none => c

def nextIsCased (cs : List Char) : Bool :=
  match cs.dropWhile isCaseIgnorable with
  | [] => false
  | c :: _ => isCased c

/-- Lower-cases a text; `inWord` tells whether the last character that is not ignorable had case. -/
def lowerFrom (inWord : Bool) : List Char → List Char
  | [] => []
  | c :: cs =>
    -- What is ignorable neither starts nor ends a word.
    let rest := lowerFrom (if isCaseIgnorable c then inWord else isCased c) cs
    if c == 'Σ' then (if inWord && !nextIsCased cs then 'ς' else 'σ') :: rest
    else if c == 'İ' then 'i' :: '\u0307' :: rest
    else lowerChar c :: rest

def lower (cs : List Char) : List Char :=
  if cs.all (·.toNat < 0x80) then cs.map Char.toLower else lowerFrom false cs

theorem lower_of_ascii {cs : List Char} (h : ∀ c ∈ cs, c.toNat < 0x80) :
    lower cs = cs.map Char.toLower := by
  rw [lower, if_pos (by simpa using h)]

def lowered (s : String) : String :=
  String.ofList (lower s.toList)

end Wheelhouse.Text
