import Wheelhouse.Package.Numeral
import Wheelhouse.Text.Fields

/-!
Versions and their order. A version has an epoch, release numbers, and perhaps a pre-release, a
post-release and a development release; a local label after `+` does not take part in the order.
`Version.parse` reads any text: one that is not a version counts as the release numbers it starts
with. `Version.compare` is a total order on what is read.
-/

set_option autoImplicit false

namespace Wheelhouse

inductive Phase where
  | alpha
  | beta
  | candidate
  deriving DecidableEq

def Phase.rank : Phase → Nat
  | .alpha => 0
  | .beta => 1
  | .candidate => 2

structure Version where
  epoch : Numeral
  release : List Numeral
  pre : Option (Phase × Numeral)
  post : Option Numeral
  dev : Option Numeral
  deriving DecidableEq

namespace Version

/-- The words for the phases. A longer word stands before those it starts with. -/
def phaseWords : List (List Char × Phase) :=
  [("alpha".toList, .alpha), ("beta".toList, .beta), ("preview".toList, .candidate),
    ("pre".toList, .candidate), ("rc".toList, .candidate), ("a".toList, .alpha), ("b".toList, .beta),
    ("c".toList, .candidate)]

def postWords : List (List Char × Unit) :=
  [("post".toList, ()), ("rev".toList, ()), ("r".toList, ())]

def devWords : List (List Char × Unit) := [("dev".toList, ())]

def isSeparator (c : Char) : Bool :=
  c == '-' || c == '_' || c == '.'

def dropSeparator : List Char → List Char
  | c :: cs => if isSeparator c then cs else c :: cs
  | [] => []

def dropWord? : List Char → List Char → Option (List Char)
  | [], cs => some cs
  | _ :: _, [] => none
  | w :: ws, c :: cs => if c.toLower = w then dropWord? ws cs else none

def readDigits (cs : List Char) : Option Numeral × List Char :=
  match Number.spanDigits cs with
  | ([], rest) => (none, rest)
  | (ds, rest) => (some (Numeral.ofDigits ds), rest)

/-- A part of a version: a word, with a separator or none before and after it, and a number, which
counts as zero when it is missing. -/
def readPart {α : Type} (words : List (List Char × α)) (cs : List Char) :
    Option ((α × Numeral) × List Char) :=
  let start := dropSeparator cs
  words.findSome? fun (word, meaning) =>
    (dropWord? word start).map fun rest =>
      let (number, rest') := readDigits (dropSeparator rest)
      ((meaning, number.getD .zero), rest')

def readOptional {α : Type} (words : List (List Char × α)) (cs : List Char) :
    Option (α × Numeral) × List Char :=
  match readPart words cs with
  | some (part, rest) => (some part, rest)
  | none => (none, cs)

/-- The post-release: a word with a number, or a hyphen and a number. -/
def readPost (cs : List Char) : Option Numeral × List Char :=
  let worded :=
    match readOptional postWords cs with
    | (part, rest) => (part.map (·.2), rest)
  match cs with
  | '-' :: rest =>
    match readDigits rest with
    | (some n, rest') => (some n, rest')
    -- A hyphen without a number may still be the separator before a word.
    | (none, _) => worded
  | _ => worded

def readMore : Nat → List Char → List Numeral × List Char
  | 0, cs => ([], cs)
  | fuel + 1, '.' :: cs =>
    match readDigits cs with
    | (some n, rest) =>
      let (more, rest') := readMore fuel rest
      (n :: more, rest')
    | (none, _) => ([], '.' :: cs)
  | _ + 1, cs => ([], cs)

def readRelease (cs : List Char) : Option (List Numeral × List Char) :=
  match readDigits cs with
  | (some n, rest) =>
    let (more, rest') := readMore rest.length rest
    some (n :: more, rest')
  | (none, _) => none

def readEpoch (cs : List Char) : Numeral × List Char :=
  match readDigits cs with
  | (some n, '!' :: rest) => (n, rest)
  | _ => (.zero, cs)

def dropV : List Char → List Char
  | c :: cs => if c = 'v' || c = 'V' then cs else c :: cs
  | [] => []

def parsePublic? (cs : List Char) : Option Version :=
  let (epoch, afterEpoch) := readEpoch (dropV cs)
  match readRelease afterEpoch with
  | none => none
  | some (release, afterRelease) =>
    let (pre, afterPre) := readOptional phaseWords afterRelease
    let (post, afterPost) := readPost afterPre
    let (dev, rest) := readOptional devWords afterPost
    if rest.isEmpty then some ⟨epoch, release, pre, post, dev.map (·.2)⟩ else none

def leading (cs : List Char) : Version :=
  ⟨.zero, ((readRelease cs).map (·.1)).getD [], none, none, none⟩

def splitLocal (text : String) : String × Option String :=
  match Text.cut '+' text.toList with
  | (before, after) => (String.ofList before, after.map String.ofList)

def parse (text : String) : Version :=
  let cs := (Text.cut '+' (Text.trim text.toList)).1
  (parsePublic? cs).getD (leading cs)

/-- Where a version stands among those with its release numbers: development releases of nothing else
come first, then pre-releases, then the release with what follows it. -/
def stage (v : Version) : Nat :=
  match v.pre with
  | some _ => 1
  | none => if v.post.isNone && v.dev.isSome then 0 else 2

def preKey (v : Version) : Nat × Numeral :=
  match v.pre with
  | some (phase, n) => (phase.rank, n)
  | none => (0, .zero)

/-- The order of versions: epoch, release, pre-release, post-release, development release. A missing
development release comes after every other. -/
def compare (a b : Version) : Ordering :=
  (Numeral.compare a.epoch b.epoch).then <|
  (Numeral.compareAll a.release b.release).then <|
  (Ord.compare a.stage b.stage).then <|
  (Ord.compare a.preKey.1 b.preKey.1).then <|
  (Numeral.compare a.preKey.2 b.preKey.2).then <|
  (Numeral.compareOption a.post b.post).then <|
  Numeral.compare (a.dev.getD .infinite) (b.dev.getD .infinite)

@[simp] theorem compare_self (v : Version) : compare v v = .eq := by
  cases hp : v.post <;> simp [compare, Numeral.compareOption, hp]

def compareTexts (a b : String) : Ordering := compare (parse a) (parse b)

/-- The first of the greatest versions among texts. -/
def highest? : List String → Option String
  | [] => none
  | first :: rest =>
    some (rest.foldl (fun best v => if compareTexts v best = .gt then v else best) first)

end Version

end Wheelhouse
