import Wheelhouse.Digest.Sha256
import Wheelhouse.Json.Printer
import Wheelhouse.Text.Blank
import Wheelhouse.Text.Units
import Wheelhouse.Workspace

set_option autoImplicit false

namespace Wheelhouse

inductive ArgumentValue where
  | text (value : String)
  | list (values : List String)
  deriving DecidableEq

/-- Build arguments, each name once. -/
abbrev BuildArguments := List (String × ArgumentValue)

namespace BuildArguments

def set (name : String) (value : ArgumentValue) : BuildArguments → BuildArguments
  | [] => [(name, value)]
  | (other, old) :: rest =>
    if other = name then (name, value) :: rest else (other, old) :: set name value rest

def ArgumentValue.json : ArgumentValue → Json
  | .text value => .string value
  | .list values => .array (values.map .string)

def namePrecedes (a b : String × ArgumentValue) : Bool := Text.precedes a.1 b.1

def canonical (args : BuildArguments) : String :=
  (Json.array
    ((args.mergeSort namePrecedes).map fun a => .array [.string a.1, ArgumentValue.json a.2])).line

def isListSeparator (c : Char) : Bool := c == ';' || c == ','

/-- The parts of a text between semicolons and commas, without blanks around them and without empty
ones. -/
def listParts (cs : List Char) : List String :=
  (((Text.split isListSeparator cs).map Text.trim).filter fun part => !part.isEmpty).map String.ofList

def readValue (cs : List Char) : ArgumentValue :=
  if cs.any isListSeparator then .list (listParts cs) else .text (String.ofList cs)

def malformed (pair : String) : Failure :=
  .configuration ("잘못된 빌드 인자 형식 (KEY=VALUE 필요): " ++ pair) (some [("pair", .string pair)])

/-- The name and value in a pair, which has an equals sign after at least one character. -/
def readPair (pair : String) : Except Failure (String × ArgumentValue) :=
  match Text.cut '=' pair.toList with
  | ([], _) => .error (malformed pair)
  | (_, none) => .error (malformed pair)
  | (name, some value) => .ok (String.ofList (Text.trim name), readValue (Text.trim value))

def addPairs : BuildArguments → List String → Except Failure BuildArguments
  | args, [] => .ok args
  | args, pair :: rest => do
    let (name, value) ← readPair pair
    addPairs (if name = Json.reservedName then args else args.set name value) rest

def ofPairs (pairs : List String) : Except Failure BuildArguments := addPairs [] pairs

end BuildArguments

namespace CacheKey

def digits : Nat := 16

def shortDigest (bytes : ByteArray) : List Char := (Sha256.hex (Sha256.digest bytes)).take digits

def isPart (cs : List Char) : Bool := cs.length = digits && cs.all Sha256.isHexDigit

/-- Whether a text is a key: two digests with a hyphen between them. -/
def isKey (key : String) : Bool :=
  match Text.split (· == '-') key.toList with
  | [recipe, args] => isPart recipe && isPart args
  | _ => false

def ofContents (recipe : ByteArray) (args : BuildArguments) : String :=
  String.ofList (shortDigest recipe ++ '-' :: shortDigest (Text.encode args.canonical))

def compute (recipe : Path) (args : BuildArguments) : Job String := do
  unless ← Job.has recipe do throw (.missing "빌드 레시피" recipe.text none)
  let contents ← Job.readFile recipe
  Job.debug "캐시 키 계산"
    [("recipePath", .string recipe.text),
      ("recipeHash", .string (String.ofList (shortDigest contents))),
      ("argsHash", .string (String.ofList (shortDigest (Text.encode args.canonical))))]
  return ofContents contents args

end CacheKey

end Wheelhouse
