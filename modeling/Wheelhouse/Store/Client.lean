import Wheelhouse.Address.Reader
import Wheelhouse.Store.Bucket

set_option autoImplicit false

namespace Wheelhouse

structure Client where
  region : String
  forcePathStyle : Bool
  endpoint : Option String
  deriving DecidableEq

namespace Client

/-! ### Regions -/

def usualRegion : String := "us-east-1"

def special : List Char := "fips-".toList

def specialEnding : List Char := "-fips".toList

def isSpecial (region : List Char) : Bool :=
  special.isPrefixOf region || specialEnding.isSuffixOf region

def withoutMark : List Char → List Char
  | [] => []
  | c :: cs =>
    match Text.dropBeginning? special (c :: cs), Text.dropBeginning? specialEnding (c :: cs) with
    | some rest, _ =>
      ((Text.dropBeginning? "dkr-".toList rest).or (Text.dropBeginning? "prod-".toList rest)).getD rest
    | none, some rest => rest
    | none, none => c :: withoutMark cs

def plainRegion (region : String) : String :=
  if ["fips-aws-global", "aws-fips"].contains region then usualRegion
  else if isSpecial region.toList then String.ofList (withoutMark region.toList)
  else region

def isHostPart (s : String) : Bool :=
  let cs := s.toList
  !cs.isEmpty && cs.length ≤ 63 && cs.all (fun c => c.isAlphanum || c == '-') &&
    cs.head? != some '-' && cs.getLast? != some '-'

/-- The region that is meant. A star stands for every region. -/
def regionOf (given : Option String) : Except Failure String :=
  let name := given.getD ""
  let plain := plainRegion (if name = "" then usualRegion else name)
  if isHostPart plain || plain = "*" then .ok plain
  else .error (.other
    ("Region not accepted: region=\"" ++ plain ++ "\" is not a valid hostname component."))

/-! ### Addresses -/

def isDecodable (query : String) : Bool :=
  (Text.split (· == '&') query.toList).all fun pair =>
    ((Text.split (· == '=') pair).take 2).all fun part =>
      (Text.percentDecode? (String.ofList part)).isSome

/-- The parts of an address that the client keeps. A host with the number zero has none. -/
def addressText (a : Address) : String :=
  let number :=
    match a.portNumber with
    | some n => if n = 0 then "" else ":" ++ toString n
    | none => ""
  a.scheme ++ "://" ++ a.hostText ++ number ++ a.path

def endpointOf (text : String) : Except Failure String :=
  match Address.read? text with
  | none => .error .invalidAddress
  | some address =>
    if isDecodable address.query then .ok (addressText address) else .error .wronglyEncoded

/-- The client of a bucket. With an address of its own the bucket stands in the path if nothing else is said. -/
def ofSettings (s : BucketSettings) : Except Failure Client := do
  let region ← regionOf s.region
  match s.endpoint.filter (· ≠ "") with
  | some text => return ⟨region, s.forcePathStyle.getD true, some (← endpointOf text)⟩
  | none => return ⟨region, s.forcePathStyle.getD false, none⟩

end Client

end Wheelhouse
