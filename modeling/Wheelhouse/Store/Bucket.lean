import Wheelhouse.Store.Basic
import Wheelhouse.Store.Key

/-!
A store in a bucket of an object service, and the service itself as far as the program sees it: it
keeps texts by bucket and key, answers one command at a time, and may be told to fail.
-/

set_option autoImplicit false

namespace Wheelhouse

inductive Delivery where
  | stream
  | whole
  | nothing
  deriving DecidableEq

structure ServiceRules where
  /-- The name of the error with which every command for a key fails, if it does. -/
  failure? : String → Option String
  wording : String → String
  delivery : Delivery

def ServiceRules.unreachable : ServiceRules :=
  { failure? := fun _ => some "NetworkingError"
    wording := fun _ => "the object service cannot be reached"
    delivery := .nothing }

structure BucketSettings where
  bucket : String
  region : Option String
  endpoint : Option String
  forcePathStyle : Option Bool

namespace Bucket

def key : Command → String
  | .head _ key => key
  | .put _ key _ _ _ => key
  | .fetch _ key => key

def failure (rules : ServiceRules) (name : String) : Failure := .service name (rules.wording name)

/-- Carries out a command; the answer is the text of the object that was asked for. -/
def answer (rules : ServiceRules) (command : Command) : Job String := do
  let w ← get
  match command with
  | .head bucket key =>
    if (w.objects.lookup (bucket, key)).isSome then return "" else throw (failure rules "NotFound")
  | .put bucket key _ _ body =>
    set { w with objects := ((bucket, key), body) :: w.objects.filter (·.1 != (bucket, key)) }
    return ""
  | .fetch bucket key =>
    match w.objects.lookup (bucket, key) with
    | some body => return body
    | none => throw (failure rules "NoSuchKey")

def send (rules : ServiceRules) (command : Command) : Job String := do
  Job.record (.sent command)
  match rules.failure? (key command) with
  | some name => throw (failure rules name)
  | none => answer rules command

def isAbsence : Failure → Bool
  | .service name _ => name = "NotFound" || name = "NoSuchKey"
  | _ => false

def description (bucket : String) : String := "s3://" ++ bucket

def emptyBody (key : String) : Failure := .other ("응답 본문이 비어 있습니다: " ++ key)

/-- The text of an object, handed to `use` when the service has it. -/
def fetch {α : Type} (rules : ServiceRules) (bucket key : String) (use : String → Job α) : Job α := do
  match ← Job.outcome (do use (← send rules (.fetch bucket key))) with
  | .ok a => return a
  | .error e =>
    if isAbsence e then throw (.missing "원격 객체" (description bucket ++ "/" ++ key) none)
    else throw e

def store (rules : ServiceRules) (bucket : String) : ObjectStore where
  description := description bucket
  contains key := do
    match ← Job.outcome (send rules (.head bucket key)) with
    | .ok _ => return true
    | .error e => if isAbsence e then return false else throw e
  putFile key file contentType := do
    let _ ← Job.look fun d => d.inspect "stat" file
    let contents ← Job.readFile file
    let _ ← send rules
      (.put bucket key (contentType.getD (ObjectKey.contentType key)) (some contents.size)
        (Text.decode contents))
  putText key text contentType := do
    let _ ← send rules (.put bucket key (contentType.getD (ObjectKey.contentType key)) none text)
  getFile key file := fetch rules bucket key fun body => do
    Job.ensureFolder file.parent
    if rules.delivery = .nothing then throw (emptyBody key)
    Job.writeText file body
  getText key := fetch rules bucket key fun body => do
    if rules.delivery = .nothing then throw (emptyBody key)
    return body

def checked (s : BucketSettings) : Except Failure BucketSettings :=
  if s.bucket = "" then .error (.configuration "S3ObjectStore에는 bucket 설정이 필요합니다" none)
  else .ok s

end Bucket

end Wheelhouse
