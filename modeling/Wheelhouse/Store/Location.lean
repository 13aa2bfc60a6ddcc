import Wheelhouse.Address.Reader
import Wheelhouse.Settings.Effective
import Wheelhouse.Store.Bucket
import Wheelhouse.Store.Folder

set_option autoImplicit false

namespace Wheelhouse

inductive Place where
  | folder (root : Path)
  | bucket (settings : BucketSettings)

def Place.description : Place → String
  | .folder root => FolderStore.description root
  | .bucket settings => Bucket.description settings.bucket

structure Location where
  place : Place
  scope : String

structure LocationSettings where
  bucket : Option String
  scope : String
  region : Option String
  endpoint : Option String
  forcePathStyle : Option Bool

def Settings.location (s : Settings) : LocationSettings :=
  { bucket := s.bucket, scope := s.scope, region := some s.region, endpoint := s.endpoint,
    forcePathStyle := some s.forcePathStyle }

namespace FileAddress

def invalidHost : Failure :=
  .address "TypeError" (some "ERR_INVALID_FILE_URL_HOST") "File URL host must be \"localhost\" or empty on linux"

def invalidPath : Failure :=
  .address "TypeError" (some "ERR_INVALID_FILE_URL_PATH")
    "File URL path must not include encoded / characters"

def hidesSlash : List Char → Bool
  | '%' :: '2' :: f :: rest => f == 'f' || f == 'F' || hidesSlash rest
  | _ :: rest => hidesSlash rest
  | [] => false

def pathText (text : String) : Except Failure String :=
  match Address.read? text with
  | none => .error .invalidAddress
  | some address =>
    if address.hostText ≠ "" then .error invalidHost
    else if hidesSlash address.path.toList then .error invalidPath
    else
      match Text.percentDecode? address.path with
      | some path => .ok path
      | none => .error .wronglyEncoded

end FileAddress

namespace Location

def hasScheme (cs : List Char) : Bool :=
  let isSchemeChar (c : Char) : Bool := c.isAlphanum || c == '+' || c == '.' || c == '-'
  match cs with
  | c :: rest => c.isAlpha && "://".toList.isPrefixOf (rest.dropWhile isSchemeChar)
  | [] => false

def inBucket (settings : LocationSettings) (bucket scope : String) : Except Failure Location := do
  let checked ← Bucket.checked
    { bucket, region := settings.region, endpoint := settings.endpoint,
      forcePathStyle := settings.forcePathStyle }
  return ⟨.bucket checked, scope⟩

def inFolder (cwd : Path) (text : String) : Location := ⟨.folder (Path.resolve cwd text), ""⟩

def ofSettings (settings : LocationSettings) : Except Failure Location :=
  let bucket := settings.bucket.getD ""
  if bucket = "" then
    .error (.configuration "원격 위치가 지정되지 않았습니다 (--remote 또는 ROCWHEEL_BUCKET 설정 필요)" none)
  else inBucket settings bucket (ObjectKey.join [settings.scope])

def refused (message text : String) : Failure :=
  .configuration (message ++ text) (some [("remoteBase", .string text)])

def ofText (cwd : Path) (settings : LocationSettings) (text : String) : Except Failure Location :=
  let cs := text.toList
  match Text.dropBeginning? "s3://".toList cs with
  | some rest =>
    match Text.split (· == '/') rest with
    | bucket :: scope =>
      if bucket.isEmpty then .error (refused "잘못된 S3 위치: " text)
      else inBucket settings (String.ofList bucket) (ObjectKey.join (scope.map String.ofList))
    | [] => .error (refused "잘못된 S3 위치: " text)
  | none =>
    if "file://".toList.isPrefixOf cs then (FileAddress.pathText text).map (inFolder cwd)
    else if hasScheme cs then .error (refused "지원하지 않는 원격 스킴: " text)
    else .ok (inFolder cwd text)

/-- The location that is meant; an empty text is as good as none. -/
def resolve (cwd : Path) (text : Option String) (settings : LocationSettings) :
    Except Failure Location :=
  match text with
  | some t => if t = "" then ofSettings settings else ofText cwd settings t
  | none => ofSettings settings

def store (rules : ServiceRules) (location : Location) : ObjectStore :=
  match location.place with
  | .folder root => FolderStore.store root
  | .bucket settings => Bucket.store rules settings.bucket

end Location

end Wheelhouse
