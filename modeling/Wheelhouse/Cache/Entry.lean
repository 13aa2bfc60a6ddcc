import Wheelhouse.Cache.Key
import Wheelhouse.Cache.Manifest
import Wheelhouse.Disk.Walk
import Wheelhouse.Store.Basic
import Wheelhouse.Store.Key
import Wheelhouse.Workers

/-!
Entries of the build cache. An entry holds the files of one build under its key; it counts only when
its manifest is there. `check` asks for the manifest, `upload` puts the files and then the manifest, and
`download` writes the files that the manifest lists, once it is sure that none leaves the folder.
-/

set_option autoImplicit false

namespace Wheelhouse

structure CacheOptions where
  forceRebuild : Bool
  workers : Option Number

structure CacheUpload where
  key : String
  uploadedFiles : Nat
  manifestKey : String

namespace Cache

def entryKey (remote : Remote) (key : String) : Except Failure String :=
  if CacheKey.isKey key then .ok (ObjectKey.join [remote.scope, "cache", key])
  else .error (.configuration ("잘못된 캐시 키 형식: " ++ key) (some [("key", .string key)]))

def manifestKey (entry : String) : String := ObjectKey.join [entry, Manifest.fileName]

/-- Eight workers unless a number other than zero is given. -/
def workers (options : CacheOptions) : Number :=
  match options.workers with
  | some (.finite q) => if q = 0 then .ofNat 8 else .finite q
  | some .undefined => .ofNat 8
  | some n => n
  | none => .ofNat 8

/-- Whether an entry is complete. A forced rebuild finds nothing. -/
def check (remote : Remote) (options : CacheOptions) (key : String) : Job Bool := do
  let manifest := manifestKey (← Job.ofExcept (entryKey remote key))
  if options.forceRebuild then
    Job.info "강제 재빌드 요청, 캐시 조회 생략" [("key", .string key)]
    return false
  let found ← remote.store.contains manifest
  Job.info (if found then "캐시 히트" else "캐시 미스")
    [("key", .string key), ("location", .string (remote.store.description ++ "/" ++ manifest))]
  return found

def target (folder : Path) (file : String) : Path := Path.descend folder.bare (Path.segments file)

def staysInside (folder : Path) (file : String) : Bool :=
  target folder file != folder.bare && Path.isInside folder (target folder file)

def escaping (manifest file : String) : Failure :=
  .missing "유효한 캐시 매니페스트" manifest
    (some ("캐시 매니페스트 항목이 다운로드 디렉토리를 벗어납니다: " ++ file))

/-- Fetches the listed files one by one. A failure does not keep the others from being fetched; the
first one is given back. -/
def fetchAll (remote : Remote) (key entry : String) (folder : Path) :
    List String → Job (Option Failure)
  | [] => return none
  | file :: rest => do
    let first ← Job.outcome (remote.store.getFile (ObjectKey.join [entry, file]) (target folder file))
    match first with
    | .ok _ =>
      Job.debug "캐시 파일 다운로드" [("key", .string key), ("file", .string file)]
      fetchAll remote key entry folder rest
    | .error e =>
      -- The others are still fetched, but the first failure is the one to tell.
      let _ ← fetchAll remote key entry folder rest
      return some e

def download (remote : Remote) (options : CacheOptions) (key : String) (folder : Path) : Job Path := do
  let entry ← Job.ofExcept (entryKey remote key)
  let manifest := manifestKey entry
  unless ← remote.store.contains manifest do
    throw (.missing "캐시 항목" (remote.store.description ++ "/" ++ entry) none)
  let files ← Job.ofExcept (Manifest.readFiles manifest (← remote.store.getText manifest))
  -- No file or folder is made before every listed file is known to stay inside.
  match files.find? fun file => !staysInside folder file with
  | some file => throw (escaping manifest file)
  | none => pure ()
  Job.ensureFolder folder
  Job.ofExcept (Workers.check (workers options))
  match ← fetchAll remote key entry folder files with
  | some e => throw e
  | none => pure ()
  Job.info "캐시 다운로드 완료"
    [("key", .string key), ("files", .number (.ofNat files.length)), ("localDir", .string folder.text)]
  return folder

/-- Puts the files of a folder one by one, and gives the keys that failed with the errors. -/
def putAll (remote : Remote) (entry : String) (folder : Path) :
    List String → Job (List (String × Failure))
  | [] => return []
  | file :: rest => do
    let key := ObjectKey.join [entry, file]
    match ← Job.outcome (remote.store.putFile key (target folder file) none) with
    | .ok _ => putAll remote entry folder rest
    | .error e =>
      Job.error "캐시 파일 업로드 실패" [("key", .string key), ("error", .string e.message)]
      return (key, e) :: (← putAll remote entry folder rest)

def finish (remote : Remote) (key entry : String) (files : List String)
    (failed : List (String × Failure)) : Job CacheUpload := do
  if !failed.isEmpty then
    throw (.publication (Text.sorted (failed.map (·.1))) [] [entry]
      (failed.getLast?.map fun f => f.2.message))
  -- The manifest comes last: it makes the entry count.
  let manifest := manifestKey entry
  let text := Manifest.text ⟨key, files, Calendar.stamp (← get).now⟩
  match ← Job.outcome (remote.store.putText manifest text (some "application/json")) with
  | .ok _ => pure ()
  | .error e => throw (.publication [manifest] [] [entry] (some e.message))
  Job.info "캐시 업로드 완료" [("key", .string key), ("files", .number (.ofNat files.length))]
  return { key, uploadedFiles := files.length, manifestKey := manifest }

def upload (remote : Remote) (options : CacheOptions) (key : String) (folder : Path) :
    Job CacheUpload := do
  let entry ← Job.ofExcept (entryKey remote key)
  unless ← Job.has folder do throw (.missing "업로드할 디렉토리" folder.text none)
  let files ← Job.look fun d => d.listFilesRecursive folder
  Job.ofExcept (Workers.check (workers options))
  let failed ← putAll remote entry folder files
  finish remote key entry files failed

end Cache

end Wheelhouse
