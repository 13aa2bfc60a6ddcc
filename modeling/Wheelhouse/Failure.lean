import Wheelhouse.Disk.Operations
import Wheelhouse.Json.Basic
import Wheelhouse.Json.Fault
import Wheelhouse.Zip.Error

set_option autoImplicit false

namespace Wheelhouse

structure Mismatch where
  name : String
  declared : String
  retained : String
  deriving DecidableEq

inductive Failure where
  | archiveName (filename reason : String)
  /-- Something that must be there is not; `wording` replaces the usual text. -/
  | missing (resource location : String) (wording : Option String)
  | mismatch (projectWheel : String) (mismatches : List Mismatch)
  /-- Some objects of a publication were not stored; `cause` is the last error. -/
  | publication (failedKeys completed incomplete : List String) (cause : Option String)
  | configuration (message : String) (details : Option Members)
  | general (message code : String) (fatal : Bool) (details : Option Members)
  | disk (error : DiskError)
  | notJson (file : Option String) (text : String) (fault : Json.Fault)
  | archive (error : Zip.ArchiveError)
  | address (name : String) (code : Option String) (message : String)
  | service (name message : String)
  /-- A number of workers that is not a whole number from one on. -/
  | workers
  | noText
  | other (message : String)

namespace Failure

def invalidAddress : Failure := .address "TypeError" (some "ERR_INVALID_URL") "Invalid URL"

def wronglyEncoded : Failure := .address "URIError" none "URI malformed"

def mismatchText (m : Mismatch) : String :=
  m.name ++ ": 선언 " ++ (if m.declared = "" then "(제약 없음)" else m.declared) ++ " / 유지 " ++ m.retained

def commaList (ss : List String) : String := Text.joined ", " ss

def publicationText (failedKeys : List String) (cause : Option String) : String :=
  let count := failedKeys.length
  "업로드 실패 (" ++ toString count ++ "개 객체): " ++ commaList (failedKeys.take 5) ++
    (if 5 < count then " 외 " ++ toString (count - 5) ++ "개" else "") ++
    (match cause with
      | some c => if c = "" then "" else " - " ++ c
      | none => "")

def message : Failure → String
  | .archiveName filename reason => "아카이브 파일명 파싱 실패: " ++ filename ++ " (" ++ reason ++ ")"
  | .missing resource location wording =>
    wording.getD (resource ++ "을(를) 찾을 수 없습니다: " ++ location)
  | .mismatch projectWheel mismatches =>
    projectWheel ++ " 의존성 버전 불일치: " ++ commaList (mismatches.map mismatchText)
  | .publication failedKeys _ _ cause => publicationText failedKeys cause
  | .configuration message _ => message
  | .general message _ _ _ => message
  | .disk e => e.text
  | .notJson file text fault =>
    (match file with
      | some name => name ++ ": "
      | none => "") ++ fault.message text
  | .archive e => e.message
  | .address _ _ message => message
  | .service _ message => message
  | .workers => "Expected \x60concurrency\x60 to be a number from 1 and up"
  | .noText => "Cannot convert object to primitive value"
  | .other message => message

def kindName : Failure → String
  | .archiveName _ _ => "ParseError"
  | .missing _ _ _ => "NotFoundError"
  | .mismatch _ _ => "ValidationMismatchError"
  | .publication _ _ _ _ => "UploadFailureError"
  | .configuration _ _ => "ConfigurationError"
  | .general _ _ _ _ => "PipelineError"
  | .disk e => e.kindName
  | .notJson _ _ _ => "SyntaxError"
  | .archive e => e.kindName
  | .address name _ _ => name
  | .service name _ => name
  | .workers => "TypeError"
  | .noText => "TypeError"
  | .other _ => "Error"

def isOwn : Failure → Bool
  | .archiveName _ _ | .missing _ _ _ | .mismatch _ _ | .publication _ _ _ _ | .configuration _ _
  | .general _ _ _ _ => true
  | _ => false

def code? : Failure → Option String
  | .archiveName _ _ => some "PARSE_ERROR"
  | .missing _ _ _ => some "NOT_FOUND"
  | .mismatch _ _ => some "VALIDATION_MISMATCH"
  | .publication _ _ _ _ => some "UPLOAD_FAILURE"
  | .configuration _ _ => some "CONFIG_ERROR"
  | .general _ code _ _ => some code
  | .disk e => e.code?
  | .archive e => e.code?
  | .address _ code _ => code
  | _ => none

def isFatal : Failure → Bool
  | .archiveName _ _ => false
  | .mismatch _ _ => false
  | .general _ _ fatal _ => fatal
  | _ => true

def strings (ss : List String) : Json := .array (ss.map .string)

def mismatchJson (m : Mismatch) : Json :=
  .object [("name", .string m.name), ("declared", .string m.declared), ("retained", .string m.retained)]

def details? : Failure → Option Members
  | .archiveName filename reason => some [("filename", .string filename), ("reason", .string reason)]
  | .missing resource location _ =>
    some [("resource", .string resource), ("location", .string location)]
  | .mismatch projectWheel mismatches =>
    some [("projectWheel", .string projectWheel), ("mismatches", .array (mismatches.map mismatchJson))]
  | .publication failedKeys completed incomplete _ =>
    some [("failedKeys", strings failedKeys), ("completedPrefixes", strings completed),
      ("partialPrefixes", strings incomplete)]
  | .configuration _ details => details
  | .general _ _ _ details => details
  | _ => none

end Failure

end Wheelhouse
