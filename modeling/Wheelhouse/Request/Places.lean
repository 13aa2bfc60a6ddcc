import Wheelhouse.Request.Report
import Wheelhouse.Request.Basic

set_option autoImplicit false

namespace Wheelhouse.Request

def placeTexts : Request → List String
  | .cacheKey recipe _ => [recipe]
  | .cacheCheck _ _ => []
  | .cacheDownload _ folder _ => [folder]
  | .cacheUpload _ folder _ => [folder]
  | .pin install requirements mapping _ => [install, requirements] ++ mapping.toList
  | .filter custom all _ _ _ _ => [custom, all]
  | .index wheels output _ => [wheels, output]
  | .publish wheels site _ _ _ => [wheels, site]
  | .organize artifacts output _ => [artifacts, output]
  | .getSetting _ | .setSetting _ _ | .listSettings | .resetSettings => []

def remoteText? : Request → Option (Option String)
  | .cacheCheck _ remote | .cacheDownload _ _ remote | .cacheUpload _ _ remote
  | .publish _ _ remote _ _ => some remote
  | _ => none

def storeFolder (found : Settings) (cwd : Path) (r : Request) : List Path :=
  match r.remoteText? with
  | none => []
  | some text =>
    match Location.resolve cwd text found.location with
    | .ok ⟨.folder root, _⟩ => [root]
    | _ => []

def places (found : Settings) (cwd : Path) (outputFile : Option String) (r : Request) : List Path :=
  (r.placeTexts ++ outputFile.toList).map (Path.resolve cwd) ++ r.storeFolder found cwd

end Wheelhouse.Request
