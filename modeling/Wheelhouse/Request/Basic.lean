import Wheelhouse.Publish.Scope
import Wheelhouse.Site.Index

/-!
What the program can be asked to do. Paths, lists and numbers are still the texts that a person typed;
what is not given is left to the settings.
-/

set_option autoImplicit false

namespace Wheelhouse

structure IndexWish where
  variant : Option String
  baseUrl : Option String
  projectVersion : Option String
  rocmVersion : Option String
  /-- A list with commas or semicolons. -/
  architectures : Option String
  hashes : Bool

inductive Request where
  | cacheKey (recipe : String) (arguments : List String)
  | cacheCheck (key : String) (remote : Option String)
  | cacheDownload (key folder : String) (remote : Option String)
  | cacheUpload (key folder : String) (remote : Option String)
  | pin (install requirements : String) (mapping : Option String) (dryRun : Bool)
  /-- Asks to remove duplicates; `strict` makes a mismatch a failure. -/
  | filter (custom all packages : String) (project : Option String) (strict dryRun : Bool)
  | index (wheels output : String) (wish : IndexWish)
  | publish (wheels site : String) (remote : Option String) (scope : PublishScope) (dryRun : Bool)
  | organize (artifacts output : String) (thresholdMB : Option String)
  | getSetting (name : Option String)
  | setSetting (name value : String)
  | listSettings
  | resetSettings

end Wheelhouse
