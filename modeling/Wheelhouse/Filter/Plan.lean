import Wheelhouse.Disk.Digest
import Wheelhouse.Package.Archive
import Wheelhouse.Text.Units

/-!
Plans for removing duplicates. For each wanted package with builds of one's own, the copies of it in a
collection are removed unless they are the same as a build, and the builds that are not there are
copied. The plan is made from what is there before anything is changed.
-/

set_option autoImplicit false

namespace Wheelhouse

inductive FilterStep where
  | leave (name : String)
  | keep (filename : String)
  | remove (name filename : String)
  | restore (name filename : String)
  deriving DecidableEq

/-- The archives of a folder of builds and of a collection, as they are before anything is changed. -/
structure Collections where
  custom : Path
  all : Path
  customArchives : List Archive
  allArchives : List Archive

namespace Filter

def scan (filenames : List String) : List Archive × List String :=
  let named := filenames.filter Archive.hasExtension
  (named.filterMap Archive.parse?, named.filter fun f => (Archive.parse? f).isNone)

def ofName (name : String) (archives : List Archive) : List Archive :=
  archives.filter fun a => a.normalizedName = name

def digest? (d : Disk) (p : Path) : Option String := (d.digest p).toOption

def isSame (d : Disk) (c : Collections) (customs : List Archive) (a : Archive) : Bool :=
  customs.any (fun b => b.filename = a.filename) &&
    digest? d (c.custom.child a.filename) = digest? d (c.all.child a.filename)

def stepsFor (d : Disk) (c : Collections) (name : String) : List FilterStep :=
  let customs := ofName name c.customArchives
  if customs.isEmpty then [.leave name]
  else
    let copies := ofName name c.allArchives
    let present := copies.filter (isSame d c customs)
    (copies.map fun a => if isSame d c customs a then .keep a.filename else .remove name a.filename) ++
      (customs.filter fun b => present.all fun a => a.filename != b.filename).map
        fun b => .restore name b.filename

def targets (names : List String) : List String :=
  (names.map PackageName.normalize).foldl (fun seen n => if seen.contains n then seen else seen ++ [n]) []

def steps (d : Disk) (c : Collections) (names : List String) : List FilterStep :=
  (targets names).flatMap (stepsFor d c)

def retained (c : Collections) (names : List String) : List (String × List String) :=
  (targets names).filterMap fun name =>
    let customs := ofName name c.customArchives
    if customs.isEmpty then none else some (name, customs.map (·.version))

end Filter

namespace FilterStep

def left? : FilterStep → Option String
  | leave name => some name
  | _ => none

def kept? : FilterStep → Option String
  | keep filename => some filename
  | _ => none

def removed? : FilterStep → Option String
  | remove _ filename => some filename
  | _ => none

def restored? : FilterStep → Option String
  | restore _ filename => some filename
  | _ => none

end FilterStep

end Wheelhouse
