import Wheelhouse.Settings.File
import Wheelhouse.Text.Units

set_option autoImplicit false

namespace Wheelhouse

structure MappingEntry where
  start : String
  name : String
  deriving DecidableEq

abbrev Mapping := List MappingEntry

namespace Mapping

def builtIn : Mapping :=
  [⟨"torch-", "torch"⟩, ⟨"torchvision-", "torchvision"⟩, ⟨"torchaudio-", "torchaudio"⟩,
    ⟨"triton-", "triton"⟩, ⟨"triton_kernels-", "triton-kernels"⟩,
    ⟨"pytorch_triton_rocm-", "pytorch-triton-rocm"⟩, ⟨"flash_attn-", "flash-attn"⟩,
    ⟨"amdsmi-", "amdsmi"⟩, ⟨"aiter-", "aiter"⟩, ⟨"amd_aiter-", "amd-aiter"⟩,
    ⟨"xformers-", "xformers"⟩, ⟨"apex-", "apex"⟩]

-- Half a surrogate pair can begin a file name, so what counts is the code units.
def MappingEntry.begins (e : MappingEntry) (filename : String) : Bool :=
  (Text.codeUnits e.start.toList).isPrefixOf (Text.codeUnits filename.toList)

def MappingEntry.size (e : MappingEntry) : Nat := (Text.codeUnits e.start.toList).length

def better (filename : String) (best : Option MappingEntry) (e : MappingEntry) : Option MappingEntry :=
  if MappingEntry.begins e filename then
    match best with
    | some b => if MappingEntry.size b < MappingEntry.size e then some e else some b
    | none => some e
  else best

/-- The first entry with the longest beginning of a file name. -/
def longest? (mapping : Mapping) (filename : String) : Option MappingEntry :=
  mapping.foldl (better filename) none

/-- The entry in an item of a mapping file. Both its texts must not be empty. -/
def entry? : Json → Option MappingEntry
  | .object members =>
    match members.lookup "prefix", members.lookup "name" with
    | some (.string start), some (.string name) =>
      if start = "" || name = "" then none else some ⟨start, name⟩
    | _, _ => none
  | _ => none

def badItem (path : String) (index : Nat) : Failure :=
  .configuration ("패키지 매핑 " ++ toString index ++ "번 항목이 잘못되었습니다: " ++ path)
    (some [("filePath", .string path), ("index", .number (.ofNat index))])

def ofItems (path : String) : Nat → List Json → Except Failure Mapping
  | _, [] => return []
  | index, item :: rest => do
    match entry? item with
    | none => throw (badItem path index)
    | some e => return e :: (← ofItems path (index + 1) rest)

def ofJson (path : String) : Json → Except Failure Mapping
  | .array items => ofItems path 0 items
  | _ =>
    .error (.configuration ("패키지 매핑 파일은 배열이어야 합니다: " ++ path)
      (some [("filePath", .string path)]))

def load (p : Path) : Job Mapping := do
  unless ← Job.has p do throw (.missing "패키지 매핑 파일" p.text none)
  Job.ofExcept (ofJson p.text (← readData p))

end Mapping

end Wheelhouse
