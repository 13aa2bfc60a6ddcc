import Wheelhouse.Number.Logarithm
import Wheelhouse.Number.Shortest

set_option autoImplicit false

namespace Wheelhouse.ByteSize

def units : List String := ["B", "KB", "MB", "GB", "TB"]

/-- The power of 1024 that a positive size reaches, from the quotient of the rounded logarithms. -/
def unitIndex (size : Rat) : Int :=
  match Number.logarithm size, Number.logarithm 1024 with
  | .finite a, .finite b =>
    match Number.round (a / b) with
    | .finite q => min q.floor 4
    | _ => 4
  | _, _ => 4

/-- The name of a unit; sizes below one byte have none. -/
def unitName (index : Int) : String :=
  if index < 0 then "undefined" else units.getD index.toNat "undefined"

/-- The size in the unit. Powers of 1024 that are too small to have a binary64 form count as zero. -/
def scaled (size : Rat) (index : Int) : Number :=
  match Number.round ((2 : Rat) ^ (10 * index)) with
  | .finite unit => if unit = 0 then .infinite false else Number.round (size / unit)
  | _ => .finite 0

def text : Number → String
  | .finite size =>
    if size = 0 then "0 B"
    else if size < 0 then "NaN undefined"
    else
      let index := unitIndex size
      (scaled size index).toCents.text ++ " " ++ unitName index
  | .infinite negative => if negative then "NaN undefined" else "Infinity TB"
  | .undefined => "NaN undefined"

end Wheelhouse.ByteSize
