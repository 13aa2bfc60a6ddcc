import Wheelhouse.Text.Fields

set_option autoImplicit false

namespace Wheelhouse.Table

def isWide (c : Char) : Bool :=
  let n := c.toNat
  (0x1100 ≤ n && n ≤ 0x115F) || (0x2E80 ≤ n && n ≤ 0xA4CF) || (0xAC00 ≤ n && n ≤ 0xD7A3) ||
    (0xF900 ≤ n && n ≤ 0xFAFF) || (0xFE30 ≤ n && n ≤ 0xFE6F) || (0xFF00 ≤ n && n ≤ 0xFF60) ||
    (0xFFE0 ≤ n && n ≤ 0xFFE6) || (0x1F300 ≤ n && n ≤ 0x1F64F)

def extent : List Char → Nat
  | [] => 0
  | c :: cs => (if isWide c then 2 else 1) + extent cs

def cellLines (cell : String) : List (List Char) := Text.split (· == '\n') cell.toList

def height (row : List String) : Nat :=
  (row.map fun cell => (cellLines cell).length).foldl max 1

def width (rows : List (List String)) (column : Nat) : Nat :=
  (rows.flatMap fun row => (cellLines (row.getD column "")).map extent).foldl max 0

/-- The widths of as many columns as the first row has. -/
def widths (rows : List (List String)) : List Nat :=
  (List.range (rows.headD []).length).map (width rows)

def rule (ws : List Nat) (start crossing finish : Char) : List Char :=
  start :: (Text.join [crossing] (ws.map fun w => List.replicate (w + 2) '─') ++ [finish])

def pad (w : Nat) (cs : List Char) : List Char :=
  ' ' :: (cs ++ List.replicate (w - extent cs) ' ' ++ [' '])

def rowLines (ws : List Nat) (row : List String) : List (List Char) :=
  (List.range (height row)).map fun n =>
    let cells := ws.zipIdx.map fun (w, column) => pad w ((cellLines (row.getD column "")).getD n [])
    '│' :: (Text.join ['│'] cells ++ ['│'])

def draw (head : List String) (rows : List (List String)) : String :=
  let all := head :: rows
  let ws := widths all
  let blocks := all.map (rowLines ws)
  let inner := Text.join ['\n'] ((blocks.map (Text.join ['\n'])).intersperse (rule ws '├' '┼' '┤'))
  String.ofList
    (Text.join ['\n'] [rule ws '┌' '┬' '┐', inner, rule ws '└' '┴' '┘'])

end Wheelhouse.Table
