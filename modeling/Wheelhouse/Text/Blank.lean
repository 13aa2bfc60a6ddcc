set_option autoImplicit false

namespace Wheelhouse.Text

/-- Tabs, line ends, the no-break spaces, the byte order mark and the Unicode space separators. -/
def isBlank (c : Char) : Bool :=
  let n := c.toNat
  (9 ≤ n && n ≤ 13) || n == 0x20 || n == 0xA0 || n == 0x1680 || (0x2000 ≤ n && n ≤ 0x200A) ||
    n == 0x2028 || n == 0x2029 || n == 0x202F || n == 0x205F || n == 0x3000 || n == 0xFEFF

/-- The four line terminators: line feed, carriage return, and the line and paragraph separators. -/
def isLineEnd (c : Char) : Bool :=
  c == '\n' || c == '\r' || c == '\u2028' || c == '\u2029'

theorem isBlank_of_isLineEnd {c : Char} (h : isLineEnd c = true) : isBlank c = true := by
  simp only [isLineEnd, Bool.or_eq_true, beq_iff_eq] at h
  rcases h with ((rfl | rfl) | rfl) | rfl <;> decide

def trimEnd (cs : List Char) : List Char :=
  (cs.reverse.dropWhile isBlank).reverse

def trim (cs : List Char) : List Char :=
  trimEnd (cs.dropWhile isBlank)

def removeBlanks (cs : List Char) : List Char :=
  cs.filter fun c => !isBlank c

@[simp] theorem trim_nil : trim [] = [] := rfl

def trimmed (s : String) : String :=
  String.ofList (trim s.toList)

end Wheelhouse.Text
