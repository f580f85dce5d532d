/-!
# `SidecarInjection.Text.Blank`: white space

The characters with the Unicode property White_Space, and the removal of them
from both ends of a text.
-/

set_option autoImplicit false

namespace SidecarInjection.Text

/-- The code points with the property White_Space. -/
def isBlank (c : Char) : Bool :=
  let n := c.toNat
  (0x9 ≤ n && n ≤ 0xD) || n == 0x20 || n == 0x85 || n == 0xA0 || n == 0x1680 ||
    (0x2000 ≤ n && n ≤ 0x200A) || n == 0x2028 || n == 0x2029 || n == 0x202F ||
    n == 0x205F || n == 0x3000

/-- Removes white space from both ends. -/
def trimChars (s : List Char) : List Char :=
  ((s.dropWhile isBlank).reverse.dropWhile isBlank).reverse

/-- Removes white space from both ends. -/
def trim (s : String) : String := String.ofList (trimChars s.toList)

end SidecarInjection.Text
