import Reshape.Text.CharClass

/-!
# Blank characters

The characters with the Unicode property `White_Space`, and texts without the
blanks at their ends.
-/

namespace Reshape.Text

def blank : CharClass where
  ranges := [
    (0x9, 0xD), (0x20, 0x20), (0x85, 0x85), (0xA0, 0xA0), (0x1680, 0x1680),
    (0x2000, 0x200A), (0x2028, 0x2029), (0x202F, 0x202F), (0x205F, 0x205F),
    (0x3000, 0x3000)]

def isBlank (character : Char) : Bool := blank.contains character

def trimStart (text : List Char) : List Char := text.dropWhile isBlank

def trimEnd (text : List Char) : List Char :=
  (text.reverse.dropWhile isBlank).reverse

def trim (text : List Char) : List Char := trimEnd (trimStart text)

theorem length_trimStart_le (text : List Char) :
    (trimStart text).length ≤ text.length :=
  (List.dropWhile_suffix isBlank).length_le

private theorem length_trimEnd_le (text : List Char) :
    (trimEnd text).length ≤ text.length := by
  have h := (List.dropWhile_suffix (l := text.reverse) isBlank).length_le
  simpa [trimEnd] using h

theorem length_trim_le (text : List Char) :
    (trim text).length ≤ text.length :=
  Nat.le_trans (length_trimEnd_le _) (length_trimStart_le _)

end Reshape.Text
