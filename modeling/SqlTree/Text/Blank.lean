import SqlTree.Text.Ranges

/-!
# Blanks and trimming

A blank is a character with the White_Space property of the Unicode
character database.  Names and keywords read from outside are trimmed of
blanks on both sides.
-/

set_option autoImplicit false

namespace SqlTree.Text

/-- The characters with the White_Space property. -/
def blankRanges : CodeRanges := [
    (0x9, 0xD), (0x20, 0x20), (0x85, 0x85), (0xA0, 0xA0), (0x1680, 0x1680), (0x2000, 0x200A),
    (0x2028, 0x2029), (0x202F, 0x202F), (0x205F, 0x205F), (0x3000, 0x3000)]

/-- Whether `c` is white space. -/
def isBlank (c : Char) : Bool :=
  blankRanges.holds c

/-- The text from its first character that is no blank. -/
def trimStart (cs : List Char) : List Char :=
  cs.dropWhile isBlank

/-- The text up to its last character that is no blank. -/
def trimEnd (cs : List Char) : List Char :=
  (trimStart cs.reverse).reverse

/-- The text without the blanks at its two ends. -/
def trim (s : String) : String :=
  String.ofList (trimEnd (trimStart s.toList))

end SqlTree.Text
