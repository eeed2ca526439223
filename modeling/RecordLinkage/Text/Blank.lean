import RecordLinkage.Text.CharTable

/-! # Blank characters and trimming

A blank is a character with the Unicode property White_Space. Trimming removes the blanks at
both ends of a text, and splitting at blanks yields the words between them.
-/

namespace RecordLinkage.Text

/-- The ranges of the property White_Space (Unicode 17.0). -/
def blankRanges : List CodeRange := [
  ⟨0x9, 0xD⟩, ⟨0x20, 0x20⟩, ⟨0x85, 0x85⟩, ⟨0xA0, 0xA0⟩, ⟨0x1680, 0x1680⟩,
  ⟨0x2000, 0x200A⟩, ⟨0x2028, 0x2029⟩, ⟨0x202F, 0x202F⟩, ⟨0x205F, 0x205F⟩, ⟨0x3000, 0x3000⟩]

/-- Whether the character is blank. -/
def isBlank (c : Char) : Bool :=
  CodeRange.covers blankRanges c.toNat

/-- The characters with the blanks at both ends removed. -/
def trimChars (cs : List Char) : List Char :=
  ((cs.dropWhile isBlank).reverse.dropWhile isBlank).reverse

/-- The text with the blanks at both ends removed. -/
def trim (s : String) : String :=
  String.ofList (trimChars s.toList)

/-- Whether the text holds blanks only (or nothing). -/
def isBlankText (s : String) : Bool :=
  s.toList.all isBlank

end RecordLinkage.Text
