import RecordLinkage.Text.PrintableTable

/-! # Quoted text and characters

The quoted form of a text stands between double quotes, and that of a character between
single quotes. Inside, the backslash, the quote of the form, the null character, tab, line
feed and carriage return are written with a backslash (`\\`, `\"`, `\0`, `\t`, `\n`, `\r`),
a character that extends the one before it or is not printable is written as `\u` and its
code point in lower case hexadecimal between braces (`\u` then `200b` in braces), and every
other character stands for itself.
-/

namespace RecordLinkage.Text

/-- Whether the character is a combining mark that extends the character before it. -/
def isExtending (c : Char) : Bool :=
  CodeRange.covers extendingRanges c.toNat

/-- Whether the character is printable. -/
def isPrintable (c : Char) : Bool :=
  !CodeRange.covers unprintableRanges c.toNat

/-- The code point of the character in lower case hexadecimal, without leading zeros. -/
def hexCodePoint (c : Char) : List Char :=
  Nat.toDigits 16 c.toNat

/-- The escape of a code point: a backslash, `u`, and the hexadecimal code point in braces. -/
def unicodeEscape (c : Char) : List Char :=
  ['\\', 'u', '\x7b'] ++ hexCodePoint c ++ ['\x7d']

/-- The quoted form of one character inside quotes `q`. -/
def escapeChar (q : Char) (c : Char) : List Char :=
  if c = '\x00' then ['\\', '0']
  else if c = '\t' then ['\\', 't']
  else if c = '\r' then ['\\', 'r']
  else if c = '\n' then ['\\', 'n']
  else if c = '\\' then ['\\', '\\']
  else if c = q then ['\\', q]
  else if isExtending c then unicodeEscape c
  else if isPrintable c then [c]
  else unicodeEscape c

/-- The quoted form of a text: double quotes around its escaped characters. -/
def quote (s : String) : String :=
  String.ofList ('"' :: s.toList.flatMap (escapeChar '"') ++ ['"'])

/-- The quoted form of a character: single quotes around it, escaped. -/
def quoteChar (c : Char) : String :=
  String.ofList ('\'' :: escapeChar '\'' c ++ ['\''])

end RecordLinkage.Text
