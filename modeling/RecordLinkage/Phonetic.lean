import RecordLinkage.Text.Case

/-! # Phonetic codes

A phonetic code is the first letter of a name followed by three digits that stand for the
sounds of the letters after it:

| Letters         | Digit |
|-----------------|-------|
| B F P V         | 1     |
| C G J K Q S X Z | 2     |
| D T             | 3     |
| L               | 4     |
| M N             | 5     |
| R               | 6     |

The letters are the capitals `A`–`Z` of the name's full upper case; everything else is
skipped. Vowels and `H`, `W`, `Y` have no digit and are dropped, a digit equal to the one
before it is dropped, and a short code is padded with `0`. A name without letters has the
empty code.
-/

namespace RecordLinkage.Phonetic

/-- The length of every non-empty code. -/
def codeLength : Nat := 4

/-- Whether the character is one of the capitals `A`–`Z`. -/
def isCapital (c : Char) : Bool :=
  'A' ≤ c && c ≤ 'Z'

/-- The sound digit of a capital, if it has one. -/
def digitFor (c : Char) : Option Char :=
  if c ∈ ['B', 'F', 'P', 'V'] then some '1'
  else if c ∈ ['C', 'G', 'J', 'K', 'Q', 'S', 'X', 'Z'] then some '2'
  else if c ∈ ['D', 'T'] then some '3'
  else if c = 'L' then some '4'
  else if c ∈ ['M', 'N'] then some '5'
  else if c = 'R' then some '6'
  else none

/-- The list with every element that equals the one before it removed. -/
def collapseRuns : List Char → List Char
  | a :: b :: rest => if a = b then collapseRuns (b :: rest) else a :: collapseRuns (b :: rest)
  | l => l

/-- The capitals `A`–`Z` of the full upper case of the name, in order. -/
def letters (name : String) : List Char :=
  (Text.upperChars name.toList).filter isCapital

/-- The encoder's state while it reads capitals: the code so far and the digit last appended. -/
structure Encoder where
  /-- The code so far, first letter first. -/
  code : List Char
  /-- The digit appended last, if any. -/
  lastDigit : Option Char
  deriving Repr, DecidableEq

/-- Read one more capital: once the code is full nothing changes; otherwise the capital's
    digit is appended unless it equals the digit appended last, and a capital without a
    digit is skipped. -/
def Encoder.push (e : Encoder) (c : Char) : Encoder :=
  if e.code.length ≥ codeLength then e
  else
    match digitFor c with
    | some d => if e.lastDigit = some d then e else ⟨e.code ++ [d], some d⟩
    | none => e

/-- The code of a list of capitals, read one capital at a time: the first capital starts
    the code and does not count as a digit, and the code is padded with `0` to four
    characters. -/
def encodeLetters : List Char → List Char
  | [] => []
  | first :: rest =>
    let e := rest.foldl Encoder.push ⟨[first], none⟩
    e.code ++ List.replicate (codeLength - e.code.length) '0'

/-- The code of a list of capitals described at once: the first capital, then the first
    three of the digits of the rest with runs of equal digits collapsed, then `0`s up to
    four characters. -/
def collapsedCode : List Char → List Char
  | [] => []
  | first :: rest =>
    let digits := (collapseRuns (rest.filterMap digitFor)).take (codeLength - 1)
    first :: digits ++ List.replicate (codeLength - 1 - digits.length) '0'

/-- The phonetic code of a name. -/
def encode (name : String) : String :=
  String.ofList (encodeLetters (letters name))

/-- Whether two names sound alike: their phonetic codes are equal. -/
def similar (a b : String) : Bool :=
  encode a == encode b

end RecordLinkage.Phonetic
