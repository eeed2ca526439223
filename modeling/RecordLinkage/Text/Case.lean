import RecordLinkage.Text.UpperTable
import RecordLinkage.Text.LowerTable
import RecordLinkage.Text.CasedTable

/-! # Full case conversion of text

Upper case maps each character on its own, so a character may grow into several
(`ß` becomes `SS`). Lower case also looks at the neighbours of a capital sigma: it becomes
the final form `ς` at the end of a word and `σ` elsewhere, as the Unicode condition
Final_Sigma says.
-/

namespace RecordLinkage.Text

/-- The full upper case form of a character. -/
def upperChar (c : Char) : List Char :=
  upperCaseTable.image c

/-- The full lower case form of a character, without context. -/
def lowerChar (c : Char) : List Char :=
  lowerCaseTable.image c

/-- Whether the character has the property Cased. -/
def isCased (c : Char) : Bool :=
  CodeRange.covers casedRanges c.toNat

/-- Whether the character has the property Case_Ignorable. -/
def isCaseIgnorable (c : Char) : Bool :=
  CodeRange.covers caseIgnorableRanges c.toNat

/-- Whether the first character that is not case-ignorable is cased. Read on the characters
    before a sigma (nearest first) and after it, this is the Final_Sigma context. -/
def casedPastIgnorable : List Char → Bool
  | [] => false
  | c :: cs => if isCaseIgnorable c then casedPastIgnorable cs else isCased c

/-- The capital sigma `Σ`, the one character whose lower case depends on its neighbours. -/
def capitalSigma : Char := 'Σ'

/-- The lower case of a capital sigma with `before` (nearest first) and `after` around it:
    the final form when a cased letter precedes it and none follows. -/
def lowerSigma (before after : List Char) : Char :=
  if casedPastIgnorable before && !casedPastIgnorable after then 'ς' else 'σ'

/-- The full lower case of the character at index `i` of `cs`. -/
def lowerAt (cs : List Char) (c : Char) (i : Nat) : List Char :=
  if c = capitalSigma then [lowerSigma (cs.take i).reverse (cs.drop (i + 1))] else lowerChar c

/-- The full lower case of a list of characters. -/
def lowerChars (cs : List Char) : List Char :=
  cs.zipIdx.flatMap fun (c, i) => lowerAt cs c i

/-- The full upper case of a list of characters. -/
def upperChars (cs : List Char) : List Char :=
  cs.flatMap upperChar

/-- The full lower case of a text. -/
def lower (s : String) : String :=
  String.ofList (lowerChars s.toList)

/-- The full upper case of a text. -/
def upper (s : String) : String :=
  String.ofList (upperChars s.toList)

end RecordLinkage.Text
