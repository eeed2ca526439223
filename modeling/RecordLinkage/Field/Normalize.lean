import RecordLinkage.Field
import RecordLinkage.Phonetic
import RecordLinkage.Text.Blank
import RecordLinkage.Hash.Sha256

/-! # Normalized values and salted digests

Every value is first trimmed of blanks and put in lower case. An exact value stays so. A
fuzzy value loses one leading honorific (`mr `, `mrs `, `ms `, `dr `, the first that
matches), keeps only the letters `a`–`z`, the digits, spaces and hyphens, turns hyphens into
spaces, and becomes its words joined by single spaces. A phonetic value becomes its
phonetic code.

The digest of a field is the lower case hexadecimal SHA-256 of
`name ++ ":" ++ normalized value ++ ":" ++ salt`.
-/

namespace RecordLinkage

/-- The honorifics of which one is dropped from the start of a fuzzy value. -/
def honorifics : List String := ["mr ", "mrs ", "ms ", "dr "]

/-- The value without the first honorific that it starts with. -/
def stripHonorific (value : List Char) : List Char :=
  match honorifics.find? fun h => h.toList.isPrefixOf value with
  | some h => value.drop h.length
  | none => value

/-- Whether a fuzzy value keeps the character: `a`–`z`, `0`–`9`, space or hyphen. -/
def isFuzzyKept (c : Char) : Bool :=
  ('a' ≤ c && c ≤ 'z') || ('0' ≤ c && c ≤ '9') || c = ' ' || c = '-'

/-- The words of a text over letters, digits and spaces, joined by single spaces. -/
def joinWords (cs : List Char) : List Char :=
  " ".toList.intercalate ((cs.splitOn ' ').filter (· ≠ []))

/-- The normal form of a fuzzy value that is already trimmed and in lower case. -/
def normalizeFuzzy (value : List Char) : List Char :=
  joinWords (((stripHonorific value).filter isFuzzyKept).map fun c => if c = '-' then ' ' else c)

/-- The trimmed lower case form of a raw value, the start of every normalization. -/
def baseForm (raw : String) : String :=
  Text.lower (Text.trim raw)

/-- The normalized value of a field. -/
def Field.normalized (f : Field) : String :=
  let base := baseForm f.value
  match f.kind with
  | .exact => base
  | .fuzzy => String.ofList (normalizeFuzzy base.toList)
  | .phonetic => Phonetic.encode base

/-- The bytes that are hashed for a field under a salt. -/
def Field.digestInput (f : Field) (salt : String) : List UInt8 :=
  (f.name ++ ":" ++ f.normalized ++ ":" ++ salt).toUTF8.toList

/-- The salted digest of a field, in lower case hexadecimal. -/
def Field.digest (f : Field) (salt : String) : String :=
  Hex.encode (Hash.Sha256.digest (f.digestInput salt))

end RecordLinkage
