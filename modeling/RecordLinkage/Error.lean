import RecordLinkage.Decimal.Text
import RecordLinkage.Binary64.Arith
import RecordLinkage.Hex
import RecordLinkage.Limits

/-! # Errors

Each way a call can fail is a constructor that records its cause; the text a user sees is
given once, by the `message` of each error type.
-/

namespace RecordLinkage

/-- Why a linkage request or a field is malformed. -/
inductive ValidationError where
  /-- The request has no query fields. -/
  | emptyQueryFields
  /-- The provider id is blank. -/
  | emptyProviderId
  /-- The threshold is not in `(0, 1]`. -/
  | thresholdOutOfRange (threshold : Binary64)
  /-- The field under `key` has a blank name. -/
  | emptyFieldName (key : String)
  /-- The field named `field` has a blank value. -/
  | emptyFieldValue (field : String)
  /-- The text names no field kind. -/
  | unknownFieldType (text : String)
  deriving Repr, DecidableEq

/-- The message of a validation error. -/
def ValidationError.message : ValidationError → String
  | .emptyQueryFields => "Query fields cannot be empty"
  | .emptyProviderId => "Provider id cannot be empty"
  | .thresholdOutOfRange t =>
    "Threshold out of range: " ++ Decimal.render .plain t ++ " (must be in (0, 1])"
  | .emptyFieldName key => "Field name cannot be empty (key: " ++ Text.quote key ++ ")"
  | .emptyFieldValue field => "Field value cannot be empty: " ++ field
  | .unknownFieldType text =>
    "Unknown field type: " ++ text ++ " (expected exact, fuzzy or phonetic)"

/-- Why an exported filter cannot be read back. -/
inductive DecodeError where
  /-- The bits are not a hexadecimal byte string. -/
  | invalidHex (cause : Hex.DecodeError)
  /-- The size or the number of positions per element is out of range. -/
  | invalidParameters (size hashCount : Nat)
  deriving Repr, DecidableEq

/-- The message of a decoding error. -/
def DecodeError.message : DecodeError → String
  | .invalidHex cause => "Invalid hex: " ++ cause.message
  | .invalidParameters size hashCount =>
    "Invalid filter parameters: size=" ++ toString size ++ ", hash_count=" ++ toString hashCount

/-- Why a configuration is refused. -/
inductive ConfigError where
  /-- The filter has no bits. -/
  | zeroFilterSize
  /-- The filter is larger than the limit. -/
  | filterSizeTooLarge (size : Nat)
  /-- The number of positions per element is outside `1 ..= 32`. -/
  | hashCountOutOfRange (count : Nat)
  /-- The salt is empty. -/
  | emptySalt
  /-- The salt is the one meant for development only. -/
  | developmentSalt
  deriving Repr, DecidableEq

/-- The message of a configuration error. -/
def ConfigError.message : ConfigError → String
  | .zeroFilterSize => "Invalid configuration: filter_size cannot be 0"
  | .filterSizeTooLarge size =>
    "Invalid configuration: filter_size must be at most " ++ toString maxFilterSize ++
      ", got " ++ toString size
  | .hashCountOutOfRange count =>
    "Invalid configuration: hash_count must be between 1 and " ++ toString maxHashCount ++
      ", got " ++ toString count
  | .emptySalt => "Invalid configuration: salt cannot be empty"
  | .developmentSalt =>
    "Invalid configuration: salt is the development placeholder; set PPRL_SALT"

/-- A scan that ran out of time before candidate `scanned` of `total`. -/
structure DeadlineExceeded where
  /-- The number of candidates scored before the deadline passed. -/
  scanned : Nat
  total : Nat
  deriving Repr, DecidableEq

/-- The message of an expired deadline. -/
def DeadlineExceeded.message (e : DeadlineExceeded) : String :=
  "Deadline exceeded after scanning " ++ toString e.scanned ++ " of " ++ toString e.total ++
    " candidates"

end RecordLinkage
