import RecordLinkage.Text.Quoted

/-! # Hexadecimal byte strings

A byte string is written as two lower case hexadecimal digits per byte, high digit first.
Reading accepts digits of either case and no prefix. It refuses a text of odd length before
looking at any digit, and otherwise names the first byte of the text that is not a digit,
with its byte index.
-/

namespace RecordLinkage.Hex

/-- Why a text is not a hexadecimal byte string. -/
inductive DecodeError where
  /-- The text has an odd number of bytes. -/
  | oddLength
  /-- The byte at index `index` is not a hexadecimal digit. -/
  | invalidByte (byte : UInt8) (index : Nat)
  deriving Repr, DecidableEq

/-- The lower case digit of a value below sixteen. -/
def digitChar (v : UInt8) : Char :=
  if v < 10 then Char.ofNat (48 + v.toNat) else Char.ofNat (87 + v.toNat)

/-- The two digits of a byte, high digit first. -/
def byteChars (b : UInt8) : List Char :=
  [digitChar (b >>> 4), digitChar (b &&& 15)]

/-- The lower case hexadecimal text of the bytes. -/
def encode (bytes : List UInt8) : String :=
  String.ofList (bytes.flatMap byteChars)

/-- The value of a hexadecimal digit byte of either case. -/
def digitValue? (b : UInt8) : Option UInt8 :=
  if 48 ≤ b ∧ b ≤ 57 then some (b - 48)
  else if 97 ≤ b ∧ b ≤ 102 then some (b - 87)
  else if 65 ≤ b ∧ b ≤ 70 then some (b - 55)
  else none

/-- Decode digit pairs onto `acc`; `index` is the byte index of the first byte of `text`. -/
def decodePairs (index : Nat) (acc : Array UInt8) : List UInt8 → Except DecodeError (Array UInt8)
  | hi :: lo :: rest =>
    match digitValue? hi with
    | none => .error (.invalidByte hi index)
    | some h =>
      match digitValue? lo with
      | none => .error (.invalidByte lo (index + 1))
      | some l => decodePairs (index + 2) (acc.push ((h <<< 4) ||| l)) rest
  | _ => .ok acc

/-- Read a byte string from the bytes of a hexadecimal text. -/
def decodeBytes (text : List UInt8) : Except DecodeError (List UInt8) :=
  if text.length % 2 = 1 then .error .oddLength else (decodePairs 0 #[] text).map (·.toList)

/-- Read a byte string from a hexadecimal text. -/
def decode (s : String) : Except DecodeError (List UInt8) :=
  decodeBytes s.toUTF8.toList

/-- The message of a decoding error. The offending byte is shown as the character with that
    code point, quoted. -/
def DecodeError.message : DecodeError → String
  | .oddLength => "Odd number of digits"
  | .invalidByte b i =>
    "Invalid character " ++ Text.quoteChar (Char.ofNat b.toNat) ++ " at position " ++ toString i

end RecordLinkage.Hex
