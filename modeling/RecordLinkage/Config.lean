import RecordLinkage.Filter.Scheme
import RecordLinkage.Parameters
import RecordLinkage.Error

/-! # Configuration

A configuration fixes the filter size, the number of positions per element, the salt of
every digest, the position scheme, and the candidate count from which scans may run in
parallel. A valid configuration has a size in `1 ..= 2^24`, a number of positions in
`1 ..= 32` and a non-empty salt; for production the salt must also differ from the
development salt. Values may be overlaid from a lookup of `PPRL_*` settings, where a
setting that does not parse as a count is ignored.
-/

namespace RecordLinkage

-- Powers of naturals are core's `Nat.pow`, also where an algebra library is imported; a literal
-- exponent is marked `Nat`, so that no default power of such a library is chosen for it.
attribute [local instance (high)] instPowNat

/-- The salt meant for development only. -/
def developmentSalt : String := "pprl-development-salt"

/-- The settings of a linkage service. -/
structure Config where
  /-- Filter size in bits. -/
  filterSize : Nat
  /-- Positions per element. -/
  hashCount : Nat
  /-- The secret mixed into every digest. -/
  salt : String
  /-- How positions are derived. -/
  scheme : Filter.Scheme
  /-- The candidate count from which a scan may run in parallel. -/
  parallelThreshold : Nat
  deriving Repr, DecidableEq

namespace Config

/-- The default configuration: 1000 bits, 3 positions, the development salt, seeded FNV-1a,
    and parallel scans from 64 candidates. -/
def default : Config :=
  ⟨1000, 3, developmentSalt, .seededFnv, 64⟩

/-- Check a configuration; the first failing rule is reported. -/
def validate (c : Config) : Except ConfigError Unit :=
  if c.filterSize = 0 then .error .zeroFilterSize
  else if c.filterSize > maxFilterSize then .error (.filterSizeTooLarge c.filterSize)
  else if c.hashCount = 0 ∨ c.hashCount > maxHashCount then
    .error (.hashCountOutOfRange c.hashCount)
  else if c.salt.isEmpty then .error .emptySalt
  else .ok ()

/-- Check a configuration for production: valid, and not on the development salt. -/
def validateForProduction (c : Config) : Except ConfigError Unit :=
  match c.validate with
  | .error e => .error e
  | .ok () => if c.salt = developmentSalt then .error .developmentSalt else .ok ()

/-- The number of tokens each field puts into a filter: its digest and the digest tagged
    with its key. -/
def tokensPerField : Nat := 2

/-- The default configuration sized for records of `expectedFields` fields at the target
    false positive rate. The token count is a machine word and wraps modulo `2^64`. -/
def calibrated (expectedFields : Nat) (targetFpr : Binary64) : Config :=
  let sizing := Parameters.optimal (expectedFields * tokensPerField % 2 ^ (64 : Nat)) targetFpr
  { default with filterSize := sizing.sizeBits, hashCount := sizing.hashCount }

/-- The count written in a setting: an optional `+` and one or more ASCII digits, at most
    `2^64 - 1`. -/
def parseCount? (text : String) : Option Nat :=
  let digits := match text.toList with
    | '+' :: rest => rest
    | cs => cs
  if digits.isEmpty || !digits.all Char.isDigit then none
  else
    let n := digits.foldl (fun acc c => 10 * acc + (c.toNat - '0'.toNat)) 0
    if n < 2 ^ (64 : Nat) then some n else none

/-- The count under `key` in the lookup, if it is present and parses. -/
def countSetting (lookup : String → Option String) (key : String) : Option Nat :=
  (lookup key).bind parseCount?

/-- Overlay the `PPRL_*` settings of a lookup: a non-empty `PPRL_SALT` replaces the salt,
    and `PPRL_FILTER_SIZE`, `PPRL_HASH_COUNT` and `PPRL_PARALLEL_THRESHOLD` replace their
    values when they parse as counts. -/
def overlayEnv (c : Config) (lookup : String → Option String) : Config :=
  let salt := match lookup "PPRL_SALT" with
    | some s => if s.isEmpty then c.salt else s
    | none => c.salt
  { c with
    salt
    filterSize := (countSetting lookup "PPRL_FILTER_SIZE").getD c.filterSize
    hashCount := (countSetting lookup "PPRL_HASH_COUNT").getD c.hashCount
    parallelThreshold := (countSetting lookup "PPRL_PARALLEL_THRESHOLD").getD c.parallelThreshold }

@[simp] theorem scheme_overlayEnv (c : Config) (lookup : String → Option String) :
    (c.overlayEnv lookup).scheme = c.scheme := rfl

end Config

end RecordLinkage
