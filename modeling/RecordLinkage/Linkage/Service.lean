import RecordLinkage.Linkage.FieldMap
import RecordLinkage.Linkage.Scan
import RecordLinkage.Field.Normalize
import RecordLinkage.Filter.Wire
import RecordLinkage.Config
import RecordLinkage.Metrics

/-! # The linkage service

A service links a query person against candidate records of a provider. It turns each
field map into a filter: for every entry, in key order, it inserts the field's digest and
the digest tagged with the entry's key (`key:digest`). A candidate's score is the Jaccard
similarity of the query filter and the candidate's filter, and the answer names the best
qualifying candidate together with the keys of the winner whose digests the query filter
contains.

Every call also updates the service's metrics, which are the state of the `Recorded` monad.
The service reads no clock of its own: a linkage is given the time its scan took, which a
completed scan records, and a deadline as the answers of the clock before each candidate.
-/

namespace RecordLinkage

/-- Computations that update the service metrics. -/
abbrev Recorded := StateM Metrics

/-- A linkage service over a configuration that passed validation. -/
structure Service where
  config : Config
  /-- The configuration is valid. -/
  valid : config.validate = .ok ()

/-- The metadata of a linkage answer. -/
structure MatchMetadata where
  queryFieldCount : Nat
  candidateCount : Nat
  /-- The estimated false positive rate of the query filter. -/
  falsePositiveRate : Binary64
  /-- The winner's record id, when there is a match. -/
  matchedRecordId : Option String
  /-- The winner's provider, when there is a match. -/
  matchedProviderId : Option String

/-- The answer to a linkage request. -/
structure Response where
  /-- Whether a candidate qualified. -/
  matchFound : Bool
  /-- The winner's score, or zero. -/
  confidence : Binary64
  providerId : String
  /-- The winner's keys whose digests the query filter contains, in key order. -/
  matchedFields : List String
  bloomFilterHex : String
  /-- Counts and the winner's identity. -/
  metadata : MatchMetadata

/-- The clock of a scan that takes no time: a budget of zero has passed before the first
    candidate, and any other budget never passes. -/
def instantClock (budgetMs : Nat) : Nat → Bool :=
  fun _ => budgetMs == 0

/-- Check a linkage request; the first failing rule is reported, the fields being checked
    in key order, the name of each before its value. -/
def Request.validate (r : Request) : Except ValidationError Unit :=
  if r.queryFields.isEmpty then .error .emptyQueryFields
  else if Text.isBlankText r.providerId then .error .emptyProviderId
  else if !(Binary64.zero.lt r.threshold && r.threshold.le Binary64.one) then
    .error (.thresholdOutOfRange r.threshold)
  else
    r.queryFields.entries.forM fun (key, field) =>
      if Text.isBlankText field.name then .error (.emptyFieldName key)
      else if Text.isBlankText field.value then .error (.emptyFieldValue field.name)
      else .ok ()

/-- Split a list into halves and combine each half's result, for a non-empty list. -/
def reduceHalves {α : Type} (f : α → α → α) : List α → Option α
  | [] => none
  | [x] => some x
  | x :: y :: rest =>
    let half := (rest.length + 2) / 2
    match reduceHalves f ((x :: y :: rest).take half),
      reduceHalves f ((x :: y :: rest).drop half) with
    | some a, some b => some (f a b)
    | some a, none => some a
    | none, b => b
termination_by xs => xs.length
decreasing_by
  all_goals simp only [List.length_take, List.length_drop, List.length_cons]
  all_goals omega

namespace Service

/-- A service over the configuration, if it is valid. -/
def create (c : Config) : Except ConfigError Service :=
  match h : c.validate with
  | .ok () => .ok ⟨c, h⟩
  | .error e => .error e

/-- The salted digest of a field, counted in the metrics. -/
def hashField (s : Service) (f : Field) : Recorded String := do
  modify Metrics.recordFieldHashed
  return f.digest s.config.salt

/-- The empty filter of the configuration. -/
def emptyFilter (s : Service) : Filter.BloomFilter :=
  .empty s.config.filterSize s.config.hashCount s.config.scheme

/-- Insert a field's digest and its key-tagged digest. -/
def addEntry (s : Service) (f : Filter.BloomFilter) (entry : String × Field) :
    Recorded Filter.BloomFilter := do
  let d ← s.hashField entry.2
  return (f.insert d).insert (entry.1 ++ ":" ++ d)

/-- The filter of a field map, counted in the metrics. -/
def filterFor (s : Service) (fields : FieldMap) : Recorded Filter.BloomFilter := do
  let f ← fields.entries.foldlM s.addEntry s.emptyFilter
  modify (·.recordFilterBuilt f.size)
  return f

/-- The filter of a record. -/
def recordFilter (s : Service) (r : Record) : Recorded Filter.BloomFilter :=
  s.filterFor r.fields

/-- The similarity of a candidate to the query filter. -/
def score (s : Service) (query : Filter.BloomFilter) (candidate : Record) : Recorded Binary64 := do
  let f ← s.filterFor candidate.fields
  return query.jaccard f

/-- Scan candidates from index `i` in order, with the best so far; the clock is asked
    before each candidate, and the scan stops with the index when it has passed. -/
def scanFrom (s : Service) (query : Filter.BloomFilter) (threshold : Binary64)
    (expired : Nat → Bool) : Nat → Option Scored → List Record →
    Recorded (Except Nat (Option Scored))
  | _, best, [] => pure (.ok best)
  | i, best, c :: cs =>
    if expired i then pure (.error i)
    else do
      let sim ← s.score query c
      s.scanFrom query threshold expired (i + 1) (Scored.step threshold best ⟨i, sim⟩) cs

/-- Scan all candidates in order. -/
def scanSequential (s : Service) (query : Filter.BloomFilter) (threshold : Binary64)
    (candidates : List Record) : Recorded (Option Scored) := do
  match ← s.scanFrom query threshold (fun _ => false) 0 none candidates with
  | .ok best => return best
  | .error _ => return none

/-- Score all candidates, then combine the qualifying ones by halves. -/
def scanParallel (s : Service) (query : Filter.BloomFilter) (threshold : Binary64)
    (candidates : List Record) : Recorded (Option Scored) := do
  let scores ← candidates.zipIdx.mapM fun (c, i) => do
    let sim ← s.score query c
    return (⟨i, sim⟩ : Scored)
  return reduceHalves Scored.prefer (scores.filter (·.qualifies threshold))

/-- The winner's keys whose digests the query filter contains, in key order. -/
def matchedFields (s : Service) (query : Filter.BloomFilter) (r : Record) :
    Recorded (List String) :=
  r.fields.entries.filterMapM fun (key, field) => do
    let d ← s.hashField field
    return if query.contains d then some key else none

/-- The answer for a scan's winner, and the scan recorded in the metrics with the
    `elapsedNs` nanoseconds it took. -/
def finish (s : Service) (request : Request) (candidates : List Record)
    (query : Filter.BloomFilter) (best : Option Scored) (elapsedNs : Nat) : Recorded Response := do
  let base : MatchMetadata :=
    ⟨request.queryFields.size, candidates.length, query.falsePositiveRate, none, none⟩
  let winner := best.bind fun b => (candidates[b.index]?).map fun r => (b, r)
  let response ← match winner with
    | some (b, r) => do
      let keys ← s.matchedFields query r
      pure ⟨true, b.similarity, request.providerId, keys, query.toHex,
        { base with matchedRecordId := some r.id, matchedProviderId := some r.providerId }⟩
    | none => pure ⟨false, .zero, request.providerId, [], query.toHex, base⟩
  modify (·.recordScan elapsedNs candidates.length response.matchFound)
  return response

/-- Link the request against the candidates, in a scan that takes `elapsedNs` nanoseconds.
    The request is not validated. From `parallelThreshold` candidates on, the scan combines
    scores by halves. -/
def perform (s : Service) (request : Request) (candidates : List Record) (elapsedNs : Nat) :
    Recorded Response := do
  let query ← s.filterFor request.queryFields
  let best ← if candidates.length ≥ s.config.parallelThreshold then
      s.scanParallel query request.threshold candidates
    else s.scanSequential query request.threshold candidates
  s.finish request candidates query best elapsedNs

/-- Link the request against the candidates in order, asking the clock before each one;
    when it has passed, the scan is abandoned and the deadline recorded. A completed scan
    took `elapsedNs` nanoseconds. -/
def performWithin (s : Service) (request : Request) (candidates : List Record)
    (expired : Nat → Bool) (elapsedNs : Nat) : Recorded (Except DeadlineExceeded Response) := do
  let query ← s.filterFor request.queryFields
  match ← s.scanFrom query request.threshold expired 0 none candidates with
  | .ok best => return .ok (← s.finish request candidates query best elapsedNs)
  | .error scanned =>
    modify (·.recordDeadlineExceeded scanned)
    return .error ⟨scanned, candidates.length⟩

/-- Read an exported filter with the configured scheme. -/
def importFilter (s : Service) (e : Filter.Exported) : Except DecodeError Filter.BloomFilter :=
  e.toFilter s.config.scheme

end Service

end RecordLinkage
