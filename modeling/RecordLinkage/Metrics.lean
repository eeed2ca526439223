import RecordLinkage.Binary64.Arith

/-! # Metrics

Counters of a linkage service: digests computed, filters built and their bits, candidates
compared, scans with and without a match, scans stopped by a deadline, and the time spent
in completed scans. Every counter is a 64-bit word that wraps on overflow, so the counters
after a run are the sums of the recorded amounts modulo `2^64`, in any order.
-/

namespace RecordLinkage

/-- The counters. -/
structure Metrics where
  /-- Digests computed. -/
  fieldsHashed : UInt64
  /-- Filters built. -/
  filtersBuilt : UInt64
  /-- Bits of all filters built. -/
  bitsAllocated : UInt64
  /-- Candidates scored. -/
  candidatesCompared : UInt64
  /-- Completed scans that found a match. -/
  matchesFound : UInt64
  /-- Completed scans that found none. -/
  matchesMissed : UInt64
  /-- Scans stopped by their deadline. -/
  deadlinesExceeded : UInt64
  /-- Nanoseconds spent in completed scans. -/
  scanTimeNs : UInt64
  deriving Repr, DecidableEq

namespace Metrics

/-- All counters at zero. -/
def zero : Metrics :=
  ⟨0, 0, 0, 0, 0, 0, 0, 0⟩

/-- Count one digest. -/
def recordFieldHashed (m : Metrics) : Metrics :=
  { m with fieldsHashed := m.fieldsHashed + 1 }

/-- Count one filter of `size` bits. -/
def recordFilterBuilt (m : Metrics) (size : Nat) : Metrics :=
  { m with filtersBuilt := m.filtersBuilt + 1, bitsAllocated := m.bitsAllocated + size.toUInt64 }

/-- Count a completed scan of `candidates` candidates that took `ns` nanoseconds. -/
def recordScan (m : Metrics) (ns candidates : Nat) (matched : Bool) : Metrics :=
  { m with
    candidatesCompared := m.candidatesCompared + candidates.toUInt64
    scanTimeNs := m.scanTimeNs + ns.toUInt64
    matchesFound := if matched then m.matchesFound + 1 else m.matchesFound
    matchesMissed := if matched then m.matchesMissed else m.matchesMissed + 1 }

/-- Count a scan stopped by its deadline after `scanned` candidates. -/
def recordDeadlineExceeded (m : Metrics) (scanned : Nat) : Metrics :=
  { m with
    deadlinesExceeded := m.deadlinesExceeded + 1
    candidatesCompared := m.candidatesCompared + scanned.toUInt64 }

/-- The number of completed scans, as a wrapping word. -/
def scans (m : Metrics) : UInt64 :=
  m.matchesFound + m.matchesMissed

/-- The mean time of a completed scan, rounded down; zero before any scan. -/
def avgScanNs (m : Metrics) : UInt64 :=
  if m.scans = 0 then 0 else m.scanTimeNs / m.scans

/-- The share of completed scans that found a match; zero before any scan. -/
def matchRate (m : Metrics) : Binary64 :=
  if m.scans = 0 then .zero
  else .ofNat m.matchesFound.toNat / .ofNat m.scans.toNat

@[simp] theorem fieldsHashed_recordFieldHashed (m : Metrics) :
    m.recordFieldHashed.fieldsHashed = m.fieldsHashed + 1 := rfl

@[simp] theorem filtersBuilt_recordFilterBuilt (m : Metrics) (size : Nat) :
    (m.recordFilterBuilt size).filtersBuilt = m.filtersBuilt + 1 := rfl

@[simp] theorem bitsAllocated_recordFilterBuilt (m : Metrics) (size : Nat) :
    (m.recordFilterBuilt size).bitsAllocated = m.bitsAllocated + size.toUInt64 := rfl

@[simp] theorem candidatesCompared_recordScan (m : Metrics) (ns candidates : Nat) (matched : Bool) :
    (m.recordScan ns candidates matched).candidatesCompared =
      m.candidatesCompared + candidates.toUInt64 := rfl

@[simp] theorem scanTimeNs_recordScan (m : Metrics) (ns candidates : Nat) (matched : Bool) :
    (m.recordScan ns candidates matched).scanTimeNs = m.scanTimeNs + ns.toUInt64 := rfl

@[simp] theorem deadlinesExceeded_recordDeadlineExceeded (m : Metrics) (scanned : Nat) :
    (m.recordDeadlineExceeded scanned).deadlinesExceeded = m.deadlinesExceeded + 1 := rfl

@[simp] theorem candidatesCompared_recordDeadlineExceeded (m : Metrics) (scanned : Nat) :
    (m.recordDeadlineExceeded scanned).candidatesCompared =
      m.candidatesCompared + scanned.toUInt64 := rfl

end Metrics

end RecordLinkage
