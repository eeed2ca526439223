import RecordLinkage.Filter.Basic

/-! # Best-match scans

A scan scores each candidate against the query. A score qualifies when it is at least the
threshold (a NaN threshold admits nothing). The best qualifying score wins, and of equal
scores the earliest candidate. For scores that are not NaN and candidates at distinct
indices, this choice between two candidates does not depend on which is offered first.
-/

namespace RecordLinkage

/-- A candidate's position and score. -/
structure Scored where
  index : Nat
  /-- The similarity of the candidate to the query. -/
  similarity : Binary64

namespace Scored

/-- Whether the score reaches the threshold. -/
def qualifies (s : Scored) (threshold : Binary64) : Bool :=
  threshold.le s.similarity

/-- The better of two scored candidates: the higher score, and of equal scores the lower
    index. -/
def prefer (s other : Scored) : Scored :=
  if s.similarity.lt other.similarity || (other.similarity.eq s.similarity && other.index < s.index)
  then other else s

/-- Fold a scored candidate into the best so far, if it qualifies. -/
def step (threshold : Binary64) (best : Option Scored) (s : Scored) : Option Scored :=
  if s.qualifies threshold then
    match best with
    | some b => some (b.prefer s)
    | none => some s
  else best

theorem step_of_not_qualifies {threshold : Binary64} {s : Scored} (best : Option Scored)
    (h : s.qualifies threshold = false) : step threshold best s = best := by
  simp [step, h]

end Scored

end RecordLinkage
