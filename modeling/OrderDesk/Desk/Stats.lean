import OrderDesk.Address

/-!
# `OrderDesk.Desk.Stats` — counters of a desk's placements
-/

namespace OrderDesk

/-- What is counted. -/
inductive Tally where
  | submitted
  | submissionFailed
  | confirmed (gasUsed : UInt64)
  | reverted (gasUsed : UInt64)
  | timedOut
deriving DecidableEq, Repr, Inhabited

/-- The counters; each starts again from zero after the largest 64-bit number. -/
structure Stats where
  submitted : UInt64 := 0
  submissionFailures : UInt64 := 0
  confirmed : UInt64 := 0
  reverted : UInt64 := 0
  timedOut : UInt64 := 0
  /-- Gas used by mined placements, reverted ones included. -/
  gasUsed : UInt64 := 0
deriving DecidableEq, Repr, Inhabited

namespace Stats

/-- Counts one event. -/
def add (s : Stats) : Tally → Stats
  | .submitted => { s with submitted := s.submitted + 1 }
  | .submissionFailed => { s with submissionFailures := s.submissionFailures + 1 }
  | .confirmed gas => { s with confirmed := s.confirmed + 1, gasUsed := s.gasUsed + gas }
  | .reverted gas => { s with reverted := s.reverted + 1, gasUsed := s.gasUsed + gas }
  | .timedOut => { s with timedOut := s.timedOut + 1 }

/-- All counters in a line. -/
def text (s : Stats) : String :=
  s!"submitted:{s.submitted.toNat} rejected:{s.submissionFailures.toNat} " ++
  s!"confirmed:{s.confirmed.toNat} reverted:{s.reverted.toNat} " ++
  s!"timed out:{s.timedOut.toNat} gas:{s.gasUsed.toNat}"

end Stats
end OrderDesk
