import TxDispatch.Failure

namespace TxDispatch.Deadline

/-- How a wait ends: the work finished, or it was given up after so many milliseconds. -/
inductive Ending where
  | finished
  | elapsed (ms : Nat)
deriving DecidableEq, Repr

/-- How a wait of some milliseconds ends under a deadline in seconds, where zero is no deadline. -/
def ending (secs : UInt64) (wait : Nat) : Ending :=
  if secs = 0 ∨ wait ≤ secs.toNat * 1000 then .finished else .elapsed (secs.toNat * 1000)

def spent (secs : UInt64) (wait : Nat) : Nat :=
  match ending secs wait with
  | .finished => wait
  | .elapsed ms => ms

def apply {α : Type} (secs : UInt64) (wait : Nat) (result : Except Failure α) : Except Failure α :=
  match ending secs wait with
  | .finished => result
  | .elapsed _ => .error (.timeout secs)

theorem ending_late {secs : UInt64} {wait : Nat} (limited : secs ≠ 0)
    (late : secs.toNat * 1000 < wait) : ending secs wait = .elapsed (secs.toNat * 1000) := by
  rw [ending, if_neg]
  rintro (hzero | hle)
  · exact limited hzero
  · exact absurd late (Nat.not_lt.mpr hle)

end TxDispatch.Deadline
