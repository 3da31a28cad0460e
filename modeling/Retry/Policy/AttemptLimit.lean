import Retry.Policy.Consultation

/-!
# A bound on the number of attempts

The bound counts retries: the first attempt is free, so a bound of three lets an operation run
four times.
-/

namespace Retry

structure AttemptLimit where
  maximum : UInt32
deriving DecidableEq

structure AttemptCount where
  maximum : UInt32
  /-- How often the count was consulted. It stops at the largest number of 32 bits. -/
  retries : UInt32
deriving DecidableEq

namespace AttemptLimit

def default : AttemptLimit := ⟨3⟩

def new? (maximum : UInt32) : Except SettingsError AttemptLimit :=
  if maximum = 0 then .error .noAttempts else .ok ⟨maximum⟩

def start (limit : AttemptLimit) : AttemptCount := ⟨limit.maximum, 0⟩

def text (limit : AttemptLimit) : String :=
  "MaxAttemptsPolicy[max_attempts=" ++ toString limit.maximum.toNat ++ "]"

def outline (limit : AttemptLimit) : Outline :=
  .record "MaxAttemptsPolicy" [("max_attempts", .ofNat limit.maximum.toNat)]

end AttemptLimit

namespace AttemptCount

/-- The next number of 32 bits, or the same one if it is the largest. -/
def bump (n : UInt32) : UInt32 := if n = 0xFFFFFFFF then n else n + 1

/-- Counts the consultation and allows a retry while the count is within the bound. -/
def consult (count : AttemptCount) : Consultation AttemptCount :=
  let next := { count with retries := bump count.retries }
  { retry := next.retries ≤ next.maximum, next := next, log := [] }

def outline (count : AttemptCount) : Outline :=
  .record "MaxAttemptsExecution"
    [("max_attempts", .ofNat count.maximum.toNat), ("retries", .ofNat count.retries.toNat)]

end AttemptCount

end Retry
