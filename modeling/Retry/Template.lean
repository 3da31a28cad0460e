import Retry.Jitter
import Retry.Policy.Basic

/-!
# Templates

A template is what stays the same from one retry sequence to the next: the policy, the delays,
whether they get jitter, and how many listeners hear of the sequence. Listeners are known by
their numbers, in the order in which they were registered.
-/

namespace Retry

/-- A policy of any kind with what belongs to a loop around it. -/
structure Template (π : Type u) where
  policy : π
  backoff : Backoff
  jitter : Bool
  listeners : Nat

namespace Template

/-- A template that retries at once, without listeners. -/
def new (policy : π) : Template π :=
  { policy := policy, backoff := .none, jitter := false, listeners := 0 }

def withBackoff (template : Template π) (backoff : Backoff) : Template π :=
  { template with backoff := backoff }

def withJitter (template : Template π) (jitter : Bool) : Template π :=
  { template with jitter := jitter }

def withListener (template : Template π) : Template π :=
  { template with listeners := template.listeners + 1 }

/-- The same template around another form of its policy. -/
def map (f : π → ρ) (template : Template π) : Template ρ :=
  { policy := f template.policy
    backoff := template.backoff
    jitter := template.jitter
    listeners := template.listeners }

/-- The delay before a retry, where `factor` is what chance gives the jitter. -/
def delay (template : Template π) (factor : Binary64) (retry : UInt32) :
    Except Span.ConversionError Span := do
  let delay ← template.backoff.delay retry
  if template.jitter then Jitter.scale factor delay else return delay

/-- The template as it is shown while the clock stands at `now`. -/
def outline (template : Template Policy) (now : Instant) : Outline :=
  .record "RetryTemplate"
    [("policy", template.policy.outline now), ("backoff", template.backoff.outline),
     ("jitter", .ofBool template.jitter), ("listeners", .ofNat template.listeners)]

end Template

end Retry
