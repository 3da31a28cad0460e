import Retry.Settings.Basic

/-!
# The names of settings

Reading and writing settings share the names of their members and of the kinds of backoff.
-/

namespace Retry

inductive SettingsField where
  | maxAttempts
  | maxDurationMs
  | backoff
  | jitter
deriving DecidableEq

namespace SettingsField

/-- The members, in the order in which they are written. -/
def all : List SettingsField := [.maxAttempts, .maxDurationMs, .backoff, .jitter]

def name : SettingsField → String
  | .maxAttempts => "max_attempts"
  | .maxDurationMs => "max_duration_ms"
  | .backoff => "backoff"
  | .jitter => "jitter"

def ofName? (name : String) : Option SettingsField := all.find? (·.name = name)

end SettingsField

/-- The name of the member that tells the kind of a backoff. -/
def kindKey : String := "kind"

inductive BackoffKind where
  | none
  | fixed
  | exponential
deriving DecidableEq

namespace BackoffKind

/-- The kinds, in the order in which messages list them. -/
def all : List BackoffKind := [.none, .fixed, .exponential]

def name : BackoffKind → String
  | .none => "none"
  | .fixed => "fixed"
  | .exponential => "exponential"

def ofName? (name : String) : Option BackoffKind := all.find? (·.name = name)

end BackoffKind

/-- The members of the settings of a backoff, its kind apart. -/
inductive BackoffField where
  | intervalMs
  | initialMs
  | multiplier
  | maxMs
deriving DecidableEq

def BackoffField.name : BackoffField → String
  | .intervalMs => "interval_ms"
  | .initialMs => "initial_ms"
  | .multiplier => "multiplier"
  | .maxMs => "max_ms"

end Retry
