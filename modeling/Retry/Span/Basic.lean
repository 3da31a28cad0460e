/-!
# Lengths of time

A span is a whole number of nanoseconds below `2^64` seconds. An instant is a distance from the
origin of the clock that shows it; only distances between instants of one clock mean anything.
-/

namespace Retry

namespace Span

def nanosecondsPerSecond : Nat := 1_000_000_000

def nanosecondsPerMillisecond : Nat := 1_000_000

def nanosecondsPerMicrosecond : Nat := 1_000

/-- The least number of nanoseconds that is too long for a span. -/
def overflow : Nat := UInt64.size * nanosecondsPerSecond

end Span

structure Span where
  nanoseconds : Nat
  lt_overflow : nanoseconds < Span.overflow
deriving DecidableEq

namespace Span

def zero : Span := ⟨0, by decide⟩

def longest : Span := ⟨overflow - 1, by decide⟩

/-- The span of a number of nanoseconds, or the longest one if there are too many. -/
def ofNanoseconds (count : Nat) : Span :=
  if h : count < overflow then ⟨count, h⟩ else longest

/-- The span of a number of seconds, which may be any number of 64 bits. -/
def ofSeconds (count : UInt64) : Span :=
  ⟨count.toNat * nanosecondsPerSecond, Nat.mul_lt_mul_of_pos_right count.toNat_lt (by decide)⟩

/-- The span of a number of milliseconds, which may be any number of 64 bits. -/
def ofMilliseconds (count : UInt64) : Span :=
  ⟨count.toNat * nanosecondsPerMillisecond, by
    have := count.toNat_lt_size
    simp only [overflow, nanosecondsPerSecond, nanosecondsPerMillisecond]
    omega⟩

def seconds (span : Span) : Nat := span.nanoseconds / nanosecondsPerSecond

/-- The nanoseconds of a span beyond its whole seconds. -/
def subsecond (span : Span) : Nat := span.nanoseconds % nanosecondsPerSecond

def milliseconds (span : Span) : Nat := span.nanoseconds / nanosecondsPerMillisecond

/-- The least number of whole milliseconds that covers a span. -/
def coveringMilliseconds (span : Span) : Nat :=
  (span.nanoseconds + (nanosecondsPerMillisecond - 1)) / nanosecondsPerMillisecond

instance : LE Span := ⟨fun a b => a.nanoseconds ≤ b.nanoseconds⟩

instance : LT Span := ⟨fun a b => a.nanoseconds < b.nanoseconds⟩

instance (a b : Span) : Decidable (a ≤ b) :=
  inferInstanceAs (Decidable (a.nanoseconds ≤ b.nanoseconds))

instance (a b : Span) : Decidable (a < b) :=
  inferInstanceAs (Decidable (a.nanoseconds < b.nanoseconds))

theorem le_iff {a b : Span} : a ≤ b ↔ a.nanoseconds ≤ b.nanoseconds := Iff.rfl

theorem lt_iff {a b : Span} : a < b ↔ a.nanoseconds < b.nanoseconds := Iff.rfl

@[ext]
theorem ext {a b : Span} (h : a.nanoseconds = b.nanoseconds) : a = b := by
  cases a
  cases b
  simp_all

/-- A number of nanoseconds that fits makes a span of that length. -/
theorem ofNanoseconds_of_lt {count : Nat} (h : count < overflow) :
    (ofNanoseconds count).nanoseconds = count := by
  simp [ofNanoseconds, h]

end Span

/-- A moment, as the nanoseconds since the origin of a clock. -/
structure Instant where
  nanoseconds : Nat
deriving DecidableEq

namespace Instant

def origin : Instant := ⟨0⟩

def later (instant : Instant) (count : Nat) : Instant := ⟨instant.nanoseconds + count⟩

def milliseconds (instant : Instant) : Nat :=
  instant.nanoseconds / Span.nanosecondsPerMillisecond

/-- The least number of whole milliseconds that reaches a moment. -/
def coveringMilliseconds (instant : Instant) : Nat :=
  (instant.nanoseconds + (Span.nanosecondsPerMillisecond - 1)) / Span.nanosecondsPerMillisecond

/-- The time from an earlier moment to this one; no time if the clock was set back behind it. -/
def since (instant earlier : Instant) : Span :=
  Span.ofNanoseconds (instant.nanoseconds - earlier.nanoseconds)

@[simp]
theorem since_self (instant : Instant) : instant.since instant = Span.zero := by
  simp [since, Span.ofNanoseconds, Span.overflow, Span.nanosecondsPerSecond, Span.zero]

theorem nanoseconds_since (instant earlier : Instant) :
    (instant.since earlier).nanoseconds
      = min (instant.nanoseconds - earlier.nanoseconds) Span.longest.nanoseconds := by
  rw [since, Span.ofNanoseconds]
  split <;> simp only [Span.longest] <;> omega

theorem since_le_since {first second : Instant} (h : first.nanoseconds ≤ second.nanoseconds)
    (start : Instant) : first.since start ≤ second.since start := by
  rw [Span.le_iff, nanoseconds_since, nanoseconds_since]
  omega

end Instant

end Retry
