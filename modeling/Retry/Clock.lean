import Retry.Text.Outline

/-!
# Clocks

Policies read the time as an instant; where it comes from is their time source. A manual clock
moves only when it is told to. It stops where its offset no longer fits 64 bits, or earlier if the
platform cannot show the moment reached (`limit`, in nanoseconds past the origin).

A timeline says how the clock of a retry sequence moves while the operation runs and while the
sequence waits.
-/

namespace Retry

/-- A clock that only moves when it is told to. All of its handles share one offset. -/
structure ManualClock where
  offset : Nat
deriving DecidableEq

namespace ManualClock

def longestOffset : Nat := UInt64.size - 1

def new : ManualClock := ⟨0⟩

/-- The moment `step` after `current`, where the step is halved until the platform can show the
moment reached. -/
def settle (limit current step : Nat) : Nat :=
  if step = 0 ∨ current + step ≤ limit then current + step
  else settle limit current (step / 2)
termination_by step

theorem settle_of_le {limit current step : Nat} (h : current + step ≤ limit) :
    settle limit current step = current + step := by
  rw [settle]
  simp [h]

/-- Moves the clock forward. It stops instead of passing the longest offset. -/
def advance (limit : Nat) (clock : ManualClock) (span : Span) : ManualClock :=
  let count := min span.nanoseconds longestOffset
  let target := min (clock.offset + count) longestOffset
  ⟨settle limit clock.offset (target - clock.offset)⟩

def elapsed (clock : ManualClock) : Span := Span.ofNanoseconds clock.offset

/-- The moment the clock shows; its origin, should the platform be unable to show the moment. -/
def now (limit : Nat) (clock : ManualClock) : Instant :=
  if clock.offset ≤ limit then ⟨clock.offset⟩ else Instant.origin

def outline (clock : ManualClock) : Outline :=
  .record "ManualClock" [("elapsed", .ofSpan clock.elapsed)]

end ManualClock

inductive TimeSource where
  | monotonic
  | manual
  | named (name : String)
deriving DecidableEq

/-- A time source as it is shown when its clock is at `now`. -/
def TimeSource.outline (source : TimeSource) (now : Instant) : Outline :=
  match source with
  | .monotonic => .word "MonotonicClock"
  | .manual => ManualClock.outline ⟨now.nanoseconds⟩
  | .named name => .word name

/-- An instant means nothing without the other instants of its clock, so none is ever shown. -/
def Instant.text : String := "<instant>"

structure Timeline where
  run : Instant → Span → Instant
  wait : Instant → Span → Instant

namespace Timeline

/-- The longest wait of a timer: thirty years of 365 days, in nanoseconds. -/
def longestWait : Nat := 30 * 365 * 86_400 * Span.nanosecondsPerSecond

/-- A timer moves with everything that takes time. It counts whole milliseconds since its origin: a
wait ends at the first count that is not before its due moment. The clock then moves on from the
last count before the wait, so it keeps the part of a millisecond at which the wait began. -/
def timer : Timeline where
  run instant span := instant.later span.nanoseconds
  wait instant span :=
    let due := instant.later (min span.nanoseconds longestWait)
    instant.later
      ((due.coveringMilliseconds - instant.milliseconds) * Span.nanosecondsPerMillisecond)

/-- A wait that begins on a whole millisecond lasts its span rounded up to whole milliseconds. -/
theorem timer_wait_of_dvd {instant : Instant} {span : Span}
    (hinstant : Span.nanosecondsPerMillisecond ∣ instant.nanoseconds)
    (hspan : span.nanoseconds ≤ longestWait) :
    timer.wait instant span
      = instant.later (span.coveringMilliseconds * Span.nanosecondsPerMillisecond) := by
  have hmin : min span.nanoseconds longestWait = span.nanoseconds := Nat.min_eq_left hspan
  have hcount : (instant.nanoseconds + span.nanoseconds + 999_999) / 1_000_000
      - instant.nanoseconds / 1_000_000 = (span.nanoseconds + 999_999) / 1_000_000 := by
    simp only [Span.nanosecondsPerMillisecond] at hinstant
    omega
  simp only [timer, hmin, Instant.later, Instant.coveringMilliseconds, Instant.milliseconds,
    Span.coveringMilliseconds, Span.nanosecondsPerMillisecond, Nat.reduceSub, hcount]

def manual (limit : Nat) : Timeline where
  run instant span := (ManualClock.advance limit ⟨instant.nanoseconds⟩ span).now limit
  wait instant _ := instant

/-- A clock that can be set to any moment does not notice waits either. -/
def adjustable : Timeline where
  run instant span := instant.later span.nanoseconds
  wait instant _ := instant

end Timeline

end Retry
