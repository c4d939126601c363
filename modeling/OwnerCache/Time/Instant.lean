/-
# OwnerCache.Time.Instant -- points in time

An instant is a second, counted from 1970-01-01T00:00:00Z, and nanoseconds past
it, within the years -262143 to 262142.  The last second of a minute may be
followed by a leap second, which has no number of its own: there the nanoseconds
go on from 1000000000.  The bounds are part of the type, so arithmetic on
instants is checked.

`elapsed` counts nanoseconds as if there were no leap seconds, so a leap second
and the second after it share their numbers; the order of instants tells them
apart.

`cutoff` is the point before which something is older than a time to live.  It
is the plain difference wherever that exists and the least instant otherwise, so
a time to live that reaches back past the beginning keeps everything.
-/
import OwnerCache.Time.Duration

namespace OwnerCache

set_option autoImplicit false

namespace Instant

/-- The first second of the year -262143. -/
def leastSecond : Int := -8334601228800

/-- The last second of the year 262142. -/
def greatestSecond : Int := 8210266876799

end Instant

@[ext] structure Instant where
  seconds : Int
  /-- Nanoseconds past the second, from 1000000000 on in the leap second that follows it. -/
  subsecond : Nat
  least_le : Instant.leastSecond ≤ seconds
  le_greatest : seconds ≤ Instant.greatestSecond
  subsecond_lt : subsecond < 2000000000
  minute_ends : 1000000000 ≤ subsecond → seconds % 60 = 59
deriving DecidableEq, Repr

namespace Instant

instance : LE Instant :=
  ⟨fun s t => s.seconds < t.seconds ∨ s.seconds = t.seconds ∧ s.subsecond ≤ t.subsecond⟩
instance : LT Instant :=
  ⟨fun s t => s.seconds < t.seconds ∨ s.seconds = t.seconds ∧ s.subsecond < t.subsecond⟩
instance (s t : Instant) : Decidable (s ≤ t) := inferInstanceAs (Decidable (_ ∨ _))
instance (s t : Instant) : Decidable (s < t) := inferInstanceAs (Decidable (_ ∨ _))

theorem le_def {s t : Instant} :
    s ≤ t ↔ s.seconds < t.seconds ∨ s.seconds = t.seconds ∧ s.subsecond ≤ t.subsecond := Iff.rfl

/-- The least instant there is. -/
def least : Instant :=
  ⟨leastSecond, 0, Int.le_refl _, by decide, by decide, fun h => absurd h (by decide)⟩

instance : Inhabited Instant := ⟨least⟩

/-- Seconds after 1970, and nanoseconds past them. -/
def ofSeconds? (seconds : Int) (subsecond : Nat) : Option Instant :=
  if h : leastSecond ≤ seconds ∧ seconds ≤ greatestSecond ∧ subsecond < 2000000000
      ∧ (1000000000 ≤ subsecond → seconds % 60 = 59) then
    some ⟨seconds, subsecond, h.1, h.2.1, h.2.2.1, h.2.2.2⟩
  else none

/-- The instant so many nanoseconds after 1970, outside of any leap second. -/
def ofNanos? (n : Int) : Option Instant :=
  ofSeconds? (n / 1000000000) (n % 1000000000).toNat

/-- The instant so many milliseconds after 1970, outside of any leap second. -/
def ofMillis? (ms : Int) : Option Instant := ofNanos? (ms * 1000000)

def IsLeap (t : Instant) : Prop := 1000000000 ≤ t.subsecond

instance (t : Instant) : Decidable t.IsLeap :=
  inferInstanceAs (Decidable (1000000000 ≤ t.subsecond))

/-- Nanoseconds since 1970. -/
def elapsed (t : Instant) : Int := t.seconds * 1000000000 + t.subsecond

/-- Whole milliseconds since 1970, rounded down. -/
def millis (t : Instant) : Int := t.elapsed / 1000000

/-- The instant a duration earlier, where that exists.  It is in a leap second only where the
duration does not lead out of one. -/
def back? (t : Instant) (d : Duration) : Option Instant :=
  if d.IsMeasurable then
    if 1000000000 + d.nanos ≤ t.subsecond then ofSeconds? t.seconds (t.subsecond - d.nanos)
    else ofNanos? (t.elapsed - d.nanos)
  else none

/-- The earliest instant that is still fresh at `now`. -/
def cutoff (ttl : Duration) (now : Instant) : Instant := (now.back? ttl).getD least

end Instant

end OwnerCache
