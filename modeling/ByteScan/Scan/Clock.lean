/-!
# Clocks and durations

Durations are counted in nanoseconds and stop growing at the longest one. A clock is a sequence of
readings, one for each time it is looked at.
-/

namespace ByteScan

abbrev Nanoseconds := Nat

namespace Nanoseconds

def perSecond : Nat := 1000000000

def longest : Nanoseconds := (UInt64.size - 1) * perSecond + (perSecond - 1)

/-- The sum of two durations, or the longest one. -/
def add (first second : Nanoseconds) : Nanoseconds := min (first + second) longest

end Nanoseconds

structure Clock where
  reading : Nat → Nanoseconds
  looked : Nat := 0

namespace Clock

def steady (step : Nanoseconds) : Clock := ⟨fun look => look * step, 0⟩

instance : Inhabited Clock := ⟨steady 0⟩

def look (clock : Clock) : Nanoseconds × Clock :=
  (clock.reading clock.looked, { clock with looked := clock.looked + 1 })

def wait (clock : Clock) (time : Nanoseconds) : Clock :=
  { clock with reading := fun look => clock.reading look + time }

end Clock

end ByteScan
