import ByteScan.Binary64.Writing
import ByteScan.Scan.Clock

/-!
# Quantities as text

Durations, sizes and counts for people to read. Times of a second and more, and sizes of a thousand
bytes and more, are doubles of the unit that fits, rounded to a few places.
-/

namespace ByteScan.Text

/-- A duration in seconds: the whole seconds and the rest are rounded one by one, then added. -/
def seconds (time : Nanoseconds) : Nat :=
  Binary64.addMagnitudes (Binary64.roundRatio (time / Nanoseconds.perSecond) 1)
    (Binary64.roundRatio (time % Nanoseconds.perSecond) Nanoseconds.perSecond)

def minutesText (seconds : Nat) : String :=
  let (minutes, unit) := Binary64.ratio (Binary64.divMagnitudes seconds (Binary64.roundRatio 60 1))
  let (numerator, denominator) := Binary64.ratio seconds
  toString (minutes / unit) ++ "m " ++
    Binary64.fixedText (numerator % (60 * denominator)) denominator 1 ++ "s"

def duration (time : Nanoseconds) : String :=
  let total := seconds time
  if total < Binary64.roundRatio 1 1000 then toString (time / 1000) ++ "µs"
  else if total < Binary64.roundRatio 1 1 then toString (time / 1000000) ++ "ms"
  else if total < Binary64.roundRatio 60 1 then Binary64.roundedTo 2 total ++ "s"
  else minutesText total

def unitsText (bytes unit : Nat) (name : String) : String :=
  Binary64.roundedTo 2
    (Binary64.divMagnitudes (Binary64.roundRatio bytes 1) (Binary64.roundRatio unit 1)) ++
    " " ++ name

def byteSize (bytes : Nat) : String :=
  if 1024 * 1024 * 1024 ≤ bytes then unitsText bytes (1024 * 1024 * 1024) "GB"
  else if 1024 * 1024 ≤ bytes then unitsText bytes (1024 * 1024) "MB"
  else if 1024 ≤ bytes then unitsText bytes 1024 "KB"
  else toString bytes ++ " bytes"

def counted (count : Nat) (singular plural : String) : String :=
  toString count ++ " " ++ if count = 1 then singular else plural

end ByteScan.Text
