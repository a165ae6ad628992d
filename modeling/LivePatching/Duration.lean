/-!
# Spans of time

A duration is a number of nanoseconds. Its text has the largest unit of which it holds at least
one, and a fraction without zeros at its end.
-/

namespace LivePatching

/-- A span of time in nanoseconds. -/
structure Duration where
  nanos : Nat
deriving DecidableEq, Repr, Inhabited

namespace Duration

/-- A number of nanoseconds. -/
def ofNanos (n : Nat) : Duration := ⟨n⟩

/-- A number of milliseconds. -/
def ofMillis (n : Nat) : Duration := ⟨n * 1000000⟩

/-- A number of seconds. -/
def ofSecs (n : Nat) : Duration := ⟨n * 1000000000⟩

/-- The whole milliseconds. -/
def millis (d : Duration) : Nat := d.nanos / 1000000

/-- The last `places` digits of a number, without zeros at the end. -/
def fraction (places n : Nat) : List Char :=
  let ds := Nat.toDigits 10 n
  let padded := List.replicate (places - ds.length) '0' ++ ds
  (padded.reverse.dropWhile (· == '0')).reverse

/-- A number of nanoseconds in a unit of `10 ^ places` of them. -/
def inUnit (places : Nat) (unit : String) (nanos : Nat) : String :=
  let digits := fraction places (nanos % Nat.pow 10 places)
  toString (nanos / Nat.pow 10 places) ++
    (if digits.isEmpty then "" else "." ++ String.ofList digits) ++ unit

/-- The span in the largest unit that it fills, with the digits behind the point that are needed. -/
def text (d : Duration) : String :=
  if 1000000000 ≤ d.nanos then inUnit 9 "s" d.nanos
  else if 1000000 ≤ d.nanos then inUnit 6 "ms" d.nanos
  else if 1000 ≤ d.nanos then inUnit 3 "µs" d.nanos
  else inUnit 0 "ns" d.nanos

end Duration

end LivePatching
