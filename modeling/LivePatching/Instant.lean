/-!
# Instants

An instant counts the seconds since the start of 1970, in days of 86400 of them. A leap second is
the second past the last one of a minute: its nanoseconds count on from that one.

* `Instant.at?`: the instant of a count, if the calendar reaches that far.
* `Date.ofDay`: the day of the Gregorian calendar, extended to all years.
* `Instant.text`: date and time to the second; a year outside of 0 to 9999 carries a sign.
-/

namespace LivePatching

/-- A day of the proleptic Gregorian calendar. -/
structure Date where
  year : Int
  month : Nat
  day : Nat
deriving DecidableEq, Repr, Inhabited

namespace Date

/-- The number of days in four hundred years. -/
def daysPerEra : Nat := 146097

/-- The date of a day within an era of four hundred years that starts on a first of March: the
leap day is the last day of its year, and five months from March on have 153 days. -/
def ofDayOfEra (era : Int) (n : Nat) : Date :=
  let year := (n - n / 1460 + n / 36524 - n / 146096) / 365
  let rest := n - (365 * year + year / 4 - year / 100)
  let month := (5 * rest + 2) / 153
  let day := rest - (153 * month + 2) / 5 + 1
  let calendarYear := era * 400 + year
  if month < 10 then ⟨calendarYear, month + 3, day⟩ else ⟨calendarYear + 1, month - 9, day⟩

/-- The date of a day, counted from the first of January 1970. -/
def ofDay (n : Int) : Date :=
  let shifted := n + 719468
  ofDayOfEra (shifted / daysPerEra) (shifted % daysPerEra).toNat

end Date

/-- A second that the calendar has, and for the last second of a minute also the leap second that
follows it. -/
def Instant.Valid (secs : Int) (nanos : Nat) : Prop :=
  (-8334601228800 ≤ secs ∧ secs ≤ 8210266876799) ∧
    (nanos < 1000000000 ∨ nanos < 2000000000 ∧ secs % 60 = 59)

instance (secs : Int) (nanos : Nat) : Decidable (Instant.Valid secs nanos) :=
  inferInstanceAs (Decidable (_ ∧ _))

/-- A point in time in UTC: whole seconds since 1970 and nanoseconds, of which a leap second has up
to two thousand million. -/
structure Instant where
  secs : Int
  nanos : Nat
  valid : Instant.Valid secs nanos := by decide
deriving DecidableEq

namespace Instant

instance : Inhabited Instant := ⟨⟨0, 0, by decide⟩⟩

/-- The instant with these parts, when they make one. -/
def at? (secs : Int) (nanos : Nat) : Option Instant :=
  if h : Valid secs nanos then some ⟨secs, nanos, h⟩ else none

/-- Whether the instant lies in a leap second. -/
def isLeap (t : Instant) : Bool := 1000000000 ≤ t.nanos

/-- The day the instant falls on. -/
def date (t : Instant) : Date := .ofDay (t.secs / 86400)

/-- The seconds since midnight. -/
def secondOfDay (t : Instant) : Nat := (t.secs % 86400).toNat

/-- A number with zeros in front of it, up to a width. -/
def padded (width n : Nat) : List Char :=
  let ds := Nat.toDigits 10 n
  List.replicate (width - ds.length) '0' ++ ds

/-- A year as RFC 3339 writes it, with a sign outside the four digits. -/
def yearText (year : Int) : List Char :=
  if 0 ≤ year ∧ year ≤ 9999 then padded 4 year.toNat
  else (if year < 0 then '-' else '+') :: padded 4 year.natAbs

/-- The instant in RFC 3339 with whole seconds. -/
def text (t : Instant) : String :=
  let d := t.date
  let s := t.secondOfDay
  let second := s % 60 + (if t.isLeap then 1 else 0)
  String.ofList <|
    yearText d.year ++ '-' :: padded 2 d.month ++ '-' :: padded 2 d.day ++
      'T' :: padded 2 (s / 3600) ++ ':' :: padded 2 (s / 60 % 60) ++ ':' :: padded 2 second ++ ['Z']

end Instant

end LivePatching
