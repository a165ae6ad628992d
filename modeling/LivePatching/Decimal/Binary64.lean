/-!
# Binary floating point numbers in decimal

A finite binary64 number is kept by its bits.

* `Binary64.parts`: its magnitude as `m * 2 ^ q`.
* `Binary64.shortest`: the fewest decimal digits that read back as the number, and of those the
  nearest to it.
* `Decimal.plain`: a decimal written without an exponent.
* `Decimal.scientific`: written with a point near the digits, or with an exponent where the
  point would be far from them.
-/

namespace LivePatching

/-- The number `± digits * 10 ^ exponent`. -/
structure Decimal where
  negative : Bool
  digits : Nat
  exponent : Int
deriving DecidableEq, Repr, Inhabited

/-- A double precision number, by its bits. -/
structure Binary64 where
  bits : UInt64
deriving DecidableEq, Repr, Inhabited

namespace Binary64

/-- The number of a float. -/
def ofFloat (x : Float) : Binary64 := ⟨x.toBits⟩

/-- The float of a number. -/
def toFloat (b : Binary64) : Float := Float.ofBits b.bits

/-- Whether the sign bit is set. -/
def isNegative (b : Binary64) : Bool := b.bits.toNat / Nat.pow 2 63 == 1

/-- The exponent field: 0 for the numbers below the normal range. -/
def exponentField (b : Binary64) : Nat := b.bits.toNat / Nat.pow 2 52 % Nat.pow 2 11

/-- The fraction field, without the leading one that normal numbers have. -/
def fractionField (b : Binary64) : Nat := b.bits.toNat % Nat.pow 2 52

/-- The magnitude is `m * 2 ^ q` for `(m, q)`. -/
def parts (b : Binary64) : Nat × Int :=
  if b.exponentField = 0 then (b.fractionField, -1074)
  else (b.fractionField + Nat.pow 2 52, (b.exponentField : Int) - 1075)

/-- The reals that round to a number, in quarters of its last binary place: from `low` to `high`
around `mid`, the ends included iff `closed`. -/
structure Rounding where
  low : Nat
  mid : Nat
  high : Nat
  closed : Bool
  /-- The binary exponent of the quarter. -/
  scale : Int

/-- The reals that round to the number; below a power of two the next number is nearer. -/
def rounding (b : Binary64) : Rounding :=
  let (m, q) := b.parts
  let below := if b.fractionField = 0 ∧ 1 < b.exponentField then 1 else 2
  ⟨4 * m - below, 4 * m, 4 * m + 2, m % 2 == 0, q - 2⟩

namespace Rounding

/-- Whether `x`, on the scale of the interval, rounds to the number. -/
def holds (r : Rounding) (low high x : Nat) : Bool :=
  if r.closed then low ≤ x && x ≤ high else low < x && x < high

/-- The point `c * 10 ^ k` that rounds to the number, if one of its two neighbours on that grid
does: the nearer one, an even `c` on a tie. -/
def onGrid? (r : Rounding) (k : Int) : Option Nat :=
  let up := Nat.pow 2 r.scale.toNat * Nat.pow 10 (-k).toNat
  let unit := Nat.pow 2 (-r.scale).toNat * Nat.pow 10 k.toNat
  let mid := r.mid * up
  let c := mid / unit
  let fits := fun c => r.holds (r.low * up) (r.high * up) (c * unit)
  if fits c then
    if fits (c + 1) then
      let toLower := mid - c * unit
      let toUpper := (c + 1) * unit - mid
      some (if toLower < toUpper then c else if toUpper < toLower then c + 1 else c + c % 2)
    else some c
  else if fits (c + 1) then some (c + 1)
  else none

/-- The coarsest grid with a hit, from `10 ^ k` downwards. -/
def search (r : Rounding) : Nat → Int → Nat × Int
  | 0, k => ((r.onGrid? k).getD 0, k)
  | n + 1, k =>
    match r.onGrid? k with
    | some c => (c, k)
    | none => search r n (k - 1)

end Rounding

/-- **The fewest digits that read back.** The first grid tried lies above the number. -/
def shortest (b : Binary64) : Decimal :=
  let (m, q) := b.parts
  if m = 0 then ⟨b.isNegative, 0, 0⟩
  else
    let top := ((Nat.log2 m : Int) + q + 1) * 1233 / 4096 + 2
    let (c, k) := b.rounding.search 24 top
    ⟨b.isNegative, c, k⟩

end Binary64

namespace Decimal

/-- The sign as it is written, nothing for a number that is not negative. -/
def sign (d : Decimal) : List Char := if d.negative then ['-'] else []

/-- The digits with a point `n` places from their start, filled up with zeros on either side. -/
def pointed (ds : List Char) (n : Int) : List Char × List Char :=
  if n ≤ 0 then (['0'], List.replicate (-n).toNat '0' ++ ds)
  else (ds.take n.toNat ++ List.replicate (n.toNat - ds.length) '0', ds.drop n.toNat)

/-- Written without an exponent, and without a point where no digit follows it. -/
def plain (d : Decimal) : List Char :=
  let ds := Nat.toDigits 10 d.digits
  let (whole, fraction) := pointed ds (ds.length + d.exponent)
  d.sign ++ whole ++ (if fraction.isEmpty then [] else '.' :: fraction)

/-- Written with a point and a digit on either side of it when the point stands at most sixteen
places after the first digit or at most four zeros before it, else with an exponent. -/
def scientific (d : Decimal) : List Char :=
  let ds := Nat.toDigits 10 d.digits
  let n : Int := ds.length + d.exponent
  d.sign ++
    if d.digits = 0 then ['0', '.', '0']
    else if -5 < n ∧ n ≤ 16 then
      let (whole, fraction) := pointed ds n
      whole ++ '.' :: (if fraction.isEmpty then ['0'] else fraction)
    else
      let power := (toString (n - 1)).toList
      match ds with
      | [d] => d :: 'e' :: power
      | d :: rest => d :: '.' :: rest ++ 'e' :: power
      | [] => []

end Decimal

end LivePatching
