/-!
# Double-precision numbers as decimal text

A number that is no integer is held as a finite double. Two directions tie doubles to decimals, both
in exact natural arithmetic.

**Reading.** `Binary64.ofDecimal?` takes `digits · 10 ^ exponent` to the nearest double, a tie to
the even significand, and fails when that double would be infinite. That is the exact reading. A
fast reader of JSON multiplies or divides a double by a rounded power of ten. It gives the same for
up to fifteen digits and a power of ten up to the twenty-second; beyond these it can miss the
nearest double in the last place, and so differ on which of the largest numbers are finite.

**Writing.** `Binary64.shortest` gives the fewest digits that read back as the same double, and of
those the ones nearest to it. A double stands for the interval of reals that round to it; for each
number of digits the two neighbours of the value on that decimal grid are tried, so if any point of
the grid lies in the interval, one of them does.
-/

namespace RichText

/-- A finite double, by its bits: sign, eleven bits of exponent, fifty-two of fraction. -/
structure Binary64 where
  bits : UInt64
deriving DecidableEq

namespace Binary64

/-! ## Powers -/

/-- A power of two. -/
def twoTo (n : Nat) : Nat := Nat.pow 2 n

/-- A power of ten. -/
def tenTo (n : Nat) : Nat := Nat.pow 10 n

/-! ## Fields -/

/-- Whether the sign bit is set. -/
def negative (x : Binary64) : Bool := x.bits.toNat / twoTo 63 == 1

/-- The biased exponent. -/
def biased (x : Binary64) : Nat := x.bits.toNat / twoTo 52 % twoTo 11

/-- The fraction field. -/
def fraction (x : Binary64) : Nat := x.bits.toNat % twoTo 52

/-- The magnitude of `x` is `significand · 2 ^ (scale - 1074)`. -/
def significand (x : Binary64) : Nat :=
  if x.biased = 0 then x.fraction else twoTo 52 + x.fraction

/-- The exponent of two, counted from that of the smallest double. -/
def scale (x : Binary64) : Nat := x.biased - 1

/-! ## Reading -/

/-- The integer nearest to `num / den`, a tie to the even one. -/
def roundHalfEven (num den : Nat) : Nat :=
  let q := num / den
  let r := num % den
  if 2 * r < den then q
  else if den < 2 * r then q + 1
  else q + q % 2

/-- The bits of the magnitude nearest to `num / den`, without bound. A significand that rounds up to
the next power of two carries into the exponent, which is what the encoding asks for. -/
def magnitudeBits (num den : Nat) : Nat :=
  let num := num * twoTo 1074
  let guess := Nat.log2 (num / den) - 52
  roundHalfEven num (den * twoTo guess) + guess * twoTo 52

/-- How many digits a number has in base ten; zero has one. -/
def digitCount (n : Nat) : Nat := (Nat.toDigits 10 n).length

/-- The double nearest to `digits · 10 ^ exponent`, negated on request, if it is finite. It is
rounded once and from the exact value, never from a rounded power of ten. -/
def ofDecimal? (negate : Bool) (digits : Nat) (exponent : Int) : Option Binary64 :=
  let signBit := if negate then twoTo 63 else 0
  let top : Int := digitCount digits + exponent
  if digits = 0 ∨ top < -330 then some ⟨UInt64.ofNat signBit⟩
  else if 310 < top then none
  else
    let magnitude :=
      if 0 ≤ exponent then magnitudeBits (digits * tenTo exponent.toNat) 1
      else magnitudeBits digits (tenTo (-exponent).toNat)
    if magnitude < 2047 * twoTo 52 then some ⟨UInt64.ofNat (signBit + magnitude)⟩ else none

/-! ## Writing -/

/-- The exponent of the leading digit of `num / den`. -/
def leadingExponent (num den : Nat) : Int :=
  if den ≤ num then digitCount (num / den) - 1
  else -(digitCount ((den - 1) / num) : Int)

/-- The neighbour of `value` on the grid of multiples of `step` that lies strictly between `low` and
`high`, or on them if `ends` allows, given as its multiple; the nearer one if both do. -/
def gridPoint? (value low high step : Nat) (ends : Bool) : Option Nat :=
  let within (n : Nat) : Bool :=
    if ends then low ≤ n && n ≤ high else low < n && n < high
  let below := value / step
  let above := below + 1
  match within (below * step), within (above * step) with
  | true, true =>
    let toBelow := value - below * step
    let toAbove := above * step - value
    some (if toBelow < toAbove ∨ (toBelow = toAbove ∧ below % 2 = 0) then below else above)
  | true, false => some below
  | false, true => some above
  | false, false => none

/-- The multiple of `10 ^ exponent` that names a point of the interval, if there is one. Lengths are
in units of `1 / (4 · den)`. -/
def decimalAt? (value low high den : Nat) (ends : Bool) (exponent : Int) : Option Nat :=
  let up := tenTo (-exponent).toNat
  gridPoint? (value * up) (low * up) (high * up) (4 * den * tenTo exponent.toNat) ends

/-- The first of `exponent`, `exponent - 1`, ... at which a multiple names a point of the interval;
each step allows one more digit. Seventeen digits always suffice, so `0` is never reached. -/
def shortestFrom (value low high den : Nat) (ends : Bool) (exponent : Int) : Nat → Nat × Int
  | 0 => (0, exponent)
  | more + 1 =>
    match decimalAt? value low high den ends exponent with
    | some digits => (digits, exponent)
    | none => shortestFrom value low high den ends (exponent - 1) more

/-- The magnitude of `x` as `digits · 10 ^ exponent` with the fewest digits that read back as `x`.
-/
def shortest (x : Binary64) : Nat × Int :=
  let m := x.significand
  if m = 0 then (0, 0)
  else
    let up := twoTo (x.scale - 1074)
    let den := twoTo (1074 - x.scale)
    let lowGap := if m = twoTo 52 ∧ 0 < x.scale then 1 else 2
    shortestFrom (4 * m * up) ((4 * m - lowGap) * up) ((4 * m + 2) * up) den (m % 2 == 0)
      (leadingExponent (m * up) den) 17

/-! ## Layout -/

/-- Digits without the zeros at their end, which move into the exponent. -/
def trimZeros : Nat → Nat × Int → Nat × Int
  | 0, d => d
  | fuel + 1, (digits, exponent) =>
    if digits % 10 = 0 ∧ digits ≠ 0 then trimZeros fuel (digits / 10, exponent + 1)
    else (digits, exponent)

/-- The text of a magnitude. From `10 ^ -5` up to `10 ^ 16` it is positional with at least one
decimal; outside, one digit stands before the point and the exponent carries its sign. -/
def layout (digits : Nat) (exponent : Int) : List Char :=
  let ds := Nat.toDigits 10 digits
  let lead : Int := exponent + ds.length - 1
  if digits = 0 then ['0', '.', '0']
  else if -5 ≤ lead ∧ lead < 16 then
    if 0 ≤ exponent then ds ++ List.replicate exponent.toNat '0' ++ ['.', '0']
    else if 0 ≤ lead then
      ds.take (lead.toNat + 1) ++ '.' :: ds.drop (lead.toNat + 1)
    else ['0', '.'] ++ List.replicate (-lead - 1).toNat '0' ++ ds
  else
    let mantissa :=
      match ds with
      | d :: e :: rest => d :: '.' :: e :: rest
      | short => short
    let sign := if lead < 0 then '-' else '+'
    mantissa ++ 'e' :: sign :: Nat.toDigits 10 lead.natAbs

/-- The text of a double: the shortest decimal that reads back as it. -/
def toChars (x : Binary64) : List Char :=
  let (digits, exponent) := x.shortest
  let (digits, exponent) := trimZeros 17 (digits, exponent)
  let body := layout digits exponent
  if x.negative then '-' :: body else body

end Binary64

end RichText
