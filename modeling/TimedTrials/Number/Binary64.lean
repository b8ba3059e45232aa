/-
  TimedTrials/Number/Binary64.lean
  ================================
  **The exact value of a double, and its decimal forms.**

  A finite double is a significand times a power of two, so it is a fraction of two natural
  numbers. Both decimal forms are computed from that fraction without any rounding in
  between:

  * `shortest`: the fewest significant digits that still lie among the reals which round to
    this double, and of those the nearest to it;
  * `fixedPlaces`: a fixed number of fractional digits, a half going to the even neighbour.
-/
import TimedTrials.Number.Integer

namespace TimedTrials.Number

/-! ### Decoding -/

/-- A non-negative double as `significand * 2 ^ (exponent - 1074)`. -/
structure Binary64 where
  significand : Nat
  exponent : Nat

def isNegative (x : Float) : Bool := x.toBits.toNat / Nat.pow 2 63 = 1

/-- The weight of the leading bit of a significand. -/
def leadingBit : Nat := Nat.pow 2 52

/-- The common denominator of all doubles. -/
def unitsInOne : Nat := Nat.pow 2 1074

def Binary64.ofFloat (x : Float) : Binary64 :=
  let bits := x.toBits.toNat
  let fraction := bits % leadingBit
  let biased := bits / leadingBit % Nat.pow 2 11
  if biased = 0 then ⟨fraction, 0⟩ else ⟨fraction + leadingBit, biased - 1⟩

/-- Twice the reals that a double stands for, as numerators over the common denominator
    `den`: the lower end of its rounding interval, the value, and the upper end. -/
structure Interval where
  low : Nat
  value : Nat
  high : Nat
  den : Nat
  closed : Bool

/-- The interval of reals that round to the double. The lower neighbour of a power of two is
    half as far away as the upper one. -/
def Binary64.interval (b : Binary64) : Interval :=
  let scale := Nat.pow 2 b.exponent
  let half := if b.significand = leadingBit ∧ 0 < b.exponent then 1 else 2
  { low := (4 * b.significand - half) * scale
    value := 4 * b.significand * scale
    high := (4 * b.significand + 2) * scale
    den := 4 * unitsInOne
    closed := b.significand % 2 = 0 }

/-! ### Shortest digits -/

structure Decimal where
  digits : Nat
  exponent : Int
deriving DecidableEq, Repr

/-- The same decimal without zeros at the end of its digits, up to `count` of them. -/
def Decimal.withoutZeros : Nat → Decimal → Decimal
  | 0, d => d
  | count + 1, d =>
    if d.digits % 10 = 0 && d.digits ≠ 0 then withoutZeros count ⟨d.digits / 10, d.exponent + 1⟩
    else d

def tenPower (e : Int) : Nat × Nat :=
  if 0 ≤ e then (Nat.pow 10 e.toNat, 1) else (1, Nat.pow 10 (-e).toNat)

def Interval.holds (i : Interval) (d : Decimal) : Bool :=
  let (num, den) := tenPower d.exponent
  let left := d.digits * num * i.den
  if i.closed then decide (i.low * den ≤ left) && decide (left ≤ i.high * den)
  else decide (i.low * den < left) && decide (left < i.high * den)

/-- The decimal in the interval on the grid `10 ^ e` that is nearest to the value: one of the
    value's two neighbours on that grid, the even one if both are equally near. -/
def Interval.onGrid? (i : Interval) (e : Int) : Option Decimal :=
  let (num, den) := tenPower e
  let step := num * i.den
  let scaled := i.value * den
  let below : Decimal := ⟨scaled / step, e⟩
  let above : Decimal := ⟨scaled / step + 1, e⟩
  let rest := scaled % step
  let preferBelow := decide (2 * rest < step)
    || (decide (2 * rest = step) && decide (below.digits % 2 = 0))
  match i.holds below && decide (below.digits ≠ 0), i.holds above with
  | true, true => some (if preferBelow then below else above)
  | true, false => some below
  | false, true => some above
  | false, false => none

/-- The least `e` with `num < den * 10 ^ e`, searched from `-400` upwards. -/
def magnitude (num den : Nat) : Int :=
  let rec go : Nat → Int → Int
    | 0, e => e
    | fuel + 1, e =>
      let (n, d) := tenPower e
      if num * d < den * n then e else go fuel (e + 1)
  go 800 (-400)

/-- The shortest decimal that reads back as the positive double with this magnitude. -/
def Binary64.shortest (b : Binary64) : Decimal :=
  let i := b.interval
  let top := magnitude i.value i.den
  let nearest := (List.range 17).findSome? fun (n : Nat) => i.onGrid? (top - 1 - n)
  (nearest.getD ⟨0, 0⟩).withoutZeros 17

/-! ### Fixed places -/

/-- The quotient rounded to the nearest natural number, a half to the even one. -/
def roundHalfEven (num den : Nat) : Nat :=
  let q := num / den
  let r := num % den
  if 2 * r < den then q else if den < 2 * r then q + 1 else q + q % 2

/-- The text of a finite double with the given number of fractional digits. -/
def fixedPlaces (places : Nat) (x : Float) : String :=
  let b := Binary64.ofFloat x
  let one := Nat.pow 10 places
  let scaled := roundHalfEven (b.significand * Nat.pow 2 b.exponent * one) unitsInOne
  let whole := natDigits (scaled / one)
  let text := if places = 0 then whole else whole ++ '.' :: padded places (scaled % one)
  String.ofList (if isNegative x then '-' :: text else text)

end TimedTrials.Number
