/-!
# Shortest decimal text of a floating-point number

The decimal with the fewest digits that reads back as the number, and of those the one nearest to
it.  A number is taken apart into `m * 2 ^ q`; the reals that round to it form an interval, whose
ends belong to it when `m` is even.  For one, two, … seventeen digits, the two neighbours of the
number on the decimal grid of that width are tested in exact arithmetic, and the first grid with a
neighbour in the interval gives the digits.
-/

namespace Retrace

namespace Shortest

/-- A positive number of double precision, `m * 2 ^ q`. -/
structure Binary where
  m : Nat
  q : Int
  /-- Whether the next smaller number is only half as far away as the next greater one. -/
  nearBelow : Bool
deriving Repr, DecidableEq

/-- The parts of the double with the given bits, for one that is positive and finite. -/
def Binary.ofBits (bits : Nat) : Binary :=
  let exponent : Nat := (bits >>> 52) % 0x800
  let fraction : Nat := bits % 0x10000000000000
  if exponent = 0 then ⟨fraction, -1074, false⟩
  else ⟨fraction + 0x10000000000000, (exponent : Int) - 1075, fraction = 0 && exponent ≠ 1⟩

/-- A fraction of natural numbers. -/
structure Ratio where
  num : Nat
  den : Nat
deriving Repr, DecidableEq

/-- The fraction `n * 2 ^ q`. -/
def Ratio.scaled (n : Nat) (q : Int) : Ratio :=
  ⟨n <<< q.toNat, 1 <<< (-q).toNat⟩

/-- The fraction times `10 ^ k`. -/
def Ratio.shift (r : Ratio) (k : Int) : Ratio :=
  ⟨r.num * Nat.pow 10 k.toNat, r.den * Nat.pow 10 (-k).toNat⟩

/-- Whether one fraction is at most another. -/
def Ratio.le (r s : Ratio) : Bool :=
  r.num * s.den ≤ s.num * r.den

/-- Whether one fraction is less than another. -/
def Ratio.lt (r s : Ratio) : Bool :=
  r.num * s.den < s.num * r.den

/-- How many decimal digits a natural number has. -/
def digitCount (n : Nat) : Nat :=
  (Nat.toDigits 10 n).length

/-- The exponent of the greatest power of ten that is at most the fraction. -/
def Ratio.magnitude (r : Ratio) : Int :=
  if r.den ≤ r.num then (digitCount (r.num / r.den) : Int) - 1
  else
    let width := digitCount (r.den / r.num)
    if r.den ≤ r.num * Nat.pow 10 (width - 1) then 1 - (width : Int) else -(width : Int)

/-- A decimal `coefficient * 10 ^ exponent`. -/
structure Decimal where
  coefficient : Nat
  exponent : Int
deriving Repr, DecidableEq

/-- Whether a decimal rounds to the number. -/
def Binary.holds (b : Binary) (d : Decimal) : Bool :=
  let value := Ratio.shift ⟨d.coefficient, 1⟩ d.exponent
  let low := Ratio.scaled (4 * b.m - if b.nearBelow then 1 else 2) (b.q - 2)
  let high := Ratio.scaled (4 * b.m + 2) (b.q - 2)
  if b.m % 2 = 0 then low.le value && value.le high else low.lt value && value.lt high

/-- The neighbour of the number on the grid of multiples of `10 ^ k` that rounds to it, the nearer
of two, the even one of two as near. -/
def Binary.onGrid? (b : Binary) (k : Int) : Option Decimal :=
  let scaled := (Ratio.scaled b.m b.q).shift (-k)
  let below : Decimal := ⟨scaled.num / scaled.den, k⟩
  let above : Decimal := ⟨scaled.num / scaled.den + 1, k⟩
  let twice := 2 * (scaled.num % scaled.den)
  match b.holds below, b.holds above with
  | true, false => some below
  | false, true => some above
  | true, true =>
    if twice < scaled.den then some below
    else if scaled.den < twice then some above
    else if below.coefficient % 2 = 0 then some below else some above
  | false, false => none

/-- The first grid of `width` to `width + more` digits with a neighbour that rounds to the
number. -/
def Binary.search (b : Binary) (magnitude : Int) (width : Nat) : Nat → Decimal
  | 0 => (b.onGrid? (magnitude + 1 - width)).getD ⟨b.m, b.q⟩
  | more + 1 =>
    match b.onGrid? (magnitude + 1 - width) with
    | some d => d
    | none => b.search magnitude (width + 1) more

/-- The shortest decimal that reads back as the number. -/
def Binary.shortest (b : Binary) : Decimal :=
  b.search (Ratio.scaled b.m b.q).magnitude 1 16

/-- Digits without the zeros at their end. -/
def dropLastZeros (digits : List Char) : List Char :=
  (digits.reverse.dropWhile (· == '0')).reverse

/-- How a decimal is written: where positional notation ends on either side. -/
structure Style where
  leastPositional : Int
  greatestPositional : Int

/-- The text of digits whose first one stands at `10 ^ e`.  A point always has a digit on either
side in positional notation. -/
def Style.layout (style : Style) (digits : List Char) (e : Int) : List Char :=
  if style.leastPositional ≤ e && e ≤ style.greatestPositional then
    if e < 0 then ['0', '.'] ++ List.replicate ((-e).toNat - 1) '0' ++ digits
    else
      let whole := digits.take (e.toNat + 1)
      let fraction := digits.drop (e.toNat + 1)
      whole ++ List.replicate (e.toNat + 1 - whole.length) '0' ++ ['.'] ++
        (if fraction.isEmpty then ['0'] else fraction)
  else
    let point := if digits.length ≤ 1 then digits else digits.take 1 ++ ['.'] ++ digits.drop 1
    point ++ ['e', if e < 0 then '-' else '+'] ++ Nat.toDigits 10 e.natAbs

/-- The text of the finite double with the given bits. -/
def Style.text (style : Style) (bits : UInt64) : List Char :=
  let n := bits.toNat
  let sign := if 0x8000000000000000 ≤ n then ['-'] else []
  let magnitude := n % 0x8000000000000000
  if magnitude = 0 then sign ++ ['0', '.', '0']
  else
    let d := (Binary.ofBits magnitude).shortest
    let digits := Nat.toDigits 10 d.coefficient
    sign ++ style.layout (dropLastZeros digits) (d.exponent + digits.length - 1)

/-- Numbers are positional from `0.00001` up to sixteen digits. -/
def messageStyle : Style := ⟨-5, 15⟩

end Shortest

end Retrace
