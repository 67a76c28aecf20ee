import Recurrence.Json.Tree
import Recurrence.Text

/-! # Numbers

A number without point and exponent is an integer if it fits into 64 bits, unsigned when it is
positive and signed when it has a minus; minus zero is none. Every other number is a double,
computed from the leading digits that fit into 64 bits and one power of ten; one that is too large
for a double is refused. Only the text of such a number is kept.

That text is the decimal of fewest digits that reads back as the double, and of those the nearest.
The double is `m · 2^q`; the reals that round to it form an interval around it whose ends belong to
it when `m` is even. A decimal exponent is good if one of the two multiples of its power of ten next
to the value lies in the interval; the largest good exponent gives the fewest digits. -/
namespace Recurrence.Decimal

/-- The decimal `digits · 10^exponent`. -/
structure Scientific where
  digits : Nat
  exponent : Int
deriving DecidableEq, Repr

/-- A value with the interval that rounds to it, as numerators over `den`. -/
structure Rounding where
  lo : Nat
  value : Nat
  hi : Nat
  den : Nat
  closed : Bool
deriving DecidableEq, Repr

/-- The interval of `m · 2^q`. Below a power of two the neighbours lie half as far apart. -/
def Rounding.ofBinary (m : Nat) (q : Int) (closeBelow : Bool) : Rounding :=
  let scale := Nat.pow 2 (q - 2).toNat
  { lo := (4 * m - if closeBelow then 1 else 2) * scale
    value := 4 * m * scale
    hi := (4 * m + 2) * scale
    den := Nat.pow 2 (2 - q).toNat
    closed := m % 2 == 0 }

/-- The multiple `n` of `10^e` rounds to the value. -/
def Rounding.holds (r : Rounding) (n : Nat) (e : Int) : Bool :=
  let point := n * Nat.pow 10 e.toNat * r.den
  let unit := Nat.pow 10 (-e).toNat
  if r.closed then r.lo * unit ≤ point && point ≤ r.hi * unit
  else r.lo * unit < point && point < r.hi * unit

/-- The multiple of `10^e` that rounds to the value and is nearest to it. -/
def Rounding.nearest? (r : Rounding) (e : Int) : Option Nat :=
  let step := Nat.pow 10 e.toNat * r.den
  let value := r.value * Nat.pow 10 (-e).toNat
  let below := value / step
  match r.holds below e, r.holds (below + 1) e with
  | true, true =>
    let excess := 2 * (value % step)
    some (if excess < step || (excess = step && below % 2 = 0) then below else below + 1)
  | true, false => some below
  | false, true => some (below + 1)
  | false, false => none

/-- Tries the exponents from `e` down, `count` of them. -/
def Rounding.search (r : Rounding) : Nat → Int → Scientific
  | 0, e => ⟨0, e⟩
  | count + 1, e =>
    match r.nearest? e with
    | some n => ⟨n, e⟩
    | none => r.search count (e - 1)

/-- The shortest decimal of a positive finite double given by its bits. -/
def shortestOfBits (bits : UInt64) : Scientific :=
  let mantissa := (bits &&& 0xFFFFFFFFFFFFF).toNat
  let biased := (bits >>> 52).toNat
  let r :=
    if biased = 0 then Rounding.ofBinary mantissa (-1074) false
    else
      Rounding.ofBinary (0x10000000000000 + mantissa) ((biased : Int) - 1075)
        (mantissa == 0 && biased != 1)
  r.search 700 309

/-- How a decimal is laid out: up to which exponents, down and up, it is written without one. -/
structure Layout where
  lowest : Int
  highest : Int
deriving DecidableEq, Repr

/-- Zeros behind the point end after one place. An exponent has a sign in every case. -/
def Layout.render (l : Layout) (s : Scientific) : String :=
  let ds := Nat.toDigits 10 s.digits
  let exponent := s.exponent + ds.length - 1
  if exponent < l.lowest || l.highest < exponent then
    let rest := ds.drop 1
    let mark := if exponent < 0 then "e-" else "e+"
    String.ofList (ds.take 1) ++ (if rest.isEmpty then "" else "." ++ String.ofList rest) ++ mark ++
      exponent.natAbs.repr
  else if exponent < 0 then
    "0." ++ String.ofList (List.replicate (exponent.natAbs - 1) '0' ++ ds)
  else
    let whole := exponent.toNat + 1
    let fraction := ds.drop whole
    String.ofList ((ds ++ List.replicate (whole - ds.length) '0').take whole) ++ "." ++
      (if fraction.isEmpty then "0" else String.ofList fraction)

/-- The text of a finite double, with a point or an exponent in every case. -/
def Layout.renderFloat (l : Layout) (x : Float) : String :=
  let bits := x.toBits
  let size := bits &&& 0x7FFFFFFFFFFFFFFF
  let sign := if bits = size then "" else "-"
  sign ++ if size = 0 then "0.0" else l.render (shortestOfBits size)

end Recurrence.Decimal

namespace Recurrence.Json

/-- A significand of at most 64 bits and a decimal exponent. -/
structure Magnitude where
  significand : Nat
  exponent : Int
deriving DecidableEq, Repr

/-- Takes a further digit if the significand stays within 64 bits. -/
def Magnitude.push? (m : Magnitude) (digit : Char) : Option Magnitude :=
  let next := m.significand * 10 + (digit.toNat - 48)
  if next < UInt64.size then some { m with significand := next } else none

/-- The digits before the point. Behind the first that does not fit, digits only count. -/
def Magnitude.addWhole (m : Magnitude) : List Char → Magnitude
  | [] => m
  | d :: ds =>
    match m.push? d with
    | some next => next.addWhole ds
    | none => { m with exponent := m.exponent + (ds.length + 1) }

/-- The digits behind the point. Those behind the first that does not fit are dropped. -/
def Magnitude.addFraction (m : Magnitude) : List Char → Magnitude
  | [] => m
  | d :: ds =>
    match m.push? d with
    | some next => { next with exponent := next.exponent - 1 }.addFraction ds
    | none => m

/-- Divides by 10^308 until the exponent is one that a power of ten in range can supply. -/
def scaled (x : Float) (exponent : Int) : Nat → Except Fault Float
  | 0 => .ok x
  | fuel + 1 =>
    if exponent.natAbs ≤ 308 then
      let power := Float.ofScientific 1 false exponent.natAbs
      if exponent < 0 then .ok (x / power)
      else if (x * power).isInf then .error .illFormed
      else .ok (x * power)
    else if x == 0 then .ok x
    else if 0 ≤ exponent then .error .illFormed
    else scaled (x / Float.ofScientific 1 false 308) (exponent + 308) fuel

/-- The double of a magnitude. Three divisions by 10^308 leave nothing of 64 bits. -/
def Magnitude.toFloat (m : Magnitude) : Except Fault Float :=
  scaled m.significand.toUInt64.toFloat m.exponent 4

/-- The exponents beyond 32 bits are not computed with: they leave zero or nothing. -/
def exponentLimit : Nat := 0x80000000

/-- How the numbers in messages are laid out. -/
def floatLayout : Decimal.Layout where
  lowest := -5
  highest := 15

namespace Numeral

def toFloat (n : Numeral) : Except Fault Float :=
  let m := ((Magnitude.mk 0 0).addWhole n.whole).addFraction n.fraction
  match n.exponent with
  | none => m.toFloat
  | some (down, ds) =>
    let e := Text.numeralValue ds
    if e < exponentLimit then
      { m with exponent := if down then m.exponent - e else m.exponent + e }.toFloat
    else if m.significand ≠ 0 && !down then .error .illFormed
    else .ok 0

def integer? (n : Numeral) : Option Int :=
  let v := Text.numeralValue n.whole
  if n.fraction ≠ [] || n.exponent.isSome then none
  else if n.negative then (if 0 < v && v ≤ Text.int64Bound then some (-v) else none)
  else if v < UInt64.size then some v else none

def scalar (n : Numeral) : Except Fault Scalar :=
  match n.integer? with
  | some v => .ok (.integer v)
  | none => n.toFloat.map fun x =>
      .fraction (floatLayout.renderFloat (if n.negative then -x else x))

end Numeral
end Recurrence.Json
