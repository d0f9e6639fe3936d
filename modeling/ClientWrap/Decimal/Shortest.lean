/-!
# Shortest decimals

The shortest decimal that reads back as a given binary floating-point number, and of the decimals
of that length the nearest one. A number is `m * 2 ^ q`; the decimals that read back as it are those
between the midpoints to its two neighbours, the midpoints included when `m` is even.

Lengths are tried from one digit up. On the grid of one length only the two neighbours of the
number can be nearest, so only they are looked at.
-/

namespace ClientWrap.Decimal

/-- A positive number as a quotient. -/
structure Ratio where
  num : Nat
  den : Nat

/-- `a * b ^ e` for an exponent of either sign. -/
def scaled (a : Nat) (b : Nat) (e : Int) : Ratio :=
  match e with
  | .ofNat n => ⟨a * Nat.pow b n, 1⟩
  | .negSucc n => ⟨a, Nat.pow b (n + 1)⟩

namespace Ratio

/-- The order of quotients. -/
def le (x y : Ratio) : Bool := x.num * y.den ≤ y.num * x.den

/-- The strict order of quotients. -/
def lt (x y : Ratio) : Bool := x.num * y.den < y.num * x.den

/-- The distance of two quotients. -/
def distance (x y : Ratio) : Ratio :=
  let a := x.num * y.den
  let b := y.num * x.den
  ⟨if a ≤ b then b - a else a - b, x.den * y.den⟩

end Ratio

/-- A finite positive floating-point number: its significand, its exponent, and whether its
neighbour below is only half as far away as the one above. -/
structure Binary where
  m : Nat
  q : Int
  narrow : Bool

/-- The significand of the least number with a full one: 52 binary places after the point. -/
def hiddenBit : Nat := 0x10000000000000

/-- The number with the given bits, the sign left out. -/
def Binary.ofBits (bits : Nat) : Binary :=
  let fraction : Nat := bits % hiddenBit
  let exponent : Nat := bits / hiddenBit % 2048
  if exponent = 0 then ⟨fraction, -1074, false⟩
  else ⟨hiddenBit + fraction, Int.ofNat exponent - 1075, fraction == 0 && 1 < exponent⟩

/-- Whether a decimal reads back as the number. -/
def Binary.accepts (b : Binary) (x : Ratio) : Bool :=
  let low := if b.narrow then scaled (4 * b.m - 1) 2 (b.q - 2) else scaled (2 * b.m - 1) 2 (b.q - 1)
  let high := scaled (2 * b.m + 1) 2 (b.q - 1)
  if b.m % 2 = 0 then low.le x && x.le high else low.lt x && x.lt high

/-- The least `e` from `e` on for which the number is below `10 ^ e`, within `fuel` steps. -/
def magnitudeFrom (x : Ratio) (e : Int) : Nat → Int
  | 0 => e
  | fuel + 1 => if x.lt (scaled 1 10 e) then e else magnitudeFrom x (e + 1) fuel

/-- The nearest decimal `d * 10 ^ k` that reads back as the number, if one does. -/
def onGrid? (b : Binary) (x : Ratio) (k : Int) : Option Nat :=
  let unit := scaled 1 10 k
  let low := x.num * unit.den / (x.den * unit.num)
  let value (d : Nat) := scaled d 10 k
  match b.accepts (value low), b.accepts (value (low + 1)) with
  | true, true =>
    if (x.distance (value (low + 1))).lt (x.distance (value low)) then some (low + 1) else some low
  | true, false => some low
  | false, true => some (low + 1)
  | false, false => none

/-- The shortest decimal of a number below `10 ^ e`, with at least `n` and less than `n + fuel`
digits: its digits as a number, and the exponent of its last place. -/
def shortestFrom (b : Binary) (x : Ratio) (e : Int) (n : Nat) : Nat → Nat × Int
  | 0 => (0, 0)
  | fuel + 1 =>
    match onGrid? b x (e - n) with
    | some d => (d, e - n)
    | none => shortestFrom b x e (n + 1) fuel

/-- The shortest decimal of a positive number. -/
def shortest (b : Binary) : Nat × Int :=
  let x := scaled b.m 2 b.q
  shortestFrom b x (magnitudeFrom x (-330) 700) 1 20

/-- The number `d * 10 ^ k` in positional notation, with at least one digit on either side of the
point. -/
def positional (d : Nat) (k : Int) : String :=
  let digits := Nat.toDigits 10 d
  match k with
  | .ofNat n => String.ofList (digits ++ List.replicate n '0') ++ ".0"
  | .negSucc n =>
    let places := n + 1
    let padded := List.replicate (places + 1 - digits.length) '0' ++ digits
    let whole := padded.take (padded.length - places)
    let fraction := (padded.drop (padded.length - places)).reverse.dropWhile (· == '0')
    String.ofList (whole ++ '.' :: if fraction.isEmpty then ['0'] else fraction.reverse)

/-- The decimal number `m * 10 ^ e` as the floating-point number that it rounds to is printed.
There is none beyond the largest such number. -/
def floatText? (negative : Bool) (m : Nat) (e : Int) : Option String :=
  let sign := if negative then "-" else ""
  let size := (Nat.toDigits 10 m).length + e
  if m = 0 ∨ size < -400 then some (sign ++ "0.0")
  else if 400 < size then none
  else
    let f := Float.ofScientific m (e < 0) e.natAbs
    if f.isInf then none
    else
      let bits := f.toBits.toNat
      if bits = 0 then some (sign ++ "0.0")
      else
        let (d, k) := shortest (.ofBits bits)
        some (sign ++ positional d k)

end ClientWrap.Decimal
