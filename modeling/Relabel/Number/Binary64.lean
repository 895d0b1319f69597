/-!
# Binary floating-point numbers

Numbers of 64 bits, held exactly as a whole multiple of a power of two. A quotient becomes the
nearest such number, and of two equally near ones the one with the even multiple. The shortest
decimal of a number has the fewest digits that still read back as the number, and of those it is
the nearest to it, or the one with the even last digit if two are equally near.
-/

namespace Relabel

inductive Binary64 where
  /-- The number `mantissa · 2 ^ exponent`, with a sign. -/
  | finite (negative : Bool) (mantissa : Nat) (exponent : Int)
  | infinite (negative : Bool)
deriving Repr, DecidableEq, Inhabited

/-- The number `digits · 10 ^ exponent`. -/
structure Decimal where
  digits : Nat
  exponent : Int
deriving Repr, DecidableEq

namespace Binary64

def leastExponent : Int := -1074

def greatestExponent : Int := 971

/-- The least mantissa of numbers that use all their bits. -/
def fullMantissa : Nat := 0x10000000000000

/-- The whole number nearest to a quotient; a tie goes to the even one. -/
def roundDiv (num den : Nat) : Nat :=
  let q := num / den
  let twice := 2 * (num % den)
  if twice < den then q
  else if den < twice then q + 1
  else if q % 2 = 0 then q else q + 1

/-- Numerator and denominator of `num / den / base ^ e`. -/
def scale (base num den : Nat) (e : Int) : Nat × Nat :=
  if 0 ≤ e then (num, den * base.pow e.toNat) else (num * base.pow (-e).toNat, den)

/-- The number nearest to `num / den`. -/
def ofRatio (negative : Bool) (num den : Nat) : Binary64 :=
  if num = 0 then finite negative 0 leastExponent
  else
    let guess : Int := (num.log2 : Int) - (den.log2 : Int) - 52
    let (n, d) := scale 2 num den guess
    let e := max leastExponent (if n / d < fullMantissa then guess - 1 else guess)
    let (n, d) := scale 2 num den e
    let m := roundDiv n d
    let (m, e) := if m = 2 * fullMantissa then (fullMantissa, e + 1) else (m, e)
    if greatestExponent < e then infinite negative else finite negative m e

/-- The number nearest to a decimal. Decimals far outside the range are settled by their size. -/
def ofDecimal (negative : Bool) (x : Decimal) : Binary64 :=
  let size : Int := ((Nat.toDigits 10 x.digits).length : Int) + x.exponent
  if x.digits = 0 ∨ size < -330 then finite negative 0 leastExponent
  else if 310 < size then infinite negative
  else
    let (num, den) := scale 10 x.digits 1 (-x.exponent)
    ofRatio negative num den

/-- The whole number that a floating-point number is, if it is one. -/
def toInt? : Binary64 → Option Int
  | infinite _ => none
  | finite negative m e =>
    let (num, den) := scale 2 m 1 (-e)
    if num % den = 0 then
      some (if negative then -((num / den : Nat) : Int) else ((num / den : Nat) : Int))
    else none

/-- The decimal of `count` digits at scale `10 ^ (top - count)` inside the interval from `low` to
`high` that is nearest to `value`; the three are multiples of `num / den`. -/
def candidate? (low value high num den : Nat) (closed : Bool) (top : Int) (count : Nat) :
    Option Decimal :=
  let exponent := top - count
  let (n, d) := scale 10 num den exponent
  let inside (digits : Nat) : Bool :=
    if closed then low * n ≤ digits * d && digits * d ≤ high * n
    else low * n < digits * d && digits * d < high * n
  let below := value * n / d
  let above := below + 1
  let nearest := roundDiv (value * n) d
  if inside nearest then some ⟨nearest, exponent⟩
  else if inside below then some ⟨below, exponent⟩
  else if inside above then some ⟨above, exponent⟩
  else none

/-- The shortest decimal that reads back as the positive number `m · 2 ^ e`. -/
def shortest (m : Nat) (e : Int) : Decimal :=
  let value := 4 * m
  let high := value + 2
  let low := if m = fullMantissa ∧ leastExponent < e then value - 1 else value - 2
  let (num, den) := scale 2 1 1 (-(e - 2))
  let (n, d) := (value * num, den)
  let guess : Int := ((n.log2 : Int) - (d.log2 : Int)) * 30103 / 100000 - 1
  let above (k : Int) : Bool :=
    let (a, b) := scale 10 n d k
    a < b
  let top := ([0, 1, 2, 3, 4].map (fun i : Int ↦ guess + i)).find? above |>.getD guess
  let found := (List.range 17).findSome? fun i ↦
    candidate? low value high num den (m % 2 = 0) top (i + 1)
  found.getD ⟨m, 0⟩

/-- The decimal with the zeros at the end of its digits moved to the exponent. -/
def trim (digits : List Char) (exponent : Int) : List Char × Int :=
  let zeros := digits.reverse.takeWhile (· == '0')
  (digits.take (digits.length - zeros.length), exponent + zeros.length)

/-- Numbers from `10 ^ -4` up to `10 ^ 16` are written out, with at least one decimal place;
others with an exponent of at least two digits. -/
def positiveText (m : Nat) (e : Int) : String :=
  let x := shortest m e
  let (digits, exponent) := trim (Nat.toDigits 10 x.digits) x.exponent
  let leading : Int := (digits.length : Int) - 1 + exponent
  if -4 ≤ leading && leading < 16 then
    let text :=
      if 0 ≤ exponent then digits ++ List.replicate exponent.toNat '0' ++ ['.', '0']
      else if 0 ≤ leading then
        digits.take (leading.toNat + 1) ++ '.' :: digits.drop (leading.toNat + 1)
      else '0' :: '.' :: List.replicate ((-leading).toNat - 1) '0' ++ digits
    String.ofList text
  else
    let places := (Nat.toDigits 10 leading.natAbs)
    let power := if places.length < 2 then '0' :: places else places
    let fraction := digits.drop 1
    String.ofList (digits.take 1 ++ (if fraction.isEmpty then [] else '.' :: fraction) ++
      ['e', if leading < 0 then '-' else '+'] ++ power)

def text : Binary64 → String
  | infinite negative => if negative then "-inf" else "inf"
  | finite negative m e =>
    let shown := if m = 0 then "0.0" else positiveText m e
    if negative then "-" ++ shown else shown

end Binary64

/-- A number of a program: a whole number or a floating-point one. -/
inductive Number where
  | integer (n : Int)
  | real (x : Binary64)
deriving Repr, DecidableEq, Inhabited

namespace Number

/-- A floating-point number that is whole counts as a whole number. -/
def ofBinary64 (x : Binary64) : Number :=
  match x.toInt? with
  | some n => integer n
  | none => real x

def text : Number → String
  | integer n => toString n
  | real x => x.text

/-- Equality of the values, whichever form they have. -/
def sameValue (a b : Number) : Bool :=
  let whole : Number → Option Int
    | integer n => some n
    | real x => x.toInt?
  match whole a, whole b with
  | some m, some n => m == n
  | none, none => a == b
  | _, _ => false

end Number

end Relabel
