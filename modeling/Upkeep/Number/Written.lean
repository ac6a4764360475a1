import Upkeep.Number.Shortest

/-!
How numbers are written. An integer is written with all its digits; a double with its shortest
digits, always with a point or an exponent so that it reads back as a double. `Format` holds every
choice of the format.
-/
namespace Upkeep

/-- Where positional notation begins and ends, and how the rest is written. -/
structure Format where
  /-- The least power of ten of a leading digit that is written positionally. -/
  least : Int
  /-- The first power of ten that is not. -/
  limit : Int
  /-- The least number of digits of an exponent. -/
  exponentDigits : Nat
  infinity : String

/-- Numbers in messages: `0.0001`, `1e-05`, `1e+16`, `inf`. -/
def Format.plain : Format := ⟨-4, 16, 2, "inf"⟩

/-- Numbers in JSON texts; infinities have no JSON form and are spelled out. -/
def Format.json : Format := { Format.plain with infinity := "Infinity" }

def zeros (n : Nat) : List Char := List.replicate n '0'

/-- Digits to the left of the point, filled up with zeros, and to its right, at least one. -/
def positional (digits : List Char) (leading : Int) : List Char :=
  match leading with
  | .ofNat k =>
    let whole := digits.take (k + 1)
    let fraction := digits.drop (k + 1)
    whole ++ zeros (k + 1 - whole.length) ++ '.' :: (if fraction.isEmpty then ['0'] else fraction)
  | .negSucc k => '0' :: '.' :: (zeros k ++ digits)

/-- One digit, the others behind a point, and the exponent with its sign. -/
def scientific (width : Nat) (digits : List Char) (leading : Int) : List Char :=
  let exponent := Nat.toDigits 10 leading.natAbs
  let fraction := digits.drop 1
  digits.take 1 ++ (if fraction.isEmpty then [] else '.' :: fraction) ++
    'e' :: (if leading < 0 then '-' else '+') :: (zeros (width - exponent.length) ++ exponent)

/-- Digits without the zeros at their end; one digit stays. -/
def withoutTrailingZeros (digits : List Char) : List Char :=
  match (digits.reverse.dropWhile (· = '0')).reverse with
  | [] => ['0']
  | kept => kept

def Format.magnitude (f : Format) (d : Decimal) : List Char :=
  let digits := Nat.toDigits 10 d.digits
  let leading := d.exponent + digits.length - 1
  let kept := withoutTrailingZeros digits
  if f.least ≤ leading ∧ leading < f.limit then positional kept leading
  else scientific f.exponentDigits kept leading

def Format.write (f : Format) : Double → List Char
  | .infinite negative => (if negative then ['-'] else []) ++ f.infinity.toList
  | .finite x => (if x.negative then ['-'] else []) ++ f.magnitude x.shortest

/-- All digits of an integer. Too many of them are not written, which is for those to check who may
meet such an integer: a JSON text does; a status, a name and a number of seconds are short. -/
def writeInt (n : Int) : List Char :=
  (if n < 0 then ['-'] else []) ++ Nat.toDigits 10 n.natAbs

end Upkeep
