import MathProgram.Decimal.Shortest

/-!
# Writing floats

A layout says which numbers are written positionally and how whole numbers end.
The digits are always the fewest that read back.

Numbers that are not written positionally have one digit before the point and
an exponent of ten after the letter `e`.
-/

namespace MathProgram

/-- The choices in writing a number. -/
structure Layout where
  /-- Whether a number with this power of ten at its first digit is written positionally. -/
  positional : Int → Bool
  /-- What follows a whole number that is written positionally. -/
  wholeEnd : String

namespace Layout

/-- Every number is written positionally, and whole numbers have no point. -/
def plain : Layout where
  positional := fun _ => true
  wholeEnd := ""

/-- Numbers from 10⁻⁴ up to 10¹⁶ are written positionally, and whole numbers keep one zero. -/
def pointed : Layout where
  positional := fun power => -4 ≤ power && power < 16
  wholeEnd := ".0"

/-- A number of zeros. -/
def zeros
    (n : Nat) :
    List Char :=
  List.replicate n '0'

/-- The digits with a point before the place where the powers of ten turn negative. -/
def positionalText
    (layout : Layout)
    (d : Decimal) :
    String :=
  let digits := Nat.toDigits 10 d.digits
  if 0 ≤ d.exponent then
    String.ofList (digits ++ zeros d.exponent.toNat) ++ layout.wholeEnd
  else
    let places := (-d.exponent).toNat
    let padded := zeros (places + 1 - digits.length) ++ digits
    let whole := padded.length - places
    String.ofList (padded.take whole) ++ "." ++ String.ofList (padded.drop whole)

/-- One digit, a point before the others if there are any, and the power of ten. -/
def scientificText
    (d : Decimal)
    (power : Int) :
    String :=
  let digits := Nat.toDigits 10 d.digits
  let others := digits.drop 1
  let point := if others.isEmpty then "" else "."
  String.ofList (digits.take 1) ++ point ++ String.ofList others ++ "e" ++ toString power

/-- The text of a decimal. -/
def decimalText
    (layout : Layout)
    (d : Decimal) :
    String :=
  let power := d.exponent + ((Nat.toDigits 10 d.digits).length : Int) - 1
  if layout.positional power then layout.positionalText d else scientificText d power

/-- Whether the sign bit of a float is set. -/
def isNegative
    (x : Float) :
    Bool :=
  x.toBits >>> 63 == 1

/-- The text of a float. -/
def text
    (layout : Layout)
    (x : Float) :
    String :=
  if x.isNaN then
    "NaN"
  else
    let sign := if isNegative x then "-" else ""
    if x.isInf then
      sign ++ "inf"
    else if x == 0 then
      sign ++ "0" ++ layout.wholeEnd
    else
      sign ++ layout.decimalText (Decimal.shortest (.ofFloat x))

end Layout

end MathProgram
