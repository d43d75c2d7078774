import LogicalSql.Decimal.Shortest
import LogicalSql.Text.Digits

/-! Floating-point numbers as text, written and read. -/
namespace LogicalSql.Decimal

/-- Fraction and exponent fields of a finite nonzero number. -/
def binaryOfFields (fraction exponent : Nat) : Binary :=
  if exponent = 0 then ⟨fraction, -1074, false⟩
  else ⟨Nat.pow 2 52 + fraction, exponent - 1075, fraction = 0 ∧ 1 < exponent⟩

/-- Shortest digits that read back, in the given layout. -/
def layoutFloat (zero : String) (tie : Tie) (layout : Decimal → String) (x : Float) : String :=
  let bits := x.toBits.toNat
  let sign := if bits / Nat.pow 2 63 = 1 then "-" else ""
  let exponent := bits / Nat.pow 2 52 % Nat.pow 2 11
  let fraction := bits % Nat.pow 2 52
  if exponent = 2047 then
    if fraction = 0 then sign ++ "inf" else "NaN"
  else if exponent = 0 ∧ fraction = 0 then sign ++ zero
  else sign ++ layout ((binaryOfFields fraction exponent).shortest tie)

/-- Always positional, with no point in a whole number. -/
def floatText (x : Float) : String := layoutFloat "0" .up positional x

/-- Always positional, with a point in a whole number too. -/
def pointedText (x : Float) : String := layoutFloat "0.0" .up pointed x

/-- With an exponent for large and for small numbers. A half goes to the even digit. -/
def compactText (x : Float) : String := layoutFloat "0.0" .toEven compact x

/-- Digits at the front of a text, and what follows them. -/
def spanDigits (cs : List Char) : List Char × List Char :=
  (cs.takeWhile Char.isDigit, cs.dropWhile Char.isDigit)

/-- The nearest floating-point number. Exponents far outside the range are not multiplied out. -/
def toFloat (d : Decimal) : Float :=
  let size : Int := (toString d.digits).length + d.exponent
  if d.digits = 0 ∨ size < -400 then 0.0
  else if 400 < size then 1.0 / 0.0
  else Float.ofScientific d.digits (d.exponent < 0) d.exponent.natAbs

/-- An exponent mark with at least one digit after an optional sign, or nothing. -/
def readExponent? : List Char → Option Int
  | [] => some 0
  | c :: rest =>
    if c = 'e' ∨ c = 'E' then
      let (negative, digits) := match rest with
        | '-' :: ds => (true, ds)
        | '+' :: ds => (false, ds)
        | ds => (false, ds)
      (Text.readNat? digits).map fun n => if negative then -(n : Int) else n
    else none

/-- Digits with an optional point and exponent. One digit must stand on either side of the point. -/
def readUnsigned? (cs : List Char) : Option Decimal :=
  let (whole, rest) := spanDigits cs
  let (places, rest) := match rest with
    | '.' :: ds => spanDigits ds
    | _ => ([], rest)
  if whole.isEmpty && places.isEmpty then none
  else (readExponent? rest).map fun e =>
    ⟨Text.digitsValue (whole ++ places), e - places.length⟩

def readMagnitude? (cs : List Char) : Option Float :=
  match String.ofList (cs.map Char.toLower) with
  | "inf" | "infinity" => some (1.0 / 0.0)
  | "nan" => some (0.0 / 0.0)
  | _ => (readUnsigned? cs).map toFloat

/-- A sign may stand in front. -/
def readFloat? (s : String) : Option Float :=
  match s.toList with
  | '-' :: cs => (readMagnitude? cs).map Float.neg
  | '+' :: cs => readMagnitude? cs
  | cs => readMagnitude? cs

end LogicalSql.Decimal
