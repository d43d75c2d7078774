/-! Decimal numbers and their positional text. -/
namespace LogicalSql

/-- The number `digits * 10 ^ exponent`. -/
structure Decimal where
  digits : Nat
  exponent : Int
  deriving DecidableEq, Repr

namespace Decimal

def zeros (n : Nat) : String := "".pushn '0' n

/-- Moves the zeros at the end of `digits` into the exponent, at most `fuel` of them. -/
def normalize : Nat → Decimal → Decimal
  | 0, d => d
  | fuel + 1, d =>
    if d.digits % 10 = 0 ∧ d.digits ≠ 0 then normalize fuel ⟨d.digits / 10, d.exponent + 1⟩ else d

/-- Digits around a point, never an exponent. A whole number has no point. -/
def positional (d : Decimal) : String :=
  let d := normalize (toString d.digits).length d
  let text := toString d.digits
  match d.exponent with
  | .ofNat n => text ++ zeros n
  | .negSucc n =>
    let places := n + 1
    if places < text.length then
      let whole := text.length - places
      String.ofList (text.toList.take whole) ++ "." ++ String.ofList (text.toList.drop whole)
    else "0." ++ zeros (places - text.length) ++ text

/-- Positional, with a point in a whole number too. -/
def pointed (d : Decimal) : String :=
  let text := d.positional
  if text.contains '.' then text else text ++ ".0"

/-- Pointed for magnitudes from `10 ^ -5` up to `10 ^ 16`, and with an exponent and its sign beyond. -/
def compact (d : Decimal) : String :=
  let d := normalize (toString d.digits).length d
  let text := toString d.digits
  let magnitude := text.length + d.exponent
  if -5 < magnitude ∧ magnitude ≤ 16 then d.pointed
  else
    let places := String.ofList (text.toList.drop 1)
    String.ofList (text.toList.take 1) ++ (if places.isEmpty then "" else "." ++ places) ++
      (if 0 < magnitude then "e+" else "e") ++ toString (magnitude - 1)

end Decimal

end LogicalSql
