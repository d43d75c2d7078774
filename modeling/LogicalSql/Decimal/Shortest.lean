import LogicalSql.Decimal.Basic

/-! The fewest decimal digits that read back as a given binary number. -/
namespace LogicalSql

/-- Which of two neighbours on a grid stands for a number halfway between them. -/
inductive Tie where
  | up
  | toEven
  deriving DecidableEq, Repr

/-- The choice between `down` and the next number. -/
def Tie.choose (down : Nat) : Tie → Nat
  | .up => down + 1
  | .toEven => down + down % 2

/-- The number `mantissa * 2 ^ exponent`, with the step down to its lower neighbour. -/
structure Binary where
  mantissa : Nat
  exponent : Int
  /-- The lower neighbour is only half a unit away, as below a power of two. -/
  halfStepDown : Bool

namespace Binary

/-- Four times the midpoint to the lower neighbour, in units of the last place. -/
def low (b : Binary) : Nat := if b.halfStepDown then 4 * b.mantissa - 1 else 4 * b.mantissa - 2

/-- Four times the midpoint to the upper neighbour, in units of the last place. -/
def high (b : Binary) : Nat := 4 * b.mantissa + 2

/-- The factors `(p, r)` with which `x * 2 ^ a` compares to `c * 10 ^ k` as `x * p` to `c * r`. -/
def scale (a k : Int) : Nat × Nat :=
  (Nat.pow 2 a.toNat * Nat.pow 10 (-k).toNat, Nat.pow 10 k.toNat * Nat.pow 2 (-a).toNat)

/-- A number on the grid of tenth powers that reads back as `b`. Ends of the interval do when the
mantissa is even. -/
def accepts (b : Binary) (p r c : Nat) : Bool :=
  if b.mantissa % 2 = 0 then b.low * p ≤ c * r && c * r ≤ b.high * p
  else b.low * p < c * r && c * r < b.high * p

/-- The neighbours of `b` on the grid `10 ^ k` that read back as `b`, the nearer if both do. -/
def onGrid? (b : Binary) (tie : Tie) (k : Int) : Option Decimal :=
  let (p, r) := scale (b.exponent - 2) k
  let value := 4 * b.mantissa * p
  let down := value / r
  let up := down + 1
  match b.accepts p r down, b.accepts p r up with
  | true, true =>
    let digits := match compare (up * r - value) (value - down * r) with
      | .lt => up
      | .gt => down
      | .eq => tie.choose down
    some ⟨digits, k⟩
  | true, false => some ⟨down, k⟩
  | false, true => some ⟨up, k⟩
  | false, false => none

/-- The exponent of the leading decimal digit of `n / d`. -/
def leadingExponent (n d : Nat) : Int :=
  let e : Int := (toString n).length - (toString d).length
  let (p, r) := scale 0 e
  if n * p < d * r then e - 1 else e

/-- Tries one digit, two digits and so on. -/
def search (b : Binary) (tie : Tie) (lead : Int) : Nat → Nat → Decimal
  | 0, _ => ⟨b.mantissa * Nat.pow 2 b.exponent.toNat, 0⟩
  | fuel + 1, n => (b.onGrid? tie (lead + 1 - n)).getD (search b tie lead fuel (n + 1))

/-- Seventeen digits always suffice for a mantissa of 53 bits. -/
def shortest (b : Binary) (tie : Tie) : Decimal :=
  let lead := leadingExponent (b.mantissa * Nat.pow 2 b.exponent.toNat)
    (Nat.pow 2 (-b.exponent).toNat)
  search b tie lead 18 1

end Binary

end LogicalSql
