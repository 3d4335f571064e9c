import Scriptlet.Number.Decimal

/-!
# Shortest decimals: the fewest digits that read back

A finite number is written with the fewest digits that are read as the same number, and of those the
nearest to its value; of two that are equally near, the greater.  The search goes through grids
`10 ^ k`, from the one of the leading digit down to seventeen digits, and looks at the two points
of the grid around the value.  Should no grid have one that reads back, all digits are written.
-/

namespace Scriptlet.Number

def scaled (n : Nat) (k : Int) : Decimal :=
  if 0 ≤ k then ⟨n * Nat.pow 10 k.toNat, 0⟩ else Decimal.trimmed n (-k).toNat

/-- The points around `n / d` on the grid `10 ^ k`, the nearer one first. -/
def around (n d : Nat) (k : Int) : List Decimal :=
  let n := n * Nat.pow 10 (-k).toNat
  let d := d * Nat.pow 10 k.toNat
  let q := n / d
  let r := n % d
  if r = 0 then [scaled q k]
  else if 2 * r < d then [scaled q k, scaled (q + 1) k]
  else [scaled (q + 1) k, scaled q k]

/-- How many digits `n / d` has before the point, or, negated, how many zeros come first behind
it. -/
def leading (n d : Nat) : Int :=
  if d ≤ n then (Nat.toDigits 10 (n / d)).length else 1 - (Nat.toDigits 10 (d / n)).length

def exact (x : Number) : Decimal := ⟨x.units * Nat.pow 5 1074, 1074⟩

def readsAs (x : Number) (d : Decimal) : Bool := d.toNumber.magnitude == x.magnitude

/-- The shortest decimal that reads back as the absolute value of a finite number. -/
def shortest (x : Number) : Decimal :=
  let n := x.units
  let d := Nat.pow 2 1074
  let top := leading n d
  let hit := (List.range 17).findSome? fun (i : Nat) =>
    (around n d (top - 1 - i)).find? x.readsAs
  hit.getD x.exact

/-- A number as text: shortest decimal, a sign in front, and names for what is not finite. -/
def text (x : Number) : String :=
  if x.isNaN then "NaN"
  else
    let body := if x.isInfinite then ['i', 'n', 'f'] else x.shortest.chars
    String.ofList (if x.isNegative then '-' :: body else body)

end Scriptlet.Number
