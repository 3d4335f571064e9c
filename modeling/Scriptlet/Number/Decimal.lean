import Scriptlet.Number

/-!
# Decimals: digits with a point, written and read

`digits` is the whole number that is left when the point is taken away, `places` the number of
digits behind it.  `ofChars?` reads back what `chars` writes.
-/

namespace Scriptlet

/-- the value `digits / 10 ^ places` -/
structure Decimal where
  digits : Nat
  places : Nat
deriving DecidableEq

namespace Decimal

def toNumber (d : Decimal) : Number := Number.ofRatio d.digits (Nat.pow 10 d.places)

/-- the decimal `n / 10 ^ places` without zeros at the end of the places -/
def trimmed (n : Nat) : Nat → Decimal
  | 0 => ⟨n, 0⟩
  | k + 1 => if n % 10 = 0 then trimmed (n / 10) k else ⟨n, k + 1⟩

/-- the digits of `n`, with zeros in front up to `k` digits -/
def padded (k n : Nat) : List Char :=
  let ds := Nat.toDigits 10 n
  List.replicate (k - ds.length) '0' ++ ds

/-- A decimal as text: no exponent, no point unless there are places, and a digit before it. -/
def chars (d : Decimal) : List Char :=
  if d.places = 0 then Nat.toDigits 10 d.digits
  else
    Nat.toDigits 10 (d.digits / Nat.pow 10 d.places)
      ++ '.' :: padded d.places (d.digits % Nat.pow 10 d.places)

/-- Reads digits with one point at most, not all of it the point. -/
def ofChars? (cs : List Char) : Option Decimal :=
  let whole := cs.takeWhile Char.isDigit
  match cs.dropWhile Char.isDigit with
  | [] => if whole.isEmpty then none else some ⟨Nat.ofDigitChars 10 whole 0, 0⟩
  | c :: places =>
    if c = '.' && places.all Char.isDigit && !(whole ++ places).isEmpty then
      some ⟨Nat.ofDigitChars 10 (whole ++ places) 0, places.length⟩
    else none

end Decimal

def Number.ofText? (s : String) : Option Number := (Decimal.ofChars? s.toList).map Decimal.toNumber

end Scriptlet
