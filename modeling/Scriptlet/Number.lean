/-!
# Numbers: binary floating point of 64 bits

A number is its bit pattern: a sign, an exponent of 11 bits and a fraction of 52.  The pattern
without the sign is its `magnitude`; it grows with the absolute value, up to `infinity`, and the
patterns beyond are NaNs.  The absolute value of a finite number is a whole number of units of
`2 ^ -1074`, the least positive value: `units` is that whole number.
-/

namespace Scriptlet

/-- Equal numbers have equal patterns, so `0` and `-0` differ, and a NaN equals itself. -/
structure Number where
  bits : UInt64
deriving DecidableEq, Inhabited

namespace Number

def infinity : Nat := 0x7FF0000000000000

def magnitude (x : Number) : Nat := x.bits.toNat % Nat.pow 2 63

def isNegative (x : Number) : Bool := decide (Nat.pow 2 63 ≤ x.bits.toNat)

def isNaN (x : Number) : Bool := decide (infinity < x.magnitude)

def isInfinite (x : Number) : Bool := x.magnitude == infinity

def isFinite (x : Number) : Bool := decide (x.magnitude < infinity)

def isZero (x : Number) : Bool := x.magnitude == 0

def ofMagnitude (negative : Bool) (m : Nat) : Number :=
  ⟨UInt64.ofNat (if negative then Nat.pow 2 63 + m else m)⟩

def nan : Number := ofMagnitude false (infinity + Nat.pow 2 51)

/-- the absolute value of a finite number, in units of `2 ^ -1074` -/
def units (x : Number) : Nat :=
  let scale := x.magnitude / Nat.pow 2 52 - 1
  (x.magnitude - scale * Nat.pow 2 52) * Nat.pow 2 scale

/-! ### rounding -/

/-- the whole number nearest to `n / d`; halfway, the even one -/
def roundDiv (n d : Nat) : Nat :=
  let q := n / d
  let r := n % d
  if d < 2 * r || (d == 2 * r && q % 2 == 1) then q + 1 else q

/-- The magnitude nearest to `n / d` units; halfway, the one whose last bit is clear.  The first bit
of `n / d` says how many low bits do not fit; a carry out of the 53 kept bits goes into the
exponent. -/
def roundUnits (n d : Nat) : Nat :=
  let scale := (n / d).log2 - 52
  min (scale * Nat.pow 2 52 + roundDiv n (d * Nat.pow 2 scale)) infinity

/-- The number nearest to `n / d`; halfway, the one whose last bit is clear. -/
def ofRatio (n d : Nat) : Number := ofMagnitude false (roundUnits (n * Nat.pow 2 1074) d)

/-! ### arithmetic -/

def lift (f : Float → Float → Float) (x y : Number) : Number :=
  ⟨(f (Float.ofBits x.bits) (Float.ofBits y.bits)).toBits⟩

def add (x y : Number) : Number := lift (· + ·) x y
def sub (x y : Number) : Number := lift (· - ·) x y
def mul (x y : Number) : Number := lift (· * ·) x y
def div (x y : Number) : Number := lift (· / ·) x y

/-- What is left of `x` when as many whole `y` are taken away as fit; it has the sign of `x`, and is
exact. -/
def rem (x y : Number) : Number :=
  if x.isNaN || y.isNaN || x.isInfinite || y.isZero then nan
  else if y.isInfinite then x
  else ofMagnitude x.isNegative (roundUnits (x.units % y.units) 1)

/-- Equality of values: `0` equals `-0`, and a NaN equals nothing. -/
def sameValue (x y : Number) : Bool :=
  !x.isNaN && !y.isNaN && (x == y || (x.isZero && y.isZero))

end Number

end Scriptlet
