import ComponentLog.Numeric.Rounding

/-!
# Binary floating-point numbers as words

A finite number of a binary format is a whole multiple of the format's least
positive number, so its magnitude is a natural number of such units and every
ratio of naturals can be rounded to the format exactly. `Format.encode` takes a
ratio in units to the nearest word, ties to even, and `Format.magnitude` reads
a word back.

`Binary32` and `Binary64` are the two formats the library stores. They carry the
word itself, so equality is equality of bits; `sameNumber` is the comparison in
which a NaN differs from itself and the two zeros agree.
-/

namespace ComponentLog.Numeric

/-- A binary interchange format. -/
structure Format where
  /-- stored fraction bits -/
  fraction : Nat
  /-- exponent bits -/
  exponent : Nat
  deriving DecidableEq, Repr

namespace Format

/-- The word of infinity, which is the least word that is no finite number. -/
def infinity (f : Format) : Nat := ((1 <<< f.exponent) - 1) <<< f.fraction

/-- The sign bit as a number. -/
def signBit (f : Format) : Nat := 1 <<< (f.exponent + f.fraction)

/-- The magnitude of a finite word without sign, in units of the least positive number. -/
def magnitude (f : Format) (word : Nat) : Nat :=
  let e := word >>> f.fraction
  let m := word % (1 <<< f.fraction)
  if e = 0 then m else (m + (1 <<< f.fraction)) <<< (e - 1)

/-- The word nearest to `num / den` units, ties to even; too large a ratio gives infinity. -/
def encode (f : Format) (num den : Nat) : Nat :=
  let shift := (num / den).log2 - f.fraction
  min f.infinity ((shift <<< f.fraction) + nearest num (den <<< shift))

end Format

/-- The 32-bit format: least positive number `2 ^ -149`. -/
def single : Format := ⟨23, 8⟩

/-- The 64-bit format: least positive number `2 ^ -1074`. -/
def double : Format := ⟨52, 11⟩

/-- A 32-bit floating-point number. -/
structure Binary32 where
  bits : UInt32
  deriving DecidableEq, Repr

/-- A 64-bit floating-point number. -/
structure Binary64 where
  bits : UInt64
  deriving DecidableEq, Repr

/-! ## The 32-bit numbers -/

namespace Binary32

def isNegative (x : Binary32) : Bool := single.signBit ≤ x.bits.toNat

/-- The word without its sign bit. -/
def word (x : Binary32) : Nat := x.bits.toNat % single.signBit

def ofWord (negative : Bool) (word : Nat) : Binary32 :=
  ⟨.ofNat (if negative then single.signBit + word else word)⟩

def isNaN (x : Binary32) : Bool := single.infinity < x.word

def isInfinite (x : Binary32) : Bool := x.word = single.infinity

def isZero (x : Binary32) : Bool := x.word = 0

def magnitude (x : Binary32) : Nat := single.magnitude x.word

/-- The NaN of the same sign and payload with the quiet bit set. -/
def quiet (x : Binary32) : Binary32 := ⟨x.bits ||| 0x00400000⟩

def zero : Binary32 := ⟨0⟩

def one : Binary32 := ⟨0x3f800000⟩

/-- Numeric equality: a NaN equals nothing and the two zeros are equal. -/
def sameNumber (x y : Binary32) : Bool :=
  !x.isNaN && !y.isNaN && (x = y || (x.isZero && y.isZero))

/-- The product, rounded to nearest. A NaN factor is handed on; zero times infinity is the
negative quiet NaN. -/
def mul (x y : Binary32) : Binary32 :=
  let negative := x.isNegative != y.isNegative
  if x.isNaN then x.quiet
  else if y.isNaN then y.quiet
  else if (x.isInfinite && y.isZero) || (x.isZero && y.isInfinite) then ⟨0xffc00000⟩
  else if x.isInfinite || y.isInfinite then ofWord negative single.infinity
  else ofWord negative (single.encode (x.magnitude * y.magnitude) (1 <<< 149))

end Binary32

/-! ## The 64-bit numbers -/

namespace Binary64

def isNegative (x : Binary64) : Bool := double.signBit ≤ x.bits.toNat

/-- The word without its sign bit. -/
def word (x : Binary64) : Nat := x.bits.toNat % double.signBit

def ofWord (negative : Bool) (word : Nat) : Binary64 :=
  ⟨.ofNat (if negative then double.signBit + word else word)⟩

def isNaN (x : Binary64) : Bool := double.infinity < x.word

def isInfinite (x : Binary64) : Bool := x.word = double.infinity

def isZero (x : Binary64) : Bool := x.word = 0

def isFinite (x : Binary64) : Bool := x.word < double.infinity

def magnitude (x : Binary64) : Nat := double.magnitude x.word

def zero : Binary64 := ⟨0⟩

def nan : Binary64 := ⟨0x7ff8000000000000⟩

def infinity : Binary64 := ⟨0x7ff0000000000000⟩

def negInfinity : Binary64 := ⟨0xfff0000000000000⟩

/-- Numeric equality: a NaN equals nothing and the two zeros are equal. -/
def sameNumber (x y : Binary64) : Bool :=
  !x.isNaN && !y.isNaN && (x = y || (x.isZero && y.isZero))

/-- The nearest number to an integer, ties to even. -/
def ofInt (i : Int) : Binary64 :=
  ofWord (i < 0) (double.encode (i.natAbs <<< 1074) 1)

/-- The number nearest to `significand * 10 ^ exponent`. Exponents that must overflow or vanish
whatever the digits are decided by size alone. -/
def ofDecimal (negative : Bool) (significand : Nat) (exponent : Int) : Binary64 :=
  let digits : Int := (Nat.toDigits 10 significand).length
  if significand = 0 then ofWord negative 0
  else if 310 < exponent + digits then ofWord negative double.infinity
  else if exponent + digits < -330 then ofWord negative 0
  else if 0 ≤ exponent then
    ofWord negative (double.encode ((significand * Nat.pow 10 exponent.toNat) <<< 1074) 1)
  else
    ofWord negative (double.encode (significand <<< 1074) (Nat.pow 10 (-exponent).toNat))

end Binary64

/-! ## Between the two formats -/

/-- Widening is exact; a NaN keeps its sign and payload and becomes quiet. -/
def Binary32.widen (x : Binary32) : Binary64 :=
  if x.isNaN then
    .ofWord x.isNegative
      (double.infinity + (((x.word - single.infinity) % (1 <<< 22)) <<< 29) + (1 <<< 51))
  else if x.isInfinite then .ofWord x.isNegative double.infinity
  else .ofWord x.isNegative (double.encode (x.magnitude <<< 925) 1)

/-- Narrowing rounds to nearest, ties to even, overflows to infinity, and keeps the sign and the
leading payload bits of a NaN, which becomes quiet. -/
def Binary64.narrow (x : Binary64) : Binary32 :=
  if x.isNaN then
    .ofWord x.isNegative
      (single.infinity + ((x.word - double.infinity) >>> 29) % (1 <<< 22) + (1 <<< 22))
  else if x.isInfinite then .ofWord x.isNegative single.infinity
  else .ofWord x.isNegative (single.encode x.magnitude (1 <<< 925))

end ComponentLog.Numeric
