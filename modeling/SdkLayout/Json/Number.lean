/-!
# Number literals

A number is kept as the document writes it. A bare run of digits is a natural number and has a
constructor of its own among the values (`Json.natural`); every other literal is a `Literal`.

**Range.** Where a value is stored before its type is known, its numbers have to be finite doubles.
The significand is cut to a 64-bit word first: digits beyond it only move the exponent.
-/

namespace SdkLayout.Json

/-- A number literal other than a bare run of digits. -/
structure Literal where
  negative : Bool
  /-- The digits before the point. -/
  whole : List Char
  /-- The digits after the point, none if there is no point. -/
  fraction : List Char
  exponent : Option Int
  deriving DecidableEq, Repr

/-- The text of a literal. -/
def Literal.text (l : Literal) : String :=
  (if l.negative then "-" else "") ++ String.ofList l.whole
    ++ (if l.fraction.isEmpty then "" else "." ++ String.ofList l.fraction)
    ++ (match l.exponent with
        | none => ""
        | some e => "e" ++ toString e)

/-- The value of a decimal digit. -/
def digitValue (c : Char) : Nat :=
  c.toNat - 48

/-- The natural number that a run of digits denotes. -/
def naturalOf (digits : List Char) : Nat :=
  digits.foldl (fun n c => n * 10 + digitValue c) 0

/-! ### Range -/

/-- The least number that a word of 64 bits cannot hold. -/
def wordBound : Nat :=
  Nat.pow 2 64

/-- The least number that is rounded beyond the greatest finite double. -/
def doubleBound : Nat :=
  Nat.pow 2 1024 - Nat.pow 2 970

/-- A significand that grows digit by digit until a word is full. -/
structure Significand where
  value : Nat
  exponent : Int
  full : Bool

/-- Whether a digit still fits into the word. -/
def Significand.fits (s : Significand) (digit : Nat) : Bool :=
  !s.full && decide (s.value * 10 + digit < wordBound)

/-- Reads a digit before the point. -/
def Significand.whole (s : Significand) (c : Char) : Significand :=
  if s.fits (digitValue c) then { s with value := s.value * 10 + digitValue c }
  else { s with full := true, exponent := s.exponent + 1 }

/-- Reads a digit after the point. -/
def Significand.fraction (s : Significand) (c : Char) : Significand :=
  if s.fits (digitValue c) then
    { s with value := s.value * 10 + digitValue c, exponent := s.exponent - 1 }
  else { s with full := true }

/-- The nearest number with 53 significant bits, the even one of two. -/
def roundToDouble (n : Nat) : Nat :=
  let unit := Nat.pow 2 (Nat.log2 n + 1 - 53)
  let rest := n % unit
  let down := n - rest
  if 2 * rest < unit then down
  else if unit < 2 * rest then down + unit
  else if (down / unit) % 2 = 0 then down else down + unit

/-- Whether `value * 10 ^ exponent` is a finite double. -/
def isFiniteScaled (value : Nat) (exponent : Int) : Bool :=
  value == 0 || decide (exponent ≤ 0)
    || (decide (exponent ≤ 308)
      && decide (roundToDouble value * roundToDouble (Nat.pow 10 exponent.toNat)
          < doubleBound))

/-- Whether the literal with these digits is a finite double. -/
def isFiniteDecimal (whole fraction : List Char) (exponent : Int) : Bool :=
  let s := whole.foldl Significand.whole ⟨0, 0, false⟩
  let t := fraction.foldl Significand.fraction { s with full := false }
  isFiniteScaled t.value (t.exponent + exponent)

/-- Whether a literal is a finite double. -/
def Literal.isFinite (l : Literal) : Bool :=
  isFiniteDecimal l.whole l.fraction (l.exponent.getD 0)

/-- Whether a natural number is a finite double. -/
def isFiniteNatural (n : Nat) : Bool :=
  decide (n < wordBound) || isFiniteDecimal (Nat.toDigits 10 n) [] 0

end SdkLayout.Json
