import SdkLayout.Toml.Quoted

/-!
# Scalars in TOML

A scalar is a string, a boolean, a number or a time. All but strings are *bare*: a word, or a date
and a time of day with a space in between.

**Numbers are told apart, not evaluated.** They keep their spelling, and a decimal integer is
checked only up to its first underscore and right around each one: behind that its word may go on
with anything that does not start a fraction or an exponent. For the same reason a number with a
radix may lack digits.
-/

namespace SdkLayout.Toml

/-- A value without parts. -/
inductive Scalar where
  | string (text : String)
  | boolean (value : Bool)
  | integer (spelling : String)
  | float (spelling : String)
  /-- A date, a time of day, or both. -/
  | time (spelling : String)
  deriving DecidableEq, Repr

/-- Whether a character is a decimal digit. -/
def isDigit (c : Char) : Bool :=
  decide ('0' ≤ c) && decide (c ≤ '9')

/-- Whether a character is a hexadecimal digit. -/
def isHexDigit (c : Char) : Bool :=
  (hexValue? c).isSome

/-! ### Signs and underscores -/

/-- A text without the sign in front of it. -/
def dropSign : List Char → List Char
  | '+' :: rest => rest
  | '-' :: rest => rest
  | cs => cs

/-- Whether every underscore stands right between digits. `after` says whether the text comes after
a digit. -/
def isSpaced (p : Char → Bool) (after : Bool) : List Char → Bool
  | [] => true
  | '_' :: rest => after && rest.head?.any p && isSpaced p false rest
  | c :: rest => isSpaced p (p c) rest

/-- Whether every underscore of a number stands right between digits. A sign in front counts as a
digit. -/
def isSpacedNumber (p : Char → Bool) (cs : List Char) : Bool :=
  isSpaced p (dropSign cs != cs) (dropSign cs)

/-! ### Integers -/

/-- Whether a text may follow the mark of a radix with the given digits. -/
def isRadixRun (p : Char → Bool) (cs : List Char) : Bool :=
  cs.all (fun c => p c || c == '_') && isSpaced p false cs

/-- Whether a text is a number with a radix. It has no sign. -/
def isRadixInteger : List Char → Bool
  | '0' :: 'x' :: rest => isRadixRun isHexDigit rest
  | '0' :: 'o' :: rest => isRadixRun (fun c => decide ('0' ≤ c) && decide (c ≤ '7')) rest
  | '0' :: 'b' :: rest => isRadixRun (fun c => c == '0' || c == '1') rest
  | _ => false

/-- Whether a character starts an exponent. -/
def isExponentMark (c : Char) : Bool :=
  c == 'e' || c == 'E'

/-- Whether a character sets a text apart from an integer: it belongs to a fraction, to an exponent
or to a time. -/
def endsInteger (c : Char) : Bool :=
  c == '.' || isExponentMark c || c == ' '

/-- Whether a text is an integer without a radix. Only zero itself starts with a zero. -/
def isDecimalInteger (cs : List Char) : Bool :=
  let unsigned := dropSign cs
  match unsigned.dropWhile isDigit with
  | [] => unsigned == ['0'] || unsigned.head?.any (· != '0')
  | '_' :: rest =>
    unsigned.head? != some '0' && !rest.any endsInteger && isSpacedNumber isHexDigit cs
  | _ => false

/-- Whether a text is an integer. -/
def isInteger (cs : List Char) : Bool :=
  isRadixInteger cs || isDecimalInteger cs

/-! ### Floats -/

/-- Whether a run of digits and underscores is a number. Leading zeros may be allowed. -/
def isDigitRun (zeros : Bool) (run : List Char) : Bool :=
  match run.filter isDigit with
  | [] => false
  | [_] => true
  | _ => zeros || run.head? != some '0'

/-- The text after a number of digits and underscores. -/
def afterDigits? (zeros : Bool) (cs : List Char) : Option (List Char) :=
  let run := cs.takeWhile fun c => isDigit c || c == '_'
  if isDigitRun zeros run then some (cs.drop run.length) else none

/-- The text after a fraction, if it starts with one. -/
def afterFraction? : List Char → Option (List Char)
  | '.' :: rest => afterDigits? true rest
  | cs => some cs

/-- The text after an exponent, if it starts with one. -/
def afterExponent? : List Char → Option (List Char)
  | [] => some []
  | c :: rest =>
    if isExponentMark c then afterDigits? true (dropSign rest) else some (c :: rest)

/-- Whether a text without sign is a number with a fraction or an exponent, apart from its
underscores. -/
def isUnsignedFloat (cs : List Char) : Bool :=
  cs.any (fun c => c == '.' || isExponentMark c)
    && (((afterDigits? false cs).bind afterFraction?).bind afterExponent?).any List.isEmpty

/-- Whether a text is a float. -/
def isFloat (cs : List Char) : Bool :=
  match dropSign cs with
  | ['i', 'n', 'f'] => true
  | ['n', 'a', 'n'] => true
  | unsigned => isUnsignedFloat unsigned && isSpacedNumber isDigit cs

/-! ### Times -/

/-- The value of a run of digits. -/
def digitsValue? (cs : List Char) : Option Nat :=
  if cs.all isDigit then some (cs.foldl (fun n c => 10 * n + (c.toNat - 48)) 0) else none

/-- Whether digits write a number in a range. -/
def isNumberWithin (low high : Nat) (digits : List Char) : Bool :=
  (digitsValue? digits).any fun n => decide (low ≤ n) && decide (n ≤ high)

/-- Whether a year has a 29th of February. -/
def isLeapYear (year : Nat) : Bool :=
  year % 4 == 0 && (year % 100 != 0 || year % 400 == 0)

/-- How many days a month has. -/
def daysIn (year month : Nat) : Nat :=
  if month = 2 then if isLeapYear year then 29 else 28
  else if month = 4 ∨ month = 6 ∨ month = 9 ∨ month = 11 then 30
  else 31

/-- Whether a text is a date. -/
def isDate : List Char → Bool
  | [y₁, y₂, y₃, y₄, '-', m₁, m₂, '-', d₁, d₂] =>
    match digitsValue? [y₁, y₂, y₃, y₄], digitsValue? [m₁, m₂] with
    | some year, some month =>
      decide (1 ≤ month) && decide (month ≤ 12) && isNumberWithin 1 (daysIn year month) [d₁, d₂]
    | _, _ => false
  | _ => false

/-- Whether a text is nothing, or a fraction of a second. -/
def isSubsecond : List Char → Bool
  | [] => true
  | '.' :: rest => !rest.isEmpty && rest.all isDigit
  | _ => false

/-- Whether a text is nothing, or the second of a time of day. It may be a leap second. -/
def isSecond : List Char → Bool
  | [] => true
  | ':' :: s₁ :: s₂ :: rest => isNumberWithin 0 60 [s₁, s₂] && isSubsecond rest
  | _ => false

/-- Whether a text is a time of day. -/
def isClock : List Char → Bool
  | h₁ :: h₂ :: ':' :: m₁ :: m₂ :: rest =>
    isNumberWithin 0 23 [h₁, h₂] && isNumberWithin 0 59 [m₁, m₂] && isSecond rest
  | _ => false

/-- Whether a text is nothing, or an offset from universal time. -/
def isOffset : List Char → Bool
  | [] => true
  | ['Z'] => true
  | ['z'] => true
  | [s, h₁, h₂, ':', m₁, m₂] =>
    (s == '+' || s == '-') && isNumberWithin 0 23 [h₁, h₂] && isNumberWithin 0 59 [m₁, m₂]
  | _ => false

/-- Whether a character may start an offset. -/
def isOffsetMark (c : Char) : Bool :=
  c == 'Z' || c == 'z' || c == '+' || c == '-'

/-- Whether a character may stand between date and time of day. -/
def isTimeMark (c : Char) : Bool :=
  c == 'T' || c == 't' || c == ' '

/-- Whether a text is what may follow a date. -/
def isTimeOfDate : List Char → Bool
  | [] => true
  | c :: rest =>
    let clock := rest.takeWhile fun d => !isOffsetMark d
    isTimeMark c && isClock clock && isOffset (rest.drop clock.length)

/-- Whether a text is a time. -/
def isTime (cs : List Char) : Bool :=
  isClock cs || (isDate (cs.take 10) && isTimeOfDate (cs.drop 10))

/-! ### Reading -/

/-- The scalar with a bare spelling. -/
def Scalar.ofBare? (cs : List Char) : Option Scalar :=
  if cs = ['t', 'r', 'u', 'e'] then some (.boolean true)
  else if cs = ['f', 'a', 'l', 's', 'e'] then some (.boolean false)
  else if isInteger cs then some (.integer (String.ofList cs))
  else if isFloat cs then some (.float (String.ofList cs))
  else if isTime cs then some (.time (String.ofList cs))
  else none

/-- Whether a character belongs to a bare word. -/
def isBareChar (c : Char) : Bool :=
  !(isBlank c || isLineBreak c || ['=', ',', '[', ']', '\x7b', '\x7d', '#'].contains c)

/-- Whether a text starts with a bare word that may go on after a blank. -/
def startsWord : List Char → Bool
  | [] => false
  | c :: _ => isBareChar c && c != '.' && c != '"' && c != '\x27'

/-- The bare spelling at the start of a text and what comes after it. Words with blanks in between
are one spelling: a date and a time of day have a space there. -/
def bareSpelling : List Char → List Char × List Char
  | [] => ([], [])
  | c :: rest =>
    if isBareChar c || (isBlank c && startsWord (skipBlanks rest)) then
      let r := bareSpelling rest
      (c :: r.1, r.2)
    else ([], c :: rest)

/-- Reads a scalar. -/
def scalar? (cs : List Char) : Option (Scalar × List Char) :=
  match cs with
  | '"' :: _ => (string? cs).map fun r => (.string r.1, r.2)
  | '\x27' :: _ => (string? cs).map fun r => (.string r.1, r.2)
  | _ =>
    let (spelling, rest) := bareSpelling cs
    (Scalar.ofBare? spelling).map fun s => (s, rest)

end SdkLayout.Toml
