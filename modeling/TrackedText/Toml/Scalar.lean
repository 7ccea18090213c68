import TrackedText.Toml.Strings

namespace TrackedText.Toml

/-! Values that are written without quotes. Only their kind is told apart; their digits stay as
written. -/

def isDecimalDigit (c : Char) : Bool := '0' ≤ c && c ≤ '9'

def isOctalDigit (c : Char) : Bool := '0' ≤ c && c ≤ '7'

def isBinaryDigit (c : Char) : Bool := c == '0' || c == '1'

def isHexDigit (c : Char) : Bool :=
  isDecimalDigit c || ('a' ≤ c && c ≤ 'f') || ('A' ≤ c && c ≤ 'F')

def isDigitRun (isDigit : Char → Bool) : Text → Bool
  | [] => false
  | [c] => isDigit c
  | c :: '_' :: t => isDigit c && isDigitRun isDigit t
  | c :: t => isDigit c && isDigitRun isDigit t

def dropSign : Text → Text
  | '+' :: t => t
  | '-' :: t => t
  | t => t

def isDecimalInteger : Text → Bool
  | ['0'] => true
  | '0' :: _ => false
  | t => isDigitRun isDecimalDigit t

def digitsValue (base : Nat) (t : Text) : Nat :=
  (t.filterMap hexDigit?).foldl (fun n d => base * n + d) 0

def isInteger : Text → Bool
  | '0' :: 'x' :: t => isDigitRun isHexDigit t && digitsValue 16 t < Nat.pow 2 128
  | '0' :: 'o' :: t => isDigitRun isOctalDigit t && digitsValue 8 t < Nat.pow 2 128
  | '0' :: 'b' :: t => isDigitRun isBinaryDigit t && digitsValue 2 t < Nat.pow 2 128
  | '-' :: t => isDecimalInteger t && digitsValue 10 t ≤ Nat.pow 2 127
  | t => isDecimalInteger (dropSign t) && digitsValue 10 t < Nat.pow 2 128

/-- Whether `m * 10 ^ e` is below the numbers that round to infinity as 64-bit floats. No number
with more than 400 places is, and none with fewer than 300 is not. -/
def isFinite (m : Nat) (e : Int) : Bool :=
  let places := (Nat.toDigits 10 m).length + e
  m == 0 || places < 300 || (places ≤ 400 &&
    m * Nat.pow 10 e.toNat < (Nat.pow 2 1024 - Nat.pow 2 970) * Nat.pow 10 (-e).toNat)

def isFraction (whole fraction exponent : Text) : Bool :=
  let size : Int := digitsValue 10 exponent
  let e := if exponent.head? = some '-' then -size else size
  isDecimalInteger whole &&
    isFinite (digitsValue 10 (whole ++ fraction)) (e - (fraction.countP isDecimalDigit : Nat))

def isDecimalFraction (t : Text) : Bool :=
  match Text.splitOnce (fun c => c == 'e' || c == 'E') t with
  | some (mantissa, exponent) =>
    isDigitRun isDecimalDigit (dropSign exponent) &&
      match Text.splitOnce (· == '.') mantissa with
      | some (whole, fraction) => isDigitRun isDecimalDigit fraction && isFraction whole fraction exponent
      | none => isFraction mantissa [] exponent
  | none =>
    match Text.splitOnce (· == '.') t with
    | some (whole, fraction) => isDigitRun isDecimalDigit fraction && isFraction whole fraction []
    | none => false

def isFloat (t : Text) : Bool :=
  let t := dropSign t
  t == "inf".toList || t == "nan".toList || isDecimalFraction t

def twoDigits? (lo hi : Nat) : Text → Option (Nat × Text)
  | a :: b :: t =>
    if isDecimalDigit a && isDecimalDigit b then
      let n := 10 * (a.toNat - '0'.toNat) + (b.toNat - '0'.toNat)
      if lo ≤ n ∧ n ≤ hi then some (n, t) else none
    else none
  | _ => none

def char? (c : Char) : Text → Option Text
  | d :: t => if c = d then some t else none
  | [] => none

def daysIn (year month : Nat) : Nat :=
  if month = 2 then
    if year % 4 = 0 ∧ (year % 100 ≠ 0 ∨ year % 400 = 0) then 29 else 28
  else if month = 4 ∨ month = 6 ∨ month = 9 ∨ month = 11 then 30
  else 31

def dropDate? (t : Text) : Option Text := do
  let (century, t) ← twoDigits? 0 99 t
  let (year, t) ← twoDigits? 0 99 t
  let (month, t) ← twoDigits? 1 12 (← char? '-' t)
  let (_, t) ← twoDigits? 1 (daysIn (100 * century + year) month) (← char? '-' t)
  return t

/-- What follows a time of day at the front. The sixtieth second is allowed for leap seconds; a time
without seconds has no fraction. -/
def dropTime? (t : Text) : Option Text := do
  let (_, t) ← twoDigits? 0 23 t
  let (_, t) ← twoDigits? 0 59 (← char? ':' t)
  match t with
  | ':' :: t =>
    let (_, t) ← twoDigits? 0 60 t
    match t with
    | '.' :: t => if (t.takeWhile isDecimalDigit).isEmpty then none else some (t.dropWhile isDecimalDigit)
    | t => some t
  | t => some t

def isZone : Text → Bool
  | [] => true
  | ['Z'] => true
  | ['z'] => true
  | c :: t => (c == '+' || c == '-') && (do
      let (_, t) ← twoDigits? 0 23 t
      let (_, t) ← twoDigits? 0 59 (← char? ':' t)
      return t) == some []

def isMoment (t : Text) : Bool :=
  match dropDate? t with
  | some [] => true
  | some (c :: t) =>
    (c == 'T' || c == 't' || c == ' ') &&
      match dropTime? t with
      | some zone => isZone zone
      | none => false
  | none => dropTime? t == some []

end TrackedText.Toml
