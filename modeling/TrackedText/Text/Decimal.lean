import TrackedText.Offset
import TrackedText.Text

namespace TrackedText.Decimal

def digit? (c : Char) : Option Nat :=
  if '0' ≤ c ∧ c ≤ '9' then some (c.toNat - '0'.toNat) else none

def digitsFrom? (n : Nat) : Text → Option Nat
  | [] => some n
  | c :: t => digit? c >>= fun d => digitsFrom? (10 * n + d) t

def digits? : Text → Option Nat
  | [] => none
  | t => digitsFrom? 0 t

def offset? (t : Text) : Option Nat :=
  let value := match t with
    | '+' :: t => digits? t
    | t => digits? t
  value.filter (· < wordCount)

def position? (t : Text) : Option Int :=
  let value : Option Int := match t with
    | '+' :: t => (digits? t).map Int.ofNat
    | '-' :: t => (digits? t).map fun n => -(n : Int)
    | t => (digits? t).map Int.ofNat
  value.filter fun i => -wordCount ≤ 2 * i ∧ 2 * i < wordCount

def ofNat (n : Nat) : Text := Nat.toDigits 10 n

def ofInt : Int → Text
  | .ofNat n => ofNat n
  | .negSucc n => '-' :: ofNat (n + 1)

end TrackedText.Decimal
