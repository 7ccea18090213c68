import TrackedText.Toml.Fault

namespace TrackedText.Toml

abbrev Scanned := Except Fault (Text × Text)

namespace Scanned

def cons (c : Char) (s : Scanned) : Scanned := s.map fun (t, rest) => (c :: t, rest)

end Scanned

def hexDigit? (c : Char) : Option Nat :=
  if '0' ≤ c ∧ c ≤ '9' then some (c.toNat - '0'.toNat)
  else if 'a' ≤ c ∧ c ≤ 'f' then some (c.toNat - 'a'.toNat + 10)
  else if 'A' ≤ c ∧ c ≤ 'F' then some (c.toNat - 'A'.toNat + 10)
  else none

def hexFrom? (n : Nat) : Text → Option Nat
  | [] => some n
  | c :: t => hexDigit? c >>= fun d => hexFrom? (16 * n + d) t

def codePoint (n : Nat) (t : Text) : Except Fault Char :=
  match hexFrom? 0 (t.take n) with
  | some v => if (t.take n).length = n ∧ v.isValidChar then .ok (Char.ofNat v) else .error .badEscape
  | none => .error .badEscape

def escape : Text → Except Fault (Char × Nat)
  | 'b' :: _ => .ok ('\x08', 1)
  | 't' :: _ => .ok ('\t', 1)
  | 'n' :: _ => .ok ('\n', 1)
  | 'f' :: _ => .ok ('\x0c', 1)
  | 'r' :: _ => .ok ('\r', 1)
  | 'e' :: _ => .ok ('\x1b', 1)
  | '"' :: _ => .ok ('"', 1)
  | '\\' :: _ => .ok ('\\', 1)
  | 'x' :: t => (codePoint 2 t).map (·, 3)
  | 'u' :: t => (codePoint 4 t).map (·, 5)
  | 'U' :: t => (codePoint 8 t).map (·, 9)
  | _ => .error .badEscape

def readBasic : Nat → Text → Scanned
  | _, [] => .error (.expected "a closing quote")
  | skip + 1, _ :: t => readBasic skip t
  | 0, c :: t =>
    if c = '"' then .ok ([], t)
    else if c = '\\' then
      match escape t with
      | .ok (e, n) => (readBasic n t).cons e
      | .error f => .error f
    else if isControl c then .error (.badCharacter c)
    else (readBasic 0 t).cons c

def readLiteral : Text → Scanned
  | [] => .error (.expected "a closing quote")
  | c :: t =>
    if c = '\'' then .ok ([], t)
    else if isControl c then .error (.badCharacter c)
    else (readLiteral t).cons c

def blankRun : Text → Nat
  | ' ' :: t => blankRun t + 1
  | '\t' :: t => blankRun t + 1
  | '\n' :: t => blankRun t + 1
  | '\r' :: '\n' :: t => blankRun t + 2
  | _ => 0

def isSpace (c : Char) : Bool := c == ' ' || c == '\t'

def lineBreak? : Text → Option Text
  | '\n' :: t => some t
  | '\r' :: '\n' :: t => some t
  | _ => none

def dropLineBreak (t : Text) : Text := (lineBreak? t).getD t

def quoteRun (q : Char) (t : Text) : Nat := (t.takeWhile (· == q)).length

/-- The end of a multi-line string at a run of `n` quotes, the first of them already taken: up to
two of them may belong to the string. -/
def closeRun (q : Char) (n : Nat) (t : Text) : Scanned :=
  .ok (List.replicate (min (n - 3) 2) q, t.drop (min n 5 - 1))

/-- A line break inside a string stays as it is written; a return alone is refused. -/
def readMultiBasic : Nat → Text → Scanned
  | _, [] => .error (.expected "closing quotes")
  | skip + 1, _ :: t => readMultiBasic skip t
  | 0, c :: t =>
    if c = '"' then
      if quoteRun '"' t + 1 < 3 then (readMultiBasic 0 t).cons c else closeRun '"' (quoteRun '"' t + 1) t
    else if c = '\\' then
      if (lineBreak? (t.dropWhile isSpace)).isSome then readMultiBasic (blankRun t) t
      else match escape t with
        | .ok (e, n) => (readMultiBasic n t).cons e
        | .error f => .error f
    else if c = '\n' ∨ (c = '\r' ∧ t.head? = some '\n') then (readMultiBasic 0 t).cons c
    else if isControl c then .error (.badCharacter c)
    else (readMultiBasic 0 t).cons c

def readMultiLiteral : Text → Scanned
  | [] => .error (.expected "closing quotes")
  | c :: t =>
    if c = '\'' then
      if quoteRun '\'' t + 1 < 3 then (readMultiLiteral t).cons c else closeRun '\'' (quoteRun '\'' t + 1) t
    else if c = '\n' ∨ (c = '\r' ∧ t.head? = some '\n') then (readMultiLiteral t).cons c
    else if isControl c then .error (.badCharacter c)
    else (readMultiLiteral t).cons c

def readString? : Text → Option Scanned
  | '"' :: '"' :: '"' :: t => some (readMultiBasic 0 (dropLineBreak t))
  | '"' :: t => some (readBasic 0 t)
  | '\'' :: '\'' :: '\'' :: t => some (readMultiLiteral (dropLineBreak t))
  | '\'' :: t => some (readLiteral t)
  | _ => none

end TrackedText.Toml
