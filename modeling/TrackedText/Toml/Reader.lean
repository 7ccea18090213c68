import TrackedText.Toml.Scalar
import TrackedText.Toml.Value

namespace TrackedText.Toml

def dropSpaces (t : Text) : Text := t.dropWhile isSpace

def isBareKeyChar (c : Char) : Bool :=
  ('a' ≤ c && c ≤ 'z') || ('A' ≤ c && c ≤ 'Z') || isDecimalDigit c || c == '_' || c == '-'

def isBareValueChar (c : Char) : Bool := isBareKeyChar c || c == '+' || c == '.' || c == ':'

/-- Skips blanks, line breaks and comments; `inside` a comment everything up to the line break
goes too. -/
def dropTrivia : (inside : Bool) → Text → Text
  | _, [] => []
  | _, '\n' :: t => dropTrivia false t
  | _, '\r' :: '\n' :: t => dropTrivia false t
  | true, c :: t => if isControl c then c :: t else dropTrivia true t
  | false, c :: t =>
    if isSpace c then dropTrivia false t else if c = '#' then dropTrivia true t else c :: t

def endLine (t : Text) : Except Fault Text :=
  let t := dropSpaces t
  let t := if t.head? = some '#' then t.dropWhile fun c => !isControl c else t
  match lineBreak? t with
  | some t => .ok t
  | none => if t.isEmpty then .ok [] else .error (.expected "a line break")

def readChar (c : Char) (t : Text) : Except Fault Text :=
  match char? c t with
  | some t => .ok t
  | none => .error (.expected (c.toString.quote))

def readKey (t : Text) : Scanned :=
  match t with
  | '"' :: t => readBasic 0 t
  | '\'' :: t => readLiteral t
  | t =>
    let key := t.takeWhile isBareKeyChar
    if key.isEmpty then .error (.expected "a key") else .ok (key, t.dropWhile isBareKeyChar)

/-- How many keys a path may have, and how deep brackets and braces may be nested. -/
def maxDepth : Nat := 80

def readPath : (room : Nat) → Text → Except Fault (List Text × Text × Text)
  | 0, _ => .error .tooDeep
  | room + 1, t => do
    let (key, t) ← readKey t
    match dropSpaces t with
    | '.' :: t =>
      let (path, last, t) ← readPath room (dropSpaces t)
      return (key :: path, last, t)
    | t => return ([], key, t)

def takeBare (t : Text) : Text × Text :=
  let word := t.takeWhile isBareValueChar
  let rest := t.dropWhile isBareValueChar
  match dropDate? word, rest with
  | some [], ' ' :: c :: more =>
    if isDecimalDigit c then
      (word ++ ' ' :: (c :: more).takeWhile isBareValueChar, (c :: more).dropWhile isBareValueChar)
    else (word, rest)
  | _, _ => (word, rest)

def bareValue? (t : Text) : Option Value :=
  if t = "true".toList then some (.boolean true)
  else if t = "false".toList then some (.boolean false)
  else if isInteger t then some (.integer t)
  else if isFloat t then some (.float t)
  else if isMoment t then some (.moment t)
  else none

mutual

def readValue : (fuel room : Nat) → Text → Except Fault (Value × Text)
  | 0, _, _ => .error (.expected "a value")
  | fuel + 1, room, t =>
    match readString? t with
    | some s => s.map fun (s, t) => (.text s, t)
    | none =>
      match t, room with
      | '[' :: t, room + 1 => (readItems fuel room (dropTrivia false t)).map fun (vs, t) => (.list vs, t)
      | '\x7b' :: t, room + 1 =>
        (readFields fuel room [] (dropTrivia false t)).map fun (es, t) => (.table .inline es, t)
      | '[' :: _, 0 => .error .tooDeep
      | '\x7b' :: _, 0 => .error .tooDeep
      | t, _ =>
        match bareValue? (takeBare t).1 with
        | some v => .ok (v, (takeBare t).2)
        | none => .error (.expected "a value")

def readItems : (fuel room : Nat) → Text → Except Fault (List Value × Text)
  | 0, _, _ => .error (.expected "a value")
  | fuel + 1, room, t =>
    match t with
    | ']' :: t => .ok ([], t)
    | t => do
      let (v, t) ← readValue fuel room t
      match dropTrivia false t with
      | ',' :: t =>
        let (vs, t) ← readItems fuel room (dropTrivia false t)
        return (v :: vs, t)
      | ']' :: t => return ([v], t)
      | _ => throw (.expected "a comma or a closing bracket")

/-- The fields of an inline table up to its closing brace; a comma may stand before it. Line breaks
and comments may stand anywhere but inside a path. -/
def readFields : (fuel room : Nat) → Entries → Text → Except Fault (Entries × Text)
  | 0, _, _, _ => .error (.expected "a key")
  | fuel + 1, room, es, t =>
    match t with
    | '\x7d' :: t => .ok (es, t)
    | t => do
      let (path, key, t) ← readPath maxDepth t
      let t ← readChar '=' (dropTrivia false t)
      let (v, t) ← readValue fuel room (dropTrivia false t)
      let es ← Entries.insert path key v .inline es
      match dropTrivia false t with
      | ',' :: t => readFields fuel room es (dropTrivia false t)
      | '\x7d' :: t => return (es, t)
      | _ => throw (.expected "a comma or a closing brace")

end

def readLines : (fuel : Nat) → (header : List Text) → Entries → Text → Except Fault Entries
  | 0, _, es, _ => .ok es
  | fuel + 1, header, es, t =>
    match dropSpaces t with
    | [] => .ok es
    | '[' :: '[' :: t => do
      let (path, key, t) ← readPath maxDepth (dropSpaces t)
      let t ← readChar ']' t
      let t ← readChar ']' t
      let es ← es.openListed path key
      readLines fuel (path ++ [key]) es (← endLine t)
    | '[' :: t => do
      let (path, key, t) ← readPath maxDepth (dropSpaces t)
      let t ← readChar ']' t
      let es ← es.openTable path key
      readLines fuel (path ++ [key]) es (← endLine t)
    | t =>
      if t.head? = some '#' ∨ (lineBreak? t).isSome then do readLines fuel header es (← endLine t)
      else do
        let (path, key, t) ← readPath maxDepth t
        let t ← readChar '=' t
        let (v, t) ← readValue fuel maxDepth (dropSpaces t)
        let es ← es.insertUnder header path key v
        readLines fuel header es (← endLine t)

/-- The top table of a document. Every step of the reader takes a character or leads to one that
does, so twice the length is fuel enough. -/
def read (t : Text) : Except Fault Entries :=
  let t := if t.head? = some (Char.ofNat 0xfeff) then t.tail else t
  readLines (2 * t.length + 2) [] [] t

end TrackedText.Toml
