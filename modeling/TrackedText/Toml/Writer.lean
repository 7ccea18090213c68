import TrackedText.Toml.Strings

namespace TrackedText.Toml

inductive Form
  | basic
  | literal
  | multiBasic
  | multiLiteral
  deriving DecidableEq, Repr

def needsEscape (t : Text) : Bool := t.any fun c => isControl c && c != '\n'

def longestRun (q : Char) : Text → Nat
  | [] => 0
  | c :: t => max (quoteRun q (c :: t)) (longestRun q t)

/-- The first form that shows the string unescaped; failing that, a basic one with escapes. -/
def formOf (t : Text) : Form :=
  let plain := !needsEscape t
  let oneLine := !t.contains '\n'
  let unslashed := !t.contains '\\'
  if plain && unslashed && oneLine && !t.contains '"' then .basic
  else if plain && oneLine && !t.contains '\'' then .literal
  else if plain && unslashed && longestRun '"' t ≤ 2 then .multiBasic
  else if plain && longestRun '\'' t ≤ 2 then .multiLiteral
  else if oneLine then .basic
  else .multiBasic

def upperHex (c : Char) : Text :=
  let digits := (Nat.toDigits 16 c.toNat).map Char.toUpper
  List.replicate (4 - digits.length) '0' ++ digits

def writtenChar (multi : Bool) (c : Char) : Text :=
  if c = '\x08' then ['\\', 'b']
  else if c = '\t' then ['\\', 't']
  else if c = '\n' then if multi then ['\n'] else ['\\', 'n']
  else if c = '\x0c' then ['\\', 'f']
  else if c = '\r' then ['\\', 'r']
  else if c = '\\' then ['\\', '\\']
  else if isControl c then ['\\', 'u'] ++ upperHex c
  else [c]

/-- The body of a basic form. On one line every quote is escaped, over several only the third of
those in a row; `quotes` counts the ones just written. -/
def writeBasic (multi : Bool) (quotes : Nat) : Text → Text
  | [] => []
  | c :: t =>
    if c = '"' then
      if multi && quotes < 2 then '"' :: writeBasic multi (quotes + 1) t
      else '\\' :: '"' :: writeBasic multi 0 t
    else writtenChar multi c ++ writeBasic multi 0 t

def opening (t : Text) : Text := if t.contains '\n' then ['\n'] else []

def writeString (t : Text) : Text :=
  match formOf t with
  | .basic => "\"".toList ++ writeBasic false 0 t ++ "\"".toList
  | .literal => "'".toList ++ t ++ "'".toList
  | .multiBasic => "\"\"\"".toList ++ opening t ++ writeBasic true 0 t ++ "\"\"\"".toList
  | .multiLiteral => "'''".toList ++ opening t ++ t ++ "'''".toList

end TrackedText.Toml
