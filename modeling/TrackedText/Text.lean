namespace TrackedText

/-- A text is the list of its characters, so offsets count characters and never bytes. -/
abbrev Text := List Char

namespace Text

def slice (start stop : Nat) (t : Text) : Text := (t.take stop).drop start

def byteSize : Text → Nat
  | [] => 0
  | c :: t => c.utf8Size + byteSize t

def takeBytes : Nat → Text → Text
  | _, [] => []
  | n, c :: t => if c.utf8Size ≤ n then c :: takeBytes (n - c.utf8Size) t else []

def dropBytes : Nat → Text → Text
  | _, [] => []
  | n, c :: t => if c.utf8Size ≤ n then dropBytes (n - c.utf8Size) t else c :: t

/-- The lines of a text. A newline closes its line, with a carriage return right before it where there is one;
at the very end it opens no further line. -/
def lines : Text → List Text
  | [] => []
  | '\n' :: t => [] :: lines t
  | '\r' :: '\n' :: t => [] :: lines t
  | c :: t =>
    match lines t with
    | [] => [[c]]
    | l :: ls => (c :: l) :: ls

def splitOnce (p : Char → Bool) : Text → Option (Text × Text)
  | [] => none
  | c :: t => if p c then some ([], t) else (splitOnce p t).map fun (a, b) => (c :: a, b)

def dropTrailing (p : Char → Bool) (t : Text) : Text := (t.reverse.dropWhile p).reverse

end Text

end TrackedText
