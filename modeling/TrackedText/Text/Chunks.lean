import TrackedText.Text

namespace TrackedText

/-- A text in pieces, addressed in bytes. Pieces may be empty. -/
abbrev Chunks := List Text

namespace Chunks

def byteSize : Chunks → Nat
  | [] => 0
  | c :: cs => Text.byteSize c + byteSize cs

/-- The byte at which the character at `offset` starts, or the end of the text. -/
def byteOffset : Chunks → Nat → Nat
  | [], _ => 0
  | c :: cs, offset =>
    if offset < c.length then Text.byteSize (c.take offset)
    else Text.byteSize c + byteOffset cs (offset - c.length)

def takeBytes : Nat → Chunks → Chunks
  | _, [] => []
  | n, c :: cs =>
    if Text.byteSize c ≤ n then c :: takeBytes (n - Text.byteSize c) cs else [Text.takeBytes n c]

def dropBytes : Nat → Chunks → Chunks
  | _, [] => []
  | n, c :: cs =>
    if Text.byteSize c ≤ n then dropBytes (n - Text.byteSize c) cs else Text.dropBytes n c :: cs

def slice (start stop : Nat) (cs : Chunks) : Text := (dropBytes start (takeBytes stop cs)).flatten

def splice (start stop : Nat) (t : Text) (cs : Chunks) : Chunks :=
  takeBytes start cs ++ t :: dropBytes stop cs

end Chunks

end TrackedText
