import TrackedText.Span
import TrackedText.Text.Chunks

namespace TrackedText

/-- The text of a document and the terminator that closes it, stored together. The length counts the
characters of both and is kept beside them. -/
structure Story where
  buffer : Chunks
  terminator : Char
  length : Nat

namespace Story

def defaultTerminator : Char := '\r'

def ofText (t : Text) (terminator : Char) : Story := ⟨[t, [terminator]], terminator, t.length + 1⟩

instance : Inhabited Story := ⟨ofText [] defaultTerminator⟩

variable (s : Story)

def content : Text := s.buffer.flatten

def text : Text := s.buffer.slice 0 (s.buffer.byteSize - s.terminator.utf8Size)

def byteOffset (o : Nat) : Nat :=
  if s.length ≤ o then s.buffer.byteSize else s.buffer.byteOffset o

def slice (start stop : Nat) : Text :=
  let start := min start s.length
  let stop := max (min stop s.length) start
  s.buffer.slice (s.byteOffset start) (s.byteOffset stop)

/-- Nothing is put after the terminator. The answer is where the text went and its length. -/
def insert (offset : Nat) (t : Text) : (Nat × Nat) × Story :=
  let offset := min offset (s.length - 1)
  let byte := s.byteOffset offset
  ((offset, t.length),
    if t.isEmpty then s
    else { s with buffer := s.buffer.splice byte byte t, length := s.length + t.length })

/-- The terminator is never taken out. The answer is the interval that was. -/
def delete (start stop : Nat) : Span × Story :=
  let stop := min stop (s.length - 1)
  let start := min start stop
  (⟨start, stop⟩,
    if start = stop then s
    else { s with
      buffer := s.buffer.splice (s.byteOffset start) (s.byteOffset stop) []
      length := s.length - (stop - start) })

end Story

end TrackedText
