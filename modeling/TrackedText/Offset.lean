namespace TrackedText

/-- A place as a caller asks for it, which may lie outside the story. Offsets, by contrast, are the
places between two characters of a story, counted from its start. -/
abbrev Position := Int

def wordCount : Nat := Nat.pow 2 64

/-- Read as positions, offsets from half of the words on are negative. -/
def Position.ofOffset (o : Nat) : Position := Int.bmod o wordCount

/-- The offsets `0 … length` of one story, its closing terminator included. -/
structure Extent where
  length : Nat
  deriving DecidableEq, Repr

namespace Extent

def ofLength (n : Nat) : Extent := ⟨max n 1⟩

instance : Inhabited Extent := ⟨⟨1⟩⟩

variable (x : Extent)

def terminator : Nat := x.length - 1

def clamp (p : Position) : Nat := min p.toNat x.length

def narrow (o : Nat) : Nat := min o x.length

/-- The part of a deletion that spares the terminator. -/
def narrowDeletion (start stop : Nat) : Nat × Nat :=
  (min start (min stop x.terminator), min stop x.terminator)

def grow (n : Nat) : Extent := ⟨x.length + n⟩

def shrink (start stop : Nat) : Extent := ⟨x.length - (stop - start)⟩

end Extent

end TrackedText
