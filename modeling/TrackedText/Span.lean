import TrackedText.Offset

namespace TrackedText

/-- The characters between two offsets. The fields alone promise no order: a span may be read from
outside, or outlive the story it was made for. -/
structure Span where
  start : Nat
  stop : Nat
  deriving DecidableEq, Repr, Inhabited

namespace Span

variable (x : Extent) (s : Span)

/-- The second position is raised to the first when they come reversed. -/
def ofPositions (first last : Position) : Span :=
  ⟨x.clamp first, max (x.clamp last) (x.clamp first)⟩

def between (active other : Position) : Span :=
  ⟨min (x.clamp active) (x.clamp other), max (x.clamp active) (x.clamp other)⟩

def caret (o : Nat) : Span := ⟨x.narrow o, x.narrow o⟩

def length : Nat := s.stop - s.start

def isCollapsed : Bool := s.start == s.stop

def isWithin (outer : Span) : Bool := outer.start ≤ s.start && s.stop ≤ outer.stop

/-- The span as the story shows it now. -/
def narrow : Span := ⟨x.narrow s.start, max (x.narrow s.stop) (x.narrow s.start)⟩

def setStart (p : Position) : Span :=
  ⟨min (x.clamp p) (s.narrow x).stop, (s.narrow x).stop⟩

def setStop (p : Position) : Span :=
  ⟨(s.narrow x).start, max (x.clamp p) (s.narrow x).start⟩

def collapse (toStart : Bool) : Span := if toStart then ⟨s.start, s.start⟩ else ⟨s.stop, s.stop⟩

inductive Move
  | start (p : Position)
  | stop (p : Position)
  | both (active other : Position)
  | collapse (toStart : Bool)
  deriving DecidableEq, Repr

def move : Move → Span
  | .start p => s.setStart x p
  | .stop p => s.setStop x p
  | .both active other => between x active other
  | .collapse toStart => s.collapse toStart

end Span

end TrackedText
