import TrackedText.Mutation

namespace TrackedText

inductive ActiveEnd
  | start
  | stop
  deriving DecidableEq, Repr

structure Selection where
  span : Span
  activeEnd : ActiveEnd
  detached : Bool
  deriving DecidableEq, Repr

namespace Selection

def caret (x : Extent) (o : Nat) : Selection := ⟨.caret x o, .stop, false⟩

variable (s : Selection)

def active : Nat :=
  match s.activeEnd with
  | .start => s.span.start
  | .stop => s.span.stop

def anchor : Nat :=
  match s.activeEnd with
  | .start => s.span.stop
  | .stop => s.span.start

/-- Moves of the span leave the active end alone, except that `both` puts the caret at its first
position. -/
def move (x : Extent) (m : Span.Move) : Selection :=
  { s with
    span := s.span.move x m
    activeEnd := match m with
      | .both active other => if x.clamp active < x.clamp other then .start else .stop
      | _ => s.activeEnd }

def select (span : Span) : Selection := { s with span, activeEnd := .stop }

def adjust (m : Mutation) : Selection := { s with span := s.span.adjust m }

def detach : Selection := { s with detached := true }

end Selection

end TrackedText
