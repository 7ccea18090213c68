import TrackedText.RangeError
import TrackedText.Span

namespace TrackedText

inductive Mutation
  | insert (offset : Nat) (count : Nat)
  | delete (start stop : Nat)
  deriving DecidableEq, Repr

namespace Mutation

def delta : Mutation → Int
  | insert _ n => Int.bmod n wordCount
  | delete start stop => Int.bmod (start - stop) wordCount

def isNoop : Mutation → Bool
  | insert _ n => n == 0
  | delete start stop => start == stop

def IsWellFormed : Mutation → Prop
  | insert _ _ => True
  | delete start stop => start ≤ stop

instance : DecidablePred IsWellFormed
  | insert _ _ => instDecidableTrue
  | delete start stop => Nat.decLe start stop

def cutPoint (start stop o : Nat) : Nat :=
  if o ≤ start then o else if stop ≤ o then o - (stop - start) else start

/-- Where a single point lands. One at the very place of an insertion stays before it. -/
def point : Mutation → Nat → Nat
  | insert offset n, o => if offset < o then o + n else o
  | delete start stop, o => cutPoint start stop o

end Mutation

/-- A span grows by what is inserted at its start or inside it, not by what comes at its end. -/
def Span.adjust (m : Mutation) (s : Span) : Span :=
  match m with
  | .insert offset n =>
    if offset < s.start then ⟨s.start + n, s.stop + n⟩
    else if offset < s.stop then ⟨s.start, s.stop + n⟩
    else s
  | .delete start stop => ⟨Mutation.cutPoint start stop s.start, Mutation.cutPoint start stop s.stop⟩

/-- What `adjust` comes to for a caller who may report a deletion with its ends reversed. -/
def Span.tryAdjust (m : Mutation) (s : Span) : Except RangeError Span :=
  match m with
  | .insert _ _ => .ok (s.adjust m)
  | .delete start stop => if stop < start then .error (.malformedDeletion start stop) else .ok (s.adjust m)

end TrackedText
