import TrackedText.Offset

namespace TrackedText

inductive RangeError
  | detached
  | foreignDocument
  | malformedDeletion (start stop : Nat)
  deriving DecidableEq, Repr

def RangeError.message : RangeError → String
  | detached => "the document owning this range has been released"
  | foreignDocument => "the range belongs to a different document"
  | malformedDeletion start stop => s!"malformed deletion {start}..{stop}"

end TrackedText
