namespace TrackedText

/-- Code points as closed intervals in ascending order. -/
abbrev CodeRanges := List (Nat × Nat)

def CodeRanges.contains (n : Nat) : CodeRanges → Bool
  | [] => false
  | (lo, hi) :: rest => if n < lo then false else n ≤ hi || contains n rest

end TrackedText
