import TrackedText.Text

namespace TrackedText.Path

def isAbsolute (t : Text) : Bool := t.head? == some '/'

def join (base t : Text) : Text :=
  if isAbsolute t then t
  else if base.isEmpty || base.getLast? == some '/' then base ++ t
  else base ++ '/' :: t

def parts : Text → List Text
  | [] => [[]]
  | c :: t =>
    if c = '/' then [] :: parts t
    else match parts t with
      | [] => [[c]]
      | p :: ps => (c :: p) :: ps

end TrackedText.Path
