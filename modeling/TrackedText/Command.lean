import TrackedText.Mutation
import TrackedText.Story

namespace TrackedText

inductive Command
  | insertText (offset : Nat) (t : Text)
  | deleteRange (first second : Nat)
  | replaceRange (first second : Nat) (t : Text)
  deriving DecidableEq, Repr

inductive StoryEdit
  | insert (offset : Nat) (t : Text)
  | delete (start stop : Nat)
  deriving DecidableEq, Repr

namespace Command

def insertion (s : Story) (offset : Nat) (t : Text) : List StoryEdit :=
  if t.isEmpty then [] else [.insert (min offset (s.length - 1)) t]

def deletion (s : Story) (first second : Nat) : List StoryEdit :=
  let stop := min (max first second) (s.length - 1)
  let start := min (min first second) stop
  if start < stop then [.delete start stop] else []

def edits (s : Story) : Command → List StoryEdit
  | insertText offset t => insertion s offset t
  | deleteRange first second => deletion s first second
  | replaceRange first second t => deletion s first second ++ insertion s (min first second) t

end Command

end TrackedText
