import TrackedText.Text

namespace TrackedText

structure Environment where
  entries : List (Text × Text)

namespace Environment

variable (env : Environment)

def get? (name : Text) : Option Text := env.entries.lookup name

/-- An empty home is none. The table of accounts, where a home could still be looked up then, is left out. -/
def home? : Option Text := (env.get? "HOME".toList).filter fun t => !t.isEmpty

end Environment

end TrackedText
