import TrackedText.Text

namespace TrackedText.Toml

inductive Fault
  | expected (what : String)
  | badEscape
  | badCharacter (c : Char)
  | duplicateKey (key : Text)
  | notExtensible (key : Text)
  | tooDeep
  deriving DecidableEq, Repr

def Fault.message : Fault → String
  | expected what => "expected " ++ what
  | badEscape => "invalid escape sequence"
  | badCharacter c => s!"invalid character with code {c.toNat}"
  | duplicateKey key => "duplicate key '" ++ String.ofList key ++ "'"
  | notExtensible key => "cannot extend '" ++ String.ofList key ++ "'"
  | tooDeep => "nested too deep"

/-- Controls may not stand in strings or comments; the tab may. -/
def isControl (c : Char) : Bool := (c.toNat < 0x20 && c != '\t') || c.toNat == 0x7f

end TrackedText.Toml
