import TrackedText.Text
import TrackedText.Text.Unprintable
import TrackedText.Text.Extending

namespace TrackedText.Text

def hex (c : Char) : Text := Nat.toDigits 16 c.toNat

def quotedChar (c : Char) : Text :=
  match c with
  | '\t' => ['\\', 't']
  | '\r' => ['\\', 'r']
  | '\n' => ['\\', 'n']
  | '"' => ['\\', '"']
  | '\\' => ['\\', '\\']
  | '\x00' => ['\\', '0']
  | c => if isUnprintable c || isExtending c then ['\\', 'u', '{'] ++ hex c ++ ['}'] else [c]

def quoted (t : Text) : Text := '"' :: t.flatMap quotedChar ++ ['"']

end TrackedText.Text
