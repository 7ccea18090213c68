import TrackedText.Text.Utf8

namespace TrackedText

inductive ReadFault
  | missing
  | notDirectory
  | isDirectory
  | nameTooLong
  | nulInName
  | notUtf8
  | unreachable (message : String)
  | other (message : String)
  deriving DecidableEq, Repr

def ReadFault.message : ReadFault → String
  | missing => "No such file or directory (os error 2)"
  | notDirectory => "Not a directory (os error 20)"
  | isDirectory => "Is a directory (os error 21)"
  | nameTooLong => "File name too long (os error 36)"
  | nulInName => "file name contained an unexpected NUL byte"
  | notUtf8 => "stream did not contain valid UTF-8"
  | unreachable message => message
  | other message => message

abbrev Found := Except ReadFault (List UInt8)

/-- A directory is there too, only it cannot be read, and so is a file that is refused or breaks off. -/
def Found.isThere : Found → Bool
  | .ok _ => true
  | .error .isDirectory => true
  | .error .notUtf8 => true
  | .error (.other _) => true
  | .error _ => false

def readText (bytes : List UInt8) : Except ReadFault Text :=
  (Utf8.decode bytes).mapError fun _ => .notUtf8

def Found.text (f : Found) : Except ReadFault Text := f.bind readText

end TrackedText
