import TrackedText.Files
import TrackedText.Files.Path

namespace TrackedText

/-- Files by the parts of their absolute paths. Directories are those listed, those that files lie
in, and all above them. -/
structure FileTree where
  files : List (List Text × List UInt8)
  directories : List (List Text)

namespace FileTree

def maxName : Nat := 255

def maxPath : Nat := 4095

variable (tree : FileTree)

def isDirectory (place : List Text) : Bool :=
  place.isEmpty || (tree.directories ++ tree.files.map (·.1.dropLast)).any place.isPrefixOf

def walk : List Text → List Text → Except ReadFault (List Text)
  | place, [] => .ok place
  | place, part :: rest =>
    if !tree.isDirectory place then
      .error (if (tree.files.lookup place).isSome then .notDirectory else .missing)
    else if part.isEmpty || part == ['.'] then walk place rest
    else if part == ['.', '.'] then walk place.dropLast rest
    else if maxName < Text.byteSize part then .error .nameTooLong
    else walk (place ++ [part]) rest

def find (home : List Text) (path : Text) : Found := do
  if path.contains (Char.ofNat 0) then throw .nulInName
  if path.isEmpty then throw .missing
  if maxPath < Text.byteSize path then throw .nameTooLong
  let place ← tree.walk (if Path.isAbsolute path then [] else home) (Path.parts path)
  match tree.files.lookup place with
  | some bytes => return bytes
  | none => throw (if tree.isDirectory place then .isDirectory else .missing)

end FileTree

end TrackedText
