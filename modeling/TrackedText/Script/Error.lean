import TrackedText.RangeError
import TrackedText.Script.Step

namespace TrackedText.Script

inductive Argument
  | rangeName | firstPosition | lastPosition | offset | startOffset | endOffset
  | position | side | activePosition | otherPosition
  deriving DecidableEq, Repr

def Argument.description : Argument → String
  | rangeName => "a range name"
  | firstPosition => "a first position"
  | lastPosition => "a last position"
  | offset => "an offset"
  | startOffset => "a start offset"
  | endOffset => "an end offset"
  | position => "a position"
  | side => "start or end"
  | activePosition => "an active position"
  | otherPosition => "an other position"

inductive Cause
  | unknownCommand (word : Text)
  | missingArgument (k : Keyword) (a : Argument)
  | badNumber (word : Text)
  | unknownRange (name : Text)
  | duplicateRange (name : Text)
  | range (e : RangeError)
  deriving DecidableEq, Repr

def Cause.message : Cause → String
  | unknownCommand word => "unknown command '" ++ String.ofList word ++ "'"
  | missingArgument k a => k.word ++ " expects " ++ a.description
  | badNumber word => "'" ++ String.ofList word ++ "' is not a valid position"
  | unknownRange name => "no range named '" ++ String.ofList name ++ "'"
  | duplicateRange name => "a range named '" ++ String.ofList name ++ "' already exists"
  | range e => e.message

structure Error where
  line : Nat
  cause : Cause
  deriving DecidableEq, Repr

def Error.message (e : Error) : String := s!"line {e.line}: " ++ e.cause.message

end TrackedText.Script
