import TrackedText.Script.Step
import TrackedText.Text.Decimal

namespace TrackedText.Script

open Decimal

def Step.arguments : Step → List Text
  | text t => [t]
  | range name first last => [name, ofInt first, ofInt last]
  | detached name first last => [name, ofInt first, ofInt last]
  | attach name => [name]
  | detach name => [name]
  | insert offset t => [ofNat offset, t]
  | delete first second => [ofNat first, ofNat second]
  | replace first second t => [ofNat first, ofNat second, t]
  | setStart name p => [name, ofInt p]
  | setEnd name p => [name, ofInt p]
  | collapse name toStart => [name, (if toStart then "start" else "end").toList]
  | setText name t => [name, t]
  | select name => [name]
  | caret active other => [ofInt active, ofInt other]
  | display => []

def Step.render (s : Step) : Text := s.keyword.word.toList ++ s.arguments.flatMap (' ' :: ·)

def render (steps : List Step) : Text := List.intercalate ['\n'] (steps.map Step.render)

end TrackedText.Script
