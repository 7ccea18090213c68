import TrackedText.Offset
import TrackedText.Text

namespace TrackedText.Script

inductive Keyword
  | text | range | detached | attach | detach | insert | delete | replace
  | setStart | setEnd | collapse | setText | select | caret | display
  deriving DecidableEq, Repr

namespace Keyword

def all : List Keyword :=
  [text, range, detached, attach, detach, insert, delete, replace, setStart, setEnd, collapse, setText,
    select, caret, display]

def word : Keyword → String
  | text => "text"
  | range => "range"
  | detached => "detached"
  | attach => "attach"
  | detach => "detach"
  | insert => "insert"
  | delete => "delete"
  | replace => "replace"
  | setStart => "set-start"
  | setEnd => "set-end"
  | collapse => "collapse"
  | setText => "settext"
  | select => "select"
  | caret => "caret"
  | display => "show"

def ofWord? (t : Text) : Option Keyword := all.find? fun k => k.word.toList == t

end Keyword

inductive Step
  | text (t : Text)
  | range (name : Text) (first last : Position)
  | detached (name : Text) (first last : Position)
  | attach (name : Text)
  | detach (name : Text)
  | insert (offset : Nat) (t : Text)
  | delete (first second : Nat)
  | replace (first second : Nat) (t : Text)
  | setStart (name : Text) (p : Position)
  | setEnd (name : Text) (p : Position)
  | collapse (name : Text) (toStart : Bool)
  | setText (name : Text) (t : Text)
  | select (name : Text)
  | caret (active other : Position)
  | display
  deriving DecidableEq, Repr

def Step.keyword : Step → Keyword
  | text _ => .text
  | range _ _ _ => .range
  | detached _ _ _ => .detached
  | attach _ => .attach
  | detach _ => .detach
  | insert _ _ => .insert
  | delete _ _ => .delete
  | replace _ _ _ => .replace
  | setStart _ _ => .setStart
  | setEnd _ _ => .setEnd
  | collapse _ _ => .collapse
  | setText _ _ => .setText
  | select _ => .select
  | caret _ _ => .caret
  | display => .display

end TrackedText.Script
