import TrackedText.Script.Error
import TrackedText.Text.Blank
import TrackedText.Text.Decimal

namespace TrackedText.Script

/-- The first word of a text, and what follows the one blank that ends it. -/
def nextWord (t : Text) : Text × Text :=
  let t := t.dropWhile Text.isBlank
  (Text.splitOnce Text.isBlank t).getD (t, [])

abbrev Arguments := StateT Text (Except Cause)

namespace Arguments

variable (k : Keyword) (a : Argument)

def word : Arguments Text := fun t =>
  match nextWord t with
  | ([], _) => .error (.missingArgument k a)
  | (w, rest) => .ok (w, rest)

def number {α : Type} (read? : Text → Option α) : Arguments α := do
  let w ← word k a
  match read? w with
  | some n => return n
  | none => throw (.badNumber w)

def name : Arguments Text := word k .rangeName

def position : Arguments Position := number k a Decimal.position?

def offset : Arguments Nat := number k a Decimal.offset?

def side : Arguments Bool := do
  let w ← word k .side
  if w = "start".toList then return true
  else if w = "end".toList then return false
  else throw (.missingArgument k .side)

def text : Arguments Text := get

def step : Keyword → Arguments Step
  | .text => return .text (← text)
  | .range => return .range (← name .range) (← position .range .firstPosition) (← position .range .lastPosition)
  | .detached =>
    return .detached (← name .detached) (← position .detached .firstPosition)
      (← position .detached .lastPosition)
  | .attach => return .attach (← name .attach)
  | .detach => return .detach (← name .detach)
  | .insert => return .insert (← offset .insert .offset) (← text)
  | .delete => return .delete (← offset .delete .startOffset) (← offset .delete .endOffset)
  | .replace =>
    return .replace (← offset .replace .startOffset) (← offset .replace .endOffset) (← text)
  | .setStart => return .setStart (← name .setStart) (← position .setStart .position)
  | .setEnd => return .setEnd (← name .setEnd) (← position .setEnd .position)
  | .collapse => return .collapse (← name .collapse) (← side .collapse)
  | .setText => return .setText (← name .setText) (← text)
  | .select => return .select (← name .select)
  | .caret => return .caret (← position .caret .activePosition) (← position .caret .otherPosition)
  | .display => return .display

end Arguments

def parseCommand (t : Text) : Except Cause Step :=
  let (w, rest) := nextWord t
  match Keyword.ofWord? w with
  | some k => (Arguments.step k).run' rest
  | none => .error (.unknownCommand w)

/-- Blank lines and those that start with a hash hold no command. Carriage returns at the end of a
line belong to the line break. -/
def parseLine (line : Text) : Except Cause (Option Step) :=
  match line.dropWhile Text.isBlank with
  | [] => .ok none
  | '#' :: _ => .ok none
  | t => (parseCommand (Text.dropTrailing (· == '\r') t)).map some

def parseLines (n : Nat) : List Text → Except Error (List (Nat × Step))
  | [] => .ok []
  | l :: ls => do
    let step? ← (parseLine l).mapError (⟨n, ·⟩)
    let rest ← parseLines (n + 1) ls
    return step?.toList.map (n, ·) ++ rest

def parse (source : Text) : Except Error (List (Nat × Step)) := parseLines 1 (Text.lines source)

end TrackedText.Script
