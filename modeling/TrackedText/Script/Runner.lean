import TrackedText.Document
import TrackedText.Script.Error
import TrackedText.Text.Quoted
import TrackedText.Text.Decimal

namespace TrackedText.Script

structure Runner where
  document : Document
  ranges : List (Text × RangeId)
  showText : Bool

inductive Warning
  | alreadyTracked (name : Text)
  | notTracked (name : Text)
  deriving DecidableEq, Repr

def Warning.message (line : Nat) : Warning → String
  | alreadyTracked name => s!"line {line}: range '" ++ String.ofList name ++ "' is already tracked"
  | notTracked name => s!"line {line}: range '" ++ String.ofList name ++ "' is not tracked"

/-- What has come of some steps. Warnings are given as they arise, so a failure takes none of them back; what was
shown is put together at the end, and a failure leaves nothing of it. -/
structure Run where
  runner : Runner
  warnings : List (Nat × Warning)
  result : Except Error Text

def Run.followedBy (a : Run) (next : Runner → Run) : Run :=
  match a.result with
  | .ok shown =>
    let b := next a.runner
    ⟨b.runner, a.warnings ++ b.warnings, b.result.map (shown ++ ·)⟩
  | .error _ => a

namespace Runner

def start (terminator : Char) (showText : Bool) : Runner := ⟨.ofText [] terminator, [], showText⟩

variable (r : Runner)

def find (name : Text) : Except Cause RangeId :=
  match r.ranges.lookup name with
  | some id => .ok id
  | none => .error (.unknownRange name)

def pairText (s : Span) : Text := "(".toList ++ Decimal.ofNat s.start ++ ", ".toList ++ Decimal.ofNat s.stop ++ [')']

def textLine : Text := "text: ".toList ++ Text.quoted r.document.story.text ++ ['\n']

def rangeLine (name : Text) (id : RangeId) : Text :=
  name ++ ": ".toList ++ pairText (r.document.bounds id)
    ++ (if r.document.registry.isTracked id then "" else " [detached]").toList ++ ['\n']

def selectionLine : Text :=
  let s := r.document.registry.selection
  "selection: ".toList ++ pairText s.span ++ " caret=".toList ++ Decimal.ofNat s.active ++ ['\n']

def display : Text :=
  (if r.showText then r.textLine else []) ++ r.ranges.flatMap (fun (name, id) => r.rangeLine name id)
    ++ r.selectionLine

def apply (c : Command) : Except Cause Runner :=
  match r.document.apply c with
  | .ok (_, document) => .ok { r with document }
  | .error e => .error (.range e)

def create (tracked : Bool) (name : Text) (first last : Position) : Except Cause Runner :=
  if (r.ranges.lookup name).isSome then .error (.duplicateRange name)
  else
    let (id, document) := r.document.createRange tracked first last
    .ok { r with document, ranges := r.ranges ++ [(name, id)] }

def moveRange (name : Text) (m : Span.Move) : Except Cause Runner := do
  let id ← r.find name
  return { r with document := r.document.moveRange id m }

def step : Step → Except Cause (Runner × Option Warning × Text)
  | .text t => do return (← r.apply (.replaceRange 0 r.document.story.length t), none, [])
  | .range name first last => do return (← r.create true name first last, none, [])
  | .detached name first last => do return (← r.create false name first last, none, [])
  | .attach name => do
    let (fresh, document) := r.document.attach (← r.find name)
    return ({ r with document }, if fresh then none else some (.alreadyTracked name), [])
  | .detach name => do
    let (found, document) := r.document.detach (← r.find name)
    return ({ r with document }, if found then none else some (.notTracked name), [])
  | .insert offset t => do return (← r.apply (.insertText offset t), none, [])
  | .delete first second => do return (← r.apply (.deleteRange first second), none, [])
  | .replace first second t => do return (← r.apply (.replaceRange first second t), none, [])
  | .setStart name p => do return (← r.moveRange name (.start p), none, [])
  | .setEnd name p => do return (← r.moveRange name (.stop p), none, [])
  | .collapse name toStart => do return (← r.moveRange name (.collapse toStart), none, [])
  | .setText name t => do
    match r.document.setText (← r.find name) t with
    | .ok document => return ({ r with document }, none, [])
    | .error e => throw (.range e)
  | .select name => do return ({ r with document := r.document.select (← r.find name) }, none, [])
  | .caret active other =>
    .ok ({ r with document := r.document.moveSelection (.both active other) }, none, [])
  | .display => .ok (r, none, r.display)

/-- A step that fails leaves the runner as it was. -/
def perform (line : Nat) (s : Step) : Run :=
  match r.step s with
  | .ok (runner, warning?, shown) => ⟨runner, warning?.toList.map (line, ·), .ok shown⟩
  | .error cause => ⟨r, [], .error ⟨line, cause⟩⟩

def run (r : Runner) : List (Nat × Step) → Run
  | [] => ⟨r, [], .ok []⟩
  | (line, s) :: steps => (r.perform line s).followedBy (run · steps)

end Runner

end TrackedText.Script
