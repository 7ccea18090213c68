import TrackedText.Text.Utf8
import TrackedText.World

namespace TrackedText.World

inductive DocumentCall
  | apply (c : Command)
  | info
  | createRange (tracked : Bool) (name : String) (first last : Position)
  | attach (handle : String)
  | detach (handle : String)
  | selection (name : String)

inductive HandleCall
  | start
  | stop
  | length
  | storyLength
  | bounds
  | isCollapsed
  | isAttached
  | text
  | move (m : Span.Move)
  | setText (t : Text)
  | deleteText
  | select
  | duplicate (name : String)
  | inStory (other : String)
  | isEqual (other : String)
  | inRange (other : String)

inductive SelectionCall
  | start
  | stop
  | active
  | anchor
  | storyLength
  | bounds
  | activeEnd
  | isCollapsed
  | text
  | move (m : Span.Move)

inductive Call
  | openText (name : String) (t : Text) (terminator : Char)
  | openBytes (name : String) (bytes : List UInt8)
  | dropDocument (name : String)
  | document (name : String) (c : DocumentCall)
  | cloneHandle (name other : String)
  | dropHandle (name : String)
  | handle (name : String) (c : HandleCall)
  | selection (name : String) (c : SelectionCall)

structure Info where
  storyCount : Nat
  terminator : Char
  storyLength : Nat
  version : Nat

inductive Answer
  | nothing
  | number (n : Nat)
  | flag (b : Bool)
  | text (t : Text)
  | span (s : Span)
  | activeEnd (e : ActiveEnd)
  | patch (p : Patch)
  | info (i : Info)

inductive Fault
  | unknownName (name : String)
  | notUtf8 (f : Utf8.Fault)
  | range (e : RangeError)

def resolve {α : Type} (xs : Named α) (name : String) : Except Fault α :=
  match xs.get? name with
  | some a => .ok a
  | none => .error (.unknownName name)

def refuse {α : Type} : Except RangeError α → Except Fault α := Except.mapError .range

variable (w : World)

def ensureOwned (o : OpenDocument) (h : Handle) : Except Fault Unit :=
  if h.document = o.id then .ok () else .error (.range .foreignDocument)

def runDocument (o : OpenDocument) : DocumentCall → Except Fault (Answer × World)
  | .apply c => do
    let (p, d) ← refuse (o.document.apply c)
    return (.patch p, w.setDocument o.id d)
  | .info =>
    let d := o.document
    .ok (.info ⟨1, d.story.terminator, d.story.length, d.version⟩, w)
  | .createRange tracked name first last =>
    let (id, d) := o.document.createRange tracked first last
    .ok (.nothing, (w.setDocument o.id d).hold name ⟨o.id, id⟩)
  | .attach handle => do
    let h ← resolve w.handles handle
    ensureOwned o h
    let (fresh, d) := o.document.attach h.range
    return (.flag fresh, w.setDocument o.id d)
  | .detach handle => do
    let h ← resolve w.handles handle
    ensureOwned o h
    let (found, d) := o.document.detach h.range
    return (.flag found, w.setDocument o.id d)
  | .selection name => .ok (.nothing, { w with selections := w.selections.put name o.id })

def runHandle (h : Handle) (c : HandleCall) : Except Fault (Answer × World) := do
  let d ← refuse (w.live h.document)
  let s := d.bounds h.range
  match c with
  | .start => return (.number s.start, w)
  | .stop => return (.number s.stop, w)
  | .length => return (.number s.length, w)
  | .storyLength => return (.number d.story.length, w)
  | .bounds => return (.span s, w)
  | .isCollapsed => return (.flag s.isCollapsed, w)
  | .isAttached => return (.flag (d.registry.isTracked h.range), w)
  | .text => return (.text (d.rangeText h.range), w)
  | .move m => return (.nothing, w.setDocument h.document (d.moveRange h.range m))
  | .setText t =>
    let d ← refuse (d.setText h.range t)
    return (.nothing, w.setDocument h.document d)
  | .deleteText =>
    let (n, d) ← refuse (d.deleteText h.range)
    return (.number n, w.setDocument h.document d)
  | .select => return (.nothing, w.setDocument h.document (d.select h.range))
  | .duplicate name =>
    let (id, d) := d.duplicate h.range
    return (.nothing, (w.setDocument h.document d).hold name ⟨h.document, id⟩)
  | .inStory other =>
    let g ← resolve w.handles other
    return (.flag (g.document == h.document), w)
  | .isEqual other =>
    let g ← resolve w.handles other
    return (.flag (g.document == h.document && s == d.bounds g.range), w)
  | .inRange other =>
    let g ← resolve w.handles other
    return (.flag (g.document == h.document && s.isWithin (d.bounds g.range)), w)

def runSelection (id : DocumentId) (c : SelectionCall) : Except Fault (Answer × World) := do
  let d ← refuse (w.liveSelection id)
  let s := d.registry.selection
  match c with
  | .start => return (.number s.span.start, w)
  | .stop => return (.number s.span.stop, w)
  | .active => return (.number s.active, w)
  | .anchor => return (.number s.anchor, w)
  | .storyLength => return (.number d.story.length, w)
  | .bounds => return (.span s.span, w)
  | .activeEnd => return (.activeEnd s.activeEnd, w)
  | .isCollapsed => return (.flag s.span.isCollapsed, w)
  | .text => return (.text (d.textIn s.span), w)
  | .move m => return (.nothing, w.setDocument id (d.moveSelection m))

def run : Call → Except Fault (Answer × World)
  | .openText name t terminator => .ok (.nothing, w.openDocument name (.ofText t terminator))
  | .openBytes name bytes =>
    match Utf8.decode bytes with
    | .ok t => .ok (.nothing, w.openDocument name (.ofText t Story.defaultTerminator))
    | .error f => .error (.notUtf8 f)
  | .dropDocument name => .ok (.nothing, w.dropDocument name)
  | .document name c => do w.runDocument (← resolve w.documents name) c
  | .cloneHandle name other => do
    let h ← resolve w.handles name
    return (.nothing, w.hold other h)
  | .dropHandle name => .ok (.nothing, w.dropHandle name)
  | .handle name c => do w.runHandle (← resolve w.handles name) c
  | .selection name c => do w.runSelection (← resolve w.selections name) c

/-- A refused call changes nothing. -/
def perform (c : Call) : Except Fault Answer × World :=
  match w.run c with
  | .ok (a, w') => (.ok a, w')
  | .error e => (.error e, w)

def after (cs : List Call) : World := cs.foldl (fun w c => (w.perform c).2) empty

end TrackedText.World
