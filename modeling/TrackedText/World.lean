import TrackedText.Document
import TrackedText.Named

namespace TrackedText

abbrev DocumentId := Nat

structure Handle where
  document : DocumentId
  range : RangeId
  deriving DecidableEq, Repr

structure OpenDocument where
  id : DocumentId
  document : Document

/-- Documents in use and handles on them, all under names. A handle outlives its document; a range
lives as long as its document is open and some name holds it. -/
structure World where
  documents : Named OpenDocument
  handles : Named Handle
  selections : Named DocumentId
  nextId : DocumentId

namespace World

def empty : World := ⟨[], [], [], 0⟩

variable (w : World)

def document? (id : DocumentId) : Option Document :=
  (w.documents.find? (·.2.id == id)).map (·.2.document)

def setDocument (id : DocumentId) (d : Document) : World :=
  { w with documents := w.documents.map fun (name, o) => (name, if o.id = id then ⟨id, d⟩ else o) }

def openDocument (name : String) (d : Document) : World :=
  { w with documents := w.documents.put name ⟨w.nextId, d⟩, nextId := w.nextId + 1 }

def dropDocument (name : String) : World := { w with documents := w.documents.erase name }

def settle (h : Handle) : World :=
  if w.handles.any (·.2 == h) then w
  else match w.document? h.document with
    | some d => w.setDocument h.document (d.release h.range)
    | none => w

def dropHandle (name : String) : World :=
  match w.handles.get? name with
  | some h => { w with handles := w.handles.erase name }.settle h
  | none => w

def hold (name : String) (h : Handle) : World :=
  let held := { w with handles := w.handles.put name h }
  match w.handles.get? name with
  | some old => held.settle old
  | none => held

def live (id : DocumentId) : Except RangeError Document :=
  match w.document? id with
  | some d => if d.registry.detached then .error .detached else .ok d
  | none => .error .detached

/-- Every use of a selection starts here; it has a mark of its own for a document that let go of it. -/
def liveSelection (id : DocumentId) : Except RangeError Document := do
  let d ← w.live id
  if d.registry.selection.detached then throw .detached
  return d

end World

end TrackedText
