import TrackedText.Command
import TrackedText.Registry

namespace TrackedText

structure Document where
  story : Story
  registry : Registry
  version : Nat

structure Patch where
  mutations : List Mutation
  selection : Span
  storyLength : Nat
  version : Nat
  deriving DecidableEq, Repr

namespace Document

def ofText (t : Text) (terminator : Char) : Document :=
  let story := .ofText t terminator
  ⟨story, .ofLength story.length, 0⟩

variable (d : Document)

/-- The story changes first; its report of the change then goes to the registry. -/
def perform : StoryEdit → Except RangeError (Mutation × Document)
  | .insert offset t => do
    if d.registry.detached then throw .detached
    let ((offset, n), story) := d.story.insert offset t
    let (m, registry) ← d.registry.notifyInsert offset n
    return (m, { d with story, registry })
  | .delete start stop => do
    if d.registry.detached then throw .detached
    let (removed, story) := d.story.delete start stop
    let (m, registry) ← d.registry.notifyDelete removed.start removed.stop
    return (m, { d with story, registry })

def performAll (d : Document) : List StoryEdit → Except RangeError (List Mutation × Document)
  | [] => .ok ([], d)
  | e :: es => do
    let (m, d) ← d.perform e
    let (ms, d) ← performAll d es
    return (m :: ms, d)

def bump : Document := { d with version := d.version + 1 }

def apply (c : Command) : Except RangeError (Patch × Document) := do
  let (mutations, d) ← d.performAll (c.edits d.story)
  let d := d.bump
  return (⟨mutations, d.registry.selection.span, d.story.length, d.version⟩, d)

def createRange (tracked : Bool) (first last : Position) : RangeId × Document :=
  let (id, registry) := d.registry.create tracked first last
  (id, { d with registry })

variable (id : RangeId)

/-- A range as it reads now: one that missed edits is narrowed into the story. -/
def bounds : Span := (d.registry.span id).narrow d.registry.extent

def textIn (s : Span) : Text := d.story.slice s.start s.stop

def rangeText : Text := d.textIn (d.bounds id)

def attach : Bool × Document :=
  let (fresh, registry) := d.registry.attach id
  (fresh, { d with registry })

def detach : Bool × Document :=
  let (found, registry) := d.registry.detach id
  (found, { d with registry })

def moveRange (m : Span.Move) : Document :=
  { d with registry := d.registry.setSpan id ((d.bounds id).move d.registry.extent m) }

def moveSelection (m : Span.Move) : Document :=
  { d with registry := d.registry.moveSelection m }

def duplicate : RangeId × Document :=
  d.createRange true (.ofOffset (d.bounds id).start) (.ofOffset (d.bounds id).stop)

def select : Document := { d with registry := d.registry.select (d.bounds id) }

/-- The characters of a range give way to `t`, and the range then spans `t`. The others see a
deletion and an insertion. -/
def setText (t : Text) : Except RangeError Document := do
  let s := d.bounds id
  let (_, d) ← d.perform (.delete s.start s.stop)
  let (m, d) ← d.perform (.insert s.start t)
  let spanned := match m with
    | .insert offset n => ⟨offset, offset + n⟩
    | .delete _ _ => s
  return { d.bump with registry := d.registry.setSpan id spanned }

/-- Takes out the characters of a range and answers how many there were. A range that nobody tracks
is moved along all the same. -/
def deleteText : Except RangeError (Nat × Document) := do
  let s := d.bounds id
  let tracked := d.registry.isTracked id
  let (m, d) ← d.perform (.delete s.start s.stop)
  let d := d.bump
  return (m.delta.natAbs,
    if tracked then d else { d with registry := d.registry.setSpan id (s.adjust m) })

def release : Document := { d with registry := d.registry.release id }

end Document

end TrackedText
