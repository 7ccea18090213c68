import TrackedText.RangeError
import TrackedText.Selection

namespace TrackedText

abbrev RangeId := Nat

structure LiveRange where
  id : RangeId
  span : Span
  deriving DecidableEq, Repr

/-- The ranges over one story that somebody holds, and its selection. Being listed as tracked keeps no
range alive: one that is let go of stays listed until the next purge. -/
structure Registry where
  extent : Extent
  ranges : List LiveRange
  nextId : RangeId
  tracked : List RangeId
  selection : Selection
  detached : Bool

namespace Registry

def ofLength (n : Nat) : Registry :=
  ⟨.ofLength n, [], 0, [], .caret (.ofLength n) 0, false⟩

variable (r : Registry)

def span? (id : RangeId) : Option Span := (r.ranges.find? (·.id == id)).map (·.span)

def span (id : RangeId) : Span := (r.span? id).getD default

def isLive (id : RangeId) : Bool := (r.span? id).isSome

def isTracked (id : RangeId) : Bool := r.tracked.contains id

def trackedCount : Nat := r.tracked.countP r.isLive

def purge : Registry := { r with tracked := r.tracked.filter r.isLive }

def track (id : RangeId) : Registry := { r.purge with tracked := r.purge.tracked ++ [id] }

def create (tracked : Bool) (first last : Position) : RangeId × Registry :=
  let created := { r with
    ranges := ⟨r.nextId, .ofPositions r.extent first last⟩ :: r.ranges
    nextId := r.nextId + 1 }
  (r.nextId, if tracked then created.track r.nextId else created)

def update (id : RangeId) (f : Span → Span) : Registry :=
  { r with ranges := r.ranges.map fun l => if l.id = id then { l with span := f l.span } else l }

def setSpan (id : RangeId) (s : Span) : Registry := r.update id fun _ => s

def moveRange (id : RangeId) (m : Span.Move) : Registry := r.update id (·.move r.extent m)

def moveSelection (m : Span.Move) : Registry :=
  { r with selection := r.selection.move r.extent m }

def select (s : Span) : Registry := { r with selection := r.selection.select s }

def renew (s : Span) : Span := .ofPositions r.extent (.ofOffset s.start) (.ofOffset s.stop)

/-- The answer is whether the range was untracked before. -/
def attach (id : RangeId) : Bool × Registry :=
  if r.isTracked id then (false, r) else (true, (r.update id r.renew).track id)

def detach (id : RangeId) : Bool × Registry :=
  let rest := r.tracked.filter (· ≠ id)
  (rest.length != r.tracked.length, { r with tracked := rest })

def release (id : RangeId) : Registry := { r with ranges := r.ranges.filter (·.id ≠ id) }

/-- Tracking stops for every range. Only the first call does anything, so a range attached later
stays tracked. -/
def detachDocument : Registry :=
  if r.detached then r
  else { r with tracked := [], selection := r.selection.detach, detached := true }

/-- An edit reaches the selection and, one after the other, the tracked ranges that are still held. -/
def broadcast (m : Mutation) : Registry :=
  let reached := r.purge.tracked.foldl (fun r id => r.update id (·.adjust m)) r.purge
  { reached with selection := r.selection.adjust m }

def notifyInsert (offset : Nat) (n : Nat) : Except RangeError (Mutation × Registry) :=
  if r.detached then .error .detached
  else
    let m := .insert (r.extent.narrow offset) n
    .ok (m, if n = 0 then r else { r with extent := r.extent.grow n }.broadcast m)

/-- A malformed deletion is refused by a registry in use; a detached one refuses whatever comes. -/
def notifyDelete (start stop : Nat) : Except RangeError (Mutation × Registry) :=
  if r.detached then .error .detached
  else if stop < start then .error (.malformedDeletion start stop)
  else
    let (start, stop) := r.extent.narrowDeletion start stop
    let m := .delete start stop
    .ok (m, if start = stop then r else { r with extent := r.extent.shrink start stop }.broadcast m)

def notify : Mutation → Except RangeError (Mutation × Registry)
  | .insert offset n => r.notifyInsert offset n
  | .delete start stop => r.notifyDelete start stop

end Registry

end TrackedText
