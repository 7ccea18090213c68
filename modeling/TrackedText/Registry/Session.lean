import TrackedText.Named
import TrackedText.Registry

namespace TrackedText

/-- A registry with holders: each name holds one range, and a range lives as long as some name
holds it. -/
structure Session where
  registry : Registry
  holders : Named RangeId

namespace Session

inductive Request
  | create (tracked : Bool) (name : String) (first last : Position)
  | share (name other : String)
  | drop (name : String)
  | attach (name : String)
  | detach (name : String)
  | move (name : String) (m : Span.Move)
  | notify (m : Mutation)
  | moveSelection (m : Span.Move)
  | select (first last : Position)
  | readSelection
  | detachDocument

inductive Answer
  | nothing
  | flag (b : Bool)
  | mutation (m : Mutation)
  | selection (s : Selection)

inductive Fault
  | unknownName (name : String)
  | range (e : RangeError)

def ofLength (n : Nat) : Session := ⟨.ofLength n, []⟩

variable (s : Session)

def resolve (name : String) : Except Fault RangeId :=
  match s.holders.get? name with
  | some id => .ok id
  | none => .error (.unknownName name)

def settle (id : RangeId) : Session :=
  if s.holders.any (·.2 == id) then s else { s with registry := s.registry.release id }

def drop (name : String) : Session :=
  match s.holders.get? name with
  | some id => { s with holders := s.holders.erase name }.settle id
  | none => s

def hold (name : String) (id : RangeId) : Session :=
  let held := { s with holders := s.holders.put name id }
  match s.holders.get? name with
  | some old => held.settle old
  | none => held

def run : Request → Except Fault (Answer × Session)
  | .create tracked name first last =>
    let (id, registry) := s.registry.create tracked first last
    .ok (.nothing, { s with registry }.hold name id)
  | .share name other => do
    let id ← s.resolve name
    return (.nothing, s.hold other id)
  | .drop name => .ok (.nothing, s.drop name)
  | .attach name => do
    let (fresh, registry) := s.registry.attach (← s.resolve name)
    return (.flag fresh, { s with registry })
  | .detach name => do
    let (found, registry) := s.registry.detach (← s.resolve name)
    return (.flag found, { s with registry })
  | .move name m => do
    let id ← s.resolve name
    return (.nothing, { s with registry := s.registry.moveRange id m })
  | .notify m =>
    match s.registry.notify m with
    | .ok (m, registry) => .ok (.mutation m, { s with registry })
    | .error e => .error (.range e)
  | .moveSelection m => .ok (.nothing, { s with registry := s.registry.moveSelection m })
  | .select first last =>
    .ok (.nothing, { s with registry := s.registry.select (.ofPositions s.registry.extent first last) })
  | .readSelection => .ok (.selection s.registry.selection, s)
  | .detachDocument => .ok (.nothing, { s with registry := s.registry.detachDocument })

/-- A refused request changes nothing. -/
def perform (q : Request) : Except Fault Answer × Session :=
  match s.run q with
  | .ok (a, s') => (.ok a, s')
  | .error e => (.error e, s)

def after (n : Nat) (qs : List Request) : Session := qs.foldl (fun s q => (s.perform q).2) (ofLength n)

end Session

end TrackedText
