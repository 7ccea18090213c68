import TrackedText.Selection

namespace TrackedText.Wire

inductive Value
  | null
  | flag (b : Bool)
  | whole (n : Int)
  | fraction
  | text (s : String)
  | list (vs : List Value)
  | record (fields : List (String × Value))
  deriving Inhabited

namespace Value

def offset? : Value → Option Nat
  | whole n => if 0 ≤ n ∧ n < wordCount then some n.toNat else none
  | _ => none

def flag? : Value → Option Bool
  | flag b => some b
  | _ => none

def fields? (names : List String) : Value → Option (List Value)
  | record fields => names.mapM fun name => fields.lookup name
  | list vs => if vs.length = names.length then some vs else none
  | _ => none

def name? : Value → Option String
  | text s => some s
  | record [(s, null)] => some s
  | _ => none

end Value

open Value

def ofExtent (x : Extent) : Value := record [("story_len", whole x.length)]

def extent? (v : Value) : Option Extent :=
  match v.fields? ["story_len"] with
  | some [n] => n.offset?.map Extent.mk
  | _ => none

def ofSpan (s : Span) : Value := record [("start", whole s.start), ("end", whole s.stop)]

def span? (v : Value) : Option Span :=
  match v.fields? ["start", "end"] with
  | some [start, stop] => return ⟨← start.offset?, ← stop.offset?⟩
  | _ => none

def ofActiveEnd : ActiveEnd → Value
  | .start => text "Start"
  | .stop => text "End"

def activeEnd? (v : Value) : Option ActiveEnd :=
  match v.name? with
  | some "Start" => some .start
  | some "End" => some .stop
  | _ => none

def ofMutation : Mutation → Value
  | .insert offset n => record [("Insert", record [("at", whole offset), ("len", whole n)])]
  | .delete start stop => record [("Delete", record [("start", whole start), ("end", whole stop)])]

/-- The body of a mutation is always a record. -/
def mutation? : Value → Option Mutation
  | record [("Insert", record body)] =>
    match (record body).fields? ["at", "len"] with
    | some [offset, n] => return .insert (← offset.offset?) (← n.offset?)
    | _ => none
  | record [("Delete", record body)] =>
    match (record body).fields? ["start", "end"] with
    | some [start, stop] => return .delete (← start.offset?) (← stop.offset?)
    | _ => none
  | _ => none

def ofSelection (s : Selection) : Value :=
  record [("range", ofSpan s.span), ("active", ofActiveEnd s.activeEnd), ("detached", flag s.detached)]

def selection? (v : Value) : Option Selection :=
  match v.fields? ["range", "active", "detached"] with
  | some [range, active, detached] =>
    return ⟨← span? range, ← activeEnd? active, ← detached.flag?⟩
  | _ => none

end TrackedText.Wire
