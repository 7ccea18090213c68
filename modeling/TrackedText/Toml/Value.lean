import TrackedText.Toml.Fault

namespace TrackedText.Toml

/-- How a table came to be, which decides what may be added to it later. -/
inductive Origin
  | header
  | implied
  | dotted
  | inline
  deriving DecidableEq, Repr

/-- Numbers, dates and times are kept as written. `tables` is a list grown by headers, its newest
entry last. -/
inductive Value
  | text (t : Text)
  | boolean (b : Bool)
  | integer (written : Text)
  | float (written : Text)
  | moment (written : Text)
  | list (vs : List Value)
  | table (o : Origin) (entries : List (Text × Value))
  | tables (ts : List (List (Text × Value)))

abbrev Entries := List (Text × Value)

namespace Entries

def update (key : Text) (f : Option Value → Except Fault Value) : Entries → Except Fault Entries
  | [] => (f none).map fun v => [(key, v)]
  | (k, v) :: rest =>
    if k = key then (f (some v)).map fun v => (k, v) :: rest
    else (update key f rest).map ((k, v) :: ·)

def ensureOpen (key : Text) (dotted : Bool) : Origin → Except Fault Unit
  | .inline => .error (.notExtensible key)
  | .header => if dotted then .error (.duplicateKey key) else .ok ()
  | _ => .ok ()

/-- Follows a path of tables, making those that are missing, and changes the last one. A step into
a list of tables leads to its newest. -/
def updateAt (dotted : Bool) (leaf : Origin → Entries → Except Fault Entries) :
    List Text → Origin → Entries → Except Fault Entries
  | [], o, es => leaf o es
  | key :: path, _, es => update key (fun
    | none =>
      let o := if dotted then .dotted else .implied
      (updateAt dotted leaf path o []).map (.table o)
    | some (.table o inner) => do
      ensureOpen key dotted o
      return .table o (← updateAt dotted leaf path o inner)
    | some (.tables ts) => do
      let newest ← updateAt dotted leaf path .header (ts.getLast?.getD [])
      return .tables (ts.dropLast ++ [newest])
    | some _ => .error (.notExtensible key)) es

/-- A header may open a table that deeper headers have implied, and no other that exists. -/
def openTable (path : List Text) (key : Text) : Entries → Except Fault Entries :=
  updateAt false (fun _ => update key fun
    | none => .ok (.table .header [])
    | some (.table .implied inner) => .ok (.table .header inner)
    | some _ => .error (.duplicateKey key)) path .header

def openListed (path : List Text) (key : Text) : Entries → Except Fault Entries :=
  updateAt false (fun _ => update key fun
    | none => .ok (.tables [[]])
    | some (.tables ts) => .ok (.tables (ts ++ [[]]))
    | some _ => .error (.duplicateKey key)) path .header

def insert (path : List Text) (key : Text) (v : Value) : Origin → Entries → Except Fault Entries :=
  updateAt true (fun o =>
    if !path.isEmpty && o ≠ .dotted then fun _ => .error (.duplicateKey key)
    else update key fun
      | none => .ok v
      | some _ => .error (.duplicateKey key)) path

def insertUnder (header path : List Text) (key : Text) (v : Value) : Entries → Except Fault Entries :=
  updateAt false (insert path key v) header .header

end Entries

end TrackedText.Toml
