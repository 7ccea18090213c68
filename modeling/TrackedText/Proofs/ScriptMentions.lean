import TrackedText.Script.Runner

namespace TrackedText.Script

def Step.name? : Step → Option Text
  | range name _ _ | detached name _ _ | attach name | detach name | setStart name _ | setEnd name _
  | collapse name _ | setText name _ | select name => some name
  | text _ | insert _ _ | delete _ _ | replace _ _ _ | caret _ _ | display => none

/-- What is left of a step without its numbers, its text and its side. -/
structure Mention where
  keyword : Keyword
  name? : Option Text
  deriving DecidableEq, Repr

/-- What a script is told when it is run: the warnings up to its first fault, if there is one, and the fault. -/
structure Verdict where
  warnings : List (Nat × Warning)
  error? : Option Error

def Run.verdict (run : Run) : Verdict where
  warnings := run.warnings
  error? := match run.result with
    | .ok _ => none
    | .error e => some e

def Step.mention (s : Step) : Mention := ⟨s.keyword, s.name?⟩

def mentions (steps : List (Nat × Step)) : List Mention := steps.map (·.2.mention)

def outline (steps : List (Nat × Step)) : List (Nat × Mention) := steps.map fun (line, s) => (line, s.mention)

namespace Mention

variable (past : List Mention) (name : Text) (m : Mention)

def creates : Option Text :=
  match m.keyword with
  | .range | .detached => m.name?
  | _ => none

def created : List Text := past.filterMap creates

def settlesTracking : Bool :=
  match m.keyword with
  | .range | .detached | .attach | .detach => m.name? == some name
  | _ => false

def startsTracking : Bool :=
  match m.keyword with
  | .range | .attach => true
  | _ => false

/-- The latest step that settled it was one that starts the tracking of the name. -/
def tracks : Bool := (past.filter (settlesTracking name)).getLast?.any startsTracking

def fault? : Option Cause :=
  match m.keyword, m.name? with
  | _, none => none
  | .range, some name | .detached, some name =>
    if name ∈ created past then some (.duplicateRange name) else none
  | _, some name => if name ∈ created past then none else some (.unknownRange name)

def warning? : Option Warning :=
  match m.keyword, m.name? with
  | .attach, some name => if tracks past name then some (.alreadyTracked name) else none
  | .detach, some name => if tracks past name then none else some (.notTracked name)
  | _, _ => none

def verdict (past : List Mention) : List (Nat × Mention) → Verdict
  | [] => ⟨[], none⟩
  | (line, m) :: ms =>
    match fault? past m with
    | some cause => ⟨[], some ⟨line, cause⟩⟩
    | none =>
      let rest := verdict (past ++ [m]) ms
      ⟨(warning? past m).toList.map (line, ·) ++ rest.warnings, rest.error?⟩

def carriedOut (past : List Mention) : List (Nat × Mention) → List Mention
  | [] => past
  | (_, m) :: ms =>
    match fault? past m with
    | some _ => past
    | none => carriedOut (past ++ [m]) ms

variable {past name m}

theorem created_append : created (past ++ [m]) = created past ++ m.creates.toList := by
  rw [created, List.filterMap_append, created]
  cases h : m.creates <;> simp [h]

theorem tracks_append :
    tracks (past ++ [m]) name = if m.settlesTracking name then m.startsTracking else tracks past name := by
  rw [tracks, List.filter_append]
  cases h : m.settlesTracking name <;> simp [h, tracks]

end Mention

open Mention

variable {past : List Mention} {steps : List (Nat × Step)}

/-- No step uses a name before its creation or creates it again. -/
def Faultless (past : List Mention) (steps : List (Nat × Step)) : Prop :=
  ∀ before p after, steps = before ++ p :: after → fault? (past ++ mentions before) p.2.mention = none

theorem Faultless.before {before after : List (Nat × Step)} (h : Faultless past (before ++ after)) :
    Faultless past before := fun a p b he => h a p (b ++ after) (by rw [he, List.append_assoc, List.cons_append])

end TrackedText.Script
