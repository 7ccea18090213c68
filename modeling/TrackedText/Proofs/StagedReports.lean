import TrackedText.Proofs.RegistryRanges
import TrackedText.Registry.Session

namespace TrackedText

section

variable {σ ε ε' α β : Type}

theorem mapError_ok (f : ε → ε') (a : α) : (.ok a : Except ε α).mapError f = .ok a := rfl

theorem mapError_error (f : ε → ε') (e : ε) : (.error e : Except ε α).mapError f = .error (f e) := rfl

/-- What comes of a run if a failure undoes all of it. -/
def orUnchanged (s : σ) : Except ε (α × σ) → Except ε α × σ
  | .ok (a, s') => (.ok a, s')
  | .error e => (.error e, s)

variable {s : σ}

@[simp] theorem orUnchanged_ok (a : α) (s' : σ) :
    orUnchanged s (.ok (a, s') : Except ε (α × σ)) = (.ok a, s') := rfl

@[simp] theorem orUnchanged_error (e : ε) : orUnchanged s (.error e : Except ε (α × σ)) = (.error e, s) := rfl

@[simp] theorem orUnchanged_pure (a : α) (s' : σ) :
    orUnchanged s (pure (a, s') : Except ε (α × σ)) = (.ok a, s') := rfl

@[simp] theorem orUnchanged_bind (x : Except ε β) (f : β → Except ε (α × σ)) :
    orUnchanged s (x >>= f) = match x with
      | .ok a => orUnchanged s (f a)
      | .error e => (.error e, s) := by
  cases x <;> rfl

@[simp] theorem orUnchanged_map (x : Except ε β) (f : β → α × σ) :
    orUnchanged s (f <$> x) = match x with
      | .ok b => (.ok (f b).1, (f b).2)
      | .error e => (.error e, s) := by
  cases x <;> rfl

theorem unchanged_of_error {x : Except ε (α × σ)} {e : ε} (h : (orUnchanged s x).1 = .error e) :
    (orUnchanged s x).2 = s := by
  cases x with
  | ok p => cases h
  | error e => rfl

/-- A computation that changes a state as it goes. What it has done by the time it fails stays done. -/
abbrev Staged (σ ε : Type) := ExceptT ε (StateM σ)

namespace Staged

def outcome (x : Staged σ ε α) (s : σ) : Except ε α × σ := x.run.run s

@[simp] theorem outcome_pure (a : α) (s : σ) : (pure a : Staged σ ε α).outcome s = (.ok a, s) := rfl

@[simp] theorem outcome_throw (e : ε) (s : σ) : (throw e : Staged σ ε α).outcome s = (.error e, s) := rfl

@[simp] theorem outcome_get (s : σ) : (get : Staged σ ε σ).outcome s = (.ok s, s) := rfl

@[simp] theorem outcome_set (s s' : σ) : (set s' : Staged σ ε PUnit).outcome s = (.ok .unit, s') := rfl

@[simp] theorem outcome_modify (f : σ → σ) (s : σ) :
    (modify f : Staged σ ε PUnit).outcome s = (.ok .unit, f s) := rfl

@[simp] theorem outcome_modifyGet (f : σ → α × σ) (s : σ) :
    (modifyGet f : Staged σ ε α).outcome s = (.ok (f s).1, (f s).2) := rfl

@[simp] theorem outcome_liftExcept (x : Except ε α) (s : σ) :
    (liftExcept x : Staged σ ε α).outcome s = (x, s) := by
  cases x <;> rfl

@[simp] theorem outcome_bind (x : Staged σ ε α) (f : α → Staged σ ε β) (s : σ) :
    (x >>= f).outcome s = match x.outcome s with
      | (.ok a, s') => (f a).outcome s'
      | (.error e, s') => (.error e, s') := by
  simp only [outcome]
  rw [ExceptT.run_bind, StateT.run_bind]
  obtain ⟨r, s'⟩ : Except ε α × σ := x.run.run s
  cases r <;> rfl

@[simp] theorem outcome_map (f : α → β) (x : Staged σ ε α) (s : σ) :
    (f <$> x).outcome s = ((x.outcome s).1.map f, (x.outcome s).2) := by
  rw [map_eq_pure_bind, outcome_bind]
  obtain ⟨r, s'⟩ : Except ε α × σ := x.outcome s
  cases r <;> rfl

end Staged

end

namespace Registry

variable {r : Registry} {m : Mutation} {id : RangeId}

/-- A range takes an edit where it is stored, unless the edit is found to be malformed. -/
def adjustRange (m : Mutation) (id : RangeId) : Staged Registry RangeError Unit := do
  let ranges ← liftExcept ((← get).ranges.mapM fun l =>
    if l.id = id then do return { l with span := ← l.span.tryAdjust m } else return l)
  modify fun r => { r with ranges }

def adjustRanges (m : Mutation) : List RangeId → Staged Registry RangeError Unit
  | [] => return ()
  | id :: ids => do
    adjustRange m id
    adjustRanges m ids

def stagedBroadcast (m : Mutation) : Staged Registry RangeError Unit := do
  modify purge
  adjustRanges m (← get).tracked
  -- by now the ranges have moved
  let span ← liftExcept ((← get).selection.span.tryAdjust m)
  modify fun r => { r with selection := { r.selection with span } }

def stagedInsert (offset n : Nat) : Staged Registry RangeError Mutation := do
  let r ← get
  if r.detached then throw .detached
  let m := .insert (r.extent.narrow offset) n
  unless n = 0 do
    set { r with extent := r.extent.grow n }
    stagedBroadcast m
  return m

def stagedDelete (start stop : Nat) : Staged Registry RangeError Mutation := do
  let r ← get
  if r.detached then throw .detached
  if stop < start then throw (.malformedDeletion start stop)
  let (start, stop) := r.extent.narrowDeletion start stop
  let m := .delete start stop
  unless start = stop do
    set { r with extent := r.extent.shrink start stop }
    stagedBroadcast m
  return m

def stagedNotify : Mutation → Staged Registry RangeError Mutation
  | .insert offset n => stagedInsert offset n
  | .delete start stop => stagedDelete start stop

theorem mapM_tryAdjust (hm : m.IsWellFormed) (id : RangeId) (r : Registry) :
    (r.ranges.mapM fun l => if l.id = id then do return { l with span := ← l.span.tryAdjust m } else return l) =
      Except.ok (r.update id (·.adjust m)).ranges := by
  have hl : (fun l : LiveRange => if l.id = id then do return { l with span := ← l.span.tryAdjust m } else return l) =
      fun l => (pure (if l.id = id then { l with span := l.span.adjust m } else l) : Except RangeError LiveRange) := by
    funext l
    by_cases he : l.id = id
    · simp only [he, if_true, Span.tryAdjust_eq hm]
      rfl
    · simp only [he, if_false]
  rw [hl, List.mapM_pure]
  rfl

theorem outcome_adjustRange (hm : m.IsWellFormed) (id : RangeId) (r : Registry) :
    (adjustRange m id).outcome r = (.ok (), r.update id (·.adjust m)) := by
  simp only [adjustRange, Staged.outcome_bind, Staged.outcome_get, Staged.outcome_liftExcept, mapM_tryAdjust hm,
    Staged.outcome_modify]
  rfl

theorem outcome_adjustRanges (hm : m.IsWellFormed) (ids : List RangeId) (r : Registry) :
    (adjustRanges m ids).outcome r = (.ok (), ids.foldl (fun r id => r.update id (·.adjust m)) r) := by
  induction ids generalizing r with
  | nil => rfl
  | cons id ids ih => simp [adjustRanges, outcome_adjustRange hm, ih]

theorem selection_foldl_update (f : Span → Span) (ids : List RangeId) (r : Registry) :
    (ids.foldl (fun r id => r.update id f) r).selection = r.selection := by
  induction ids generalizing r with
  | nil => rfl
  | cons id ids ih => exact ih (r.update id f)

theorem outcome_stagedBroadcast (hm : m.IsWellFormed) (r : Registry) :
    (stagedBroadcast m).outcome r = (.ok (), r.broadcast m) := by
  have hs : (r.purge.tracked.foldl (fun r id => r.update id (·.adjust m)) r.purge).selection = r.selection :=
    selection_foldl_update (·.adjust m) r.purge.tracked r.purge
  simp [stagedBroadcast, outcome_adjustRanges hm, Span.tryAdjust_eq hm, broadcast, Selection.adjust, hs]

theorem outcome_stagedInsert (offset n : Nat) (r : Registry) :
    (stagedInsert offset n).outcome r = orUnchanged r (r.notifyInsert offset n) := by
  have hb := outcome_stagedBroadcast (m := .insert (r.extent.narrow offset) n) trivial
  cases hd : r.detached with
  | true => simp [stagedInsert, notifyInsert, hd]
  | false => by_cases hn : n = 0 <;> simp [stagedInsert, notifyInsert, hd, hn, hb, Except.map]

theorem outcome_stagedDelete (start stop : Nat) (r : Registry) :
    (stagedDelete start stop).outcome r = orUnchanged r (r.notifyDelete start stop) := by
  obtain ⟨start', stop', hx⟩ : ∃ start' stop', r.extent.narrowDeletion start stop = (start', stop') := ⟨_, _, rfl⟩
  have hm : (Mutation.delete start' stop').IsWellFormed := by
    cases hx
    exact Nat.min_le_right _ _
  have hb := outcome_stagedBroadcast hm
  cases hd : r.detached with
  | true => simp [stagedDelete, notifyDelete, hd]
  | false =>
      by_cases hs : stop < start
      · simp [stagedDelete, notifyDelete, hd, hs]
      · by_cases he : start' = stop' <;> simp [stagedDelete, notifyDelete, hd, hs, hx, he, hb, Except.map]

/-- Steps that write at once come to what a report comes to as a whole: both checks stand before the first of
them, and no range finds fault with an edit that has passed. -/
theorem outcome_stagedNotify (m : Mutation) (r : Registry) :
    (stagedNotify m).outcome r = orUnchanged r (r.notify m) := by
  cases m with
  | insert offset n => exact outcome_stagedInsert offset n r
  | delete start stop => exact outcome_stagedDelete start stop r

end Registry

namespace Session

section

variable {α : Type}

/-- Runs on the registry where it is: the session keeps what was done to it, by a failing run too. -/
def within (x : Staged Registry RangeError α) : Staged Session Fault α := do
  let (answer, registry) := x.outcome (← get).registry
  modify fun s => { s with registry }
  liftExcept (answer.mapError Fault.range)

@[simp] theorem outcome_within (x : Staged Registry RangeError α) (s : Session) :
    (within x).outcome s =
      ((x.outcome s.registry).1.mapError Fault.range, { s with registry := (x.outcome s.registry).2 }) := by
  simp [within]

end

def change (f : Registry → Registry) : Staged Session Fault Answer := do
  within (modify f)
  return .nothing

/-- Every request in its steps, each of which changes the session at once. -/
def staged : Request → Staged Session Fault Answer
  | .create tracked name first last => do
    let id ← within (modifyGet (·.create tracked first last))
    modify (·.hold name id)
    return .nothing
  | .share name other => do
    let id ← liftExcept ((← get).resolve name)
    modify (·.hold other id)
    return .nothing
  | .drop name => do
    modify (·.drop name)
    return .nothing
  | .attach name => do
    let id ← liftExcept ((← get).resolve name)
    within (.flag <$> modifyGet (·.attach id))
  | .detach name => do
    let id ← liftExcept ((← get).resolve name)
    within (.flag <$> modifyGet (·.detach id))
  | .move name m => do
    let id ← liftExcept ((← get).resolve name)
    change (·.moveRange id m)
  | .notify m => within (.mutation <$> Registry.stagedNotify m)
  | .moveSelection m => change (·.moveSelection m)
  | .select first last => change fun r => r.select (.ofPositions r.extent first last)
  | .readSelection => return .selection (← get).registry.selection
  | .detachDocument => change (·.detachDocument)

theorem perform_eq (s : Session) (q : Request) : s.perform q = orUnchanged s (s.run q) := by
  rw [perform]
  cases s.run q <;> rfl

theorem outcome_staged (q : Request) (s : Session) : (staged q).outcome s = s.perform q := by
  rw [perform_eq]
  cases q with
  | create | drop | moveSelection | select | readSelection | detachDocument =>
      simp [staged, change, run, Except.map, mapError_ok]
  | share name | attach name | detach name | move name =>
      cases hn : s.resolve name <;> simp [staged, change, run, hn, Except.map, mapError_ok]
  | notify m =>
      rcases hn : s.registry.notify m with e | ⟨m', r⟩ <;>
        simp [staged, run, Registry.outcome_stagedNotify, hn, Except.map, mapError_ok, mapError_error]

end Session

end TrackedText
