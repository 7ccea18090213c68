import TrackedText.Proofs.ReportedEdits
import TrackedText.Proofs.StagedReports

namespace TrackedText

namespace Document

variable {d d' : Document} {id : RangeId} {t : Text}

def stagedEdit (e : StoryEdit) : Staged Document RangeError Mutation := do
  let d ← get
  if d.registry.detached then throw .detached
  let (reported, story) := d.story.edit e
  set { d with story }
  -- a registry that refuses the report would leave the story changed
  let (m, registry) := (Registry.stagedNotify reported).outcome d.registry
  modify fun d => { d with registry }
  liftExcept m

def stagedEdits : List StoryEdit → Staged Document RangeError (List Mutation)
  | [] => return []
  | e :: es => do
    let m ← stagedEdit e
    let ms ← stagedEdits es
    return m :: ms

def stagedApply (c : Command) : Staged Document RangeError Patch := do
  let mutations ← stagedEdits (c.edits (← get).story)
  modify bump
  let d ← get
  return ⟨mutations, d.registry.selection.span, d.story.length, d.version⟩

def stagedSetText (id : RangeId) (t : Text) : Staged Document RangeError Unit := do
  let s := (← get).bounds id
  let _ ← stagedEdit (.delete s.start s.stop)
  let m ← stagedEdit (.insert s.start t)
  modify bump
  let spanned := match m with
    | .insert offset n => ⟨offset, offset + n⟩
    | .delete _ _ => s
  modify fun d => { d with registry := d.registry.setSpan id spanned }

def stagedDeleteText (id : RangeId) : Staged Document RangeError Nat := do
  let d ← get
  let s := d.bounds id
  let tracked := d.registry.isTracked id
  let m ← stagedEdit (.delete s.start s.stop)
  modify bump
  unless tracked do modify fun d => { d with registry := d.registry.setSpan id (s.adjust m) }
  return m.delta.natAbs

theorem Sound.stagedEdit (h : d.Sound) (e : StoryEdit) :
    ∃ m d', d.perform e = .ok (m, d') ∧ d'.Sound ∧ (Document.stagedEdit e).outcome d = (.ok m, d') := by
  obtain ⟨d', hp, hr⟩ := h.perform_reported e
  obtain ⟨r, hn, rfl⟩ := perform_ok hp
  refine ⟨_, _, hp, hr.sound, ?_⟩
  simp [Document.stagedEdit, h.attached, Registry.outcome_stagedNotify, hn]

theorem Sound.stagedEdits (h : d.Sound) (es : List StoryEdit) :
    ∃ ms d', d.performAll es = .ok (ms, d') ∧ d'.Sound ∧ (Document.stagedEdits es).outcome d = (.ok ms, d') := by
  induction es generalizing d with
  | nil => exact ⟨[], d, rfl, h, rfl⟩
  | cons e es ih =>
      obtain ⟨m, d₁, hp, h₁, hs⟩ := h.stagedEdit e
      obtain ⟨ms, d', hps, h', hss⟩ := ih h₁
      refine ⟨m :: ms, d', ?_, h', ?_⟩
      · simp only [performAll, hp, hps, bind, Except.bind, pure, Except.pure]
      · simp [Document.stagedEdits, hs, hss, Except.map]

theorem Sound.stagedApply {c : Command} {p : Patch} (h : d.Sound) (hp : d.apply c = .ok (p, d')) :
    (Document.stagedApply c).outcome d = (.ok p, d') := by
  obtain ⟨ms, d₁, hps, -, hs⟩ := h.stagedEdits (c.edits d.story)
  simp only [Document.apply, hps, bind, Except.bind, pure, Except.pure, Except.ok.injEq, Prod.mk.injEq] at hp
  obtain ⟨rfl, rfl⟩ := hp
  simp [Document.stagedApply, hs, Except.map]

theorem Sound.stagedSetText (h : d.Sound) (hp : d.setText id t = .ok d') :
    (Document.stagedSetText id t).outcome d = (.ok (), d') := by
  obtain ⟨m, d₁, hp₁, h₁, hs₁⟩ := h.stagedEdit (.delete (d.bounds id).start (d.bounds id).stop)
  obtain ⟨m', d₂, hp₂, -, hs₂⟩ := h₁.stagedEdit (.insert (d.bounds id).start t)
  simp only [Document.setText, hp₁, hp₂, bind, Except.bind, pure, Except.pure, Except.ok.injEq] at hp
  subst hp
  cases m' <;> simp [Document.stagedSetText, hs₁, hs₂, bump]

theorem Sound.stagedDeleteText {n : Nat} (h : d.Sound) (hp : d.deleteText id = .ok (n, d')) :
    (Document.stagedDeleteText id).outcome d = (.ok n, d') := by
  obtain ⟨m, d₁, hp₁, -, hs⟩ := h.stagedEdit (.delete (d.bounds id).start (d.bounds id).stop)
  simp only [Document.deleteText, hp₁, bind, Except.bind, pure, Except.pure, Except.ok.injEq, Prod.mk.injEq] at hp
  obtain ⟨rfl, rfl⟩ := hp
  cases ht : d.registry.isTracked id <;> simp [Document.stagedDeleteText, hs, ht, Except.map]

end Document

namespace World

section

variable {α : Type}

/-- Runs on a document where it is: the world keeps what was done to it, by a failing run too. -/
def within (id : DocumentId) (d : Document) (x : Staged Document RangeError α) : Staged World Fault α := do
  let (r, d) := x.outcome d
  modify (·.setDocument id d)
  liftExcept (refuse r)

/-- Nothing is done to a document that does not pass the check. -/
def use (check : World → DocumentId → Except RangeError Document) (id : DocumentId)
    (x : Staged Document RangeError α) : Staged World Fault α := do
  let d ← liftExcept (refuse (check (← get) id))
  within id d x

def read (f : Document → α) : Staged Document RangeError α := return f (← get)

def change (f : Document → Document) : Staged Document RangeError Answer := do
  modify f
  return .nothing

end

def owned (o : OpenDocument) (handle : String) (f : Document → RangeId → Bool × Document) :
    Staged World Fault Answer := do
  let h ← liftExcept (resolve (← get).handles handle)
  liftExcept (ensureOwned o h)
  within o.id o.document (.flag <$> modifyGet (f · h.range))

def stagedDocument (o : OpenDocument) : DocumentCall → Staged World Fault Answer
  | .apply c => within o.id o.document (.patch <$> Document.stagedApply c)
  | .info => within o.id o.document (read fun d => .info ⟨1, d.story.terminator, d.story.length, d.version⟩)
  | .createRange tracked name first last => do
    let id ← within o.id o.document (modifyGet (·.createRange tracked first last))
    modify (·.hold name ⟨o.id, id⟩)
    return .nothing
  | .attach handle => owned o handle Document.attach
  | .detach handle => owned o handle Document.detach
  | .selection name => do
    modify fun w => { w with selections := w.selections.put name o.id }
    return .nothing

variable (g : Handle)

/-- The other handle of a comparison, if it is on the same story. -/
def partner (other : String) : Staged World Fault (Option Handle) := do
  use live g.document (pure ())
  let h ← liftExcept (resolve (← get).handles other)
  return if h.document = g.document then some h else none

def compare (other : String) (test : Span → Span → Bool) : Staged World Fault Answer := do
  match ← partner g other with
  | none => return .flag false
  | some h =>
    let s ← use live g.document (read (·.bounds g.range))
    let t ← use live h.document (read (·.bounds h.range))
    return .flag (test s t)

def stagedHandle : HandleCall → Staged World Fault Answer
  | .start => use live g.document (read fun d => .number (d.bounds g.range).start)
  | .stop => use live g.document (read fun d => .number (d.bounds g.range).stop)
  | .length => use live g.document (read fun d => .number (d.bounds g.range).length)
  | .storyLength => use live g.document (read fun d => .number d.story.length)
  | .bounds => use live g.document (read fun d => .span (d.bounds g.range))
  | .isCollapsed => use live g.document (read fun d => .flag (d.bounds g.range).isCollapsed)
  | .isAttached => use live g.document (read fun d => .flag (d.registry.isTracked g.range))
  | .text => use live g.document (read fun d => .text (d.rangeText g.range))
  | .move m => use live g.document (change (·.moveRange g.range m))
  | .setText t => use live g.document ((fun _ => .nothing) <$> Document.stagedSetText g.range t)
  | .deleteText => use live g.document (.number <$> Document.stagedDeleteText g.range)
  | .select => use live g.document (change (·.select g.range))
  | .duplicate name => do
    let id ← use live g.document (modifyGet (·.duplicate g.range))
    modify (·.hold name ⟨g.document, id⟩)
    return .nothing
  | .inStory other => do return .flag (← partner g other).isSome
  | .isEqual other => compare g other (· == ·)
  | .inRange other => compare g other Span.isWithin

def stagedSelection (id : DocumentId) : SelectionCall → Staged World Fault Answer
  | .start => use liveSelection id (read fun d => .number d.registry.selection.span.start)
  | .stop => use liveSelection id (read fun d => .number d.registry.selection.span.stop)
  | .active => use liveSelection id (read fun d => .number d.registry.selection.active)
  | .anchor => use liveSelection id (read fun d => .number d.registry.selection.anchor)
  | .storyLength => use liveSelection id (read fun d => .number d.story.length)
  | .bounds => use liveSelection id (read fun d => .span d.registry.selection.span)
  | .activeEnd => use liveSelection id (read fun d => .activeEnd d.registry.selection.activeEnd)
  | .isCollapsed => use liveSelection id (read fun d => .flag d.registry.selection.span.isCollapsed)
  | .text => use liveSelection id (read fun d => .text (d.textIn d.registry.selection.span))
  | .move m => use liveSelection id (change (·.moveSelection m))

/-- Every call in its steps, each of which changes the world at once. -/
def staged : Call → Staged World Fault Answer
  | .openText name t terminator => do
    modify (·.openDocument name (.ofText t terminator))
    return .nothing
  | .openBytes name bytes => do
    let t ← liftExcept ((Utf8.decode bytes).mapError Fault.notUtf8)
    modify (·.openDocument name (.ofText t Story.defaultTerminator))
    return .nothing
  | .dropDocument name => do
    modify (·.dropDocument name)
    return .nothing
  | .document name c => do stagedDocument (← liftExcept (resolve (← get).documents name)) c
  | .cloneHandle name other => do
    let g ← liftExcept (resolve (← get).handles name)
    modify (·.hold other g)
    return .nothing
  | .dropHandle name => do
    modify (·.dropHandle name)
    return .nothing
  | .handle name c => do stagedHandle (← liftExcept (resolve (← get).handles name)) c
  | .selection name c => do stagedSelection (← liftExcept (resolve (← get).selections name)) c

variable {w : World} {ts : List Char} {d : Document} {p : String × OpenDocument} {id : DocumentId} {α : Type}
  {check : World → DocumentId → Except RangeError Document}

@[simp] theorem outcome_within (d : Document) (x : Staged Document RangeError α) :
    (within id d x).outcome w = (refuse (x.outcome d).1, w.setDocument id (x.outcome d).2) := by
  simp [within]

theorem outcome_use (hl : check w id = .ok d) (x : Staged Document RangeError α) :
    (use check id x).outcome w = (refuse (x.outcome d).1, w.setDocument id (x.outcome d).2) := by
  simp [use, hl]

theorem outcome_use_gone {e : RangeError} (hl : check w id = .error e) (x : Staged Document RangeError α) :
    (use check id x).outcome w = (.error (.range e), w) := by
  simp [use, hl]

@[simp] theorem outcome_read (f : Document → α) (d : Document) : (read f).outcome d = (.ok (f d), d) := rfl

@[simp] theorem outcome_change (f : Document → Document) (d : Document) :
    (change f).outcome d = (.ok .nothing, f d) := rfl

theorem Sound.setDocument_self (h : Sound ts w) (hp : p ∈ w.documents) :
    w.setDocument p.2.id p.2.document = w := by
  have hm : ∀ q ∈ w.documents, (q.1, if q.2.id = p.2.id then ⟨p.2.id, p.2.document⟩ else q.2) = q := by
    intro q hq
    by_cases hi : q.2.id = p.2.id
    · obtain rfl := List.inj_on_of_nodup_map h.distinct hq hp hi
      simp
    · simp [hi]
  rw [World.setDocument, List.map_congr_left hm, List.map_id']

theorem Sound.stagedDocument (h : Sound ts w) (hp : p ∈ w.documents) (c : DocumentCall) :
    (World.stagedDocument p.2 c).outcome w = orUnchanged w (w.runDocument p.2 c) := by
  cases c with
  | apply c =>
      obtain ⟨q, d', hq, -⟩ := (h.documents p hp).apply c
      have hs := (h.documents p hp).stagedApply hq
      simp [World.stagedDocument, World.runDocument, hs, hq, Except.map]
  | info => simp [World.stagedDocument, World.runDocument, h.setDocument_self hp]
  | createRange tracked name first last => simp [World.stagedDocument, World.runDocument, Except.map]
  | attach handle | detach handle =>
      cases hg : resolve w.handles handle with
      | error e => simp [World.stagedDocument, World.runDocument, owned, hg]
      | ok g =>
          cases ho : ensureOwned p.2 g with
          | error e => simp [World.stagedDocument, World.runDocument, owned, hg, ho]
          | ok u => simp [World.stagedDocument, World.runDocument, owned, hg, ho, Except.map]
  | selection name => simp [World.stagedDocument, World.runDocument, Except.map]

theorem Sound.stagedHandle (h : Sound ts w) (g : Handle) (c : HandleCall) :
    (World.stagedHandle g c).outcome w = orUnchanged w (w.runHandle g c) := by
  cases hl : w.live g.document with
  | error e => cases c <;> simp [World.stagedHandle, World.runHandle, outcome_use_gone hl, hl, partner, compare]
  | ok d =>
      obtain ⟨p, hp, hi, rfl⟩ := mem_of_live hl
      have hself : w.setDocument g.document p.2.document = w := hi ▸ h.setDocument_self hp
      cases c with
      | setText t =>
          obtain ⟨d', hd, -⟩ := (h.documents p hp).setText g.range t
          have hs := (h.documents p hp).stagedSetText hd
          simp [World.stagedHandle, World.runHandle, outcome_use hl, hl, hs, hd, Except.map]
      | deleteText =>
          obtain ⟨n, d', hd, -⟩ := (h.documents p hp).deleteText g.range
          have hs := (h.documents p hp).stagedDeleteText hd
          simp [World.stagedHandle, World.runHandle, outcome_use hl, hl, hs, hd, Except.map]
      | inStory other | isEqual other | inRange other =>
          cases hh : resolve w.handles other with
          | error e =>
              simp [World.stagedHandle, World.runHandle, outcome_use hl, hl, partner, compare, hself, hh, Except.map]
          | ok k =>
              -- only a partner on the same story, alive with it, is asked for its own bounds
              by_cases hk : k.document = g.document <;>
                simp [World.stagedHandle, World.runHandle, outcome_use hl, hl, partner, compare, hself, hh, hk,
                  Except.map]
      | start | stop | length | storyLength | bounds | isCollapsed | isAttached | text | move | select | duplicate =>
          simp [World.stagedHandle, World.runHandle, outcome_use hl, hl, hself, Except.map]

theorem Sound.stagedSelection (h : Sound ts w) (id : DocumentId) (c : SelectionCall) :
    (World.stagedSelection id c).outcome w = orUnchanged w (w.runSelection id c) := by
  cases hl : w.liveSelection id with
  | error e => cases c <;> simp [World.stagedSelection, World.runSelection, outcome_use_gone hl, hl]
  | ok d =>
      obtain ⟨p, hp, rfl, rfl⟩ := mem_of_liveSelection hl
      cases c <;>
        simp [World.stagedSelection, World.runSelection, outcome_use hl, hl, h.setDocument_self hp]

theorem Sound.staged (h : Sound ts w) (c : Call) : (World.staged c).outcome w = w.perform c := by
  rw [perform_eq]
  cases c with
  | openText | dropDocument | dropHandle => simp [World.staged, World.run, Except.map]
  | openBytes name bytes =>
      cases hu : Utf8.decode bytes <;> simp [World.staged, World.run, hu, Except.mapError, Except.map]
  | document name c =>
      cases ho : resolve w.documents name with
      | error e => simp [World.staged, World.run, ho]
      | ok o => simpa [World.staged, World.run, ho] using h.stagedDocument (of_resolve ho) c
  | cloneHandle name other =>
      cases hg : resolve w.handles name <;> simp [World.staged, World.run, hg, Except.map]
  | handle name c =>
      cases hg : resolve w.handles name with
      | error e => simp [World.staged, World.run, hg]
      | ok g => simpa [World.staged, World.run, hg] using h.stagedHandle g c
  | selection name c =>
      cases hi : resolve w.selections name with
      | error e => simp [World.staged, World.run, hi]
      | ok id => simpa [World.staged, World.run, hi] using h.stagedSelection id c

end World

end TrackedText
