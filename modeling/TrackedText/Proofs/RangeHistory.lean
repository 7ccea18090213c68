import TrackedText.Proofs.SessionRuns

namespace TrackedText

open Registry

/-- What can happen to one range in the course of a run. An edit is recorded as the registry reported it
back. -/
inductive Event
  | created (tracked : Bool) (first last : Position)
  | attached
  | detached
  | moved (m : Span.Move)
  | edited (m : Mutation)
  | closed
  deriving DecidableEq, Repr

def Event.places : Event → Bool
  | created _ _ _ | attached | moved _ => true
  | _ => false

/-- One range on its own: where it was after its latest creation, attachment or move by hand, and the
edits made since then while it was tracked. No other range occurs in it. -/
structure Trace where
  extent : Extent
  closed : Bool
  tracked : Bool
  base : Span
  seen : List Mutation

namespace Trace

variable (t : Trace)

def span : Span := t.seen.foldl (fun s m => s.adjust m) t.base

def step : Event → Trace
  | .created tracked first last =>
    { t with tracked, base := .ofPositions t.extent first last, seen := [] }
  | .attached =>
    if t.tracked then t
    else { t with
      tracked := true
      base := .ofPositions t.extent (.ofOffset t.span.start) (.ofOffset t.span.stop)
      seen := [] }
  | .detached => { t with tracked := false }
  | .moved m => { t with base := t.span.move t.extent m, seen := [] }
  | .edited m =>
    { t with extent := t.extent.edit m, seen := if t.tracked then t.seen ++ [m] else t.seen }
  | .closed => if t.closed then t else { t with closed := true, tracked := false }

end Trace

namespace Session

/-- What the requests of a run give rise to, each looked at in the state it meets. -/
def collect {α : Type} (f : Session → Request → Option α) (s : Session) : List Request → List α
  | [] => []
  | q :: qs => (f s q).toList ++ collect f (s.perform q).2 qs

def reported : Except Fault Answer → Option Mutation
  | .ok (.mutation m) => some m
  | _ => none

def returned (s : Session) (q : Request) : Option Mutation := reported (s.perform q).1

def eventAt (id : RangeId) (s : Session) (name : String) (e : Event) : Option Event :=
  if s.holders.get? name = some id then some e else none

/-- What a request means for one range. Requests about other ranges mean nothing to it, and neither
does sharing it or letting go of it. -/
def eventOf (id : RangeId) (s : Session) : Request → Option Event
  | .create tracked _ first last => if s.registry.nextId = id then some (.created tracked first last) else none
  | .attach name => eventAt id s name .attached
  | .detach name => eventAt id s name .detached
  | .move name m => eventAt id s name (.moved m)
  | .notify m => (s.returned (.notify m)).map .edited
  | .detachDocument => some .closed
  | _ => none

/-- The edit that a request reports back, as far as a range is tracked to see it. -/
def returnedTo (id : RangeId) (s : Session) (q : Request) : Option Mutation :=
  if s.registry.isTracked id then s.returned q else none

def total (f : Mutation → Nat) : List Mutation → Nat
  | [] => 0
  | m :: ms => f m + total f ms

def Request.placesSelection : Request → Bool
  | moveSelection _ | select _ _ => true
  | _ => false

def history (n : Nat) (id : RangeId) (qs : List Request) : List Event := collect (eventOf id) (ofLength n) qs

def trace (n : Nat) (id : RangeId) (qs : List Request) : Trace :=
  (history n id qs).foldl Trace.step ⟨.ofLength n, false, false, default, []⟩

end Session

variable {t : Trace} {r r' : Registry} {id other : RangeId} {m : Mutation}

structure Trace.Follows (t : Trace) (id : RangeId) (r : Registry) : Prop where
  extent : t.extent = r.extent
  closed : t.closed = r.detached
  live : ∀ s, r.span? id = some s → t.span = s ∧ t.tracked = r.isTracked id

namespace Trace

theorem span_edited (h : t.tracked = true) (m : Mutation) : (t.step (.edited m)).span = t.span.adjust m := by
  simp [step, span, h]

theorem span_edited_untracked (h : t.tracked = false) (m : Mutation) : (t.step (.edited m)).span = t.span := by
  simp [step, span, h]

namespace Follows

theorem release (h : t.Follows id r) (old : RangeId) : t.Follows id (r.release old) where
  extent := h.extent
  closed := h.closed
  live := by
    intro s hs
    rw [span?_release] at hs
    split at hs
    · cases hs
    · exact h.live s hs

theorem lets (h : t.Follows id r) (hl : Session.Lets r r') : t.Follows id r' := by
  rcases hl with rfl | ⟨old, rfl⟩
  · exact h
  · exact h.release old

theorem create_self (h : t.Follows r.nextId r) (hn : r.nextId ∉ r.tracked) (tracked : Bool) (first last : Position) :
    (t.step (.created tracked first last)).Follows r.nextId (r.create tracked first last).2 where
  extent := by cases tracked <;> exact h.extent
  closed := by cases tracked <;> exact h.closed
  live := by
    intro s hs
    rw [span?_create, if_pos rfl, Option.some.injEq] at hs
    refine ⟨?_, (isTracked_create_nextId hn tracked first last).symm⟩
    simpa only [step, span, List.foldl_nil, h.extent] using hs

theorem create_other (h : t.Follows id r) (hn : id ≠ r.nextId) (tracked : Bool) (first last : Position) :
    t.Follows id (r.create tracked first last).2 where
  extent := by cases tracked <;> exact h.extent
  closed := by cases tracked <;> exact h.closed
  live := by
    intro s hs
    rw [span?_create, if_neg hn] at hs
    rw [isTracked_create (by simp [hs]) hn]
    exact h.live s hs

theorem attach_self (h : t.Follows id r) : (t.step .attached).Follows id (r.attach id).2 where
  extent := by rw [extent_attach, ← h.extent, step]; split <;> rfl
  closed := by rw [detached_attach, ← h.closed, step]; split <;> rfl
  live := by
    intro s hs
    rw [span?_attach] at hs
    obtain ⟨s, hr, rfl⟩ := Option.map_eq_some_iff.1 hs
    obtain ⟨hspan, htracked⟩ := h.live s hr
    rw [isTracked_attach (by simp [hr])]
    cases ht : r.isTracked id with
    | true => simp [step, htracked, ht, hspan]
    | false =>
        rw [ht] at htracked
        refine ⟨?_, by simp [step, htracked]⟩
        simp only [step, htracked, Bool.false_eq_true, if_false, span, List.foldl_nil]
        simp only [← hspan, renew, h.extent, and_self, if_true]
        rfl

theorem attach_other (h : t.Follows id r) (hn : id ≠ other) : t.Follows id (r.attach other).2 where
  extent := by rw [extent_attach, ← h.extent]
  closed := by rw [detached_attach, ← h.closed]
  live := by
    intro s hs
    simp only [span?_attach, hn, false_and, if_false, Option.map_id'] at hs
    rw [isTracked_attach (by simp [hs]), beq_eq_false_iff_ne.2 hn, Bool.or_false]
    exact h.live s hs

theorem detach_self (h : t.Follows id r) : (t.step .detached).Follows id (r.detach id).2 where
  extent := h.extent
  closed := h.closed
  live := by
    intro s hs
    rw [isTracked_detach]
    exact ⟨(h.live s hs).1, by simp [step]⟩

theorem detach_other (h : t.Follows id r) (hn : id ≠ other) : t.Follows id (r.detach other).2 where
  extent := h.extent
  closed := h.closed
  live := by
    intro s hs
    simpa only [isTracked_detach, bne_iff_ne.2 hn, Bool.and_true] using h.live s hs

theorem move_self (h : t.Follows id r) (m : Span.Move) : (t.step (.moved m)).Follows id (r.moveRange id m) where
  extent := h.extent
  closed := h.closed
  live := by
    intro s hs
    rw [moveRange, span?_update] at hs
    obtain ⟨s, hr, rfl⟩ := Option.map_eq_some_iff.1 hs
    obtain ⟨hspan, htracked⟩ := h.live s hr
    refine ⟨?_, htracked⟩
    simp only [step, span, List.foldl_nil, h.extent, if_true]
    exact congrArg (Span.move r.extent · m) hspan

theorem move_other (h : t.Follows id r) (hn : id ≠ other) (m : Span.Move) : t.Follows id (r.moveRange other m) where
  extent := h.extent
  closed := h.closed
  live := by
    intro s hs
    simp only [moveRange, span?_update, hn, if_false, Option.map_id'] at hs
    exact h.live s hs

theorem notified (h : t.Follows id r) (hm : Notified m r r') : (t.step (.edited m)).Follows id r' where
  extent := by rw [hm.extent, ← h.extent]; rfl
  closed := by rw [hm.still, ← hm.attached, ← h.closed]; rfl
  live := by
    intro s hs
    rw [hm.span?] at hs
    obtain ⟨s, hr, rfl⟩ := Option.map_eq_some_iff.1 hs
    obtain ⟨hspan, htracked⟩ := h.live s hr
    rw [hm.isTracked (by simp [hr])]
    refine ⟨?_, htracked⟩
    cases ht : r.isTracked id with
    | true => rw [span_edited (htracked.trans ht), hspan, if_pos (isTracked_iff.1 ht)]
    | false =>
        have hn : id ∉ r.tracked := fun hi => by simp [isTracked_iff.2 hi] at ht
        rw [span_edited_untracked (htracked.trans ht), hspan, if_neg hn]

theorem detachDocument (h : t.Follows id r) : (t.step .closed).Follows id r.detachDocument := by
  cases hd : r.detached with
  | true => simpa only [Registry.detachDocument, step, h.closed, hd, if_true] using h
  | false =>
      simp only [Registry.detachDocument, step, h.closed, hd, Bool.false_eq_true, if_false]
      exact ⟨h.extent, rfl, fun s hs => ⟨(h.live s hs).1, rfl⟩⟩

theorem select (h : t.Follows id r) (s : Selection) : t.Follows id { r with selection := s } :=
  ⟨h.extent, h.closed, h.live⟩

end Follows

end Trace

namespace Session

variable {s : Session} {n : Nat} {qs : List Request} {q : Request} {p : Except Fault Answer × Session}

theorem collect_append {α : Type} (f : Session → Request → Option α) (s : Session) (qs : List Request)
    (q : Request) :
    collect f s (qs ++ [q]) = collect f s qs ++ (f (qs.foldl (fun s q => (s.perform q).2) s) q).toList := by
  induction qs generalizing s with
  | nil => simp [collect]
  | cons p qs ih => simp [collect, ih]

theorem trace_append (n : Nat) (id : RangeId) (qs : List Request) (q : Request) :
    trace n id (qs ++ [q]) = ((eventOf id (after n qs) q).toList).foldl Trace.step (trace n id qs) := by
  rw [trace, history, collect_append, List.foldl_append]
  rfl

theorem returned_notify {m : Mutation} {p : Mutation × Registry} (h : s.registry.notify m = .ok p) :
    s.returned (.notify m) = some p.1 := by simp only [returned, perform, run, h, reported]

theorem returned_refused {m : Mutation} {e : RangeError} (h : s.registry.notify m = .error e) :
    s.returned (.notify m) = none := by simp only [returned, perform, run, h, reported]

theorem follows_eventAt {name : String} {e : Event} (hn : s.holders.get? name = some other)
    (hself : id = other → (t.step e).Follows id r) (hother : id ≠ other → t.Follows id r) :
    ((eventAt id s name e).toList.foldl Trace.step t).Follows id r := by
  rw [eventAt, hn]
  by_cases hi : id = other
  · rw [if_pos (congrArg some hi.symm)]
    exact hself hi
  · rw [if_neg fun he => hi (Option.some.inj he).symm]
    exact hother hi

theorem eventOf_unknown {name : String} (hq : q.subject = some name) (hn : s.holders.get? name = none) :
    eventOf id s q = none := by
  cases q <;> simp only [Request.subject, Option.some.injEq, reduceCtorEq] at hq
  all_goals subst hq; simp [eventOf, eventAt, hn]

theorem follows_outcome (hs : s.Sound) (h : t.Follows id s.registry) (ho : Outcome s q p) :
    ((eventOf id s q).toList.foldl Trace.step t).Follows id p.2.registry := by
  cases ho with
  | unknown hq hn =>
      rw [eventOf_unknown hq hn]
      exact h
  | create tracked name first last =>
      refine Trace.Follows.lets ?_ (lets_hold _ name s.registry.nextId)
      by_cases hi : id = s.registry.nextId
      · rw [eventOf, if_pos hi.symm]
        subst hi
        exact h.create_self hs.registry.nextId_not_mem tracked first last
      · rw [eventOf, if_neg (Ne.symm hi)]
        exact h.create_other hi tracked first last
  | share hn other => exact h.lets (lets_hold s other _)
  | drop name => exact h.lets (lets_drop s name)
  | attach hn => exact follows_eventAt hn (by rintro rfl; exact h.attach_self) h.attach_other
  | detach hn => exact follows_eventAt hn (by rintro rfl; exact h.detach_self) h.detach_other
  | move hn m => exact follows_eventAt hn (by rintro rfl; exact h.move_self m) (h.move_other · m)
  | notified hm =>
      rw [eventOf, returned_notify hm]
      exact h.notified (hs.registry.notify hm)
  | refused hm =>
      rw [eventOf, returned_refused hm]
      exact h
  | moveSelection m => exact h.select _
  | select first last => exact h.select _
  | readSelection => exact h
  | detachDocument => exact h.detachDocument

theorem follows_after (n : Nat) (id : RangeId) (qs : List Request) :
    (trace n id qs).Follows id (after n qs).registry := by
  induction qs using List.reverseRecOn with
  | nil => exact ⟨rfl, rfl, fun s hs => by simp [after, ofLength, Registry.ofLength, Registry.span?] at hs⟩
  | append_singleton qs q ih =>
      rw [trace_append, after_append]
      exact follows_outcome (sound_after n qs) ih (outcome _ q)

theorem extent_outcome (hs : s.Sound) (ho : Outcome s q p) :
    (reported p.1 = none ∧ p.2.registry.extent = s.registry.extent) ∨
      ∃ m, reported p.1 = some m ∧ Notified m s.registry p.2.registry := by
  cases ho with
  | unknown | refused | readSelection | detach | move | moveSelection | select => exact .inl ⟨rfl, rfl⟩
  | create tracked name first last =>
      exact .inl ⟨rfl, (lets_hold _ name s.registry.nextId).extent.trans (extent_create tracked first last)⟩
  | share hn other => exact .inl ⟨rfl, (lets_hold s other _).extent⟩
  | drop name => exact .inl ⟨rfl, (lets_drop s name).extent⟩
  | attach hn => exact .inl ⟨rfl, extent_attach⟩
  | notified hm => exact .inr ⟨_, rfl, hs.registry.notify hm⟩
  | detachDocument => exact .inl ⟨rfl, extent_detachDocument⟩

theorem total_append (f : Mutation → Nat) (ms ms' : List Mutation) : total f (ms ++ ms') = total f ms + total f ms' := by
  induction ms with
  | nil => rw [List.nil_append, total, Nat.zero_add]
  | cons m ms ih => rw [List.cons_append, total, total, ih, Nat.add_assoc]

theorem length_after (n : Nat) (qs : List Request) :
    (after n qs).registry.extent.length + total Mutation.removed (collect returned (ofLength n) qs) =
      max n 1 + total Mutation.inserted (collect returned (ofLength n) qs) := by
  induction qs using List.reverseRecOn with
  | nil => rfl
  | append_singleton qs q ih =>
      have hc : collect returned (ofLength n) (qs ++ [q]) =
          collect returned (ofLength n) qs ++ (reported ((after n qs).perform q).1).toList := collect_append _ _ _ _
      rw [hc, after_append, total_append, total_append]
      rcases extent_outcome (sound_after n qs) (outcome _ q) with ⟨hr, he⟩ | ⟨m, hr, hm⟩
      · rw [hr, he]
        exact ih
      · have hl := Extent.length_edit hm.fits
        rw [hr, hm.extent]
        simp only [Option.toList_some, total]
        omega

theorem span?_outcome {span' : Span} (ho : Outcome s q p) (hs : s.Sound) (hl : p.2.registry.span? id = some span')
    (he : ∀ e, eventOf id s q = some e → e.places = false) :
    ∃ span, s.registry.span? id = some span ∧
      span' = (if s.registry.isTracked id then reported p.1 else none).toList.foldl (fun s m => s.adjust m) span := by
  cases ho with
  | unknown | refused | readSelection | moveSelection | select | detach =>
      exact ⟨span', hl, by simp [reported]⟩
  | create tracked name first last =>
      have hc := (lets_hold _ name s.registry.nextId).span? hl
      have hi : id ≠ s.registry.nextId := fun hi => by simpa [Event.places] using he _ (if_pos hi.symm)
      rw [span?_create, if_neg hi] at hc
      exact ⟨span', hc, by simp [reported]⟩
  | share hn other => exact ⟨span', (lets_hold s other _).span? hl, by simp [reported]⟩
  | drop name => exact ⟨span', (lets_drop s name).span? hl, by simp [reported]⟩
  | @attach name other hn =>
      have hi : id ≠ other := by
        rintro rfl
        simpa [Event.places] using he .attached (if_pos hn)
      refine ⟨span', ?_, by simp [reported]⟩
      simpa only [span?_attach, hi, false_and, if_false, Option.map_id'] using hl
  | @move name other hn m =>
      have hi : id ≠ other := by
        rintro rfl
        simpa [Event.places] using he (.moved m) (if_pos hn)
      refine ⟨span', ?_, by simp [reported]⟩
      simpa only [moveRange, span?_update, hi, if_false, Option.map_id'] using hl
  | notified hm =>
      rw [(hs.registry.notify hm).span?] at hl
      obtain ⟨span, hspan, rfl⟩ := Option.map_eq_some_iff.1 hl
      refine ⟨span, hspan, ?_⟩
      by_cases ht : id ∈ s.registry.tracked
      · rw [if_pos ht, if_pos (isTracked_iff.2 ht)]
        rfl
      · rw [if_neg ht, if_neg (mt isTracked_iff.1 ht)]
        rfl
  | detachDocument => exact ⟨span', span?_detachDocument ▸ hl, by simp [reported]⟩

theorem selection_outcome (ho : Outcome s q p) (hs : s.Sound) (hq : q.placesSelection = false) :
    p.2.registry.selection.span = (reported p.1).toList.foldl (fun s m => s.adjust m) s.registry.selection.span := by
  cases ho with
  | unknown | refused | readSelection | move | detach => rfl
  | moveSelection | select => cases hq
  | create tracked name first last =>
      rw [(lets_hold _ name s.registry.nextId).selection]
      exact congrArg Selection.span (selection_create tracked first last)
  | share hn other => exact congrArg Selection.span (lets_hold s other _).selection
  | drop name => exact congrArg Selection.span (lets_drop s name).selection
  | attach hn => exact congrArg Selection.span selection_attach
  | notified hm => exact congrArg Selection.span (hs.registry.notify hm).selection
  | detachDocument => exact span_detachDocument

theorem after_append_append (n : Nat) (qs qs' : List Request) :
    qs'.foldl (fun s q => (s.perform q).2) (after n qs) = after n (qs ++ qs') := by
  rw [after, after, List.foldl_append]

theorem span?_after {span' : Span} (qs' : List Request) (hl : (after n (qs ++ qs')).registry.span? id = some span')
    (he : ∀ e ∈ collect (eventOf id) (after n qs) qs', e.places = false) :
    ∃ span, (after n qs).registry.span? id = some span ∧
      span' = (collect (returnedTo id) (after n qs) qs').foldl (fun s m => s.adjust m) span := by
  induction qs' using List.reverseRecOn generalizing span' with
  | nil =>
      rw [List.append_nil] at hl
      exact ⟨span', hl, rfl⟩
  | append_singleton qs' q ih =>
      rw [← List.append_assoc, after_append] at hl
      rw [collect_append, after_append_append] at he
      obtain ⟨span₁, hl₁, rfl⟩ := span?_outcome (outcome _ q) (sound_after n _) hl
        fun e hq => he e (List.mem_append_right _ (by simp [hq]))
      obtain ⟨span, hspan, rfl⟩ := ih hl₁ fun e hm => he e (List.mem_append_left _ hm)
      refine ⟨span, hspan, ?_⟩
      rw [collect_append, after_append_append, List.foldl_append]
      rfl

theorem selection_after (n : Nat) (qs qs' : List Request) (hq : ∀ q ∈ qs', q.placesSelection = false) :
    (after n (qs ++ qs')).registry.selection.span =
      (collect returned (after n qs) qs').foldl (fun s m => s.adjust m) (after n qs).registry.selection.span := by
  induction qs' using List.reverseRecOn with
  | nil => rw [List.append_nil]; rfl
  | append_singleton qs' q ih =>
      rw [← List.append_assoc, after_append, collect_append, after_append_append, List.foldl_append,
        selection_outcome (outcome _ q) (sound_after n _) (hq q (by simp)),
        ih fun q hm => hq q (List.mem_append_left _ hm)]
      rfl

/-- Since it was last created, attached or moved by hand, a range that is still held has been through
exactly the edits that were reported while it was tracked, each once and in order, and an untracked one
has stayed where it was; the selection likewise, as though it were always tracked. The length of the story
adds up. So runs that mean the same to a range leave it in the same place, whatever else they hold, attach
and let go of. -/
theorem every_edit_seen_once (n : Nat) (qs qs' : List Request) :
    (∀ id span', (after n (qs ++ qs')).registry.span? id = some span' →
      (∀ e ∈ collect (eventOf id) (after n qs) qs', e.places = false) →
      ∃ span, (after n qs).registry.span? id = some span ∧
        span' = (collect (returnedTo id) (after n qs) qs').foldl (fun s m => s.adjust m) span) ∧
    (∀ id q span span', (after n qs).registry.span? id = some span →
      (after n (qs ++ [q])).registry.span? id = some span' → (after n qs).registry.isTracked id = false →
      (∀ e, eventOf id (after n qs) q = some e → e.places = false) → span' = span) ∧
    ((∀ q ∈ qs', q.placesSelection = false) →
      (after n (qs ++ qs')).registry.selection.span =
        (collect returned (after n qs) qs').foldl (fun s m => s.adjust m) (after n qs).registry.selection.span) ∧
    (after n qs).registry.extent.length + total Mutation.removed (collect returned (ofLength n) qs) =
      max n 1 + total Mutation.inserted (collect returned (ofLength n) qs) ∧
    ∀ id id' span span', (after n qs).registry.span? id = some span →
      (after n qs').registry.span? id' = some span' → history n id qs = history n id' qs' → span = span' := by
  refine ⟨fun id span' hl he => span?_after qs' hl he, fun id q span span' hl hl' ht he => ?_,
    selection_after n qs qs', length_after n qs, fun id id' span span' hs hs' hh => ?_⟩
  · rw [after_append] at hl'
    obtain ⟨span₁, hl₁, rfl⟩ := span?_outcome (outcome _ q) (sound_after n qs) hl' he
    rw [hl, Option.some.injEq] at hl₁
    simp [ht, hl₁]
  · have htrace : trace n id qs = trace n id' qs' := by rw [trace, trace, hh]
    rw [← ((follows_after n id qs).live span hs).1, ← ((follows_after n id' qs').live span' hs').1, htrace]

def sharedRun : List Request :=
  [.create true "a" 5 10, .share "a" "c", .notify (.insert 6 2), .drop "a", .detach "c", .notify (.delete 0 4),
    .attach "c", .notify (.delete 6 30)]

def crowdedRun : List Request :=
  [.create true "a" 5 10, .create true "b" 0 3, .share "a" "c", .notify (.insert 6 2), .drop "a", .detach "b",
    .detach "c", .notify (.delete 0 4), .attach "b", .attach "c", .drop "b", .notify (.delete 6 30)]

theorem every_edit_seen_once_sharedRun :
    (∃ span, (after 27 (sharedRun.take 7)).registry.span? 0 = some span ∧
      (⟨5, 6⟩ : Span) = (collect (returnedTo 0) (after 27 (sharedRun.take 7)) [.notify (.delete 6 30)]).foldl
        (fun s m => s.adjust m) span) ∧
      (∀ span, (after 27 (sharedRun.take 6)).registry.span? 0 = some span → span = ⟨5, 12⟩) ∧
      (after 27 sharedRun).registry.selection.span =
        (collect returned (after 27 (sharedRun.take 7)) [.notify (.delete 6 30)]).foldl (fun s m => s.adjust m)
          (after 27 (sharedRun.take 7)).registry.selection.span ∧
      ∀ span, (after 27 crowdedRun).registry.span? 0 = some span → span = ⟨5, 6⟩ := by
  have hend : (after 27 sharedRun).registry.span? 0 = some ⟨5, 6⟩ := by decide +kernel
  have hplaces : ∀ e ∈ collect (eventOf 0) (after 27 (sharedRun.take 7)) [.notify (.delete 6 30)],
      e.places = false := by decide +kernel
  have hdetached : (after 27 (sharedRun.take 5)).registry.span? 0 = some ⟨5, 12⟩ := by decide +kernel
  have huntracked : (after 27 (sharedRun.take 5)).registry.isTracked 0 = false := by decide +kernel
  have hedit : eventOf 0 (after 27 (sharedRun.take 5)) (.notify (.delete 0 4)) = some (.edited (.delete 0 4)) := by
    decide +kernel
  have hhistory : history 27 0 crowdedRun = history 27 0 sharedRun := by decide +kernel
  obtain ⟨hseen, -, hselection, -⟩ := every_edit_seen_once 27 (sharedRun.take 7) [.notify (.delete 6 30)]
  obtain ⟨-, hstill, -⟩ := every_edit_seen_once 27 (sharedRun.take 5) []
  obtain ⟨-, -, -, -, halone⟩ := every_edit_seen_once 27 crowdedRun sharedRun
  refine ⟨hseen 0 _ hend hplaces, fun span hs => ?_, hselection (by decide),
    fun span hs => halone 0 0 span _ hs hend hhistory⟩
  exact hstill 0 (.notify (.delete 0 4)) _ _ hdetached hs huntracked (by simp [hedit, Event.places])

end Session

end TrackedText
