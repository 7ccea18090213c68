import Mathlib.Data.Finset.Card
import TrackedText.Proofs.RangeHistory

namespace TrackedText

open Registry

namespace Event

def settlesTracking : Event → Bool
  | created _ _ _ | attached | detached | closed => true
  | moved _ | edited _ => false

def startsTracking : Event → Bool
  | created tracked _ _ => tracked
  | attached => true
  | _ => false

/-- A registry closes once: only the first closing is an event that counts. -/
def closingOnce : List Event → List Event
  | [] => []
  | closed :: es => closed :: es.filter (· ≠ closed)
  | e :: es => e :: closingOnce es

def latestTracking (es : List Event) : Option Event := ((closingOnce es).filter settlesTracking).getLast?

variable {e : Event} {es : List Event}

theorem closingOnce_closed (es : List Event) : closingOnce (closed :: es) = closed :: es.filter (· ≠ closed) := rfl

theorem closingOnce_cons (he : e ≠ closed) (es : List Event) : closingOnce (e :: es) = e :: closingOnce es := by
  cases e with
  | closed => exact absurd rfl he
  | created | attached | detached | moved | edited => rfl

theorem closingOnce_append (es : List Event) (e : Event) :
    closingOnce (es ++ [e]) = closingOnce es ++ if e = closed ∧ closed ∈ es then [] else [e] := by
  induction es with
  | nil => cases e <;> rfl
  | cons a es ih =>
      by_cases ha : a = closed
      · subst ha
        by_cases he : e = closed <;> simp [closingOnce_closed, List.filter_append, he]
      · rw [List.cons_append, closingOnce_cons ha, closingOnce_cons ha, ih, List.cons_append]
        simp [Ne.symm ha]

theorem latestTracking_append (es : List Event) (e : Event) :
    latestTracking (es ++ [e]) =
      if e.settlesTracking = true ∧ ¬ (e = closed ∧ closed ∈ es) then some e else latestTracking es := by
  rw [latestTracking, closingOnce_append, List.filter_append]
  by_cases hc : e = closed ∧ closed ∈ es
  · simp [hc, latestTracking]
  · cases hs : e.settlesTracking <;> simp [hc, hs, latestTracking]

theorem latestTracking_of_created {tracked : Bool} {first last : Position} (h : created tracked first last ∈ es) :
    ∃ e, latestTracking es = some e := by
  induction es using List.reverseRecOn with
  | nil => cases h
  | append_singleton es e ih =>
      rw [latestTracking_append]
      split
      · exact ⟨e, rfl⟩
      · rename_i he
        rcases List.mem_append.1 h with h | h
        · exact ih h
        · obtain rfl := List.mem_singleton.1 h
          exact absurd ⟨rfl, by simp⟩ he

end Event

/-- The trace of a range knows no more of its past than the latest event that settled its tracking. -/
theorem Trace.tracked_eq (x : Extent) (es : List Event) :
    (es.foldl step ⟨x, false, false, default, []⟩).closed = decide (.closed ∈ es) ∧
      (es.foldl step ⟨x, false, false, default, []⟩).tracked = (Event.latestTracking es).any Event.startsTracking := by
  induction es using List.reverseRecOn with
  | nil => exact ⟨rfl, rfl⟩
  | append_singleton es e ih =>
      rw [List.foldl_append, List.foldl_cons, List.foldl_nil, Event.latestTracking_append]
      generalize es.foldl step ⟨x, false, false, default, []⟩ = t at ih ⊢
      obtain ⟨hc, ht⟩ := ih
      cases e with
      | created | detached => simp [step, hc, Event.settlesTracking, Event.startsTracking]
      | attached => cases hb : t.tracked <;> simp [step, hc, hb, Event.settlesTracking, Event.startsTracking]
      | moved | edited => simp [step, hc, ht, Event.settlesTracking]
      | closed =>
          by_cases hm : Event.closed ∈ es <;>
            simp [step, hc, ht, hm, Event.settlesTracking, Event.startsTracking]

namespace Registry

variable {r : Registry} {id : RangeId}

theorem attach_answer (r : Registry) (id : RangeId) : (r.attach id).1 = !r.isTracked id := by
  rw [attach]
  cases r.isTracked id <;> rfl

theorem detach_answer (r : Registry) (id : RangeId) : (r.detach id).1 = r.isTracked id := by
  rw [Bool.eq_iff_iff, isTracked_iff]
  have hlt : (r.tracked.filter (· ≠ id)).length < r.tracked.length ↔ id ∈ r.tracked := by
    simp [List.length_filter_lt_length_iff_exists]
  have hle := List.length_filter_le (· ≠ id) r.tracked
  rw [← hlt, detach, bne_iff_ne]
  omega

theorem Notified.isLive {r' : Registry} {m : Mutation} (h : Notified m r r') : r'.isLive id = r.isLive id := by
  rw [Registry.isLive, h.span?, Option.isSome_map, Registry.isLive]

end Registry

namespace Session

variable {s : Session} {id : RangeId} {n : Nat} {qs : List Request} {q : Request} {p : Except Fault Answer × Session}

def heldRanges (s : Session) : Finset RangeId := (s.holders.map (·.2)).toFinset

theorem Lets.isLive {r r' : Registry} (h : Lets r r') (hl : r'.isLive id = true) : r.isLive id = true := by
  obtain ⟨span, hs⟩ := Option.isSome_iff_exists.1 hl
  exact Option.isSome_iff_exists.2 ⟨span, h.span? hs⟩

theorem isLive_outcome (ho : Outcome s q p) (hs : s.Sound) (hl : p.2.registry.isLive id = true) :
    s.registry.isLive id = true ∨ ∃ tracked first last, eventOf id s q = some (.created tracked first last) := by
  cases ho with
  | unknown | refused | readSelection | moveSelection | select | detach => exact .inl hl
  | create tracked name first last =>
      have hc := (lets_hold _ name s.registry.nextId).isLive hl
      by_cases hi : id = s.registry.nextId
      · exact .inr ⟨tracked, first, last, if_pos hi.symm⟩
      · rw [isLive, span?_create, if_neg hi] at hc
        exact .inl hc
  | share hn other => exact .inl ((lets_hold s other _).isLive hl)
  | drop name => exact .inl ((lets_drop s name).isLive hl)
  | attach hn => exact .inl (by simpa only [isLive, span?_attach, Option.isSome_map] using hl)
  | move hn m => exact .inl (by simpa only [isLive, moveRange, span?_update, Option.isSome_map] using hl)
  | notified hm => exact .inl ((hs.registry.notify hm).isLive ▸ hl)
  | detachDocument => exact .inl (by simpa only [isLive, span?_detachDocument] using hl)

theorem created_of_isLive (h : (after n qs).registry.isLive id = true) :
    ∃ tracked first last, .created tracked first last ∈ history n id qs := by
  induction qs using List.reverseRecOn with
  | nil => simp [after, ofLength, Registry.ofLength, isLive, Registry.span?] at h
  | append_singleton qs q ih =>
      have hh : history n id (qs ++ [q]) = history n id qs ++ (eventOf id (after n qs) q).toList := collect_append _ _ _ _
      rw [after_append] at h
      rw [hh]
      rcases isLive_outcome (outcome _ q) (sound_after n qs) h with hl | ⟨tracked, first, last, he⟩
      · obtain ⟨tracked, first, last, hm⟩ := ih hl
        exact ⟨tracked, first, last, List.mem_append_left _ hm⟩
      · exact ⟨tracked, first, last, List.mem_append_right _ (by simp [he])⟩

theorem isTracked_after (h : (after n qs).registry.isLive id = true) :
    (after n qs).registry.isTracked id = (Event.latestTracking (history n id qs)).any Event.startsTracking := by
  obtain ⟨span, hs⟩ := Option.isSome_iff_exists.1 h
  rw [← ((follows_after n id qs).live span hs).2]
  exact (Trace.tracked_eq _ _).2

theorem Sound.isLive_iff (h : s.Sound) : s.registry.isLive id = true ↔ id ∈ s.heldRanges := by
  rw [heldRanges, List.mem_toFinset]
  constructor
  · intro hl
    obtain ⟨span, hs⟩ := Option.isSome_iff_exists.1 hl
    obtain ⟨l, hm, rfl, -⟩ := mem_of_span? hs
    obtain ⟨p, hp, he⟩ := h.held l.id (List.mem_map_of_mem hm)
    exact List.mem_map.2 ⟨p, hp, he⟩
  · intro hm
    obtain ⟨p, hp, rfl⟩ := List.mem_map.1 hm
    obtain ⟨l, hl, he⟩ := List.mem_map.1 (h.live p hp)
    exact he ▸ isLive_of_mem hl

theorem Sound.trackedCount_eq (h : s.Sound) :
    s.registry.trackedCount = (s.heldRanges.filter fun id => s.registry.isTracked id = true).card := by
  have he : s.heldRanges.filter (fun id => s.registry.isTracked id = true) =
      (s.registry.tracked.filter s.registry.isLive).toFinset := by
    ext id
    rw [Finset.mem_filter, ← h.isLive_iff, isTracked_iff, List.mem_toFinset, List.mem_filter, and_comm]
  rw [he, List.toFinset_card_of_nodup (List.filter_sublist.nodup h.registry.distinct), trackedCount,
    List.countP_eq_length_filter]

theorem perform_attach {name : String} (hn : s.holders.get? name = some id) :
    (s.perform (.attach name)).1 = .ok (.flag (!s.registry.isTracked id)) := by
  simp [perform, run, resolve, hn, bind, Except.bind, pure, Except.pure, attach_answer]

theorem perform_detach {name : String} (hn : s.holders.get? name = some id) :
    (s.perform (.detach name)).1 = .ok (.flag (s.registry.isTracked id)) := by
  simp [perform, run, resolve, hn, bind, Except.bind, pure, Except.pure, detach_answer]

/-- What happened last to a live range decides whether it is tracked, where a registry closes only once;
attaching and detaching answer whether they changed that. The list of tracked ranges names none twice, and
the count is that of the ranges which some name holds and which are tracked. -/
theorem tracking_is_exact (n : Nat) (qs : List Request) :
    (∀ id, (after n qs).registry.isLive id = true →
      ∃ e, Event.latestTracking (history n id qs) = some e ∧
        ((after n qs).registry.isTracked id = true ↔ e.startsTracking = true)) ∧
    (∀ name id, (after n qs).holders.get? name = some id →
      ((after n qs).perform (.attach name)).1 = .ok (.flag (!(after n qs).registry.isTracked id)) ∧
      ((after n qs).perform (.detach name)).1 = .ok (.flag ((after n qs).registry.isTracked id))) ∧
    (after n qs).registry.tracked.Nodup ∧
    (∀ id, (after n qs).registry.isLive id = true ↔ id ∈ (after n qs).heldRanges) ∧
    (after n qs).registry.trackedCount =
      ((after n qs).heldRanges.filter fun id => (after n qs).registry.isTracked id = true).card := by
  have h := sound_after n qs
  refine ⟨fun id hl => ?_, fun name id hn => ⟨perform_attach hn, perform_detach hn⟩, h.registry.distinct,
    fun id => h.isLive_iff, h.trackedCount_eq⟩
  obtain ⟨tracked, first, last, hm⟩ := created_of_isLive hl
  obtain ⟨e, he⟩ := Event.latestTracking_of_created hm
  exact ⟨e, he, by rw [isTracked_after hl, he, Option.any_some]⟩

def closedRun : List Request :=
  [.create true "a" 0 3, .create false "b" 1 2, .share "a" "c", .drop "a", .detachDocument, .attach "b",
    .detachDocument, .create true "d" 0 9, .drop "d"]

theorem tracking_is_exact_closedRun :
    (∃ e, Event.latestTracking (history 8 0 closedRun) = some e ∧ e.startsTracking = false) ∧
    (∃ e, Event.latestTracking (history 8 1 closedRun) = some e ∧ e.startsTracking = true) ∧
    ((after 8 closedRun).perform (.attach "c")).1 = .ok (.flag true) ∧
    ((after 8 closedRun).perform (.detach "b")).1 = .ok (.flag true) ∧
    (after 8 closedRun).registry.tracked = [1, 2] ∧ (after 8 closedRun).registry.trackedCount = 1 := by
  obtain ⟨hlatest, hanswers, -, -, hcount⟩ := tracking_is_exact 8 closedRun
  have hc : (after 8 closedRun).registry.isTracked 0 = false := by decide +kernel
  have hb : (after 8 closedRun).registry.isTracked 1 = true := by decide +kernel
  obtain ⟨e, he, hs⟩ := hlatest 0 (by decide +kernel)
  obtain ⟨e', he', hs'⟩ := hlatest 1 (by decide +kernel)
  refine ⟨⟨e, he, ?_⟩, ⟨e', he', hs'.1 hb⟩, ?_, ?_, by decide +kernel, ?_⟩
  · rw [hc] at hs
    exact Bool.eq_false_iff.2 (mt hs.2 Bool.false_ne_true)
  · rw [(hanswers "c" 0 (by decide +kernel)).1, hc]
    rfl
  · rw [(hanswers "b" 1 (by decide +kernel)).2, hb]
  · rw [hcount]
    decide +kernel

end Session

end TrackedText
