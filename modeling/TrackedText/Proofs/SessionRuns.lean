import Mathlib.Data.List.Induction
import TrackedText.Proofs.RegistryBounds
import TrackedText.Registry.Session

namespace TrackedText.Session

open Registry

variable {s : Session} {r : Registry} {id : RangeId} {name : String}

/-- Names stand for live ranges, and a range lives as long as some name stands for it. -/
structure Sound (s : Session) : Prop where
  registry : s.registry.Sound
  names : s.holders.Distinct
  live : ∀ p ∈ s.holders, p.2 ∈ s.registry.ranges.map (·.id)
  held : ∀ id ∈ s.registry.ranges.map (·.id), ∃ p ∈ s.holders, p.2 = id

theorem ids_mapSpans (g : LiveRange → Span) :
    (r.mapSpans g).ranges.map (·.id) = r.ranges.map (·.id) := by simp [mapSpans]

theorem ids_update (f : Span → Span) : (r.update id f).ranges.map (·.id) = r.ranges.map (·.id) := by
  rw [update_eq, ids_mapSpans]

theorem ids_attach : (r.attach id).2.ranges.map (·.id) = r.ranges.map (·.id) := by
  rw [Registry.attach]
  split
  · rfl
  · exact ids_update r.renew

theorem ids_detachDocument : r.detachDocument.ranges.map (·.id) = r.ranges.map (·.id) := by
  rw [Registry.detachDocument]
  split <;> rfl

theorem ids_notified {r' : Registry} {m : Mutation} (h : Notified m r r') :
    r'.ranges.map (·.id) = r.ranges.map (·.id) := by
  rw [h.ranges, ids_mapSpans]

theorem ids_create (tracked : Bool) (first last : Position) :
    (r.create tracked first last).2.ranges.map (·.id) = r.nextId :: r.ranges.map (·.id) := by
  cases tracked <;> rfl

/-- The name that a request is about, and that must be known for it. -/
def Request.subject : Request → Option String
  | share name _ | attach name | detach name | move name _ => some name
  | _ => none

inductive Outcome (s : Session) : Request → Except Fault Answer × Session → Prop
  | unknown {q : Request} {name : String} (hq : q.subject = some name) (hn : s.holders.get? name = none) :
      Outcome s q (.error (.unknownName name), s)
  | create (tracked : Bool) (name : String) (first last : Position) :
      Outcome s (.create tracked name first last) (.ok .nothing,
        { s with registry := (s.registry.create tracked first last).2 }.hold name s.registry.nextId)
  | share {name : String} {id : RangeId} (hn : s.holders.get? name = some id) (other : String) :
      Outcome s (.share name other) (.ok .nothing, s.hold other id)
  | drop (name : String) : Outcome s (.drop name) (.ok .nothing, s.drop name)
  | attach {name : String} {id : RangeId} (hn : s.holders.get? name = some id) :
      Outcome s (.attach name)
        (.ok (.flag (s.registry.attach id).1), { s with registry := (s.registry.attach id).2 })
  | detach {name : String} {id : RangeId} (hn : s.holders.get? name = some id) :
      Outcome s (.detach name)
        (.ok (.flag (s.registry.detach id).1), { s with registry := (s.registry.detach id).2 })
  | move {name : String} {id : RangeId} (hn : s.holders.get? name = some id) (m : Span.Move) :
      Outcome s (.move name m) (.ok .nothing, { s with registry := s.registry.moveRange id m })
  | notified {m m' : Mutation} {r : Registry} (hm : s.registry.notify m = .ok (m', r)) :
      Outcome s (.notify m) (.ok (.mutation m'), { s with registry := r })
  | refused {m : Mutation} {e : RangeError} (hm : s.registry.notify m = .error e) :
      Outcome s (.notify m) (.error (.range e), s)
  | moveSelection (m : Span.Move) :
      Outcome s (.moveSelection m) (.ok .nothing, { s with registry := s.registry.moveSelection m })
  | select (first last : Position) :
      Outcome s (.select first last) (.ok .nothing,
        { s with registry := s.registry.select (.ofPositions s.registry.extent first last) })
  | readSelection : Outcome s .readSelection (.ok (.selection s.registry.selection), s)
  | detachDocument : Outcome s .detachDocument (.ok .nothing, { s with registry := s.registry.detachDocument })

theorem outcome (s : Session) (q : Request) : Outcome s q (s.perform q) := by
  cases hq : q.subject with
  | some name =>
      cases hn : s.holders.get? name with
      | none =>
          have hp : s.perform q = (.error (.unknownName name), s) := by
            cases q <;> simp only [Request.subject, Option.some.injEq, reduceCtorEq] at hq
            all_goals subst hq; simp [perform, run, resolve, hn, bind, Except.bind]
          rw [hp]
          exact .unknown hq hn
      | some id =>
          cases q <;> simp only [Request.subject, Option.some.injEq, reduceCtorEq] at hq
          all_goals subst hq; simp only [perform, run, resolve, hn, bind, Except.bind, pure, Except.pure]
          · exact .share hn _
          · exact .attach hn
          · exact .detach hn
          · exact .move hn _
  | none =>
      cases q with
      | create tracked name first last => exact .create tracked name first last
      | drop name => exact .drop name
      | notify m =>
          cases hm : s.registry.notify m with
          | error e => simpa only [perform, run, hm] using Outcome.refused hm
          | ok p => simpa only [perform, run, hm] using Outcome.notified hm
      | moveSelection m => exact .moveSelection m
      | select first last => exact .select first last
      | readSelection => exact .readSelection
      | detachDocument => exact .detachDocument
      | share | attach | detach | move => cases hq

theorem registry_settle (s : Session) (id : RangeId) :
    (s.settle id).registry = s.registry ∨ (s.settle id).registry = s.registry.release id := by
  rw [settle]
  split
  · exact .inl rfl
  · exact .inr rfl

/-- Letting go of a name leaves the registry alone, or lets a range go. -/
def Lets (r r' : Registry) : Prop := r' = r ∨ ∃ old, r' = r.release old

theorem Lets.extent {r r' : Registry} (h : Lets r r') : r'.extent = r.extent := by
  rcases h with rfl | ⟨old, rfl⟩ <;> rfl

theorem Lets.selection {r r' : Registry} (h : Lets r r') : r'.selection = r.selection := by
  rcases h with rfl | ⟨old, rfl⟩ <;> rfl

theorem Lets.span? {r r' : Registry} {t : Span} (h : Lets r r') (ht : r'.span? id = some t) :
    r.span? id = some t := by
  rcases h with rfl | ⟨old, rfl⟩
  · exact ht
  · rw [span?_release] at ht
    split at ht
    · cases ht
    · exact ht

theorem lets_hold (s : Session) (name : String) (id : RangeId) : Lets s.registry (s.hold name id).registry := by
  rw [hold]
  split
  · rename_i old _
    rcases registry_settle { s with holders := s.holders.put name id } old with h | h
    · exact .inl h
    · exact .inr ⟨old, h⟩
  · exact .inl rfl

theorem lets_drop (s : Session) (name : String) : Lets s.registry (s.drop name).registry := by
  rw [drop]
  split
  · rename_i old _
    rcases registry_settle { s with holders := s.holders.erase name } old with h | h
    · exact .inl h
    · exact .inr ⟨old, h⟩
  · exact .inl rfl

namespace Sound

theorem old (h : s.Sound) (hn : s.holders.get? name = some id) : id < s.registry.nextId := by
  obtain ⟨l, hl, rfl⟩ := List.mem_map.1 (h.live _ (Named.mem_of_get? hn))
  exact h.registry.liveOld l hl

theorem withRegistry (h : s.Sound) (hr : r.Sound) (hi : r.ranges.map (·.id) = s.registry.ranges.map (·.id)) :
    ({ s with registry := r } : Session).Sound where
  registry := hr
  names := h.names
  live := fun p hp => by simpa only [hi] using h.live p hp
  held := fun id hid => h.held id (by simpa only [hi] using hid)

end Sound

theorem sound_settle (hr : s.registry.Sound) (hd : s.holders.Distinct) (old : RangeId)
    (hl : ∀ p ∈ s.holders, p.2 ∈ s.registry.ranges.map (·.id))
    (hh : ∀ id ∈ s.registry.ranges.map (·.id), id = old ∨ ∃ p ∈ s.holders, p.2 = id) :
    (s.settle old).Sound := by
  rw [settle]
  split
  · rename_i ha
    obtain ⟨p, hp, he⟩ := List.any_eq_true.1 ha
    refine ⟨hr, hd, hl, fun id hid => ?_⟩
    rcases hh id hid with rfl | hh
    · exact ⟨p, hp, by simpa using he⟩
    · exact hh
  · rename_i ha
    have hne : ∀ p ∈ s.holders, p.2 ≠ old := fun p hp he => ha (List.any_eq_true.2 ⟨p, hp, by simp [he]⟩)
    refine ⟨hr.release old, hd, fun p hp => ?_, fun id hid => ?_⟩
    · obtain ⟨l, hm, he⟩ := List.mem_map.1 (hl p hp)
      exact List.mem_map.2 ⟨l, List.mem_filter.2 ⟨hm, by simpa [he] using hne p hp⟩, he⟩
    · obtain ⟨l, hm, rfl⟩ := List.mem_map.1 hid
      obtain ⟨hm, hne⟩ := List.mem_filter.1 hm
      rcases hh l.id (List.mem_map_of_mem hm) with he | hh
      · simp [he] at hne
      · exact hh

theorem sound_hold (hr : s.registry.Sound) (hd : s.holders.Distinct) (hid : id ∈ s.registry.ranges.map (·.id))
    (hl : ∀ p ∈ s.holders, p.2 ∈ s.registry.ranges.map (·.id))
    (hh : ∀ a ∈ s.registry.ranges.map (·.id), a = id ∨ ∃ p ∈ s.holders, p.2 = a) :
    (s.hold name id).Sound := by
  have hl' : ∀ p ∈ s.holders.put name id, p.2 ∈ s.registry.ranges.map (·.id) := by
    intro p hp
    rcases Named.mem_put.1 hp with rfl | hp
    · exact hid
    · exact hl p hp.1
  have hh' : ∀ a ∈ s.registry.ranges.map (·.id),
      s.holders.get? name = some a ∨ ∃ p ∈ s.holders.put name id, p.2 = a := by
    intro a ha
    rcases hh a ha with rfl | ⟨p, hp, rfl⟩
    · exact .inr ⟨_, Named.mem_put.2 (.inl rfl), rfl⟩
    · by_cases hn : p.1 = name
      · exact .inl (hd.get?_of_mem (hn ▸ hp))
      · exact .inr ⟨p, Named.mem_put.2 (.inr ⟨hp, hn⟩), rfl⟩
  rw [hold]
  cases ho : s.holders.get? name with
  | none =>
      refine ⟨hr, hd.put name id, hl', fun a ha => ?_⟩
      simpa only [ho, reduceCtorEq, false_or] using hh' a ha
  | some old =>
      refine sound_settle (s := { s with holders := s.holders.put name id }) hr (hd.put name id) old hl'
        (fun a ha => ?_)
      simpa only [ho, Option.some.injEq, eq_comm] using hh' a ha

namespace Sound

theorem drop (h : s.Sound) (name : String) : (s.drop name).Sound := by
  rw [Session.drop]
  cases hn : s.holders.get? name with
  | none => exact h
  | some id =>
      refine sound_settle (s := { s with holders := s.holders.erase name }) h.registry (h.names.erase name) id
        (fun p hp => h.live p (Named.mem_erase.1 hp).1) (fun a ha => ?_)
      obtain ⟨p, hp, rfl⟩ := h.held a ha
      by_cases he : p.1 = name
      · have hp := h.names.get?_of_mem (he ▸ hp : (name, p.2) ∈ s.holders)
        exact .inl (Option.some.inj (hp.symm.trans hn))
      · exact .inr ⟨p, Named.mem_erase.2 ⟨hp, he⟩, rfl⟩

theorem create (h : s.Sound) (tracked : Bool) (first last : Position) :
    (({ s with registry := (s.registry.create tracked first last).2 } : Session).hold name
      s.registry.nextId).Sound := by
  refine sound_hold (h.registry.create tracked first last) h.names ?_ ?_ ?_
  · simp [ids_create]
  · intro p hp
    simpa only [ids_create] using List.mem_cons_of_mem _ (h.live p hp)
  · intro a ha
    rcases List.mem_cons.1 (by simpa only [ids_create] using ha) with rfl | ha
    · exact .inl rfl
    · exact .inr (h.held a ha)

theorem share (h : s.Sound) (hn : s.holders.get? name = some id) (other : String) : (s.hold other id).Sound :=
  sound_hold h.registry h.names (h.live _ (Named.mem_of_get? hn)) h.live fun a ha => .inr (h.held a ha)

theorem outcome {q : Request} {p : Except Fault Answer × Session} (h : s.Sound) (ho : Outcome s q p) : p.2.Sound := by
  cases ho with
  | unknown | refused | readSelection => exact h
  | create tracked name first last => exact h.create tracked first last
  | share hn other => exact h.share hn other
  | drop name => exact h.drop name
  | attach hn => exact h.withRegistry (h.registry.attach (h.old hn)) ids_attach
  | detach hn => exact h.withRegistry (h.registry.detach _) rfl
  | move hn m => exact h.withRegistry (h.registry.step (.moveRange _ _ m)) (ids_update _)
  | notified hm =>
      have hn := h.registry.notify hm
      exact h.withRegistry (h.registry.notified hn) (ids_notified hn)
  | moveSelection m => exact h.withRegistry (h.registry.step (.moveSelection _ m)) rfl
  | select first last =>
      exact h.withRegistry (h.registry.step (.select _ _ (Span.inStory_ofPositions first last))) rfl
  | detachDocument => exact h.withRegistry h.registry.detachDocument ids_detachDocument

end Sound

theorem sound_ofLength (n : Nat) : (ofLength n).Sound where
  registry := Registry.sound_ofLength n
  names := Named.distinct_nil
  live := by simp [ofLength]
  held := by simp [ofLength, Registry.ofLength]

theorem after_append (n : Nat) (qs : List Request) (q : Request) :
    after n (qs ++ [q]) = ((after n qs).perform q).2 := by simp [after]

theorem sound_after (n : Nat) (qs : List Request) : (after n qs).Sound := by
  induction qs using List.reverseRecOn with
  | nil => exact sound_ofLength n
  | append_singleton qs q ih =>
      rw [after_append]
      exact ih.outcome (outcome _ q)

end TrackedText.Session
