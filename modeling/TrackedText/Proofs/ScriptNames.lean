import TrackedText.Proofs.DocumentChanges
import TrackedText.Proofs.TrackingHistory
import TrackedText.Proofs.ScriptMentions
import TrackedText.Proofs.ScriptRuns

namespace TrackedText

open Registry

namespace Document

variable {d d₁ d' : Document} {id : RangeId} {start stop : Nat} {s : Span} {t : Text}

/-- A call after which the same ranges are alive, and of these the same are tracked. -/
structure SameTracking (d d' : Document) : Prop where
  sound : d'.Sound
  live : ∀ id, d'.registry.isLive id = d.registry.isLive id
  tracked : ∀ id, d.registry.isLive id = true → d'.registry.isTracked id = d.registry.isTracked id

theorem SameTracking.refl (h : d.Sound) : SameTracking d d := ⟨h, fun _ => rfl, fun _ _ => rfl⟩

theorem Replaced.sameTracking (h : Replaced start stop t d d') : SameTracking d d' :=
  ⟨h.sound, fun _ => h.isLive, h.tracked⟩

theorem SameTracking.setSpan (h : SameTracking d d₁)
    (hs : ({ d₁ with registry := d₁.registry.setSpan id s } : Document).Sound) :
    SameTracking d { d₁ with registry := d₁.registry.setSpan id s } where
  sound := hs
  live := fun other => by
    rw [← h.live, Registry.isLive, Registry.setSpan, span?_update, Option.isSome_map, Registry.isLive]
  tracked := h.tracked

theorem Sound.setText_sameTracking (h : d.Sound) (id : RangeId) (t : Text) :
    ∃ d', d.setText id t = .ok d' ∧ SameTracking d d' := by
  obtain ⟨d', hd, hk⟩ := h.setText id t
  obtain ⟨start, stop, d₁, s, hr, rfl⟩ := h.setText_replaced hd
  exact ⟨_, hd, hr.sameTracking.setSpan hk.sound⟩

theorem Sound.moveRange_sameTracking (h : d.Sound) (id : RangeId) (m : Span.Move) :
    SameTracking d (d.moveRange id m) :=
  (SameTracking.refl h).setSpan (h.keeps_moveRange id m).sound

end Document

namespace Script

open Mention

variable {past : List Mention} {r r' : Runner} {name : Text} {id : RangeId} {s : Step} {steps : List (Nat × Step)}

/-- The runner knows the names that were created and nothing else, and the registry tracks those that the
steps so far leave tracked. -/
structure Agrees (past : List Mention) (r : Runner) : Prop where
  sound : r.document.Sound
  names : r.ranges.map (·.1) = created past
  once : (created past).Nodup
  distinct : (r.ranges.map (·.2)).Nodup
  live : ∀ p ∈ r.ranges, r.document.registry.isLive p.2 = true
  known : ∀ id, r.document.registry.isLive id = true → id ∈ r.ranges.map (·.2)
  tracked : ∀ p ∈ r.ranges, r.document.registry.isTracked p.2 = tracks past p.1

namespace Agrees

theorem start (terminator : Char) (showText : Bool) : Agrees [] (.start terminator showText) where
  sound := Document.sound_ofText [] terminator
  names := rfl
  once := List.nodup_nil
  distinct := List.nodup_nil
  live := by simp [Runner.start]
  known := by simp [Runner.start, Document.ofText, Registry.ofLength, isLive, Registry.span?]
  tracked := by simp [Runner.start]

theorem find_of_mem (h : Agrees past r) (hn : name ∈ created past) :
    ∃ id, (name, id) ∈ r.ranges ∧ r.find name = .ok id := by
  rw [← h.names] at hn
  obtain ⟨p, hp, rfl⟩ := List.mem_map.1 hn
  cases hl : r.ranges.lookup p.1 with
  | none => exact absurd (List.lookup_eq_none_iff.1 hl p hp) (by simp)
  | some id =>
      obtain ⟨before, after, he, -⟩ := List.lookup_eq_some_iff.1 hl
      exact ⟨id, by simp [he], by rw [Runner.find, hl]⟩

theorem lookup_of_not_mem (h : Agrees past r) (hn : name ∉ created past) : r.ranges.lookup name = none := by
  rw [← h.names] at hn
  refine List.lookup_eq_none_iff.2 fun p hp => ?_
  have hne : name ≠ p.1 := fun he => hn (he ▸ List.mem_map_of_mem hp)
  simpa using hne

theorem find_of_not_mem (h : Agrees past r) (hn : name ∉ created past) :
    r.find name = .error (.unknownRange name) := by
  rw [Runner.find, h.lookup_of_not_mem hn]

theorem quiet {d : Document} {m : Mention} (h : Agrees past r) (hc : m.creates = none)
    (hs : ∀ name, m.settlesTracking name = false) (hd : r.document.SameTracking d) :
    Agrees (past ++ [m]) { r with document := d } := by
  have hcreated : created (past ++ [m]) = created past := by
    rw [created_append, hc, Option.toList_none, List.append_nil]
  refine ⟨hd.sound, h.names.trans hcreated.symm, hcreated ▸ h.once, h.distinct, fun p hp => ?_, fun id hl => ?_,
    fun p hp => ?_⟩
  · exact (hd.live p.2).trans (h.live p hp)
  · exact h.known id ((hd.live id).symm.trans hl)
  · rw [tracks_append, hs]
    exact (hd.tracked p.2 (h.live p hp)).trans (h.tracked p hp)

theorem create {m : Mention} {tracked : Bool} (h : Agrees past r) (hn : name ∉ created past)
    (hm : m = ⟨if tracked then .range else .detached, some name⟩) (first last : Position) :
    Agrees (past ++ [m]) { r with
      document := (r.document.createRange tracked first last).2
      ranges := r.ranges ++ [(name, (r.document.createRange tracked first last).1)] } := by
  have hcreated : created (past ++ [m]) = created past ++ [name] := by
    rw [created_append, hm]
    cases tracked <;> rfl
  have hid : (r.document.createRange tracked first last).1 = r.document.registry.nextId := rfl
  have hspan : ∀ id, (r.document.createRange tracked first last).2.registry.span? id =
      if id = r.document.registry.nextId then some (.ofPositions r.document.registry.extent first last)
      else r.document.registry.span? id := fun id => span?_create tracked first last
  have hfresh : ∀ p ∈ r.ranges, p.2 ≠ r.document.registry.nextId := by
    intro p hp he
    obtain ⟨s, hs⟩ := Option.isSome_iff_exists.1 (h.live p hp)
    obtain ⟨l, hl, hi, -⟩ := mem_of_span? hs
    exact absurd (h.sound.registry.liveOld l hl) (by rw [hi, he]; exact Nat.lt_irrefl _)
  refine ⟨(h.sound.keeps_createRange tracked first last).sound, ?_, ?_, ?_, fun p hp => ?_, fun id hl => ?_,
    fun p hp => ?_⟩
  · rw [List.map_append, h.names, hcreated, List.map_singleton]
  · rw [hcreated]
    refine List.nodup_append.2 ⟨h.once, List.nodup_singleton name, fun a ha b hb he => hn ?_⟩
    exact List.mem_singleton.1 hb ▸ he ▸ ha
  · rw [List.map_append, List.map_singleton, hid]
    refine List.nodup_append.2 ⟨h.distinct, List.nodup_singleton _, fun a ha b hb => ?_⟩
    obtain ⟨p, hp, rfl⟩ := List.mem_map.1 ha
    exact List.mem_singleton.1 hb ▸ hfresh p hp
  · rcases List.mem_append.1 hp with hp | hp
    · rw [isLive, hspan, if_neg (hfresh p hp)]
      exact h.live p hp
    · obtain rfl := List.mem_singleton.1 hp
      rw [isLive, hspan, hid, if_pos rfl, Option.isSome_some]
  · rw [isLive, hspan] at hl
    rw [List.map_append, List.mem_append]
    by_cases he : id = r.document.registry.nextId
    · exact .inr (by rw [he, ← hid]; exact List.mem_singleton_self _)
    · rw [if_neg he] at hl
      exact .inl (h.known id hl)
  · rw [tracks_append, hm]
    rcases List.mem_append.1 hp with hp | hp
    · have hne : p.1 ≠ name := fun he => hn (he ▸ h.names ▸ List.mem_map_of_mem hp)
      have hset : settlesTracking p.1 ⟨if tracked then .range else .detached, some name⟩ = false := by
        cases tracked <;> simpa [settlesTracking] using Ne.symm hne
      rw [hset]
      exact (isTracked_create (h.live p hp) (hfresh p hp) tracked first last).trans (h.tracked p hp)
    · obtain rfl := List.mem_singleton.1 hp
      have hset : settlesTracking name ⟨if tracked then .range else .detached, some name⟩ = true := by
        cases tracked <;> simp [settlesTracking]
      rw [hset]
      refine (isTracked_create_nextId h.sound.registry.nextId_not_mem tracked first last).trans ?_
      cases tracked <;> rfl

theorem settle {d : Document} {m : Mention} (h : Agrees past r) (hp : (name, id) ∈ r.ranges)
    (hm : m = ⟨.attach, some name⟩ ∨ m = ⟨.detach, some name⟩) (hd : d.Sound)
    (hl : ∀ id, d.registry.isLive id = r.document.registry.isLive id)
    (ht : ∀ other, r.document.registry.isLive other = true → d.registry.isTracked other =
      if other = id then m.startsTracking else r.document.registry.isTracked other) :
    Agrees (past ++ [m]) { r with document := d } := by
  have hcreated : created (past ++ [m]) = created past := by
    rw [created_append]
    rcases hm with rfl | rfl <;> exact List.append_nil _
  have hset : ∀ other, m.settlesTracking other = (name == other) := fun other => by
    rcases hm with rfl | rfl <;> rfl
  refine ⟨hd, h.names.trans hcreated.symm, hcreated ▸ h.once, h.distinct, fun p hp => (hl p.2).trans (h.live p hp),
    fun id hi => h.known id ((hl id).symm.trans hi), fun p hq => ?_⟩
  rw [tracks_append, hset, ht p.2 (h.live p hq)]
  -- among the named ranges the number tells the name and the name the number
  by_cases he : p.2 = id
  · have hn : p = (name, id) := List.inj_on_of_nodup_map h.distinct hq hp he
    simp [hn]
  · have hn : name ≠ p.1 := by
      rintro rfl
      have hpid := List.inj_on_of_nodup_map (f := Prod.fst) (h.names ▸ h.once) hq hp rfl
      exact he (congrArg Prod.snd hpid)
    simp [he, hn, h.tracked p hq]

theorem attach (h : Agrees past r) (hp : (name, id) ∈ r.ranges) :
    Agrees (past ++ [⟨.attach, some name⟩]) { r with document := (r.document.attach id).2 } := by
  obtain ⟨s, hs⟩ := Option.isSome_iff_exists.1 (h.live _ hp)
  obtain ⟨l, hl, rfl, -⟩ := mem_of_span? hs
  refine h.settle hp (.inl rfl) (h.sound.keeps_attach (h.sound.registry.liveOld l hl)).sound (fun other => ?_)
    fun other ho => (isTracked_attach ho).trans ?_
  · exact (congrArg Option.isSome span?_attach).trans (Option.isSome_map ..)
  · by_cases he : other = l.id <;> simp [he, startsTracking]

theorem detach (h : Agrees past r) (hp : (name, id) ∈ r.ranges) :
    Agrees (past ++ [⟨.detach, some name⟩]) { r with document := (r.document.detach id).2 } := by
  refine h.settle hp (.inr rfl) (h.sound.keeps_detach id).sound (fun _ => rfl) fun other _ =>
    isTracked_detach.trans ?_
  by_cases he : other = id <;> simp [he, startsTracking]

/-- What a step does is settled by the steps before it: it stops at a fault, or it is carried out with
the warning that they call for. -/
structure Outcome (past : List Mention) (r : Runner) (s : Step) : Prop where
  fault : ∀ cause, fault? past s.mention = some cause → r.step s = .error cause
  success : fault? past s.mention = none → ∃ r',
    r.step s = .ok (r', warning? past s.mention, if s = .display then r.display else []) ∧
      Agrees (past ++ [s.mention]) r'

theorem outcome_unnamed {d : Document} (h : Agrees past r) (hn : s.name? = none)
    (hs : r.step s = .ok ({ r with document := d }, none, if s = .display then r.display else []))
    (hd : r.document.SameTracking d) : Outcome past r s := by
  have hf : fault? past s.mention = none := by rw [Step.mention, hn, fault?]
  have hw : warning? past s.mention = none := by
    rw [Step.mention, hn]
    cases s <;> rfl
  have hc : s.mention.creates = none := by
    rw [Step.mention, hn]
    cases s <;> rfl
  refine ⟨fun cause hc => ?_, fun _ => ⟨_, hw ▸ hs, h.quiet hc (fun name => ?_) hd⟩⟩
  · rw [hf] at hc
    cases hc
  · rw [Step.mention, hn]
    cases s <;> rfl

theorem outcome_named {f : RangeId → Except Cause (Runner × Option Warning × Text)} (h : Agrees past r)
    (hf : fault? past s.mention = if name ∈ created past then none else some (.unknownRange name))
    (hs : r.step s = (do f (← r.find name))) (hd : s ≠ .display)
    (ha : ∀ id, (name, id) ∈ r.ranges → ∃ r', f id = .ok (r', warning? past s.mention, []) ∧
      Agrees (past ++ [s.mention]) r') : Outcome past r s := by
  by_cases hn : name ∈ created past
  · rw [if_pos hn] at hf
    obtain ⟨id, hp, he⟩ := h.find_of_mem hn
    obtain ⟨r', hr, hr'⟩ := ha id hp
    refine ⟨fun cause hc => ?_, fun _ => ⟨r', ?_, hr'⟩⟩
    · rw [hf] at hc
      cases hc
    · rw [hs, he, if_neg hd]
      exact hr
  · rw [if_neg hn] at hf
    refine ⟨fun cause hc => ?_, fun hc => ?_⟩
    · obtain rfl := Option.some.inj (hf.symm.trans hc)
      rw [hs, h.find_of_not_mem hn]
      rfl
    · rw [hf] at hc
      cases hc

theorem outcome_creating {first last : Position} (h : Agrees past r) (tracked : Bool)
    (hm : s.mention = ⟨if tracked then .range else .detached, some name⟩)
    (hs : r.step s = (do return (← r.create tracked name first last, none, []))) : Outcome past r s := by
  have hd : s ≠ .display := by
    rintro rfl
    cases tracked <;> cases hm
  have hw : warning? past s.mention = none := by
    rw [hm]
    cases tracked <;> rfl
  have hf : fault? past s.mention = if name ∈ created past then some (.duplicateRange name) else none := by
    rw [hm]
    cases tracked <;> rfl
  by_cases hn : name ∈ created past
  · rw [if_pos hn] at hf
    refine ⟨fun cause hc => ?_, fun hc => ?_⟩
    · obtain rfl := Option.some.inj (hf.symm.trans hc)
      obtain ⟨id, -, he⟩ := h.find_of_mem hn
      have hl : (r.ranges.lookup name).isSome = true := by
        rw [Runner.find] at he
        cases hl : r.ranges.lookup name with
        | none => simp [hl] at he
        | some id => rfl
      rw [hs, Runner.create, if_pos hl]
      rfl
    · rw [hf] at hc
      cases hc
  · rw [if_neg hn] at hf
    refine ⟨fun cause hc => ?_, fun _ => ⟨_, ?_, h.create hn hm first last⟩⟩
    · rw [hf] at hc
      cases hc
    · rw [hs, Runner.create, h.lookup_of_not_mem hn, hw, if_neg hd]
      rfl

theorem outcome_editing {c : Command} (h : Agrees past r) (hn : s.name? = none) (hd : s ≠ .display)
    (hs : r.step s = (do return (← r.apply c, none, []))) : Outcome past r s := by
  obtain ⟨p, d, hp, hr⟩ := h.sound.apply c
  refine h.outcome_unnamed hn ?_ hr.sameTracking
  rw [hs, Runner.apply, hp, if_neg hd]
  rfl

theorem outcome_moving {m : Span.Move} (h : Agrees past r)
    (hf : fault? past s.mention = if name ∈ created past then none else some (.unknownRange name))
    (hs : r.step s = (do return (← r.moveRange name m, none, []))) (hw : warning? past s.mention = none)
    (hc : s.mention.creates = none) (ht : ∀ name, s.mention.settlesTracking name = false) (hd : s ≠ .display) :
    Outcome past r s := by
  refine h.outcome_named (f := fun id => .ok ({ r with document := r.document.moveRange id m }, none, [])) hf ?_ hd
    fun id _ => ⟨_, by rw [hw], h.quiet hc ht (h.sound.moveRange_sameTracking id m)⟩
  rw [hs, Runner.moveRange]
  cases r.find name <;> rfl

theorem outcome (h : Agrees past r) (s : Step) : Outcome past r s := by
  cases s with
  | text t => exact h.outcome_editing rfl (by simp) rfl
  | insert offset t => exact h.outcome_editing rfl (by simp) rfl
  | delete first second => exact h.outcome_editing rfl (by simp) rfl
  | replace first second t => exact h.outcome_editing rfl (by simp) rfl
  | caret active other =>
      have hk := (h.sound.keeps_moveSelection (.both active other)).sound
      exact h.outcome_unnamed rfl rfl ⟨hk, fun _ => rfl, fun _ _ => rfl⟩
  | display => exact h.outcome_unnamed rfl rfl (.refl h.sound)
  | range name first last => exact h.outcome_creating true rfl rfl
  | detached name first last => exact h.outcome_creating false rfl rfl
  | attach name =>
      refine h.outcome_named rfl rfl (by simp) fun id hp => ⟨_, ?_, h.attach hp⟩
      have ha : (r.document.attach id).1 = !tracks past name :=
        (attach_answer _ id).trans (congrArg (! ·) (h.tracked _ hp))
      have hw : warning? past (Step.attach name).mention =
          if (r.document.attach id).1 then none else some (.alreadyTracked name) := by
        rw [ha]
        cases ht : tracks past name <;> simp [warning?, Step.mention, Step.keyword, Step.name?, ht]
      rw [hw]
      rfl
  | detach name =>
      refine h.outcome_named rfl rfl (by simp) fun id hp => ⟨_, ?_, h.detach hp⟩
      have ha : (r.document.detach id).1 = tracks past name := (detach_answer _ id).trans (h.tracked _ hp)
      have hw : warning? past (Step.detach name).mention =
          if (r.document.detach id).1 then none else some (.notTracked name) := by
        rw [ha]
        rfl
      rw [hw]
      rfl
  | setStart name p => exact h.outcome_moving rfl rfl rfl rfl (fun _ => rfl) (by simp)
  | setEnd name p => exact h.outcome_moving rfl rfl rfl rfl (fun _ => rfl) (by simp)
  | collapse name toStart => exact h.outcome_moving rfl rfl rfl rfl (fun _ => rfl) (by simp)
  | setText name t =>
      refine h.outcome_named rfl rfl (by simp) fun id hp => ?_
      obtain ⟨d, hd, hk⟩ := h.sound.setText_sameTracking id t
      exact ⟨_, by simp only [hd]; rfl, h.quiet rfl (fun _ => rfl) hk⟩
  | select name =>
      refine h.outcome_named rfl rfl (by simp) fun id hp => ⟨_, rfl, h.quiet rfl (fun _ => rfl) ?_⟩
      exact ⟨(h.sound.keeps_select id).sound, fun _ => rfl, fun _ _ => rfl⟩

/-- The names decide the whole run, from wherever it starts. -/
theorem run (h : Agrees past r) (steps : List (Nat × Step)) :
    (r.run steps).verdict = verdict past (outline steps) ∧
      Agrees (carriedOut past (outline steps)) (r.run steps).runner := by
  induction steps generalizing past r with
  | nil => exact ⟨rfl, h⟩
  | cons p steps ih =>
      obtain ⟨line, s⟩ := p
      have ho := h.outcome s
      simp only [Runner.run, Runner.perform, outline, List.map_cons, verdict, carriedOut]
      cases hf : fault? past s.mention with
      | some cause =>
          rw [ho.fault cause hf]
          exact ⟨rfl, h⟩
      | none =>
          obtain ⟨r', hs, hr'⟩ := ho.success hf
          obtain ⟨hv, ha⟩ := ih hr'
          rw [hs]
          refine ⟨?_, ha⟩
          rw [outline] at hv
          rw [← hv]
          simp only [Run.followedBy, Run.verdict]
          cases (r'.run steps).result <;> rfl

end Agrees

namespace Agrees

theorem trackedCount_eq (h : Agrees past r) :
    r.document.registry.trackedCount = (created past).countP (tracks past) := by
  have hperm : (r.document.registry.tracked.filter r.document.registry.isLive).Perm
      ((r.ranges.map (·.2)).filter r.document.registry.isTracked) := by
    refine (List.perm_ext_iff_of_nodup (h.sound.registry.distinct.filter _) (h.distinct.filter _)).2 fun id => ?_
    rw [List.mem_filter, List.mem_filter, ← isTracked_iff, and_comm]
    refine and_congr_left fun _ => ⟨h.known id, fun hm => ?_⟩
    obtain ⟨p, hp, rfl⟩ := List.mem_map.1 hm
    exact h.live p hp
  rw [trackedCount, List.countP_eq_length_filter, hperm.length_eq, ← List.countP_eq_length_filter, ← h.names,
    List.countP_map, List.countP_map]
  exact List.countP_congr fun p hp => by rw [Function.comp_apply, Function.comp_apply, h.tracked p hp]

end Agrees

end Script

end TrackedText
