import TrackedText.Proofs.DocumentCalls

namespace TrackedText

open Registry

theorem Span.replace_nothing (o : Nat) (s : Span) : s.replace o o 0 = s := by
  rw [replace_insert, adjust_noop (m := .insert o 0) rfl]

namespace Document

variable {d d₁ d' : Document} {placed : RangeId → Prop} {id : RangeId} {start stop : Nat} {t : Text} {s : Span}

/-- The ways in which a call changes a document. The ranges that it may put somewhere itself, or stop from
following the edits, are those that count as placed. -/
inductive Change (placed : RangeId → Prop) (d : Document) : Document → Prop
  | apply {c : Command} {p : Patch × Document} (h : d.apply c = .ok p) : Change placed d p.2
  | create (tracked : Bool) (first last : Position) : Change placed d (d.createRange tracked first last).2
  | attach (id : RangeId) : Change placed d (d.attach id).2
  | detach {id : RangeId} (h : placed id) : Change placed d (d.detach id).2
  | moveRange {id : RangeId} (h : placed id) (m : Span.Move) : Change placed d (d.moveRange id m)
  | moveSelection (m : Span.Move) : Change placed d (d.moveSelection m)
  | select (id : RangeId) : Change placed d (d.select id)
  | setText {id : RangeId} {t : Text} {d' : Document} (h : placed id) (hd : d.setText id t = .ok d') :
      Change placed d d'
  | deleteText {id : RangeId} {p : Nat × Document} (hd : d.deleteText id = .ok p) : Change placed d p.2

/-- Of these ways, the ones that edit the text. -/
inductive Edit (placed : RangeId → Prop) (d : Document) : Document → Prop
  | apply {c : Command} {p : Patch × Document} (h : d.apply c = .ok p) : Edit placed d p.2
  | setText {id : RangeId} {t : Text} {d' : Document} (h : placed id) (hd : d.setText id t = .ok d') :
      Edit placed d d'
  | deleteText {id : RangeId} {p : Nat × Document} (hd : d.deleteText id = .ok p) : Edit placed d p.2

theorem Edit.change (h : d.Edit placed d') : d.Change placed d' := by
  cases h with
  | apply h => exact .apply h
  | setText h hd => exact .setText h hd
  | deleteText hd => exact .deleteText hd

/-- The others, but for a new range: they put ranges or the selection elsewhere, or change which ranges follow. -/
inductive Rearranged (placed : RangeId → Prop) (d : Document) : Document → Prop
  | attach (id : RangeId) : Rearranged placed d (d.attach id).2
  | detach {id : RangeId} (h : placed id) : Rearranged placed d (d.detach id).2
  | moveRange {id : RangeId} (h : placed id) (m : Span.Move) : Rearranged placed d (d.moveRange id m)
  | moveSelection (m : Span.Move) : Rearranged placed d (d.moveSelection m)
  | select (id : RangeId) : Rearranged placed d (d.select id)

theorem Rearranged.change (h : d.Rearranged placed d') : d.Change placed d' := by
  cases h with
  | attach id => exact .attach id
  | detach h => exact .detach h
  | moveRange h m => exact .moveRange h m
  | moveSelection m => exact .moveSelection m
  | select id => exact .select id

/-- The characters from `start` up to `stop` gave way to `t`, and a tracked range that nobody placed went
along. No range came back to life. -/
structure Carried (placed : RangeId → Prop) (start stop : Nat) (t : Text) (d d' : Document) : Prop where
  story : Story.Replaced start stop t d.story d'.story
  nextId : d.registry.nextId ≤ d'.registry.nextId
  follows : ∀ id s', id < d.registry.nextId → d'.registry.span? id = some s' →
    ∃ s, d.registry.span? id = some s ∧ (¬ placed id → d.registry.isTracked id = true →
      d'.registry.isTracked id = true ∧ s' = s.replace start stop t.length)

theorem Replaced.carried (h : Replaced start stop t d d') : Carried placed start stop t d d' where
  story := h.story
  nextId := Nat.le_of_eq h.nextId.symm
  follows := by
    intro id s' _ hs'
    rw [h.span?] at hs'
    obtain ⟨s, hs, rfl⟩ := Option.map_eq_some_iff.1 hs'
    exact ⟨s, hs, fun _ ht => ⟨(h.tracked id (by simp [hs])).trans ht, if_pos ht⟩⟩

theorem Replaced.isLive (h : Replaced start stop t d d') : d'.registry.isLive id = d.registry.isLive id := by
  rw [Registry.isLive, h.span?, Option.isSome_map, Registry.isLive]

namespace Carried

theorem still (h : d.Sound) (hs : d'.story = d.story) (hn : d.registry.nextId ≤ d'.registry.nextId)
    (hf : ∀ id s', id < d.registry.nextId → d'.registry.span? id = some s' → ∃ s, d.registry.span? id = some s ∧
      (¬ placed id → d.registry.isTracked id = true → d'.registry.isTracked id = true ∧ s' = s)) :
    Carried placed 0 0 [] d d' where
  story := by
    rw [hs]
    exact Story.replaced_nothing h.story.pos
  nextId := hn
  follows := by
    intro id s' hid hs'
    obtain ⟨s, hs, hk⟩ := hf id s' hid hs'
    exact ⟨s, hs, by simpa only [List.length_nil, Span.replace_nothing] using hk⟩

theorem refl (h : d.Sound) : Carried placed 0 0 [] d d :=
  still h rfl (Nat.le_refl _) fun _ s' _ hs' => ⟨s', hs', fun _ ht => ⟨ht, rfl⟩⟩

theorem withSelection (h : d.Sound) (t : Selection) :
    Carried placed 0 0 [] d { d with registry := { d.registry with selection := t } } := by
  have hr : Carried placed 0 0 [] d d := refl h
  exact ⟨hr.story, hr.nextId, hr.follows⟩

theorem setSpan (h : Carried placed start stop t d d₁) (hp : placed id ∨ d.registry.isTracked id = false) (s : Span) :
    Carried placed start stop t d { d₁ with registry := d₁.registry.setSpan id s } where
  story := h.story
  nextId := h.nextId
  follows := by
    intro i s' hi hs'
    obtain ⟨s₁, hs₁, rfl⟩ := Option.map_eq_some_iff.1 ((span?_update _).symm.trans hs')
    obtain ⟨s, hs, hk⟩ := h.follows i s₁ hi hs₁
    refine ⟨s, hs, fun hn ht => ?_⟩
    have hne : i ≠ id := by
      rintro rfl
      rcases hp with hp | hp
      · exact hn hp
      · simp [hp] at ht
    simp only [hne, if_false]
    exact hk hn ht

theorem release (h : Carried placed start stop t d d₁) (old : RangeId) :
    Carried placed start stop t d (d₁.release old) where
  story := h.story
  nextId := h.nextId
  follows := by
    intro i s' hi hs'
    have hs' : (if i = old then none else d₁.registry.span? i) = some s' := span?_release.symm.trans hs'
    split at hs'
    · cases hs'
    · exact h.follows i s' hi hs'

theorem span?_eq (h : d.Sound) (hc : Carried placed start stop t d d') (hp : ¬ placed id)
    (ht : d.registry.isTracked id = true) (hl : d'.registry.isLive id = true) :
    d'.registry.isTracked id = true ∧ ∃ s, d.registry.span? id = some s ∧
      d'.registry.span? id = some (s.replace start stop t.length) := by
  obtain ⟨s', hs'⟩ := Option.isSome_iff_exists.1 hl
  obtain ⟨s, hs, hk⟩ := hc.follows id s' (h.registry.trackedOld id (isTracked_iff.1 ht)) hs'
  obtain ⟨ht', rfl⟩ := hk hp ht
  exact ⟨ht', s, hs, hs'⟩

end Carried

theorem Sound.setText_replaced (h : d.Sound) (hd : d.setText id t = .ok d') :
    ∃ start stop d₁ s, Replaced start stop t d d₁ ∧ d' = { d₁ with registry := d₁.registry.setSpan id s } := by
  obtain ⟨ho, hb⟩ := h.bounds_inStory id
  obtain ⟨d₁, hp, hr⟩ := h.perform_delete (d.bounds id).start (d.bounds id).stop
  obtain ⟨d₂, hp', hr'⟩ := hr.sound.perform_insert (d.bounds id).start t
  have hpos := h.story.pos
  have hat : min (d.bounds id).start (d₁.story.length - 1) =
      min (d.bounds id).start (min (d.bounds id).stop (d.story.length - 1)) := by
    rw [hr.story.length, List.length_nil]
    omega
  rw [hat] at hp' hr'
  simp only [Document.setText, hp, hp', bind, Except.bind, pure, Except.pure, Except.ok.injEq] at hd
  exact ⟨_, _, d₂.bump, _, (hr.trans h hr').bump, hd.symm⟩

theorem Sound.deleteText_replaced {p : Nat × Document} (h : d.Sound) (hd : d.deleteText id = .ok p) :
    ∃ start stop d₁, Replaced start stop [] d d₁ ∧ (p.2 = d₁ ∨ d.registry.isTracked id = false ∧
      ∃ s, p.2 = { d₁ with registry := d₁.registry.setSpan id s }) := by
  obtain ⟨d₁, hp, hr⟩ := h.perform_delete (d.bounds id).start (d.bounds id).stop
  simp only [Document.deleteText, hp, bind, Except.bind, pure, Except.pure, Except.ok.injEq] at hd
  refine ⟨_, _, d₁.bump, hr.bump, ?_⟩
  rw [← hd]
  -- the edit has adjusted a tracked range already, any other one is adjusted here
  cases ht : d.registry.isTracked id with
  | true => exact .inl rfl
  | false => exact .inr ⟨rfl, _, rfl⟩

namespace Change

theorem carried (h : d.Sound) (hc : Change placed d d') : ∃ start stop t, Carried placed start stop t d d' := by
  cases hc with
  | apply hp => exact ⟨_, _, _, (h.apply_replaced hp).carried⟩
  | create tracked first last =>
      refine ⟨0, 0, [], .still h rfl ?_ fun id s' hid hs' => ?_⟩
      · cases tracked <;> exact Nat.le_succ _
      · have hs' : (if id = d.registry.nextId then some (.ofPositions d.registry.extent first last)
            else d.registry.span? id) = some s' := (span?_create tracked first last).symm.trans hs'
        have hne := Nat.ne_of_lt hid
        rw [if_neg hne] at hs'
        exact ⟨s', hs', fun _ ht => ⟨(isTracked_create (by simp [hs']) hne tracked first last).trans ht, rfl⟩⟩
  | attach other =>
      refine ⟨0, 0, [], .still h rfl (Nat.le_of_eq nextId_attach.symm) fun id s' _ hs' => ?_⟩
      obtain ⟨s, hs, rfl⟩ := Option.map_eq_some_iff.1 (span?_attach.symm.trans hs')
      refine ⟨s, hs, fun _ ht => ⟨?_, by simp [ht]⟩⟩
      exact (isTracked_attach (by simp [hs])).trans (by simp [ht])
  | @detach other hp =>
      refine ⟨0, 0, [], .still h rfl (Nat.le_refl _) fun id s' _ hs' => ⟨s', hs', fun hn ht => ⟨?_, rfl⟩⟩⟩
      have hne : id ≠ other := fun he => hn (he ▸ hp)
      exact isTracked_detach.trans (by simp [ht, hne])
  | moveRange hp m => exact ⟨0, 0, [], (Carried.refl h).setSpan (.inl hp) _⟩
  | moveSelection | select => exact ⟨0, 0, [], .withSelection h _⟩
  | setText hp hd =>
      obtain ⟨start, stop, d₁, s, hr, rfl⟩ := h.setText_replaced hd
      exact ⟨start, stop, _, hr.carried.setSpan (.inl hp) s⟩
  | deleteText hd =>
      obtain ⟨start, stop, d₁, hr, he | ⟨ht, s, he⟩⟩ := h.deleteText_replaced hd
      · exact ⟨start, stop, [], he ▸ hr.carried⟩
      · exact ⟨start, stop, [], he ▸ hr.carried.setSpan (.inr ht) s⟩

theorem isLive (h : d.Sound) (hc : Change placed d d') (hl : d.registry.isLive id = true) :
    d'.registry.isLive id = true := by
  have hset : ∀ {r : Registry} (other : RangeId) (s : Span), r.isLive id = true →
      (r.setSpan other s).isLive id = true := fun other s hr => by
    simpa only [Registry.isLive, Registry.setSpan, span?_update, Option.isSome_map] using hr
  cases hc with
  | apply hp => exact (h.apply_replaced hp).isLive.trans hl
  | create tracked first last =>
      refine (congrArg Option.isSome (span?_create tracked first last)).trans ?_
      split
      · rfl
      · exact hl
  | attach other =>
      refine (congrArg Option.isSome span?_attach).trans ?_
      rwa [Option.isSome_map]
  | detach | moveSelection | select => exact hl
  | moveRange => exact hset _ _ hl
  | setText hp hd =>
      obtain ⟨start, stop, d₁, s, hr, rfl⟩ := h.setText_replaced hd
      exact hset _ s (hr.isLive.trans hl)
  | deleteText hd =>
      obtain ⟨start, stop, d₁, hr, he | ⟨-, s, he⟩⟩ := h.deleteText_replaced hd
      · exact he ▸ hr.isLive.trans hl
      · exact he ▸ hset _ s (hr.isLive.trans hl)

end Change

end Document

end TrackedText
