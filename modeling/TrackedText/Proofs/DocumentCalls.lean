import TrackedText.Proofs.DocumentEdits

namespace TrackedText.Document

open Registry

variable {d d' d'' : Document} {r : Registry} {id : RangeId} {start stop : Nat} {t : Text}

/-- A call leaves the document in order and its terminator alone, and takes back no range number. -/
structure Keeps (d d' : Document) : Prop where
  sound : d'.Sound
  terminator : d'.story.terminator = d.story.terminator
  nextId : d.registry.nextId ≤ d'.registry.nextId

theorem Keeps.refl (h : d.Sound) : Keeps d d := ⟨h, rfl, Nat.le_refl _⟩

theorem Keeps.trans (h : Keeps d d') (h' : Keeps d' d'') : Keeps d d'' :=
  ⟨h'.sound, h'.terminator.trans h.terminator, Nat.le_trans h.nextId h'.nextId⟩

theorem Replaced.keeps (h : Replaced start stop t d d') : Keeps d d' :=
  ⟨h.sound, h.story.terminator, Nat.le_of_eq h.nextId.symm⟩

namespace Sound

theorem keeps_step (h : d.Sound) (hs : Step d.registry r) (hx : r.extent = d.registry.extent)
    (hd : r.detached = d.registry.detached) (hn : d.registry.nextId ≤ r.nextId) :
    Keeps d { d with registry := r } where
  sound := ⟨h.story, h.registry.step hs, hd.trans h.attached, h.inStep.trans (congrArg Extent.length hx.symm)⟩
  terminator := rfl
  nextId := hn

theorem keeps_setSpan (h : d.Sound) {s : Span} (hs : s.InStory d.registry.extent) (id : RangeId) :
    Keeps d { d with registry := d.registry.setSpan id s } :=
  h.keeps_step (.setSpan _ id s hs) rfl rfl (Nat.le_refl _)

theorem keeps_apply (h : d.Sound) {c : Command} {p : Patch × Document} (hp : d.apply c = .ok p) : Keeps d p.2 :=
  (h.apply_replaced hp).keeps

theorem keeps_createRange (h : d.Sound) (tracked : Bool) (first last : Position) :
    Keeps d (d.createRange tracked first last).2 := by
  refine h.keeps_step (.create _ tracked first last) (extent_create tracked first last) ?_ ?_
  · cases tracked <;> rfl
  · cases tracked <;> exact Nat.le_succ _

theorem keeps_attach (h : d.Sound) (hid : id < d.registry.nextId) : Keeps d (d.attach id).2 :=
  h.keeps_step (.attach _ id hid) extent_attach detached_attach (Nat.le_of_eq nextId_attach.symm)

theorem keeps_detach (h : d.Sound) (id : RangeId) : Keeps d (d.detach id).2 :=
  h.keeps_step (.detach _ id) rfl rfl (Nat.le_refl _)

theorem keeps_release (h : d.Sound) (id : RangeId) : Keeps d (d.release id) :=
  h.keeps_step (.release _ id) rfl rfl (Nat.le_refl _)

theorem keeps_moveRange (h : d.Sound) (id : RangeId) (m : Span.Move) : Keeps d (d.moveRange id m) :=
  h.keeps_setSpan (Span.inStory_move (Span.inStory_narrow _) m) id

theorem keeps_moveSelection (h : d.Sound) (m : Span.Move) : Keeps d (d.moveSelection m) :=
  h.keeps_step (.moveSelection _ m) rfl rfl (Nat.le_refl _)

theorem keeps_select (h : d.Sound) (id : RangeId) : Keeps d (d.select id) :=
  h.keeps_step (.select _ _ (Span.inStory_narrow _)) rfl rfl (Nat.le_refl _)

theorem keeps_bump (h : d.Sound) : Keeps d d.bump :=
  ⟨⟨h.story, h.registry, h.attached, h.inStep⟩, rfl, Nat.le_refl _⟩

theorem setText (h : d.Sound) (id : RangeId) (t : Text) : ∃ d', d.setText id t = .ok d' ∧ Keeps d d' := by
  obtain ⟨d₁, hp, hr⟩ := h.perform_delete (d.bounds id).start (d.bounds id).stop
  obtain ⟨d₂, hp', hr'⟩ := hr.sound.perform_insert (d.bounds id).start t
  generalize min (d.bounds id).start (d₁.story.length - 1) = o at hp' hr'
  have hb := keeps_bump hr'.sound
  -- the text went in before the terminator, so the span over it ends before the new end
  have hs : Span.InStory d₂.registry.extent ⟨o, o + t.length⟩ := by
    have ho := hr'.story.bounded
    have hl := hr'.story.length
    refine ⟨Nat.le_add_right o t.length, ?_⟩
    change o + t.length ≤ d₂.registry.extent.length
    rw [← hr'.sound.inStep, hl]
    omega
  refine ⟨_, ?_, ((hr.keeps.trans hr'.keeps).trans hb).trans (hb.sound.keeps_setSpan hs id)⟩
  simp only [Document.setText, hp, hp', bind, Except.bind, pure, Except.pure]
  rfl

theorem deleteText (h : d.Sound) (id : RangeId) : ∃ n d', d.deleteText id = .ok (n, d') ∧ Keeps d d' := by
  obtain ⟨d₁, hp, hr⟩ := h.perform_delete (d.bounds id).start (d.bounds id).stop
  generalize min (d.bounds id).start (min (d.bounds id).stop (d.story.length - 1)) = start at hp hr
  generalize min (d.bounds id).stop (d.story.length - 1) = stop at hp hr
  have hb := keeps_bump hr.sound
  refine ⟨(Mutation.delete start stop).delta.natAbs, ?_⟩
  cases ht : d.registry.isTracked id with
  | true =>
      refine ⟨_, ?_, hr.keeps.trans hb⟩
      simp only [Document.deleteText, hp, ht, bind, Except.bind, pure, Except.pure, if_true]
  | false =>
      have hs : Span.InStory d₁.registry.extent ((d.bounds id).adjust (.delete start stop)) := by
        have hm : (Mutation.delete start stop).FitsIn d.registry.extent :=
          ⟨hr.story.ordered, h.inStep ▸ hr.story.bounded⟩
        have ha := Span.inStory_adjust (Span.inStory_narrow (d.registry.span id)) hm
        refine ⟨ha.ordered, ?_⟩
        rw [← hr.sound.inStep, hr.story.length, h.inStep]
        exact ha.bounded
      refine ⟨_, ?_, (hr.keeps.trans hb).trans (hb.sound.keeps_setSpan hs id)⟩
      simp only [Document.deleteText, hp, ht, bind, Except.bind, pure, Except.pure, Bool.false_eq_true, if_false]

end Sound

end TrackedText.Document
