import TrackedText.Document
import TrackedText.Proofs.CoveredText
import TrackedText.Proofs.RegistryBounds

namespace TrackedText

open Registry

namespace Span

theorem replace_insert (o n : Nat) (s : Span) : s.replace o o n = s.adjust (.insert o n) := by
  rw [replace, adjust_noop (m := .delete o o) (by simp [Mutation.isNoop])]

theorem replace_delete (start stop : Nat) (s : Span) : s.replace start stop 0 = s.adjust (.delete start stop) := by
  rw [replace, adjust_noop (m := .insert start 0) rfl]

theorem replace_replace (start stop n : Nat) (s : Span) :
    (s.replace start stop 0).replace start start n = s.replace start stop n := by
  rw [replace_insert, replace_delete, replace]

end Span

theorem Text.replace_replace {start stop : Nat} {u : Text} (hu : start ≤ u.length) (t : Text) :
    replace start start t (replace start stop [] u) = replace start stop t u := by
  have hl : (u.take start).length = start := List.length_take_of_le hu
  simp only [replace, List.append_nil]
  rw [List.take_left' hl, List.drop_left' hl]

theorem Story.Replaced.trans {start stop : Nat} {t : Text} {s s' s'' : Story} (h : s.Sound)
    (hd : Replaced start stop [] s s') (hi : Replaced start start t s' s'') : Replaced start stop t s s'' where
  ordered := hd.ordered
  bounded := hd.bounded
  content := by
    have hu : start ≤ s.content.length := by
      rw [← h.counted]
      exact Nat.le_of_lt (Nat.lt_of_le_of_lt hd.ordered hd.bounded)
    rw [hi.content, hd.content, Text.replace_replace hu]
  terminator := hi.terminator.trans hd.terminator
  length := by simp only [hi.length, hd.length, Nat.sub_self, Nat.sub_zero, List.length_nil, Nat.add_zero]

namespace Command

/-- The interval that a command is about in a story of the given length, the terminator spared. -/
def interval (length : Nat) : Command → Nat × Nat
  | insertText offset _ => (min offset (length - 1), min offset (length - 1))
  | deleteRange first second | replaceRange first second _ =>
    (min (min first second) (length - 1), min (max first second) (length - 1))

def text : Command → Text
  | insertText _ t | replaceRange _ _ t => t
  | deleteRange _ _ => []

end Command

namespace Document

variable {d d' d'' : Document} {id : RangeId} {start stop : Nat} {t : Text}

structure Sound (d : Document) : Prop where
  story : d.story.Sound
  registry : d.registry.Sound
  attached : d.registry.detached = false
  inStep : d.story.length = d.registry.extent.length

/-- The characters from `start` up to `stop` gave way to `t`, and the tracked ranges and the selection
went along. -/
structure Replaced (start stop : Nat) (t : Text) (d d' : Document) : Prop where
  sound : d'.Sound
  story : Story.Replaced start stop t d.story d'.story
  nextId : d'.registry.nextId = d.registry.nextId
  span? : ∀ id, d'.registry.span? id = (d.registry.span? id).map fun s =>
    if d.registry.isTracked id then s.replace start stop t.length else s
  tracked : ∀ id, (d.registry.span? id).isSome → d'.registry.isTracked id = d.registry.isTracked id
  selection : d'.registry.selection.span = d.registry.selection.span.replace start stop t.length

theorem sound_ofText (t : Text) (terminator : Char) : (ofText t terminator).Sound where
  story := Story.sound_ofText t terminator
  registry := sound_ofLength _
  attached := rfl
  inStep := by simp [ofText, Registry.ofLength, Extent.ofLength, Story.ofText]

theorem Replaced.nothing (h : d.Sound) {o : Nat} (ho : o < d.story.length) : Replaced o o [] d d where
  sound := h
  story := Story.replaced_nothing ho
  nextId := rfl
  span? := fun id => by simp [Span.replace_insert, Span.adjust_noop (m := .insert o 0) rfl]
  tracked := fun _ _ => rfl
  selection := by rw [List.length_nil, Span.replace_insert, Span.adjust_noop (m := .insert o 0) rfl]

theorem Replaced.trans (h : d.Sound) (hd : Replaced start stop [] d d') (hi : Replaced start start t d' d'') :
    Replaced start stop t d d'' where
  sound := hi.sound
  story := hd.story.trans h.story hi.story
  nextId := hi.nextId.trans hd.nextId
  span? := by
    intro id
    rw [hi.span?, hd.span?]
    cases hs : d.registry.span? id with
    | none => rfl
    | some s =>
        rw [hd.tracked id (by simp [hs])]
        cases ht : d.registry.isTracked id with
        | false => simp
        | true => simp only [Option.map_some, if_true, List.length_nil, Span.replace_replace]
  tracked := by
    intro id hs
    rw [hi.tracked id (by simpa only [hd.span?, Option.isSome_map] using hs), hd.tracked id hs]
  selection := by
    rw [hi.selection, hd.selection, List.length_nil, Span.replace_replace]

theorem Replaced.bump (h : Replaced start stop t d d') : Replaced start stop t d d'.bump :=
  ⟨⟨h.sound.story, h.sound.registry, h.sound.attached, h.sound.inStep⟩, h.story, h.nextId, h.span?, h.tracked,
    h.selection⟩

theorem Sound.reported {story : Story} {r : Registry} {m : Mutation} (h : d.Sound)
    (hs : Story.Replaced start stop t d.story story) (hn : Notified m d.registry r)
    (hm : ∀ s : Span, s.adjust m = s.replace start stop t.length) (hl : story.length = r.extent.length) :
    Replaced start stop t d { d with story, registry := r } where
  sound := ⟨h.story.replaced hs, h.registry.notified hn, hn.still, hl⟩
  story := hs
  nextId := hn.nextId
  span? := by
    intro id
    simp only [hn.span?, isTracked_iff, hm]
  tracked := fun id hl => hn.isTracked hl
  selection := by
    rw [hn.selection]
    exact hm _

theorem Sound.perform_insert (h : d.Sound) (offset : Nat) (t : Text) :
    ∃ d', d.perform (.insert offset t) = .ok (.insert (min offset (d.story.length - 1)) t.length, d') ∧
      Replaced (min offset (d.story.length - 1)) (min offset (d.story.length - 1)) t d d' := by
  have hs := h.story.insert offset t
  have hm : (Mutation.insert (min offset (d.story.length - 1)) t.length).FitsIn d.registry.extent := by
    rw [Mutation.FitsIn, ← h.inStep]
    exact Nat.le_of_lt hs.bounded
  have hn := notified_react h.registry.distinct hm h.attached
  have hp : d.registry.notifyInsert (min offset (d.story.length - 1)) t.length = _ := notify_of_fits h.attached hm
  refine ⟨_, ?_, h.reported hs hn (fun s => (Span.replace_insert _ _ s).symm) ?_⟩
  · simp only [perform, h.attached, Story.insert_answer, hp]
    rfl
  · rw [hs.length, hn.extent, h.inStep]
    simp [Extent.edit, Extent.grow]

theorem Sound.perform_delete (h : d.Sound) (start stop : Nat) :
    ∃ d', d.perform (.delete start stop) =
        .ok (.delete (min start (min stop (d.story.length - 1))) (min stop (d.story.length - 1)), d') ∧
      Replaced (min start (min stop (d.story.length - 1))) (min stop (d.story.length - 1)) [] d d' := by
  have hs := h.story.delete start stop
  have hm : (Mutation.delete (min start (min stop (d.story.length - 1))) (min stop (d.story.length - 1))).FitsIn
      d.registry.extent := by
    rw [Mutation.FitsIn, ← h.inStep]
    exact ⟨hs.ordered, hs.bounded⟩
  have hn := notified_react h.registry.distinct hm h.attached
  have hp : d.registry.notifyDelete (min start (min stop (d.story.length - 1))) (min stop (d.story.length - 1)) = _ :=
    notify_of_fits h.attached hm
  refine ⟨_, ?_, h.reported hs hn (fun s => (Span.replace_delete _ _ s).symm) ?_⟩
  · simp only [perform, h.attached, Story.delete_answer, hp]
    rfl
  · rw [hs.length, hn.extent, h.inStep]
    simp [Extent.edit, Extent.shrink]

theorem performAll_append (d : Document) (es es' : List StoryEdit) :
    d.performAll (es ++ es') = (do
      let (ms, d) ← d.performAll es
      let (ms', d) ← d.performAll es'
      return (ms ++ ms', d)) := by
  induction es generalizing d with
  | nil =>
      cases h : d.performAll es' <;> simp [performAll, h, bind, Except.bind, pure, Except.pure]
  | cons e es ih =>
      simp only [List.cons_append, performAll, ih, bind, Except.bind, pure, Except.pure]
      cases d.perform e with
      | error _ => rfl
      | ok p =>
          cases h : p.2.performAll es with
          | error _ => simp [h]
          | ok p' => cases h' : p'.2.performAll es' <;> simp [h, h']

theorem performAll_singleton {e : StoryEdit} {m : Mutation} (h : d.perform e = .ok (m, d')) :
    d.performAll [e] = .ok ([m], d') := by
  simp [performAll, h, bind, Except.bind, pure, Except.pure]

theorem Sound.performAll_insertion (h : d.Sound) (s : Story) (offset : Nat) (t : Text) {o : Nat}
    (hs : min offset (s.length - 1) = o) (ho : o < d.story.length) :
    ∃ ms d', d.performAll (Command.insertion s offset t) = .ok (ms, d') ∧ Replaced o o t d d' := by
  cases ht : t.isEmpty with
  | true =>
      obtain rfl := List.isEmpty_iff.1 ht
      exact ⟨[], d, by simp [Command.insertion, performAll], .nothing h ho⟩
  | false =>
      obtain ⟨d', hp, hr⟩ := h.perform_insert o t
      have hi : min o (d.story.length - 1) = o := by omega
      rw [hi] at hp hr
      refine ⟨[.insert o t.length], d', ?_, hr⟩
      simp only [Command.insertion, ht, hs, Bool.false_eq_true, if_false, performAll_singleton hp]

theorem Sound.performAll_deletion (h : d.Sound) (first second : Nat)
    (hs : start = min (min first second) (d.story.length - 1))
    (he : stop = min (max first second) (d.story.length - 1)) :
    ∃ ms d', d.performAll (Command.deletion d.story first second) = .ok (ms, d') ∧ Replaced start stop [] d d' := by
  have hpos := h.story.pos
  have hstart : min (min first second) stop = start := by omega
  by_cases hlt : start < stop
  · obtain ⟨d', hp, hr⟩ := h.perform_delete start stop
    have hstop : min stop (d.story.length - 1) = stop := by omega
    rw [hstop, Nat.min_eq_left (Nat.le_of_lt hlt)] at hp hr
    refine ⟨[.delete start stop], d', ?_, hr⟩
    simp only [Command.deletion, ← he, hstart, hlt, if_true, performAll_singleton hp]
  · obtain rfl : start = stop := by omega
    refine ⟨[], d, ?_, .nothing h (by omega)⟩
    simp only [Command.deletion, ← he, hstart, hlt, if_false, performAll]

theorem Sound.performAll_edits (h : d.Sound) (c : Command) :
    ∃ ms d', d.performAll (c.edits d.story) = .ok (ms, d') ∧
      Replaced (c.interval d.story.length).1 (c.interval d.story.length).2 c.text d d' := by
  have hpos := h.story.pos
  cases c with
  | insertText offset t => exact h.performAll_insertion d.story offset t rfl (by simp only [Command.interval]; omega)
  | deleteRange first second => exact h.performAll_deletion first second rfl rfl
  | replaceRange first second t =>
      obtain ⟨ms, d₁, hp, hr⟩ := h.performAll_deletion first second rfl rfl
      have hl := hr.story.length
      obtain ⟨ms', d₂, hp', hr'⟩ := hr.sound.performAll_insertion d.story (min first second) t rfl
        (by simp only [hl]; omega)
      refine ⟨ms ++ ms', d₂, ?_, hr.trans h hr'⟩
      simp only [Command.edits, performAll_append, hp, hp', bind, Except.bind, pure, Except.pure]

theorem Sound.apply (h : d.Sound) (c : Command) :
    ∃ p d', d.apply c = .ok (p, d') ∧
      Replaced (c.interval d.story.length).1 (c.interval d.story.length).2 c.text d d' := by
  obtain ⟨ms, d', hp, hr⟩ := h.performAll_edits c
  refine ⟨⟨ms, d'.registry.selection.span, d'.story.length, d'.version + 1⟩, d'.bump, ?_, hr.bump⟩
  simp only [Document.apply, hp, bind, Except.bind, pure, Except.pure, bump]

theorem Sound.apply_replaced (h : d.Sound) {c : Command} {p : Patch × Document} (hp : d.apply c = .ok p) :
    Replaced (c.interval d.story.length).1 (c.interval d.story.length).2 c.text d p.2 := by
  obtain ⟨q, d', hq, hr⟩ := h.apply c
  obtain rfl := Except.ok.inj (hp.symm.trans hq)
  exact hr

theorem Sound.bounds_inStory (h : d.Sound) (id : RangeId) :
    (d.bounds id).start ≤ (d.bounds id).stop ∧ (d.bounds id).stop ≤ d.story.length := by
  have hb := Span.inStory_narrow (x := d.registry.extent) (d.registry.span id)
  exact ⟨hb.ordered, h.inStep ▸ hb.bounded⟩

theorem Sound.bounds_eq (h : d.Sound) {s : Span} (hs : d.registry.span? id = some s)
    (ht : d.registry.isTracked id = true) : d.bounds id = s := by
  rw [bounds, span_eq hs, Span.narrow_of_inStory (h.registry.inStory_span? hs (isTracked_iff.1 ht))]

theorem bounds_dead (hs : d.registry.span? id = none) : d.bounds id = ⟨0, 0⟩ := by
  have hd : (default : Span) = ⟨0, 0⟩ := rfl
  simp [bounds, Registry.span, hs, hd, Span.narrow, Extent.narrow]

theorem Sound.textIn_eq (h : d.Sound) {s : Span} (ho : s.start ≤ s.stop) (hb : s.stop ≤ d.story.length) :
    d.textIn s = Text.slice s.start s.stop d.story.content := h.story.slice_eq ho hb

theorem Replaced.textIn_eq (h : d.Sound) (hr : Replaced start stop t d d') {s : Span} (hs : s.InStory d.registry.extent)
    (hs' : (s.replace start stop t.length).InStory d'.registry.extent) :
    d'.textIn (s.replace start stop t.length) = Text.covered start stop t s d.story.content := by
  have hu : stop ≤ d.story.content.length := by
    rw [← h.story.counted]
    exact Nat.le_of_lt hr.story.bounded
  rw [hr.sound.textIn_eq hs'.ordered (hr.sound.inStep ▸ hs'.bounded), hr.story.content,
    Text.slice_replace hr.story.ordered hu hs.ordered]

/-- A tracked range covers the same characters before and after, but for those that were replaced. One
that nobody holds any more reads as empty at both times. -/
theorem Replaced.rangeText_eq (h : d.Sound) (hr : Replaced start stop t d d')
    (ht : d.registry.isTracked id = true) :
    d'.rangeText id = Text.covered start stop t (d.bounds id) d.story.content := by
  cases hs : d.registry.span? id with
  | none =>
      have hs' : d'.registry.span? id = none := by rw [hr.span?, hs, Option.map_none]
      rw [rangeText, bounds_dead hs, bounds_dead hs',
        hr.sound.textIn_eq (s := ⟨0, 0⟩) (Nat.le_refl 0) (Nat.zero_le _), Text.slice_of_le (Nat.le_refl 0)]
      simp [Text.covered, Text.spared]
  | some s =>
      have hs' : d'.registry.span? id = some (s.replace start stop t.length) := by
        simp only [hr.span?, hs, ht, Option.map_some, if_true]
      have ht' : d'.registry.isTracked id = true := by rw [hr.tracked id (by simp [hs]), ht]
      rw [rangeText, hr.sound.bounds_eq hs' ht', h.bounds_eq hs ht]
      exact hr.textIn_eq h (h.registry.inStory_span? hs (isTracked_iff.1 ht))
        (hr.sound.registry.inStory_span? hs' (isTracked_iff.1 ht'))

theorem Replaced.selectionText_eq (h : d.Sound) (hr : Replaced start stop t d d') :
    d'.textIn d'.registry.selection.span =
      Text.covered start stop t d.registry.selection.span d.story.content := by
  have hs' := hr.sound.registry.selected
  rw [hr.selection] at hs' ⊢
  exact hr.textIn_eq h h.registry.selected hs'

end Document

end TrackedText
