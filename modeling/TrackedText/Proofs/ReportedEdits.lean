import Mathlib.Algebra.Ring.Int.Defs
import Mathlib.Algebra.Ring.Nat
import TrackedText.Proofs.WorldRuns

namespace TrackedText

open Registry

namespace Story

variable {s s' : Story} {start stop : Nat} {t : Text}

/-- Makes one change and reports it, as a registry is to hear of it. -/
def edit (s : Story) : StoryEdit → Mutation × Story
  | .insert offset t =>
    let ((offset, n), s') := s.insert offset t
    (.insert offset n, s')
  | .delete start stop =>
    let (removed, s') := s.delete start stop
    (.delete removed.start removed.stop, s')

def editAll (s : Story) : List StoryEdit → List Mutation × Story
  | [] => ([], s)
  | e :: es =>
    let (m, s) := s.edit e
    let (ms, s) := editAll s es
    (m :: ms, s)

theorem editAll_cons (s : Story) (e : StoryEdit) (es : List StoryEdit) :
    s.editAll (e :: es) = ((s.edit e).1 :: ((s.edit e).2.editAll es).1, ((s.edit e).2.editAll es).2) := rfl

theorem Sound.text_eq (h : s.Sound) (h' : s'.Sound) (hc : s'.content = s.content)
    (ht : s'.terminator = s.terminator) : s'.text = s.text := by
  rw [h.content_eq, h'.content_eq, ht] at hc
  exact List.append_cancel_right hc

theorem Replaced.text_eq (h : s.Sound) (hr : Replaced start stop t s s') :
    s'.text = Text.replace start stop t s.text := by
  have hu : stop ≤ s.text.length := by
    have hb := hr.bounded
    rw [h.length_eq] at hb
    omega
  have hc := hr.content
  rw [(h.replaced hr).content_eq, h.content_eq, Text.replace_append hr.ordered hu, hr.terminator] at hc
  exact List.append_cancel_right hc

end Story

theorem Selection.foldl_adjust (ms : List Mutation) (s : Selection) :
    ms.foldl (fun s m => s.adjust m) s = { s with span := ms.foldl (fun s m => s.adjust m) s.span } := by
  induction ms generalizing s with
  | nil => rfl
  | cons m ms ih => exact ih (s.adjust m)

namespace Document

variable {d d₁ d' : Document} {m : Mutation} {ms : List Mutation} {e : StoryEdit} {es : List StoryEdit} {c : Command}

theorem perform_eq (e : StoryEdit) : d.perform e = (d.registry.notify (d.story.edit e).1).map fun p =>
      (p.1, { d with story := (d.story.edit e).2, registry := p.2 }) := by
  cases hd : d.registry.detached with
  | true =>
      rw [notify_detached hd]
      cases e <;> simp only [perform, hd, if_true] <;> rfl
  | false =>
      cases e with
      | insert offset t =>
          simp only [perform, hd, Bool.false_eq_true, if_false, notify, Story.edit]
          cases d.registry.notifyInsert (d.story.insert offset t).1.1 (d.story.insert offset t).1.2 <;> rfl
      | delete start stop =>
          simp only [perform, hd, Bool.false_eq_true, if_false, notify, Story.edit]
          cases d.registry.notifyDelete (d.story.delete start stop).1.start (d.story.delete start stop).1.stop <;> rfl

theorem perform_ok (h : d.perform e = .ok (m, d')) :
    ∃ r, d.registry.notify (d.story.edit e).1 = .ok (m, r) ∧
      d' = { d with story := (d.story.edit e).2, registry := r } := by
  rw [perform_eq] at h
  cases hn : d.registry.notify (d.story.edit e).1 with
  | error => simp [hn, Except.map] at h
  | ok p =>
      rw [hn] at h
      cases h
      exact ⟨p.2, rfl, rfl⟩

/-- What one edit of a story leaves of its document, the registry having made it in the very place that the
story reported. -/
structure Reported (e : StoryEdit) (d d' : Document) : Prop where
  sound : d'.Sound
  story : d'.story = (d.story.edit e).2
  version : d'.version = d.version
  notified : Notified (d.story.edit e).1 d.registry d'.registry

theorem Sound.perform_reported (h : d.Sound) (e : StoryEdit) :
    ∃ d', d.perform e = .ok ((d.story.edit e).1, d') ∧ Reported e d d' := by
  cases e with
  | insert offset t =>
      obtain ⟨d', hp, hr⟩ := h.perform_insert offset t
      obtain ⟨r, hn, rfl⟩ := perform_ok hp
      exact ⟨_, hp, hr.sound, rfl, rfl, h.registry.notify hn⟩
  | delete start stop =>
      obtain ⟨d', hp, hr⟩ := h.perform_delete start stop
      obtain ⟨r, hn, rfl⟩ := perform_ok hp
      exact ⟨_, hp, hr.sound, rfl, rfl, h.registry.notify hn⟩

/-- The edits of a run reach the story, each tracked range and the selection one after the other. -/
structure ReportedAll (es : List StoryEdit) (d d' : Document) : Prop where
  sound : d'.Sound
  story : d'.story = (d.story.editAll es).2
  version : d'.version = d.version
  span? : ∀ id, d'.registry.span? id = (d.registry.span? id).map fun s =>
    if d.registry.isTracked id then (d.story.editAll es).1.foldl (fun s m => s.adjust m) s else s
  tracked : ∀ id, (d.registry.span? id).isSome → d'.registry.isTracked id = d.registry.isTracked id
  selection : d'.registry.selection = (d.story.editAll es).1.foldl (fun s m => s.adjust m) d.registry.selection
  total : d'.story.length + ((d.story.editAll es).1.map Mutation.removed).sum =
    d.story.length + ((d.story.editAll es).1.map Mutation.inserted).sum

namespace ReportedAll

theorem nil (h : d.Sound) : ReportedAll [] d d where
  sound := h
  story := rfl
  version := rfl
  span? := fun id => by simp [Story.editAll]
  tracked := fun _ _ => rfl
  selection := rfl
  total := rfl

theorem cons (h : d.Sound) (hr : Reported e d d₁) (hs : ReportedAll es d₁ d') : ReportedAll (e :: es) d d' where
  sound := hs.sound
  story := by rw [hs.story, hr.story, Story.editAll_cons]
  version := hs.version.trans hr.version
  span? := by
    intro id
    rw [hs.span?, hr.notified.span?]
    cases hd : d.registry.span? id with
    | none => rfl
    | some s =>
        have ht : d₁.registry.isTracked id = d.registry.isTracked id := hr.notified.isTracked (by simp [hd])
        simp only [Option.map_some, ht, ← isTracked_iff, hr.story, Story.editAll_cons, List.foldl_cons]
        cases d.registry.isTracked id with
        | true => rfl
        | false => rfl
  tracked := by
    intro id hl
    have hl₁ : (d₁.registry.span? id).isSome := by simpa only [hr.notified.span?, Option.isSome_map] using hl
    exact (hs.tracked id hl₁).trans (hr.notified.isTracked hl)
  selection := by
    rw [hs.selection, hr.notified.selection, hr.story]
    rfl
  total := by
    have hm := Extent.length_edit hr.notified.fits
    rw [← hr.notified.extent, ← hr.sound.inStep, ← h.inStep] at hm
    have ht := hs.total
    rw [hr.story] at ht hm
    simp only [Story.editAll_cons, List.map_cons, List.sum_cons]
    omega

end ReportedAll

theorem Sound.performAll_reported (h : d.Sound) (es : List StoryEdit) :
    ∃ d', d.performAll es = .ok ((d.story.editAll es).1, d') ∧ ReportedAll es d d' := by
  induction es generalizing d with
  | nil => exact ⟨d, rfl, .nil h⟩
  | cons e es ih =>
      obtain ⟨d₁, hp, hr⟩ := h.perform_reported e
      obtain ⟨d', hps, hs⟩ := ih hr.sound
      refine ⟨d', ?_, .cons h hr hs⟩
      simp only [performAll, hp, hps, bind, Except.bind, pure, Except.pure, Story.editAll_cons, hr.story]

theorem Sound.apply_reported (h : d.Sound) (c : Command) :
    ∃ d', d.apply c = .ok (⟨(d.story.editAll (c.edits d.story)).1, d'.registry.selection.span, d'.story.length,
        d.version + 1⟩, d'.bump) ∧ ReportedAll (c.edits d.story) d d' := by
  obtain ⟨d', hp, hr⟩ := h.performAll_reported (c.edits d.story)
  refine ⟨d', ?_, hr⟩
  simp only [Document.apply, hp, bind, Except.bind, pure, Except.pure, bump, hr.version]

/-- An edit moves the selection, and leaves the caret at the end of it where it is. -/
def KeepsCaret (d d' : Document) : Prop :=
  d'.registry.selection = { d.registry.selection with span := d'.registry.selection.span }

theorem KeepsCaret.trans (h : KeepsCaret d d₁) (h' : KeepsCaret d₁ d') : KeepsCaret d d' := by
  rw [KeepsCaret] at *
  rw [h', h]

theorem Sound.keepsCaret_apply {p : Patch × Document} (h : d.Sound) (hp : d.apply c = .ok p) : KeepsCaret d p.2 := by
  obtain ⟨d', hp', hr⟩ := h.apply_reported c
  obtain rfl := Except.ok.inj (hp.symm.trans hp')
  change d'.registry.selection = { d.registry.selection with span := d'.registry.selection.span }
  rw [hr.selection, Selection.foldl_adjust]

end Document

end TrackedText
