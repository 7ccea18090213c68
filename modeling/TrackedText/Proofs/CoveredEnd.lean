import TrackedText.Proofs.RelativePlaces
import TrackedText.Proofs.SeparateEdits

namespace TrackedText

variable {s : Span}

theorem landing_eq_length_iff {start stop length : Nat} (hs : start ≤ stop) (hb : stop < length) (n o : Nat) :
    landing start stop n o = length - (stop - start) + n ↔ o = length := by
  rw [landing]
  split <;> omega

/-- The ends of the span that stand at the end of the story, if any, are the same in the two stories. -/
structure Span.SameEnds (length length' : Nat) (s s' : Span) : Prop where
  start : s'.start = length' ↔ s.start = length
  stop : s'.stop = length' ↔ s.stop = length

namespace Span.SameEnds

variable {length length' length'' : Nat} {s' s'' : Span}

theorem refl (length : Nat) (s : Span) : SameEnds length length s s := ⟨.rfl, .rfl⟩

theorem trans (h : SameEnds length length' s s') (h' : SameEnds length' length'' s' s'') :
    SameEnds length length'' s s'' := ⟨h'.start.trans h.start, h'.stop.trans h.stop⟩

theorem replace {start stop : Nat} (hs : start ≤ stop) (hb : stop < length) (ho : s.start ≤ s.stop) (n : Nat) :
    SameEnds length (length - (stop - start) + n) s (s.replace start stop n) := by
  rw [replace_eq_landing hs ho]
  exact ⟨landing_eq_length_iff hs hb n s.start, landing_eq_length_iff hs hb n s.stop⟩

/-- A span covers the terminator if it has begun before the end and ends there. -/
theorem covers_iff (h : SameEnds length length' s s') (hl : s.InStory ⟨length⟩) (hl' : s'.InStory ⟨length'⟩)
    (hp : 0 < length) (hp' : 0 < length') : s'.Covers (length' - 1) ↔ s.Covers (length - 1) := by
  have covers : ∀ {s : Span} {n : Nat}, s.InStory ⟨n⟩ → 0 < n → (s.Covers (n - 1) ↔ s.start ≠ n ∧ s.stop = n) := by
    rintro s n ⟨ho, hb⟩ hn
    simp only [Covers] at hb ⊢
    omega
  rw [covers hl hp, covers hl' hp', ne_eq, ne_eq, h.start, h.stop]

end Span.SameEnds

namespace Registry

variable {r : Registry} {a : Option RangeId}

theorem Sound.inStory_followed? (h : r.Sound) (hs : r.followed? a = some s) : s.InStory r.extent := by
  cases a with
  | none => exact Option.some.inj hs ▸ h.selected
  | some id =>
      simp only [Registry.followed?] at hs
      split at hs
      · rename_i ht
        exact h.inStory_span? hs (isTracked_iff.1 ht)
      · cases hs

end Registry

namespace Document

variable {d d' : Document} {placed : RangeId → Prop} {a : Option RangeId}

theorem Edit.replaced (h : d.Sound) (he : d.Edit placed d') : ∃ start stop t, Carried placed start stop t d d' ∧
    d'.registry.selection.span = d.registry.selection.span.replace start stop t.length := by
  cases he with
  | apply hp => exact ⟨_, _, _, (h.apply_replaced hp).carried, (h.apply_replaced hp).selection⟩
  | setText hp hd =>
      obtain ⟨start, stop, d₁, s, hr, rfl⟩ := h.setText_replaced hd
      exact ⟨start, stop, _, hr.carried.setSpan (.inl hp) s, hr.selection⟩
  | deleteText hd =>
      obtain ⟨start, stop, d₁, hr, he | ⟨ht, s, he⟩⟩ := h.deleteText_replaced hd
      · exact ⟨start, stop, [], he ▸ hr.carried, he ▸ hr.selection⟩
      · exact ⟨start, stop, [], he ▸ hr.carried.setSpan (.inr ht) s, he ▸ hr.selection⟩

theorem Edit.followed? (h : d.Sound) (he : d.Edit placed d') (hs : d.registry.followed? a = some s)
    (ha : ∀ id ∈ a, ¬ placed id) : ∃ start stop t, Story.Replaced start stop t d.story d'.story ∧
      d'.registry.followed? a = some (s.replace start stop t.length) := by
  obtain ⟨start, stop, t, hc, hsel⟩ := he.replaced h
  refine ⟨start, stop, t, hc.story, ?_⟩
  cases a with
  | none =>
      obtain rfl := Option.some.inj hs
      exact congrArg some hsel
  | some id =>
      simp only [Registry.followed?] at hs
      split at hs
      · rename_i ht
        have hl : d'.registry.isLive id = true := he.change.isLive h (by rw [Registry.isLive, hs]; rfl)
        obtain ⟨ht', s', hs', hd'⟩ := hc.span?_eq h (ha id rfl) ht hl
        obtain rfl := Option.some.inj (hs.symm.trans hs')
        simp only [Registry.followed?, ht', if_true, hd']
      · cases hs

/-- The range or the selection is followed, and stands to the end of the story as `s` stood to the end of one of
the given length. -/
def KeepsEnds (a : Option RangeId) (length : Nat) (s : Span) (d : Document) : Prop :=
  ∃ s', d.registry.followed? a = some s' ∧ Span.SameEnds length d.story.length s s'

theorem KeepsEnds.edit {length : Nat} (hk : KeepsEnds a length s d) (h : d.Sound) (he : d.Edit placed d')
    (ha : ∀ id ∈ a, ¬ placed id) : KeepsEnds a length s d' := by
  obtain ⟨s₁, hs₁, hk⟩ := hk
  obtain ⟨start, stop, t, hr, hs'⟩ := he.followed? h hs₁ ha
  refine ⟨_, hs', hk.trans ?_⟩
  rw [hr.length]
  exact .replace hr.ordered hr.bounded (h.registry.inStory_followed? hs₁).ordered _

end Document

namespace World

/-- No edit brings a range, or the selection, to the end of the story or away from it: after any edits through
commands and through handles on other ranges each of its ends stands there if it stood there before. So it covers the
terminator afterwards exactly if it did before. -/
theorem ends_stay_covered (cs cs' : List Call) (id : DocumentId) (d : Document) (a : Option RangeId) (s : Span)
    (hd : (after cs).document? id = some d) (hs : d.registry.followed? a = some s)
    (hc : ∀ c ∈ cs', c.edits = true ∧ ∀ r ∈ a, c.places (after cs) ⟨id, r⟩ = false) :
    ∃ d' s', (after (cs ++ cs')).document? id = some d' ∧ d'.registry.followed? a = some s' ∧
      (s'.start = d'.story.length ↔ s.start = d.story.length) ∧
      (s'.stop = d'.story.length ↔ s.stop = d.story.length) ∧
      (s'.Covers (d'.story.length - 1) ↔ s.Covers (d.story.length - 1)) := by
  obtain ⟨-, d', hd', s', hs', hk⟩ := edit_keeps (P := Document.KeepsEnds a d.story.length s)
    (fun c hm => (hc c hm).1)
    (fun c hm d d' h _ he hk => hk.edit h he fun r hr => by simp [(hc c hm).2 r hr]) hd ⟨s, hs, .refl _ s⟩
  have h := (sound_after cs).document?_sound hd
  have h' := (sound_after (cs ++ cs')).document?_sound hd'
  have hin := h.registry.inStory_followed? hs
  have hin' := h'.registry.inStory_followed? hs'
  refine ⟨d', s', hd', hs', hk.start, hk.stop, hk.covers_iff ?_ ?_ h.story.pos h'.story.pos⟩
  · exact ⟨hin.ordered, h.inStep ▸ hin.bounded⟩
  · exact ⟨hin'.ordered, h'.inStep ▸ hin'.bounded⟩

def endRun : List Call :=
  [.openText "d" ['a', 'b', 'é'] '\n', .document "d" (.createRange true "last" 2 9),
    .document "d" (.createRange true "after" 4 4), .document "d" (.createRange true "before" 0 3)]

def endEdits : List Call :=
  [.document "d" (.apply (.insertText 9 ['x'])), .handle "after" .deleteText,
    .document "d" (.apply (.replaceRange 9 0 ['y', 'z'])), .handle "before" (.setText [])]

theorem ends_stay_covered_endRun :
    ∃ d' s s', (after (endRun ++ endEdits)).document? 0 = some d' ∧
      d'.registry.followed? (some 0) = some s ∧ s.Covers (d'.story.length - 1) ∧
      d'.registry.followed? (some 1) = some s' ∧ s'.start = d'.story.length := by
  obtain ⟨d, hd⟩ : ∃ d, (after endRun).document? 0 = some d := ⟨_, rfl⟩
  have hrun : ((after endRun).document? 0).map (fun d =>
      (d.story.length, d.registry.followed? (some 0), d.registry.followed? (some 1))) =
      some (4, some ⟨2, 4⟩, some ⟨4, 4⟩) := by decide +kernel
  simp only [hd, Option.map_some, Option.some.injEq, Prod.mk.injEq] at hrun
  obtain ⟨hlength, hlast, hafter⟩ := hrun
  obtain ⟨d', s, hd', hs, -, -, hcovers⟩ :=
    ends_stay_covered endRun endEdits 0 d (some 0) ⟨2, 4⟩ hd hlast (by decide +kernel)
  obtain ⟨d₁, s', hd₁, hs', hstart, -⟩ :=
    ends_stay_covered endRun endEdits 0 d (some 1) ⟨4, 4⟩ hd hafter (by decide +kernel)
  obtain rfl := Option.some.inj (hd₁.symm.trans hd')
  rw [hlength] at hcovers hstart
  exact ⟨d₁, s, s', hd₁, hs, hcovers.2 ⟨by decide, by decide⟩, hs', hstart.2 rfl⟩

end World

end TrackedText
