import TrackedText.Proofs.EditsThroughRanges

namespace TrackedText

open Registry

namespace Document

variable {d d₁ d' : Document} {placed : RangeId → Prop} {id : RangeId} {start stop : Nat} {t : Text} {s : Span}

/-- Of a range, the later document stores what the earlier one did, or a span inside its own story. -/
def Restores (d d' : Document) : Prop :=
  ∀ id s, d'.registry.span? id = some s → s.stop ≤ d'.story.length ∨ d.registry.span? id = some s

namespace Restores

theorem refl (d : Document) : Restores d d := fun _ _ => .inr

theorem release (h : Restores d d') (old : RangeId) : Restores d (d'.release old) := by
  intro id s hs
  have hs : (if id = old then none else d'.registry.span? id) = some s := span?_release.symm.trans hs
  split at hs
  · cases hs
  · exact h id s hs

theorem respan (h : Restores d d') (id : RangeId) (hs : s.stop ≤ d'.story.length) : Restores d (d'.respan id s) := by
  intro other t ht
  obtain ⟨t', ht', rfl⟩ := Option.map_eq_some_iff.1 ((span?_update _).symm.trans ht)
  by_cases he : other = id
  · rw [if_pos he]
    exact .inl hs
  · rw [if_neg he]
    exact h other t' ht'

end Restores

theorem Replaced.restores (hr : Replaced start stop t d d') : Restores d d' := by
  intro id s hs
  cases ht : d'.registry.isTracked id with
  | true => exact .inl (hr.sound.inStep ▸ (hr.sound.registry.inStory_span? hs (isTracked_iff.1 ht)).bounded)
  | false =>
      rw [hr.span?] at hs
      obtain ⟨s₀, hs₀, rfl⟩ := Option.map_eq_some_iff.1 hs
      have hf : d.registry.isTracked id = false := (hr.tracked id (by simp [hs₀])).symm.trans ht
      rw [hf]
      exact .inr hs₀

theorem Sound.setText_restores (h : d.Sound) (hd : d.setText id t = .ok d') : Restores d d' := by
  obtain ⟨q, d₁, -, hr, hd₁⟩ := h.setText_eq rfl rfl rfl t
  obtain rfl := Except.ok.inj (hd.symm.trans hd₁)
  refine hr.restores.respan id ?_
  have ho := hr.story.ordered
  have hb := hr.story.bounded
  have hl := hr.story.length
  simp only
  omega

theorem Sound.deleteText_restores {p : Nat × Document} (h : d.Sound) (hd : d.deleteText id = .ok p) :
    Restores d p.2 := by
  obtain ⟨q, d₁, -, hr, hd₁⟩ := h.deleteText_eq rfl rfl rfl
  obtain rfl := Except.ok.inj (hd.symm.trans hd₁)
  generalize min (d.bounds id).start (d.story.length - 1) = start at *
  generalize min (d.bounds id).stop (d.story.length - 1) = stop at *
  dsimp only
  split
  · exact hr.restores
  · have hm : (Mutation.delete start stop).FitsIn d.registry.extent :=
      ⟨hr.story.ordered, h.inStep ▸ hr.story.bounded⟩
    have hin := Span.inStory_adjust (Span.inStory_narrow (d.registry.span id)) hm
    refine hr.restores.respan id ?_
    rw [hr.story.length, h.inStep]
    exact hin.bounded

theorem Sound.ofPositions_stop_le (h : d.Sound) (first last : Position) :
    (Span.ofPositions d.registry.extent first last).stop ≤ d.story.length := by
  rw [h.inStep]
  exact (Span.inStory_ofPositions first last).bounded

theorem Change.restores (h : d.Sound) (hc : Change placed d d') : Restores d d' := by
  cases hc with
  | apply hp => exact (h.apply_replaced hp).restores
  | create tracked first last =>
      intro id s hs
      have hs : (if id = d.registry.nextId then some (.ofPositions d.registry.extent first last)
          else d.registry.span? id) = some s := (span?_create tracked first last).symm.trans hs
      split at hs
      · obtain rfl := Option.some.inj hs
        exact .inl (h.ofPositions_stop_le first last)
      · exact .inr hs
  | attach other =>
      intro id s hs
      obtain ⟨s₀, hs₀, rfl⟩ := Option.map_eq_some_iff.1 (span?_attach.symm.trans hs)
      split
      · exact .inl (h.ofPositions_stop_le (.ofOffset s₀.start) (.ofOffset s₀.stop))
      · exact .inr hs₀
  | detach | moveSelection | select => exact .refl d
  | @moveRange other hp m =>
      have hb := (Span.inStory_move (Span.inStory_narrow (x := d.registry.extent) (d.registry.span other)) m).bounded
      exact (Restores.refl d).respan other (h.inStep ▸ hb)
  | setText hp hd => exact h.setText_restores hd
  | deleteText hd => exact h.deleteText_restores hd

end Document

namespace World

variable {w w' : World} {ts : List Char} {d : Document} {p' : String × OpenDocument} {c : Call} {cs : List Call}
  {k : DocumentId} {id : RangeId} {s : Span} {n : Nat}

theorem Lets.restores (hl : Lets w w') (hp' : p' ∈ w'.documents) :
    ∃ p ∈ w.documents, p.2.id = p'.2.id ∧ ∀ {d}, Document.Restores d p.2.document →
      Document.Restores d p'.2.document := by
  obtain ⟨p, hp, hi, he | ⟨id, he, -⟩⟩ := hl p' hp'
  · exact ⟨p, hp, hi, fun h => he ▸ h⟩
  · exact ⟨p, hp, hi, fun h => he ▸ h.release id⟩

theorem Effect.restores (hs : Sound ts w) (he : Effect w c w') (hp' : p' ∈ w'.documents) :
    p'.2.document.registry.ranges = [] ∨
      ∃ p ∈ w.documents, p.2.id = p'.2.id ∧ p.2.document.Restores p'.2.document := by
  cases he with
  | nothing | selection => exact .inr ⟨p', hp', rfl, .refl _⟩
  | opened name t terminator =>
      rcases Named.mem_put.1 hp' with rfl | ⟨hp', -⟩
      · exact .inl rfl
      · exact .inr ⟨p', hp', rfl, .refl _⟩
  | closed name => exact .inr ⟨p', (Named.mem_erase.1 hp').1, rfl, .refl _⟩
  | @changed p d' hp hc =>
      rcases mem_setDocument hp' with ⟨hm, -⟩ | ⟨hi, hd⟩
      · exact .inr ⟨p', hm, rfl, .refl _⟩
      · exact .inr ⟨p, hp, hi.symm, hd ▸ hc.restores (hs.documents p hp)⟩
  | @created p hp tracked first last name =>
      have hc : p.2.document.Change (fun _ => False) (p.2.document.createRange tracked first last).2 :=
        .create tracked first last
      obtain ⟨p₁, hp₁, hi₁, hk⟩ := (lets_hold _ name _).restores hp'
      rcases mem_setDocument hp₁ with ⟨hm, -⟩ | ⟨hi, hd⟩
      · exact .inr ⟨p₁, hm, hi₁, hk (.refl _)⟩
      · exact .inr ⟨p, hp, hi.symm.trans hi₁, hk (hd ▸ hc.restores (hs.documents p hp))⟩
  | shared hq name =>
      obtain ⟨p, hp, hi, hk⟩ := (lets_hold w name _).restores hp'
      exact .inr ⟨p, hp, hi, hk (.refl _)⟩
  | letGo name =>
      obtain ⟨p, hp, hi, hk⟩ := (lets_dropHandle w name).restores hp'
      exact .inr ⟨p, hp, hi, hk (.refl _)⟩

/-- The story of the document has at no time of the run had `n` characters or more. -/
def StaysBelow (n : Nat) (k : DocumentId) (cs : List Call) : Prop :=
  ∀ cs₀, cs₀ <+: cs → ∀ d ∈ (after cs₀).document? k, d.story.length < n

instance (n : Nat) (k : DocumentId) (cs : List Call) : Decidable (StaysBelow n k cs) :=
  decidable_of_iff (∀ cs₀ ∈ cs.inits, ∀ d ∈ (after cs₀).document? k, d.story.length < n)
    (by simp only [List.mem_inits, StaysBelow])

/-- What a document stores of a range lies inside the story it has, or one that it had. -/
theorem stored_below (hb : StaysBelow n k cs) (hd : (after cs).document? k = some d)
    (hs : d.registry.span? id = some s) : s.stop < n := by
  induction cs using List.reverseRecOn generalizing d s with
  | nil => cases hd
  | append_singleton cs c ih =>
      have hlength := hb _ (List.prefix_refl _) d hd
      rw [after_append] at hd
      obtain ⟨p', hp', hi', rfl⟩ := mem_of_document? hd
      rcases (effect (after cs) c).restores (sound_after cs) hp' with hempty | ⟨p, hp, hi, hr⟩
      · rw [Registry.span?, hempty] at hs
        cases hs
      · rcases hr id s hs with hle | hs'
        · exact Nat.lt_of_le_of_lt hle hlength
        · refine ih (fun cs₀ hcs₀ => hb cs₀ (hcs₀.trans (List.prefix_append _ _))) ?_ hs'
          rw [← hi', ← hi]
          exact (sound_after cs).document?_eq hp

end World

end TrackedText
