import TrackedText.Proofs.ReportedEdits
import TrackedText.Proofs.SpanOrder
import TrackedText.Proofs.WorldEffects

namespace TrackedText

/-- A deletion of the characters just inserted brings every point back, those at the insertion included. -/
theorem Mutation.point_delete_insert (start n o : Nat) :
    (delete start (start + n)).point ((insert start n).point o) = o := by
  simp only [point]
  -- an end at the insertion stays there, so the deletion must not move it either
  by_cases ho : start < o
  · rw [if_pos ho, cutPoint_behind (Nat.le_add_right start n) (by omega)]
    omega
  · rw [if_neg ho, cutPoint_inside (by omega), Nat.min_eq_left (Nat.le_of_not_lt ho)]

theorem Span.replace_undone {s : Span} (h : s.start ≤ s.stop) (start n : Nat) :
    (s.replace start start n).replace start (start + n) 0 = s := by
  rw [replace_insert, replace_delete, adjust_eq_point (ordered_adjust h _), adjust_eq_point h]
  simp only [Mutation.point_delete_insert]

theorem Text.replace_undone {start : Nat} {u : Text} (hu : start ≤ u.length) (t : Text) :
    replace start (start + t.length) [] (replace start start t u) = u := by
  have hl : (u.take start).length = start := List.length_take_of_le hu
  have hl' : (u.take start ++ t).length = start + t.length := by rw [List.length_append, hl]
  rw [replace, replace, List.drop_left' hl', List.append_assoc (u.take start) t, List.take_left' hl, List.append_nil,
    List.take_append_drop]

namespace Document

variable {d d₁ d₂ : Document} {start : Nat} {t : Text}

/-- The characters put in at `start` were taken out again. -/
structure Undone (start : Nat) (t : Text) (d d₁ d₂ : Document) : Prop where
  insertion : Replaced start start t d d₁
  deletion : Replaced start (start + t.length) [] d₁ d₂
  caret : KeepsCaret d d₂

theorem Sound.undone (h : d.Sound) (offset : Nat) (t : Text) {o : Nat} (ho : o = min offset (d.story.length - 1)) :
    ∃ q₁ d₁ q₂ d₂, d.apply (.insertText offset t) = .ok (q₁, d₁) ∧
      d₁.apply (.deleteRange o (o + t.length)) = .ok (q₂, d₂) ∧ Undone o t d d₁ d₂ := by
  obtain ⟨q₁, d₁, hq₁, hr₁⟩ := h.apply (.insertText offset t)
  obtain ⟨q₂, d₂, hq₂, hr₂⟩ := hr₁.sound.apply (.deleteRange o (o + t.length))
  simp only [Command.interval, Command.text, ← ho] at hr₁ hr₂
  have hl := hr₁.story.length
  have hb := hr₁.story.bounded
  -- neither end of the deletion reaches the terminator of the longer story
  have hstart : min (min o (o + t.length)) (d₁.story.length - 1) = o := by omega
  have hstop : min (max o (o + t.length)) (d₁.story.length - 1) = o + t.length := by omega
  rw [hstart, hstop] at hr₂
  exact ⟨q₁, d₁, q₂, d₂, hq₁, hq₂, hr₁, hr₂, (h.keepsCaret_apply hq₁).trans (hr₁.sound.keepsCaret_apply hq₂)⟩

namespace Undone

variable {id : RangeId}

theorem text (h : d.Sound) (hu : Undone start t d d₁ d₂) : d₂.story.text = d.story.text := by
  have hb : start ≤ d.story.content.length := by
    rw [← h.story.counted]
    exact Nat.le_of_lt hu.insertion.story.bounded
  refine h.story.text_eq hu.deletion.sound.story ?_ ?_
  · rw [hu.deletion.story.content, hu.insertion.story.content, Text.replace_undone hb]
  · exact hu.deletion.story.terminator.trans hu.insertion.story.terminator

theorem length (hu : Undone start t d d₁ d₂) : d₂.story.length = d.story.length := by
  rw [hu.deletion.story.length, hu.insertion.story.length, List.length_nil]
  omega

theorem span?_tracked (h : d.Sound) (hu : Undone start t d d₁ d₂) (ht : d.registry.isTracked id = true) :
    d₂.registry.span? id = d.registry.span? id := by
  rw [hu.deletion.span?, hu.insertion.span?]
  cases hs : d.registry.span? id with
  | none => rfl
  | some s =>
      have ht₁ : d₁.registry.isTracked id = true := (hu.insertion.tracked id (by simp [hs])).trans ht
      simp only [ht, ht₁, Option.map_some, if_true, List.length_nil]
      rw [Span.replace_undone (h.registry.ordered_span? hs)]

theorem span?_untracked (hu : Undone start t d d₁ d₂) (ht : d.registry.isTracked id = false) :
    d₁.registry.span? id = d.registry.span? id ∧ d₂.registry.span? id = d.registry.span? id := by
  rw [hu.deletion.span?, hu.insertion.span?]
  cases hs : d.registry.span? id with
  | none => exact ⟨rfl, rfl⟩
  | some s =>
      have ht₁ : d₁.registry.isTracked id = false := (hu.insertion.tracked id (by simp [hs])).trans ht
      simp [ht, ht₁]

theorem selection (h : d.Sound) (hu : Undone start t d d₁ d₂) : d₂.registry.selection = d.registry.selection := by
  have hspan : d₂.registry.selection.span = d.registry.selection.span := by
    rw [hu.deletion.selection, hu.insertion.selection, List.length_nil, Span.replace_undone h.registry.selected.ordered]
  rw [hu.caret, hspan]

end Undone

end Document

namespace World

/-- To take out what was just put in, where it went in, brings everything back: the text and its length, all
tracked ranges, and the selection with its caret. Ranges that are not tracked never move. -/
theorem insertion_undone (cs : List Call) (name : String) (o : OpenDocument) (offset : Nat) (t : Text)
    (ho : (after cs).documents.get? name = some o) :
    ∃ q₁ d₁ q₂ d₂,
      (after cs).perform (.document name (.apply (.insertText offset t))) =
        (.ok (.patch q₁), (after cs).setDocument o.id d₁) ∧
      ((after cs).setDocument o.id d₁).perform (.document name (.apply (.deleteRange
          (min offset (o.document.story.length - 1)) (min offset (o.document.story.length - 1) + t.length)))) =
        (.ok (.patch q₂), (after cs).setDocument o.id d₂) ∧
      d₂.story.text = o.document.story.text ∧ d₂.story.length = o.document.story.length ∧
      (∀ id, o.document.registry.isTracked id = true → d₂.registry.span? id = o.document.registry.span? id) ∧
      d₂.registry.selection = o.document.registry.selection ∧
      ∀ id, o.document.registry.isTracked id = false →
        d₁.registry.span? id = o.document.registry.span? id ∧ d₂.registry.span? id = o.document.registry.span? id := by
  have h : o.document.Sound := (sound_after cs).documents _ (Named.mem_of_get? ho)
  obtain ⟨q₁, d₁, q₂, d₂, hq₁, hq₂, hu⟩ := h.undone offset t rfl
  have ho₁ : ((after cs).setDocument o.id d₁).documents.get? name = some ⟨o.id, d₁⟩ := by
    simp [get?_setDocument, ho]
  refine ⟨q₁, d₁, q₂, d₂, perform_apply ho hq₁, ?_, hu.text h, hu.length, fun id => hu.span?_tracked h,
    hu.selection h, fun id => hu.span?_untracked⟩
  rw [perform_apply ho₁ hq₂, setDocument_setDocument]

def typedRun : List Call :=
  [.openText "d" ['a', 'b', 'c', 'd'] '\n', .document "d" (.createRange true "before" 0 2),
    .document "d" (.createRange true "at" 2 2), .document "d" (.createRange true "around" 1 5),
    .document "d" (.createRange false "loose" 2 4), .document "d" (.selection "caret"),
    .selection "caret" (.move (.both 2 4))]

theorem insertion_undone_typedRun :
    ∃ q₁ w₁ q₂ w₂, (after typedRun).perform (.document "d" (.apply (.insertText 2 ['x', 'y', 'z']))) = (.ok (.patch q₁), w₁) ∧
      w₁.perform (.document "d" (.apply (.deleteRange 2 5))) = (.ok (.patch q₂), w₂) ∧
      (w₂.document? 0).map (fun d => (d.story.text, [0, 1, 2, 3].map d.registry.span?, d.registry.selection)) =
        some (['a', 'b', 'c', 'd'], [some ⟨0, 2⟩, some ⟨2, 2⟩, some ⟨1, 5⟩, some ⟨2, 4⟩], ⟨⟨2, 4⟩, .start, false⟩) := by
  have hstory : ((after typedRun).documents.get? "d").map
      (fun o => (o.id, o.document.story.length, o.document.story.text)) = some (0, 5, ['a', 'b', 'c', 'd']) := by
    decide +kernel
  have hranges : ((after typedRun).documents.get? "d").map (fun o => [0, 1, 2, 3].map
      (fun id => (o.document.registry.span? id, o.document.registry.isTracked id))) =
      some [(some ⟨0, 2⟩, true), (some ⟨2, 2⟩, true), (some ⟨1, 5⟩, true), (some ⟨2, 4⟩, false)] := by decide +kernel
  have hcaret : ((after typedRun).documents.get? "d").map (fun o => o.document.registry.selection) =
      some ⟨⟨2, 4⟩, .start, false⟩ := by decide +kernel
  obtain ⟨o, ho, heq⟩ := Option.map_eq_some_iff.1 hstory
  simp only [ho, Option.map_some, Option.some.injEq, List.map_cons, List.map_nil, List.cons.injEq, Prod.mk.injEq,
    and_true] at heq hranges hcaret
  obtain ⟨hid, hlength, htext⟩ := heq
  obtain ⟨⟨h₀, t₀⟩, ⟨h₁, t₁⟩, ⟨h₂, t₂⟩, ⟨h₃, t₃⟩⟩ := hranges
  obtain ⟨q₁, d₁, q₂, d₂, hq₁, hq₂, htext₂, -, htracked, hselection₂, hloose⟩ :=
    insertion_undone typedRun "d" o 2 ['x', 'y', 'z'] ho
  rw [hlength] at hq₂
  refine ⟨q₁, _, q₂, _, hq₁, hq₂, ?_⟩
  have hopen : ((after typedRun).document? 0).isSome = true := by decide +kernel
  obtain ⟨d, hd⟩ := Option.isSome_iff_exists.1 hopen
  rw [document?_setDocument, hd, hid]
  simp [htext₂, htext, hselection₂, hcaret, htracked 0 t₀, htracked 1 t₁, htracked 2 t₂, (hloose 3 t₃).2, h₀, h₁, h₂, h₃]

end World

end TrackedText
