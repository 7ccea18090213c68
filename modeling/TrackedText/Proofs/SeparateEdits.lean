import TrackedText.Proofs.CommandRuns

namespace TrackedText

variable {start stop start' stop' n : Nat} {t v u : Text} {s : Span} {r r' : Replacement}

/-- Where a point lands when the characters from `start` up to `stop` give way to `n` others. -/
def landing (start stop n o : Nat) : Nat := if o ≤ stop then min o start else o - (stop - start) + n

theorem Span.replace_eq_landing (hs : start ≤ stop) (ho : s.start ≤ s.stop) (n : Nat) :
    s.replace start stop n = ⟨landing start stop n s.start, landing start stop n s.stop⟩ := by
  by_cases hb : s.stop ≤ stop
  · have ha : s.start ≤ stop := Nat.le_trans ho hb
    rw [replace_before ho hb, landing, landing, if_pos ha, if_pos hb]
  · by_cases ha : s.start ≤ stop
    · rw [replace_across hs ha (Nat.lt_of_not_le hb), landing, landing, if_pos ha, if_neg hb]
    · rw [replace_behind hs ho (Nat.lt_of_not_le ha), landing, landing, if_neg ha, if_neg hb]

theorem landing_inside {o : Nat} (h : o ≤ stop) (n : Nat) : landing start stop n o = min o start := if_pos h

theorem landing_behind {o : Nat} (h : stop < o) (n : Nat) : landing start stop n o = o - (stop - start) + n :=
  if_neg (Nat.not_le.2 h)

theorem landing_mono (hs : start ≤ stop) (n : Nat) {o o' : Nat} (h : o ≤ o') :
    landing start stop n o ≤ landing start stop n o' := by
  simp only [landing]
  split <;> split <;> omega

/-- The first replacement lies before the second. Where they touch, the first puts nothing in front of what the
second takes out. -/
structure Replacement.Apart (r r' : Replacement) : Prop where
  ordered : r.start ≤ r.stop
  before : r.stop ≤ r'.start
  ordered' : r'.start ≤ r'.stop
  clear : r.text = [] ∨ r.stop < r'.start ∨ r'.start = r'.stop

/-- The place of a replacement once another one, somewhere before it, has been made. -/
def Replacement.shift (r r' : Replacement) : Replacement :=
  ⟨r'.start - (r.stop - r.start) + r.text.length, r'.stop - (r.stop - r.start) + r.text.length, r'.text⟩

theorem landing_comm (h : r.Apart r') (m o : Nat) :
    landing r.start r.stop r.text.length (landing r'.start r'.stop m o) =
      landing (r.shift r').start (r.shift r').stop m (landing r.start r.stop r.text.length o) := by
  obtain ⟨ho, hb, ho', hc⟩ := h
  have hc : r.text.length = 0 ∨ r.stop < r'.start ∨ r'.start = r'.stop :=
    hc.imp_left fun ht => by rw [ht, List.length_nil]
  have hstart : (r.shift r').start = r'.start - (r.stop - r.start) + r.text.length := rfl
  have hstop : (r.shift r').stop = r'.stop - (r.stop - r.start) + r.text.length := rfl
  rcases Nat.lt_or_ge r.stop o with h₁ | h₁
  · rw [landing_behind h₁]
    rcases Nat.lt_or_ge r'.stop o with h₂ | h₂
    · have hleft : r.stop < o - (r'.stop - r'.start) + m := by omega
      have hright : (r.shift r').stop < o - (r.stop - r.start) + r.text.length := by omega
      rw [landing_behind h₂, landing_behind hleft, landing_behind hright]
      omega
    · -- such a point falls back to where the second begins, and must not end up in front of the first's text there
      have hright : o - (r.stop - r.start) + r.text.length ≤ (r.shift r').stop := by omega
      rw [landing_inside h₂, landing_inside hright, hstart, landing]
      split <;> omega
  · have h₂ : o ≤ r'.stop := by omega
    have hleft : min o r'.start ≤ r.stop := by omega
    have hright : min o r.start ≤ (r.shift r').stop := by omega
    rw [landing_inside h₁, landing_inside h₂, landing_inside hleft, landing_inside hright]
    omega

theorem Span.replaceAll_comm (h : r.Apart r') (hs : s.start ≤ s.stop) :
    s.replaceAll [r', r] = s.replaceAll [r, r.shift r'] := by
  have hshift : (r.shift r').start ≤ (r.shift r').stop := by
    have ho' := h.ordered'
    simp only [Replacement.shift]
    omega
  simp only [replaceAll, List.foldl_cons, List.foldl_nil]
  rw [replace_eq_landing h.ordered' hs, replace_eq_landing h.ordered hs,
    replace_eq_landing h.ordered (landing_mono h.ordered' _ hs), replace_eq_landing hshift (landing_mono h.ordered _ hs),
    landing_comm h, landing_comm h]
  rfl

theorem Text.replace_comm (hs : start ≤ stop) (hb : stop ≤ start') (hs' : start' ≤ stop') (hu : stop' ≤ u.length)
    (t v : Text) :
    replace start stop t (replace start' stop' v u) =
      replace (start' - (stop - start) + t.length) (stop' - (stop - start) + t.length) v (replace start stop t u) := by
  have hlength : (u.take start ++ t).length = start + t.length := by
    simp only [List.length_append, List.length_take]
    omega
  have htake : start' - (stop - start) + t.length = (u.take start ++ t).length + (start' - stop) := by omega
  have hdrop : stop' - (stop - start) + t.length = (u.take start ++ t).length + (stop' - stop) := by omega
  have hbefore : start ≤ (u.take start').length := by simp only [List.length_take]; omega
  have hbetween : stop ≤ (u.take start').length := by simp only [List.length_take]; omega
  rw [replace, replace, replace, replace, htake, hdrop, List.take_length_add_append, List.drop_length_add_append,
    List.drop_drop, List.append_assoc (u.take start'), List.take_append_of_le_length hbefore,
    List.drop_append_of_le_length hbetween, List.take_take, List.drop_take]
  have hstop : stop + (stop' - stop) = stop' := by omega
  have hstart : min start start' = start := by omega
  rw [hstop, hstart]
  simp only [List.append_assoc]

theorem Text.replaceAll_comm (h : r.Apart r') (hu : r'.stop ≤ u.length) :
    u.replaceAll [r', r] = u.replaceAll [r, r.shift r'] :=
  replace_comm h.ordered h.before h.ordered' hu r.text r'.text

namespace Document

variable {d : Document} {cs cs' : List Command} {p q a b c e : Nat}

theorem Sound.sameOutcome_apart (h : d.Sound) (ha : r.Apart r') (hb : r'.stop < d.story.length)
    (hr : Command.replacements d.story.length cs = [r', r])
    (hr' : Command.replacements d.story.length cs' = [r, r.shift r']) : d.SameOutcome cs cs' := by
  refine h.sameOutcome hr hr' (Text.replaceAll_comm ha ?_) fun s hs => Span.replaceAll_comm ha hs
  rw [← h.story.counted]
  exact Nat.le_of_lt hb

theorem Sound.insertions_commute (h : d.Sound) (hpq : p ≤ q) (hq : q < d.story.length) (u v : Text) :
    d.SameOutcome [.insertText q v, .insertText p u] [.insertText p u, .insertText (q + u.length) v] := by
  have ha : Replacement.Apart ⟨p, p, u⟩ ⟨q, q, v⟩ := ⟨Nat.le_refl p, hpq, Nat.le_refl q, .inr (.inr rfl)⟩
  refine h.sameOutcome_apart ha hq ?_ ?_
  · apply Command.replacements_pair (Command.replacement_insertText hq v)
    exact Command.replacement_insertText (by simp only; omega) u
  · apply Command.replacements_pair (Command.replacement_insertText (by omega) u)
    rw [Command.replacement_insertText (by simp only; omega), Replacement.shift, Nat.sub_self, Nat.sub_zero]

theorem Sound.deletions_commute (h : d.Sound) (hab : a ≤ b) (hbc : b ≤ c) (hce : c ≤ e) (he : e < d.story.length) :
    d.SameOutcome [.deleteRange c e, .deleteRange a b] [.deleteRange a b, .deleteRange (c - (b - a)) (e - (b - a))] := by
  have ha : Replacement.Apart ⟨a, b, []⟩ ⟨c, e, []⟩ := ⟨hab, hbc, hce, .inl rfl⟩
  refine h.sameOutcome_apart ha he ?_ ?_
  · apply Command.replacements_pair (Command.replacement_deleteRange hce he)
    exact Command.replacement_deleteRange hab (by simp only [List.length_nil]; omega)
  · apply Command.replacements_pair (Command.replacement_deleteRange hab (by omega))
    rw [Command.replacement_deleteRange (by omega) (by simp only [List.length_nil]; omega), Replacement.shift,
      List.length_nil, Nat.add_zero, Nat.add_zero]

theorem Sound.insertion_before_deletion (h : d.Sound) (hpc : p < c) (hce : c ≤ e) (he : e < d.story.length) (u : Text) :
    d.SameOutcome [.deleteRange c e, .insertText p u]
      [.insertText p u, .deleteRange (c + u.length) (e + u.length)] := by
  have ha : Replacement.Apart ⟨p, p, u⟩ ⟨c, e, []⟩ := ⟨Nat.le_refl p, Nat.le_of_lt hpc, hce, .inr (.inl hpc)⟩
  refine h.sameOutcome_apart ha he ?_ ?_
  · apply Command.replacements_pair (Command.replacement_deleteRange hce he)
    exact Command.replacement_insertText (by simp only [List.length_nil]; omega) u
  · apply Command.replacements_pair (Command.replacement_insertText (by omega) u)
    rw [Command.replacement_deleteRange (by omega) (by simp only; omega), Replacement.shift, Nat.sub_self, Nat.sub_zero,
      Nat.sub_zero]

theorem Sound.insertion_behind_deletion (h : d.Sound) (hce : c ≤ e) (hep : e ≤ p) (hp : p < d.story.length) (u : Text) :
    d.SameOutcome [.insertText p u, .deleteRange c e] [.deleteRange c e, .insertText (p - (e - c)) u] := by
  have ha : Replacement.Apart ⟨c, e, []⟩ ⟨p, p, u⟩ := ⟨hce, hep, Nat.le_refl p, .inl rfl⟩
  refine h.sameOutcome_apart ha hp ?_ ?_
  · apply Command.replacements_pair (Command.replacement_insertText hp u)
    exact Command.replacement_deleteRange hce (by simp only; omega)
  · apply Command.replacements_pair (Command.replacement_deleteRange hce (by omega))
    rw [Command.replacement_insertText (by simp only [List.length_nil]; omega), Replacement.shift, List.length_nil,
      Nat.add_zero]

end Document

namespace World

/-- Two edits of a document that do not touch one another come to the same in either order, the later one being asked
for where the earlier one has moved its place to. An insertion may stand at the end of a deletion or at another
insertion, but not where a deletion begins. -/
theorem separate_edits_commute (cs : List Call) (name : String) (o : OpenDocument)
    (ho : (after cs).documents.get? name = some o) :
    (∀ p q u v, p ≤ q → q ≤ o.document.registry.extent.terminator →
      o.document.SameOutcome [.insertText q v, .insertText p u] [.insertText p u, .insertText (q + u.length) v]) ∧
    (∀ a b c e, a ≤ b → b ≤ c → c ≤ e → e ≤ o.document.registry.extent.terminator →
      o.document.SameOutcome [.deleteRange c e, .deleteRange a b]
        [.deleteRange a b, .deleteRange (c - (b - a)) (e - (b - a))]) ∧
    ∀ p u c e, c ≤ e → e ≤ o.document.registry.extent.terminator → p ≤ o.document.registry.extent.terminator →
      (p < c → o.document.SameOutcome [.deleteRange c e, .insertText p u]
        [.insertText p u, .deleteRange (c + u.length) (e + u.length)]) ∧
      (e ≤ p → o.document.SameOutcome [.insertText p u, .deleteRange c e]
        [.deleteRange c e, .insertText (p - (e - c)) u]) := by
  have h : o.document.Sound := (sound_after cs).documents _ (Named.mem_of_get? ho)
  have hinside : ∀ x, x ≤ o.document.registry.extent.terminator → x < o.document.story.length := by
    intro x hx
    have hp := h.story.pos
    rw [Extent.terminator, ← h.inStep] at hx
    omega
  refine ⟨?_, ?_, ?_⟩
  · intro p q u v hpq hq
    exact h.insertions_commute hpq (hinside q hq) u v
  · intro a b c e hab hbc hce he
    exact h.deletions_commute hab hbc hce (hinside e he)
  · intro p u c e hce he hp
    constructor
    · intro hpc
      exact h.insertion_before_deletion hpc hce (hinside e he) u
    · intro hep
      exact h.insertion_behind_deletion hce hep (hinside p hp) u

theorem separate_edits_commute_editedRun :
    ∃ o, (after editedRun).documents.get? "d" = some o ∧
      o.document.SameOutcome [.insertText 3 ['!'], .insertText 1 ['a', 'b']] [.insertText 1 ['a', 'b'], .insertText 5 ['!']] ∧
      o.document.SameOutcome [.deleteRange 2 4, .deleteRange 0 1] [.deleteRange 0 1, .deleteRange 1 3] ∧
      o.document.SameOutcome [.deleteRange 1 3, .insertText 0 ['a', 'b']] [.insertText 0 ['a', 'b'], .deleteRange 3 5] ∧
      o.document.SameOutcome [.insertText 3 ['a', 'b'], .deleteRange 1 3] [.deleteRange 1 3, .insertText 1 ['a', 'b']] := by
  have hrun : ((after editedRun).documents.get? "d").map (·.document.registry.extent.terminator) = some 4 := by
    decide +kernel
  obtain ⟨o, ho, hend⟩ := Option.map_eq_some_iff.1 hrun
  obtain ⟨hinsertions, hdeletions, hmixed⟩ := separate_edits_commute editedRun "d" o ho
  rw [hend] at hinsertions hdeletions hmixed
  obtain ⟨hbefore, -⟩ := hmixed 0 ['a', 'b'] 1 3 (by decide) (by decide) (by decide)
  obtain ⟨-, hbehind⟩ := hmixed 3 ['a', 'b'] 1 3 (by decide) (by decide) (by decide)
  exact ⟨o, ho, hinsertions 1 3 ['a', 'b'] ['!'] (by decide) (by decide),
    hdeletions 0 1 2 4 (by decide) (by decide) (by decide) (by decide), hbefore (by decide), hbehind (by decide)⟩

end World

end TrackedText
