import TrackedText.Proofs.DocumentChanges
import TrackedText.Proofs.SeparateEdits

namespace TrackedText

variable {start middle stop n m : Nat} {t u v : Text} {s : Span}

theorem landing_split (hs : start ≤ middle) (hm : middle ≤ stop) (n m o : Nat) :
    landing start middle n (landing middle stop m o) = landing start stop (n + m) o := by
  rcases Nat.lt_or_ge stop o with ho | ho
  · have hbehind : middle < o - (stop - middle) + m := by omega
    rw [landing_behind ho, landing_behind ho, landing_behind hbehind]
    omega
  · have hinside : min o middle ≤ middle := Nat.min_le_right o middle
    rw [landing_inside ho, landing_inside ho, landing_inside hinside]
    omega

theorem Span.replaceAll_split (hm : start ≤ middle) (hb : middle ≤ stop) (hs : s.start ≤ s.stop) (u v : Text) :
    s.replaceAll [⟨start, stop, u ++ v⟩] = s.replaceAll [⟨middle, stop, v⟩, ⟨start, middle, u⟩] := by
  simp only [replaceAll, List.foldl_cons, List.foldl_nil]
  rw [replace_eq_landing (Nat.le_trans hm hb) hs, replace_eq_landing hb hs, replace_eq_landing hm (landing_mono hb _ hs),
    landing_split hm hb, landing_split hm hb, List.length_append]

theorem Text.replaceAll_split {w : Text} (hm : start ≤ middle) (hl : middle ≤ w.length) (u v : Text) :
    w.replaceAll [⟨start, stop, u ++ v⟩] = w.replaceAll [⟨middle, stop, v⟩, ⟨start, middle, u⟩] := by
  have hlength : (w.take middle).length = middle := List.length_take_of_le hl
  have htake : (w.take middle ++ v ++ w.drop stop).take start = w.take start := by
    rw [List.append_assoc, List.take_append_of_le_length (hlength.symm ▸ hm), List.take_take, Nat.min_eq_left hm]
  have hdrop : (w.take middle ++ v ++ w.drop stop).drop middle = v ++ w.drop stop := by
    rw [List.append_assoc, List.drop_left' hlength]
  simp only [replaceAll, List.foldl_cons, List.foldl_nil, replace]
  rw [htake, hdrop]
  simp only [List.append_assoc]

theorem Span.replaceAll_nothing (o : Nat) (s : Span) : s.replaceAll [⟨o, o, []⟩] = s.replaceAll [] :=
  replace_nothing o s

theorem Text.replaceAll_nothing (o : Nat) (u : Text) : u.replaceAll [⟨o, o, []⟩] = u.replaceAll [] := by
  simp only [replaceAll, List.foldl_cons, List.foldl_nil, replace, List.append_nil, List.take_append_drop]

namespace Command

/-- The characters of a text put in one by one, each behind the one before it. -/
def typed (offset : Nat) : Text → List Command
  | [] => []
  | c :: t => insertText offset [c] :: typed (offset + 1) t

/-- The `n` characters from `start` on taken out one by one, the last one first. -/
def backspaced (start : Nat) : Nat → List Command
  | 0 => []
  | n + 1 => deleteRange (start + n) (start + n + 1) :: backspaced start n

end Command

namespace Document

variable {d : Document} {a b c : Nat}

theorem Sound.insertion_split (h : d.Sound) (offset : Nat) (u v : Text) :
    d.SameOutcome [.insertText offset (u ++ v)] [.insertText offset u, .insertText (offset + u.length) v] := by
  have hpos := h.story.pos
  have hcontent := h.story.counted
  have ho : min offset (d.story.length - 1) ≤ d.story.content.length := by omega
  generalize hp : min offset (d.story.length - 1) = p at ho
  have ha : Replacement.Apart ⟨p, p, u⟩ ⟨p, p, v⟩ := ⟨Nat.le_refl p, Nat.le_refl p, Nat.le_refl p, .inr (.inr rfl)⟩
  have hwhole : (Command.insertText offset (u ++ v)).replacement d.story.length = ⟨p, p, u ++ v⟩ := by
    rw [← hp]
    rfl
  have hfirst : (Command.insertText offset u).replacement d.story.length = ⟨p, p, u⟩ := by
    rw [← hp]
    rfl
  -- where the second piece goes in is cut off at the end of the longer story, just behind the first one
  have hsecond : (Command.insertText (offset + u.length) v).replacement (d.story.length - (p - p) + u.length) =
      Replacement.shift ⟨p, p, u⟩ ⟨p, p, v⟩ := by
    have hat : min (offset + u.length) (d.story.length - (p - p) + u.length - 1) = p - (p - p) + u.length := by omega
    simp only [Command.replacement, Command.interval, Command.text, hat, Replacement.shift]
  refine h.sameOutcome (congrArg (· :: []) hwhole) (Command.replacements_pair hfirst hsecond) ?_ ?_
  · exact (Text.replaceAll_split (Nat.le_refl p) ho u v).trans (Text.replaceAll_comm ha ho)
  · intro s hs
    exact (Span.replaceAll_split (Nat.le_refl p) (Nat.le_refl p) hs u v).trans (Span.replaceAll_comm ha hs)

theorem Sound.deletion_split (h : d.Sound) (hab : a ≤ b) (hbc : b ≤ c) :
    d.SameOutcome [.deleteRange a c] [.deleteRange b c, .deleteRange a b] := by
  have hpos := h.story.pos
  have hcontent := h.story.counted
  have hm : min a (d.story.length - 1) ≤ min b (d.story.length - 1) := by omega
  have hb : min b (d.story.length - 1) ≤ min c (d.story.length - 1) := by omega
  have hl : min b (d.story.length - 1) ≤ d.story.content.length := by omega
  have hwhole := Command.replacement_deleteRange_min (Nat.le_trans hab hbc) d.story.length
  have hfirst := Command.replacement_deleteRange_min hbc d.story.length
  -- the first deletion leaves all in front of it within the story
  have hsecond : (Command.deleteRange a b).replacement
      (d.story.length - (min c (d.story.length - 1) - min b (d.story.length - 1)) + ([] : Text).length) =
        ⟨min a (d.story.length - 1), min b (d.story.length - 1), []⟩ := by
    rw [Command.replacement_deleteRange_min hab, List.length_nil]
    congr 1 <;> omega
  refine h.sameOutcome (congrArg (· :: []) hwhole) (Command.replacements_pair hfirst hsecond) ?_ ?_
  · exact Text.replaceAll_split hm hl [] []
  · intro s hs
    exact Span.replaceAll_split hm hb hs [] []

theorem Sound.sameOutcome_nothing (h : d.Sound) {c : Command} {o : Nat}
    (hc : c.replacement d.story.length = ⟨o, o, []⟩) : d.SameOutcome [c] [] :=
  h.sameOutcome (congrArg (· :: []) hc) rfl (Text.replaceAll_nothing o _) fun s _ => Span.replaceAll_nothing o s

theorem Sound.insertion_typed (h : d.Sound) (offset : Nat) (t : Text) :
    d.SameOutcome [.insertText offset t] (Command.typed offset t) := by
  induction t generalizing d offset with
  | nil => exact h.sameOutcome_nothing rfl
  | cons c t ih =>
      obtain ⟨q, d₁, hq, hr⟩ := h.apply (.insertText offset [c])
      exact (h.insertion_split offset [c] t).trans (.cons h hq (ih hr.sound (offset + 1)))

theorem Sound.deletion_backspaced (h : d.Sound) (start n : Nat) :
    d.SameOutcome [.deleteRange start (start + n)] (Command.backspaced start n) := by
  induction n generalizing d with
  | zero => exact h.sameOutcome_nothing (Command.replacement_deleteRange_min (Nat.le_refl start) _)
  | succ n ih =>
      obtain ⟨q, d₁, hq, hr⟩ := h.apply (.deleteRange (start + n) (start + n + 1))
      have hs := h.deletion_split (Nat.le_add_right start n) (Nat.le_succ (start + n))
      exact hs.trans (.cons h hq (ih hr.sound))

end Document

namespace World

/-- An edit that is made in two pieces comes to the same as one made at once, wherever it lies, and so does one made
character by character: to type a text is to paste it, and to backspace over a span is to delete it. -/
theorem split_edits_agree (cs : List Call) (name : String) (o : OpenDocument)
    (ho : (after cs).documents.get? name = some o) :
    (∀ offset u v, o.document.SameOutcome [.insertText offset (u ++ v)]
      [.insertText offset u, .insertText (offset + u.length) v]) ∧
    (∀ a b c, a ≤ b → b ≤ c →
      o.document.SameOutcome [.deleteRange a c] [.deleteRange b c, .deleteRange a b]) ∧
    (∀ offset t, o.document.SameOutcome [.insertText offset t] (Command.typed offset t)) ∧
    ∀ start n, o.document.SameOutcome [.deleteRange start (start + n)] (Command.backspaced start n) := by
  have h : o.document.Sound := (sound_after cs).documents _ (Named.mem_of_get? ho)
  refine ⟨h.insertion_split, ?_, h.insertion_typed, h.deletion_backspaced⟩
  intro a b c hab hbc
  exact h.deletion_split hab hbc

theorem split_edits_agree_editedRun :
    ∃ o, (after editedRun).documents.get? "d" = some o ∧
      o.document.SameOutcome [.insertText 9 ['a', 'b', 'c']] [.insertText 9 ['a'], .insertText 10 ['b', 'c']] ∧
      o.document.SameOutcome [.deleteRange 1 9] [.deleteRange 6 9, .deleteRange 1 6] ∧
      o.document.SameOutcome [.insertText 2 ['a', 'b']] [.insertText 2 ['a'], .insertText 3 ['b']] ∧
      o.document.SameOutcome [.deleteRange 1 3] [.deleteRange 2 3, .deleteRange 1 2] := by
  have hopen : ((after editedRun).documents.get? "d").isSome = true := by decide +kernel
  obtain ⟨o, ho⟩ := Option.isSome_iff_exists.1 hopen
  obtain ⟨hinsertion, hdeletion, htyped, hbackspaced⟩ := split_edits_agree editedRun "d" o ho
  exact ⟨o, ho, hinsertion 9 ['a'] ['b', 'c'], hdeletion 1 6 9 (by decide) (by decide), htyped 2 ['a', 'b'],
    hbackspaced 1 2⟩

end World

end TrackedText
