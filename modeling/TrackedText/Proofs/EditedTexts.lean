import TrackedText.Proofs.ReportedEdits
import TrackedText.Proofs.WorldEffects

namespace TrackedText

variable {u : Text} {c : Command}

namespace Command

/-- The text that a command is to leave of `u`. Of an interval, whose ends come in either order, the part
inside `u` goes. -/
def textAfter (u : Text) : Command → Text
  | insertText offset t => u.take (min offset u.length) ++ t ++ u.drop (min offset u.length)
  | deleteRange first second =>
    u.take (min (min first second) u.length) ++ u.drop (min (max first second) u.length)
  | replaceRange first second t =>
    u.take (min (min first second) u.length) ++ t ++ u.drop (min (max first second) u.length)

theorem replace_interval (u : Text) (c : Command) :
    Text.replace (c.interval (u.length + 1)).1 (c.interval (u.length + 1)).2 c.text u = c.textAfter u := by
  cases c with
  | insertText offset t => rfl
  | deleteRange first second => simp only [Text.replace, interval, text, textAfter, Nat.add_sub_cancel, List.append_nil]
  | replaceRange first second t => rfl

end Command

namespace Document

variable {d : Document}

theorem Sound.apply_text (h : d.Sound) (c : Command) :
    ∃ q d', d.apply c = .ok (q, d') ∧ d'.Sound ∧ d'.story.text = c.textAfter d.story.text ∧
      d'.story.terminator = d.story.terminator := by
  obtain ⟨q, d', hq, hr⟩ := h.apply c
  refine ⟨q, d', hq, hr.sound, ?_, hr.story.terminator⟩
  rw [hr.story.text_eq h.story, h.story.length_eq, Command.replace_interval]

end Document

namespace World

variable {w : World} {ts : List Char} {o : OpenDocument} {name : String}

theorem Sound.perform_textAfter (h : Sound ts w) (ho : w.documents.get? name = some o) (c : Command) :
    ∃ q d', w.perform (.document name (.apply c)) = (.ok (.patch q), w.setDocument o.id d') ∧
      (w.setDocument o.id d').documents.get? name = some ⟨o.id, d'⟩ ∧
      d'.story.text = c.textAfter o.document.story.text ∧
      d'.story.terminator = o.document.story.terminator ∧
      d'.story.content = d'.story.text ++ [o.document.story.terminator] := by
  obtain ⟨q, d', hq, hd, ht, hk⟩ := (h.documents _ (Named.mem_of_get? ho)).apply_text c
  refine ⟨q, d', perform_apply ho hq, ?_, ht, hk, hk ▸ hd.story.content_eq⟩
  rw [get?_setDocument, ho, Option.map_some, if_pos rfl]

theorem commands_textAfter (cs : List Call) (ho : (after cs).documents.get? name = some o) (ks : List Command) :
    ∃ d', (after (cs ++ ks.map fun c => .document name (.apply c))).documents.get? name = some ⟨o.id, d'⟩ ∧
      d'.story.text = ks.foldl Command.textAfter o.document.story.text ∧
      d'.story.terminator = o.document.story.terminator := by
  induction ks using List.reverseRecOn with
  | nil => exact ⟨o.document, by simpa using ho, rfl, rfl⟩
  | append_singleton ks c ih =>
      obtain ⟨d, hd, ht, hk⟩ := ih
      obtain ⟨q, d', hp, hd', ht', hk', -⟩ := (sound_after _).perform_textAfter hd c
      rw [List.map_append, List.map_singleton, ← List.append_assoc, after_append, hp]
      refine ⟨d', hd', ?_, hk'.trans hk⟩
      rw [ht', ht, List.foldl_append]
      rfl

/-- Every command is carried out on every document that can be reached, and edits the text before the
terminator as it says: an insertion puts its text at the offset, or at the end if that comes first, a deletion
takes out what there is between its two ends in either order, and a replacement puts its text where that was.
The terminator stays. So it is for one command after another. -/
theorem commands_edit_the_text (cs : List Call) (name : String) (o : OpenDocument)
    (ho : (after cs).documents.get? name = some o) :
    (∀ c : Command, ∃ q d',
      (after cs).perform (.document name (.apply c)) = (.ok (.patch q), (after cs).setDocument o.id d') ∧
      d'.story.text = c.textAfter o.document.story.text ∧
      d'.story.terminator = o.document.story.terminator ∧
      d'.story.content = d'.story.text ++ [o.document.story.terminator]) ∧
    ∀ ks : List Command, ∃ d',
      (after (cs ++ ks.map fun c => .document name (.apply c))).documents.get? name = some ⟨o.id, d'⟩ ∧
      d'.story.text = ks.foldl Command.textAfter o.document.story.text ∧
      d'.story.terminator = o.document.story.terminator := by
  refine ⟨fun c => ?_, commands_textAfter cs ho⟩
  obtain ⟨q, d', hp, -, hedited⟩ := (sound_after cs).perform_textAfter ho c
  exact ⟨q, d', hp, hedited⟩

def overreaching : List Command := [.replaceRange 9 2 ['é', '☃'], .insertText 40 ['!'], .deleteRange 6 4]

theorem commands_edit_the_text_editedRun :
    ∃ o d', (after editedRun).documents.get? "d" = some o ∧ o.document.story.text = ['n', 'x', 'y', 'é'] ∧
      (after (editedRun ++ overreaching.map fun c => .document "d" (.apply c))).documents.get? "d" =
        some ⟨o.id, d'⟩ ∧
      d'.story.text = ['n', 'x', 'é', '☃'] ∧ d'.story.terminator = o.document.story.terminator := by
  have hrun : ((after editedRun).documents.get? "d").map (·.document.story.text) = some ['n', 'x', 'y', 'é'] := by
    decide +kernel
  obtain ⟨o, ho, htext⟩ := Option.map_eq_some_iff.1 hrun
  obtain ⟨-, hcommands⟩ := commands_edit_the_text editedRun "d" o ho
  obtain ⟨d', hd', ht, hk⟩ := hcommands overreaching
  refine ⟨o, d', ho, htext, hd', ?_, hk⟩
  rw [ht, htext]
  decide

end World

end TrackedText
