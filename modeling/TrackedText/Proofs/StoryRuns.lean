import TrackedText.Proofs.CoveredText
import TrackedText.Proofs.PatchAccount

namespace TrackedText

variable {t : Text} {c : Char} {es : List StoryEdit} {s : Story} {cs : Chunks}

/-- What an edit of a story is to leave of the text `u`. Places past its end are its end, and a reversed
interval is empty. -/
def StoryEdit.textAfter (u : Text) : StoryEdit → Text
  | insert offset t => u.take offset ++ t ++ u.drop offset
  | delete start stop => u.take (min start stop) ++ u.drop stop

theorem Text.slice_narrowed (start stop : Nat) (t : Text) :
    slice (min start t.length) (max (min stop t.length) (min start t.length)) t = slice start stop t := by
  refine List.ext_getElem? fun i => ?_
  simp only [slice, List.getElem?_drop, List.getElem?_take]
  by_cases hi : start + i < t.length
  · have hstart : min start t.length = start := by omega
    have hstop : start + i < max (min stop t.length) start ↔ start + i < stop := by omega
    simp only [hstart, hstop]
  · -- there is no such character, on either side
    have hnarrowed : t.length ≤ min start t.length + i := by omega
    simp only [List.getElem?_eq_none hnarrowed, List.getElem?_eq_none (Nat.le_of_not_lt hi), ite_self]

namespace Story

/-- The stories that a run of edits can lead to. A buffer may be cut into other pieces whenever it is written, as
long as its text stays the same. -/
inductive Reached (t : Text) (terminator : Char) : List StoryEdit → Story → Prop
  | fresh {cs : Chunks} (hc : cs.flatten = t ++ [terminator]) :
      Reached t terminator [] ⟨cs, terminator, t.length + 1⟩
  | edited {es : List StoryEdit} {s : Story} {e : StoryEdit} {cs : Chunks} (h : Reached t terminator es s)
      (hc : cs.flatten = (s.edit e).2.content) : Reached t terminator (es ++ [e]) { (s.edit e).2 with buffer := cs }

theorem reached_own (t : Text) (c : Char) (es : List StoryEdit) :
    Reached t c es (es.foldl (fun s e => (s.edit e).2) (ofText t c)) := by
  induction es using List.reverseRecOn with
  | nil => exact .fresh (by simp)
  | append_singleton es e ih =>
      rw [List.foldl_append, List.foldl_cons, List.foldl_nil]
      exact .edited ih rfl

namespace Sound

theorem recut (h : s.Sound) (hc : cs.flatten = s.content) : ({ s with buffer := cs } : Story).Sound where
  closed := by
    obtain ⟨t, ht⟩ := h.closed
    exact ⟨t, hc.trans ht⟩
  counted := h.counted.trans (congrArg List.length hc.symm)

theorem slice_content (h : s.Sound) (start stop : Nat) : s.slice start stop = Text.slice start stop s.content := by
  have hs : min start s.length ≤ max (min stop s.length) (min start s.length) := Nat.le_max_right _ _
  simp only [Story.slice, h.byteOffset]
  rw [Chunks.slice_byteOffset hs, ← content, h.counted, Text.slice_narrowed]

theorem text_insert (h : s.Sound) (offset : Nat) (t : Text) :
    (s.insert offset t).2.text =
      s.text.take (min offset (s.length - 1)) ++ t ++ s.text.drop (min offset (s.length - 1)) :=
  (h.insert offset t).text_eq h

theorem text_delete (h : s.Sound) (start stop : Nat) :
    (s.delete start stop).2.text =
      s.text.take (min start (min stop (s.length - 1))) ++ s.text.drop (min stop (s.length - 1)) := by
  rw [(h.delete start stop).text_eq h, Text.replace, List.append_nil]

theorem content_insert (h : s.Sound) (offset : Nat) (t : Text) :
    (s.insert offset t).2.content = s.text.take (min offset (s.length - 1)) ++ t ++
      s.text.drop (min offset (s.length - 1)) ++ [s.terminator] := by
  rw [(h.replaced (h.insert offset t)).content_eq, h.text_insert, (h.insert offset t).terminator]

theorem content_delete (h : s.Sound) (start stop : Nat) :
    (s.delete start stop).2.content = s.text.take (min start (min stop (s.length - 1))) ++
      s.text.drop (min stop (s.length - 1)) ++ [s.terminator] := by
  rw [(h.replaced (h.delete start stop)).content_eq, h.text_delete, (h.delete start stop).terminator]

theorem content_delete_reversed (h : s.Sound) {start stop : Nat} (hs : stop ≤ start) :
    (s.delete start stop).2.content = s.content := by
  have he : min start (min stop (s.length - 1)) = min stop (s.length - 1) := by omega
  rw [h.content_delete, he, List.take_append_drop, h.content_eq]

theorem text_edit_eq (h : s.Sound) (e : StoryEdit) : (s.edit e).2.text = e.textAfter s.text := by
  have hl : s.length - 1 = s.text.length := by rw [h.length_eq, Nat.add_sub_cancel]
  cases e with
  | insert offset t =>
      refine (h.text_insert offset t).trans ?_
      rw [hl, ← List.take_eq_take_min, ← List.drop_eq_drop_min]
      rfl
  | delete start stop =>
      refine (h.text_delete start stop).trans ?_
      rw [hl, ← Nat.min_assoc, ← List.take_eq_take_min, ← List.drop_eq_drop_min]
      rfl

theorem terminator_edit (h : s.Sound) (e : StoryEdit) : (s.edit e).2.terminator = s.terminator := by
  cases e with
  | insert offset t => exact (h.insert offset t).terminator
  | delete start stop => exact (h.delete start stop).terminator

end Sound

/-- The story holds the text `u`, closed by the terminator `c`. -/
structure Holds (u : Text) (c : Char) (s : Story) : Prop where
  sound : s.Sound
  terminator : s.terminator = c
  text : s.text = u

theorem content_ofText (t : Text) (c : Char) : (ofText t c).content = t ++ [c] := by simp [content, ofText]

theorem holds_ofText (t : Text) (c : Char) : Holds t c (ofText t c) where
  sound := sound_ofText t c
  terminator := rfl
  text := List.append_cancel_right ((sound_ofText t c).content_eq.symm.trans (content_ofText t c))

theorem Holds.edit (h : Holds t c s) (e : StoryEdit) : Holds (e.textAfter t) c (s.edit e).2 where
  sound := h.sound.edit e
  terminator := (h.sound.terminator_edit e).trans h.terminator
  text := by rw [h.sound.text_edit_eq e, h.text]

theorem Holds.recut (h : Holds t c s) (hc : cs.flatten = s.content) : Holds t c { s with buffer := cs } where
  sound := h.sound.recut hc
  terminator := h.terminator
  text := (Sound.text_eq h.sound (h.sound.recut hc) hc rfl).trans h.text

theorem Reached.holds (h : Reached t c es s) : Holds (es.foldl StoryEdit.textAfter t) c s := by
  induction h with
  | fresh hc => exact (holds_ofText t c).recut (hc.trans (content_ofText t c).symm)
  | edited h hc ih =>
      rw [List.foldl_append, List.foldl_cons, List.foldl_nil]
      exact (ih.edit _).recut hc

/-- However its buffer is cut, a story that any edits have led to reads as a list of characters which its
terminator closes. Its text is what the edits, made on lists, leave of the first text, and its length counts the
terminator too. An insertion puts its text where it is asked to, or before the terminator if that comes first,
and answers the place and the number of its characters. A deletion takes out what there is between its ends but
for the terminator, and nothing if they are reversed, and answers the interval. A slice is what the content has
between its ends. -/
theorem stories_read_as_lists (t : Text) (terminator : Char) (es : List StoryEdit) :
    Reached t terminator es (es.foldl (fun s e => (s.edit e).2) (ofText t terminator)) ∧
    ∀ s, Reached t terminator es s →
      s.text = es.foldl StoryEdit.textAfter t ∧
      s.terminator = terminator ∧
      s.content = s.text ++ [terminator] ∧
      s.length = s.text.length + 1 ∧
      (∀ offset v, ∃ p s', s.insert offset v = ((p, v.length), s') ∧
        p = min offset (s.length - 1) ∧
        s'.content = s.text.take p ++ v ++ s.text.drop p ++ [terminator]) ∧
      (∀ start stop, ∃ start' stop' s', s.delete start stop = (⟨start', stop'⟩, s') ∧
        stop' = min stop (s.length - 1) ∧ start' = min start stop' ∧
        s'.content = s.text.take start' ++ s.text.drop stop' ++ [terminator] ∧
        (stop ≤ start → s'.content = s.content)) ∧
      ∀ start stop, s.slice start stop = (s.content.take stop).drop start ∧
        (stop ≤ start → s.slice start stop = []) := by
  refine ⟨reached_own t terminator es, fun s h => ?_⟩
  obtain ⟨hs, rfl, htext⟩ := h.holds
  refine ⟨htext, rfl, hs.content_eq, hs.length_eq,
    fun offset v => ⟨_, _, rfl, rfl, hs.content_insert offset v⟩,
    fun start stop => ⟨_, _, _, rfl, rfl, rfl, hs.content_delete start stop, hs.content_delete_reversed⟩,
    fun start stop => ?_⟩
  rw [hs.slice_content]
  exact ⟨rfl, fun hle => Text.slice_of_le hle s.content⟩

def strayEdits : List StoryEdit := [.insert 9 ['x', '\r'], .delete 4 1, .delete 2 40]

theorem stories_read_as_lists_strayEdits :
    ∃ s, Reached ['é', '\r', '☃'] '\r' strayEdits s ∧ s.buffer = [['é'], ['\r'], [], ['\r']] ∧
      s.text = ['é', '\r'] ∧ s.slice 1 9 = ['\r', '\r'] ∧
      ∃ s', s.insert 7 ['☃'] = ((2, 1), s') ∧ s'.content = ['é', '\r', '☃', '\r'] := by
  have hfresh : Reached ['é', '\r', '☃'] '\r' [] _ := @Reached.fresh _ _ [['é'], [], ['\r', '☃'], ['\r']] rfl
  have hinsert := @Reached.edited _ _ _ _ (.insert 9 ['x', '\r']) [['é', '\r'], ['☃', 'x', '\r', '\r']] hfresh
    (by decide +kernel)
  have hreversed := @Reached.edited _ _ _ _ (.delete 4 1) [['é', '\r', '☃', 'x', '\r', '\r']] hinsert
    (by decide +kernel)
  have hdelete := @Reached.edited _ _ _ _ (.delete 2 40) [['é'], ['\r'], [], ['\r']] hreversed (by decide +kernel)
  obtain ⟨-, hreads⟩ := stories_read_as_lists ['é', '\r', '☃'] '\r' strayEdits
  obtain ⟨htext, -, hcontent, hlength, hinsertion, -, hslice⟩ := hreads _ hdelete
  have htext : _ = ['é', '\r'] := htext
  refine ⟨_, hdelete, rfl, htext, ?_, ?_⟩
  · rw [(hslice 1 9).1, hcontent, htext]
    rfl
  · obtain ⟨p, s', hs', hp, hc⟩ := hinsertion 7 ['☃']
    rw [hlength, htext] at hp
    obtain rfl : p = 2 := hp
    refine ⟨s', hs', ?_⟩
    rw [hc, htext]
    rfl

end Story

end TrackedText
