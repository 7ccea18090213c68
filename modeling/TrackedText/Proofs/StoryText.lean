import TrackedText.Story

namespace TrackedText

namespace Text

variable {t u : Text} {n : Nat}

def replace (start stop : Nat) (t u : Text) : Text := u.take start ++ t ++ u.drop stop

theorem byteSize_cons (c : Char) (t : Text) : byteSize (c :: t) = c.utf8Size + byteSize t := rfl

theorem byteSize_append (t u : Text) : byteSize (t ++ u) = byteSize t + byteSize u := by
  induction t with
  | nil => rw [List.nil_append, byteSize, Nat.zero_add]
  | cons c t ih => rw [List.cons_append, byteSize, byteSize, ih, Nat.add_assoc]

theorem takeBytes_zero (t : Text) : takeBytes 0 t = [] := by
  cases t with
  | nil => rfl
  | cons c t => exact if_neg (Nat.not_le.2 c.utf8Size_pos)

theorem dropBytes_zero (t : Text) : dropBytes 0 t = t := by
  cases t with
  | nil => rfl
  | cons c t => exact if_neg (Nat.not_le.2 c.utf8Size_pos)

theorem takeBytes_append_of_le (h : byteSize t ≤ n) (u : Text) :
    takeBytes n (t ++ u) = t ++ takeBytes (n - byteSize t) u := by
  induction t generalizing n with
  | nil => rfl
  | cons c t ih =>
      rw [byteSize_cons] at h ⊢
      have hc : c.utf8Size ≤ n := by omega
      have ht : byteSize t ≤ n - c.utf8Size := by omega
      rw [List.cons_append, takeBytes, if_pos hc, ih ht, Nat.sub_sub, List.cons_append]

theorem takeBytes_append_of_lt (h : n < byteSize t) (u : Text) : takeBytes n (t ++ u) = takeBytes n t := by
  induction t generalizing n with
  | nil => exact absurd h (Nat.not_lt_zero _)
  | cons c t ih =>
      rw [byteSize_cons] at h
      simp only [List.cons_append, takeBytes]
      split
      · rw [ih (by omega)]
      · rfl

theorem dropBytes_append_of_le (h : byteSize t ≤ n) (u : Text) :
    dropBytes n (t ++ u) = dropBytes (n - byteSize t) u := by
  induction t generalizing n with
  | nil => rfl
  | cons c t ih =>
      rw [byteSize_cons] at h ⊢
      have hc : c.utf8Size ≤ n := by omega
      have ht : byteSize t ≤ n - c.utf8Size := by omega
      rw [List.cons_append, dropBytes, if_pos hc, ih ht, Nat.sub_sub]

theorem dropBytes_append_of_lt (h : n < byteSize t) (u : Text) : dropBytes n (t ++ u) = dropBytes n t ++ u := by
  induction t generalizing n with
  | nil => exact absurd h (Nat.not_lt_zero _)
  | cons c t ih =>
      rw [byteSize_cons] at h
      simp only [List.cons_append, dropBytes]
      split
      · rw [ih (by omega)]
      · rfl

/-- Cut at the byte where a character starts, a text falls into characters. -/
theorem takeBytes_take (k : Nat) (t : Text) : takeBytes (byteSize (t.take k)) t = t.take k := by
  have h := takeBytes_append_of_le (Nat.le_refl (byteSize (t.take k))) (t.drop k)
  rwa [List.take_append_drop, Nat.sub_self, takeBytes_zero, List.append_nil] at h

theorem dropBytes_take (k : Nat) (t : Text) : dropBytes (byteSize (t.take k)) t = t.drop k := by
  have h := dropBytes_append_of_le (Nat.le_refl (byteSize (t.take k))) (t.drop k)
  rwa [List.take_append_drop, Nat.sub_self, dropBytes_zero] at h

theorem length_replace {start stop : Nat} (hs : start ≤ stop) (hu : stop ≤ u.length) (t : Text) :
    (replace start stop t u).length = u.length - (stop - start) + t.length := by
  simp only [replace, List.length_append, List.length_take, List.length_drop]
  omega

theorem replace_append {start stop : Nat} (hs : start ≤ stop) (hu : stop ≤ u.length) (t v : Text) :
    replace start stop t (u ++ v) = replace start stop t u ++ v := by
  simp only [replace, List.take_append_of_le_length (Nat.le_trans hs hu), List.drop_append_of_le_length hu,
    List.append_assoc]

end Text

namespace Chunks

variable {cs : Chunks}

theorem byteSize_flatten (cs : Chunks) : byteSize cs = Text.byteSize cs.flatten := by
  induction cs with
  | nil => rfl
  | cons c cs ih =>
      rw [List.flatten_cons, Text.byteSize_append, byteSize, ih]

theorem byteOffset_eq (cs : Chunks) (o : Nat) : cs.byteOffset o = Text.byteSize (cs.flatten.take o) := by
  induction cs generalizing o with
  | nil => simp [byteOffset, Text.byteSize]
  | cons c cs ih =>
      rw [List.flatten_cons, byteOffset]
      split
      · rename_i h
        rw [List.take_append_of_le_length (Nat.le_of_lt h)]
      · rename_i h
        rw [List.take_append, List.take_of_length_le (Nat.le_of_not_lt h), Text.byteSize_append, ih]

theorem flatten_takeBytes (n : Nat) (cs : Chunks) : (takeBytes n cs).flatten = Text.takeBytes n cs.flatten := by
  induction cs generalizing n with
  | nil => rfl
  | cons c cs ih =>
      rw [List.flatten_cons, takeBytes]
      split
      · rename_i h
        rw [List.flatten_cons, ih, Text.takeBytes_append_of_le h]
      · rename_i h
        rw [Text.takeBytes_append_of_lt (Nat.lt_of_not_le h), List.flatten_cons, List.flatten_nil, List.append_nil]

theorem flatten_dropBytes (n : Nat) (cs : Chunks) : (dropBytes n cs).flatten = Text.dropBytes n cs.flatten := by
  induction cs generalizing n with
  | nil => rfl
  | cons c cs ih =>
      rw [List.flatten_cons, dropBytes]
      split
      · rename_i h
        rw [ih, Text.dropBytes_append_of_le h]
      · rename_i h
        rw [Text.dropBytes_append_of_lt (Nat.lt_of_not_le h), List.flatten_cons]

/-- How a text is cut into pieces makes no difference to what is read from it. -/
theorem slice_eq (start stop : Nat) (cs : Chunks) :
    cs.slice start stop = Text.dropBytes start (Text.takeBytes stop cs.flatten) := by
  rw [slice, flatten_dropBytes, flatten_takeBytes]

theorem slice_byteOffset {start stop : Nat} (h : start ≤ stop) (cs : Chunks) :
    cs.slice (cs.byteOffset start) (cs.byteOffset stop) = Text.slice start stop cs.flatten := by
  have hd := Text.dropBytes_take start (cs.flatten.take stop)
  rw [List.take_take, Nat.min_eq_left h] at hd
  rw [slice_eq, byteOffset_eq, byteOffset_eq, Text.takeBytes_take, hd, Text.slice]

theorem flatten_splice_byteOffset (start stop : Nat) (t : Text) (cs : Chunks) :
    (cs.splice (cs.byteOffset start) (cs.byteOffset stop) t).flatten = Text.replace start stop t cs.flatten := by
  rw [splice, List.flatten_append, List.flatten_cons, flatten_takeBytes, flatten_dropBytes, byteOffset_eq,
    byteOffset_eq, Text.takeBytes_take, Text.dropBytes_take, Text.replace, List.append_assoc]

end Chunks

namespace Story

variable {s s' : Story} {t : Text}

theorem insert_answer (s : Story) (offset : Nat) (t : Text) :
    (s.insert offset t).1 = (min offset (s.length - 1), t.length) := rfl

theorem delete_answer (s : Story) (start stop : Nat) :
    (s.delete start stop).1 = ⟨min start (min stop (s.length - 1)), min stop (s.length - 1)⟩ := rfl

/-- The offset at which a story gives up the search and answers the end is the one that is found there. -/
theorem byteOffset_of_counted (h : s.length = s.content.length) (o : Nat) : s.byteOffset o = s.buffer.byteOffset o := by
  rw [byteOffset]
  split
  · rename_i ho
    rw [h, content] at ho
    rw [Chunks.byteOffset_eq, List.take_of_length_le ho, Chunks.byteSize_flatten]
  · rfl

/-- The terminator closes the stored text, and the length counts the characters that are stored. -/
structure Sound (s : Story) : Prop where
  closed : ∃ t : Text, s.content = t ++ [s.terminator]
  counted : s.length = s.content.length

theorem sound_ofText (t : Text) (terminator : Char) : (ofText t terminator).Sound where
  closed := ⟨t, by simp [content, ofText]⟩
  counted := by simp [content, ofText]

namespace Sound

theorem pos (h : s.Sound) : 0 < s.length := by
  obtain ⟨t, ht⟩ := h.closed
  simp [h.counted, ht]

theorem byteOffset (h : s.Sound) (o : Nat) : s.byteOffset o = s.buffer.byteOffset o :=
  byteOffset_of_counted h.counted o

theorem content_eq (h : s.Sound) : s.content = s.text ++ [s.terminator] := by
  obtain ⟨t, ht⟩ := h.closed
  have hb : s.buffer.byteSize - s.terminator.utf8Size = Text.byteSize (s.content.take t.length) := by
    rw [Chunks.byteSize_flatten, ← content, ht, List.take_left' rfl, Text.byteSize_append]
    simp [Text.byteSize]
  have htext : s.text = t := by
    rw [text, Chunks.slice_eq, Text.dropBytes_zero, ← content, hb, Text.takeBytes_take, ht, List.take_left' rfl]
  rw [htext, ht]

theorem length_eq (h : s.Sound) : s.length = s.text.length + 1 := by
  rw [h.counted, h.content_eq, List.length_append, List.length_singleton]

theorem slice_eq (h : s.Sound) {start stop : Nat} (hs : start ≤ stop) (hl : stop ≤ s.length) :
    s.slice start stop = Text.slice start stop s.content := by
  have hstart : min start s.length = start := Nat.min_eq_left (Nat.le_trans hs hl)
  have hstop : max (min stop s.length) start = stop := by omega
  simp only [Story.slice, hstart, hstop, h.byteOffset, Chunks.slice_byteOffset hs, content]

end Sound

/-- The characters from `start` up to `stop` gave way to `t`; the terminator was spared. -/
structure Replaced (start stop : Nat) (t : Text) (s s' : Story) : Prop where
  ordered : start ≤ stop
  bounded : stop < s.length
  content : s'.content = Text.replace start stop t s.content
  terminator : s'.terminator = s.terminator
  length : s'.length = s.length - (stop - start) + t.length

theorem replaced_nothing {o : Nat} (ho : o < s.length) : Replaced o o [] s s where
  ordered := Nat.le_refl o
  bounded := ho
  content := by rw [Text.replace, List.append_nil, List.take_append_drop]
  terminator := rfl
  length := by simp

namespace Sound

theorem replaced {start stop : Nat} (h : s.Sound) (hr : Replaced start stop t s s') : s'.Sound where
  closed := by
    have hu : stop ≤ s.text.length := by
      have hb := hr.bounded
      rw [h.length_eq] at hb
      omega
    rw [hr.content, h.content_eq, Text.replace_append hr.ordered hu, hr.terminator]
    exact ⟨_, rfl⟩
  counted := by
    have hu : stop ≤ s.content.length := by
      rw [← h.counted]
      exact Nat.le_of_lt hr.bounded
    rw [hr.length, hr.content, Text.length_replace hr.ordered hu, h.counted]

theorem insert (h : s.Sound) (offset : Nat) (t : Text) :
    Replaced (min offset (s.length - 1)) (min offset (s.length - 1)) t s (s.insert offset t).2 := by
  have hp := h.pos
  have ho : min offset (s.length - 1) < s.length := by omega
  cases ht : t.isEmpty with
  | true =>
      obtain rfl := List.isEmpty_iff.1 ht
      exact replaced_nothing ho
  | false =>
      simp only [Story.insert, ht, Bool.false_eq_true, if_false]
      refine ⟨Nat.le_refl _, ho, ?_, rfl, by simp⟩
      rw [h.byteOffset]
      exact Chunks.flatten_splice_byteOffset _ _ t s.buffer

theorem delete (h : s.Sound) (start stop : Nat) :
    Replaced (min start (min stop (s.length - 1))) (min stop (s.length - 1)) [] s (s.delete start stop).2 := by
  have hp := h.pos
  have ho : min stop (s.length - 1) < s.length := by omega
  by_cases he : min start (min stop (s.length - 1)) = min stop (s.length - 1)
  · simp only [Story.delete, he, if_true]
    exact replaced_nothing ho
  · simp only [Story.delete, he, if_false]
    refine ⟨Nat.min_le_right _ _, ho, ?_, rfl, rfl⟩
    rw [h.byteOffset, h.byteOffset]
    exact Chunks.flatten_splice_byteOffset _ _ [] s.buffer

end Sound

end Story

end TrackedText
