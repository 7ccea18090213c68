import TrackedText.Proofs.EncodedTexts
import TrackedText.Proofs.StoryText

namespace TrackedText

variable {t u : Text} {rest : List UInt8} {s : Story} {cs : Chunks} {n o o' : Nat}

namespace Utf8

theorem encode_append (t u : Text) : encode (t ++ u) = encode t ++ encode u := List.flatMap_append

theorem length_encode (t : Text) : (encode t).length = Text.byteSize t := by
  induction t with
  | nil => rfl
  | cons c t ih =>
      rw [encode, List.flatMap_cons, List.length_append, ← encode, ih, String.length_utf8EncodeChar,
        Text.byteSize_cons]

theorem encode_take_drop (t : Text) (o : Nat) : encode (t.take o) ++ encode (t.drop o) = encode t := by
  rw [← encode_append, List.take_append_drop]

theorem take_encode (t : Text) (o : Nat) : (encode t).take (Text.byteSize (t.take o)) = encode (t.take o) := by
  rw [← encode_take_drop t o, List.take_left' (length_encode _)]

theorem drop_encode (t : Text) (o : Nat) : (encode t).drop (Text.byteSize (t.take o)) = encode (t.drop o) := by
  rw [← encode_take_drop t o, List.drop_left' (length_encode _)]

theorem append_of_encode (h : encode t = encode u ++ rest) : ∃ v, t = u ++ v := by
  have hd := decode_encode t
  rw [h, decode, decodeFrom_encode_append] at hd
  cases hr : decodeFrom (0 + (encode u).length) 0 rest with
  | error f =>
      rw [hr] at hd
      cases hd
  | ok v =>
      rw [hr] at hd
      exact ⟨v, (Except.ok.inj hd).symm⟩

/-- The bytes may be cut at this place: both parts can be read. -/
structure IsBoundary (bytes : List UInt8) (n : Nat) : Prop where
  inside : n ≤ bytes.length
  before : ∃ t, decode (bytes.take n) = .ok t
  behind : ∃ t, decode (bytes.drop n) = .ok t

theorem isBoundary_take (t : Text) (o : Nat) : IsBoundary (encode t) (Text.byteSize (t.take o)) where
  inside := by
    rw [← encode_take_drop t o, List.length_append, length_encode]
    exact Nat.le_add_right _ _
  before := ⟨t.take o, by rw [take_encode, decode_encode]⟩
  behind := ⟨t.drop o, by rw [drop_encode, decode_encode]⟩

theorem offset_of_isBoundary (h : IsBoundary (encode t) n) : ∃ o ≤ t.length, Text.byteSize (t.take o) = n := by
  obtain ⟨u, hu⟩ := h.before
  have htake : (encode t).take n = encode u := decode_ok_iff.1 hu
  have happend : encode t = encode u ++ (encode t).drop n := by rw [← htake, List.take_append_drop]
  obtain ⟨v, rfl⟩ := append_of_encode happend
  refine ⟨u.length, by simp, ?_⟩
  rw [List.take_left' rfl, ← length_encode, ← htake, List.length_take, Nat.min_eq_left h.inside]

end Utf8

theorem Text.byteSize_take_lt (t : Text) (h : o < o') (hl : o' ≤ t.length) :
    byteSize (t.take o) < byteSize (t.take o') := by
  obtain ⟨k, rfl⟩ := Nat.exists_eq_add_of_lt h
  have ho : o < t.length := by omega
  -- what is taken beyond `o` begins with the character there
  have hpos := t[o].utf8Size_pos
  rw [Nat.add_assoc, List.take_add, byteSize_append, List.drop_eq_getElem_cons ho, List.take_succ_cons, byteSize_cons]
  omega

namespace Story

theorem byteOffset_eq (h : s.length = s.content.length) (o : Nat) :
    s.byteOffset o = Text.byteSize (s.content.take o) := by
  rw [byteOffset_of_counted h, Chunks.byteOffset_eq, content]

theorem byteOffset_recut (hc : cs.flatten = s.content) (o : Nat) :
    ({ s with buffer := cs } : Story).byteOffset o = s.byteOffset o := by
  have hsize : cs.byteSize = s.buffer.byteSize := by
    rw [Chunks.byteSize_flatten, hc, Chunks.byteSize_flatten, content]
  have hoffset : cs.byteOffset o = s.buffer.byteOffset o := by
    rw [Chunks.byteOffset_eq, hc, Chunks.byteOffset_eq, content]
  simp only [byteOffset, hsize, hoffset]

/-- How the buffer is cut makes no difference to where its characters are. An offset is converted to the number
of bytes that the characters before it take, one past the end to the number of all bytes. The bytes may always be
cut there, and the two parts are read as the characters before the offset and those from it on; they may be cut
nowhere else. Up to the end, a greater offset has a greater byte. -/
theorem conversions_ignore_cuts (s : Story) (h : s.length = s.content.length) :
    (∀ o, s.byteOffset o = (Utf8.encode (s.content.take (min o s.length))).length ∧
      Utf8.IsBoundary (Utf8.encode s.content) (s.byteOffset o) ∧
      Utf8.decode ((Utf8.encode s.content).take (s.byteOffset o)) = .ok (s.content.take o) ∧
      Utf8.decode ((Utf8.encode s.content).drop (s.byteOffset o)) = .ok (s.content.drop o)) ∧
    (∀ n, Utf8.IsBoundary (Utf8.encode s.content) n → ∃ o ≤ s.length, s.byteOffset o = n) ∧
    (∀ o o', o < o' → o' ≤ s.length → s.byteOffset o < s.byteOffset o') ∧
    ∀ cs : Chunks, cs.flatten = s.content → ∀ o, ({ s with buffer := cs } : Story).byteOffset o = s.byteOffset o := by
  refine ⟨fun o => ?_, fun n hn => ?_, fun o o' ho hl => ?_, fun cs hc => byteOffset_recut hc⟩
  · have hboundary := Utf8.isBoundary_take s.content o
    rw [byteOffset_eq h]
    refine ⟨?_, hboundary, ?_, ?_⟩
    · rw [h, ← List.take_eq_take_min, Utf8.length_encode]
    · rw [Utf8.take_encode, Utf8.decode_encode]
    · rw [Utf8.drop_encode, Utf8.decode_encode]
  · obtain ⟨o, ho, hsize⟩ := Utf8.offset_of_isBoundary hn
    exact ⟨o, h ▸ ho, (byteOffset_eq h o).trans hsize⟩
  · rw [byteOffset_eq h, byteOffset_eq h]
    exact Text.byteSize_take_lt s.content ho (h ▸ hl)

def piecewise : Story := ⟨[['é'], [], ['☃', '😀'], ['\r']], '\r', 4⟩

theorem conversions_ignore_cuts_piecewise :
    piecewise.length = piecewise.content.length ∧
    piecewise.byteOffset 2 = 5 ∧ piecewise.byteOffset 9 = 10 ∧
    Utf8.decode ((Utf8.encode piecewise.content).take 5) = .ok ['é', '☃'] ∧
    ¬ Utf8.IsBoundary (Utf8.encode piecewise.content) 3 ∧
    ({ piecewise with buffer := [['é', '☃'], ['😀', '\r']] } : Story).byteOffset 2 = 5 := by
  have hcounted : piecewise.length = piecewise.content.length := rfl
  have htwo : piecewise.byteOffset 2 = 5 := by decide
  obtain ⟨hoffsets, hboundaries, -, hcuts⟩ := conversions_ignore_cuts piecewise hcounted
  obtain ⟨-, -, hbefore, -⟩ := hoffsets 2
  rw [htwo] at hbefore
  refine ⟨hcounted, htwo, by decide, hbefore, fun hn => ?_, (hcuts _ rfl 2).trans htwo⟩
  obtain ⟨o, ho, he⟩ := hboundaries 3 hn
  have hnone : ∀ o ≤ 4, piecewise.byteOffset o ≠ 3 := by decide
  exact hnone o ho he

end Story

end TrackedText
