import TrackedText.Proofs.SpanBounds
import TrackedText.Proofs.StoryText

namespace TrackedText

/-- Where a span is after the characters from `start` up to `stop` gave way to `n` others. -/
def Span.replace (start stop n : Nat) (s : Span) : Span :=
  (s.adjust (.delete start stop)).adjust (.insert start n)

namespace Text

/-- The characters of a span that a deletion from `start` up to `stop` spares, in order. -/
def spared (start stop : Nat) (s : Span) (t : Text) : Text :=
  (t.zipIdx.filter fun p => s.start ≤ p.2 ∧ p.2 < s.stop ∧ ¬ (start ≤ p.2 ∧ p.2 < stop)).map (·.1)

/-- What a span is to cover once the characters from `start` up to `stop` gave way to `t`: the new
text joins it if the span had begun and not yet ended at `stop`, and otherwise it keeps what is left of
its own. -/
def covered (start stop : Nat) (t : Text) (s : Span) (u : Text) : Text :=
  if s.start ≤ stop ∧ stop < s.stop then slice s.start start u ++ t ++ slice stop s.stop u
  else spared start stop s u

variable {start stop : Nat} {t u : Text} {s : Span}

theorem slice_of_le {i j : Nat} (h : j ≤ i) (t : Text) : slice i j t = [] := by
  refine List.drop_eq_nil_of_le ?_
  rw [List.length_take]
  omega

theorem slice_cons (i j k : Nat) (c : Char) (t : Text) :
    slice (i - k) (j - k) (c :: t) =
      if i ≤ k ∧ k < j then c :: slice (i - (k + 1)) (j - (k + 1)) t else slice (i - (k + 1)) (j - (k + 1)) t := by
  by_cases hj : k < j
  · obtain ⟨j', hj'⟩ : ∃ j', j - k = j' + 1 := ⟨j - k - 1, by omega⟩
    have hj'' : j - (k + 1) = j' := by omega
    by_cases hi : i ≤ k
    · have hi' : i - k = 0 := by omega
      have hi'' : i - (k + 1) = 0 := by omega
      simp [slice, hi, hj, hj', hj'', hi', hi'']
    · obtain ⟨i', hi'⟩ : ∃ i', i - k = i' + 1 := ⟨i - k - 1, by omega⟩
      have hi'' : i - (k + 1) = i' := by omega
      simp [slice, hi, hj', hj'', hi', hi'']
  · rw [if_neg fun h => hj h.2, slice_of_le (by omega), slice_of_le (by omega)]

theorem filter_zipIdx (hs : start ≤ stop) (s : Span) (t : Text) (k : Nat) :
    ((t.zipIdx k).filter fun p => s.start ≤ p.2 ∧ p.2 < s.stop ∧ ¬ (start ≤ p.2 ∧ p.2 < stop)).map (·.1) =
      slice (s.start - k) (min s.stop start - k) t ++ slice (max s.start stop - k) (s.stop - k) t := by
  induction t generalizing k with
  | nil => simp [slice]
  | cons c t ih =>
      rw [List.zipIdx_cons, List.filter_cons, slice_cons, slice_cons]
      by_cases hin : s.start ≤ k ∧ k < s.stop ∧ ¬ (start ≤ k ∧ k < stop)
      · rw [if_pos (decide_eq_true hin), List.map_cons, ih]
        obtain ⟨hk, hk', hout⟩ := hin
        by_cases hb : k < start
        · have hfirst : s.start ≤ k ∧ k < min s.stop start := by omega
          have hsecond : ¬ (max s.start stop ≤ k ∧ k < s.stop) := by omega
          rw [if_pos hfirst, if_neg hsecond, List.cons_append]
        · -- behind the deletion nothing is left of the part before it
          have hfirst : ¬ (s.start ≤ k ∧ k < min s.stop start) := by omega
          have hsecond : max s.start stop ≤ k ∧ k < s.stop := by omega
          rw [if_neg hfirst, if_pos hsecond, slice_of_le (by omega), List.nil_append, List.nil_append]
      · have hfirst : ¬ (s.start ≤ k ∧ k < min s.stop start) := by omega
        have hsecond : ¬ (max s.start stop ≤ k ∧ k < s.stop) := by omega
        rw [if_neg fun hd => hin (of_decide_eq_true hd), if_neg hfirst, if_neg hsecond, ih]

theorem spared_eq (hs : start ≤ stop) (s : Span) (t : Text) :
    spared start stop s t = slice s.start (min s.stop start) t ++ slice (max s.start stop) s.stop t :=
  filter_zipIdx hs s t 0

theorem slice_replace_before {i j : Nat} (hu : start ≤ u.length) (hj : j ≤ start) :
    slice i j (replace start stop t u) = slice i j u := by
  have hl : start = (u.take start).length := by simp only [List.length_take]; omega
  rw [slice, replace, List.append_assoc, List.take_append_of_le_length (hl ▸ hj), List.take_take,
    Nat.min_eq_left hj, slice]

theorem slice_replace_across {i j : Nat} (hs : start ≤ stop) (hu : stop ≤ u.length) (hi : i ≤ start)
    (hj : stop ≤ j) :
    slice i (j - (stop - start) + t.length) (replace start stop t u) =
      slice i start u ++ t ++ slice stop j u := by
  have hl : (u.take start ++ t).length = start + t.length := by
    simp only [List.length_append, List.length_take]
    omega
  have hj' : j - (stop - start) + t.length = (u.take start ++ t).length + (j - stop) := by omega
  have hi' : i ≤ (u.take start).length := by simp only [List.length_take]; omega
  rw [slice, replace, hj', List.take_length_add_append, List.append_assoc, List.drop_append_of_le_length hi',
    ← List.drop_take, List.append_assoc]
  rfl

theorem slice_replace_behind {i j : Nat} (hs : start ≤ stop) (hu : stop ≤ u.length) (hi : stop ≤ i)
    (hj : i ≤ j) :
    slice (i - (stop - start) + t.length) (j - (stop - start) + t.length) (replace start stop t u) = slice i j u := by
  have hl : (u.take start ++ t).length = start + t.length := by
    simp only [List.length_append, List.length_take]
    omega
  have hi' : i - (stop - start) + t.length = (u.take start ++ t).length + (i - stop) := by omega
  have hj' : j - (stop - start) + t.length = (u.take start ++ t).length + (j - stop) := by omega
  have hd : (u.drop stop).take (j - stop) = (u.take j).drop stop := List.drop_take.symm
  rw [slice, replace, hi', hj', List.take_length_add_append, List.drop_length_add_append, hd, List.drop_drop,
    Nat.add_sub_cancel' hi, slice]

end Text

namespace Span

open Mutation

variable {start stop : Nat} {s : Span}

theorem replace_before (ho : s.start ≤ s.stop) (hb : s.stop ≤ stop) (n : Nat) :
    s.replace start stop n = ⟨min s.start start, min s.stop start⟩ := by
  have hstart : ¬ start < min s.start start := by omega
  have hstop : ¬ start < min s.stop start := by omega
  simp only [replace, adjust, cutPoint_inside hb, cutPoint_inside (Nat.le_trans ho hb), hstart, hstop, if_false]

theorem replace_across (hs : start ≤ stop) (hb : s.start ≤ stop) (hc : stop < s.stop) (n : Nat) :
    s.replace start stop n = ⟨min s.start start, s.stop - (stop - start) + n⟩ := by
  have hstart : ¬ start < min s.start start := by omega
  have hstop : start < s.stop - (stop - start) := by omega
  simp only [replace, adjust, cutPoint_inside hb, cutPoint_behind hs (Nat.le_of_lt hc), hstart, hstop, if_false,
    if_true]

theorem replace_behind (hs : start ≤ stop) (ho : s.start ≤ s.stop) (hb : stop < s.start) (n : Nat) :
    s.replace start stop n = ⟨s.start - (stop - start) + n, s.stop - (stop - start) + n⟩ := by
  have hstop : stop ≤ s.stop := by omega
  have hstart : start < s.start - (stop - start) := by omega
  simp only [replace, adjust, cutPoint_behind hs (Nat.le_of_lt hb), cutPoint_behind hs hstop, hstart, if_true]

end Span

theorem Text.slice_replace {start stop : Nat} {s : Span} {u : Text} (hs : start ≤ stop) (hu : stop ≤ u.length)
    (ho : s.start ≤ s.stop) (t : Text) :
    slice (s.replace start stop t.length).start (s.replace start stop t.length).stop (replace start stop t u) =
      covered start stop t s u := by
  have hstart : start ≤ u.length := Nat.le_trans hs hu
  rw [covered]
  split
  · rename_i h
    rw [Span.replace_across hs h.1 h.2, slice_replace_across hs hu (Nat.min_le_right _ _) (Nat.le_of_lt h.2)]
    congr 2
    by_cases hb : s.start ≤ start
    · rw [Nat.min_eq_left hb]
    · rw [slice_of_le (by omega), slice_of_le (by omega)]
  · rename_i h
    rw [spared_eq hs]
    by_cases hb : stop < s.start
    · rw [Span.replace_behind hs ho hb, slice_replace_behind hs hu (Nat.le_of_lt hb) ho,
        slice_of_le (i := s.start) (j := min s.stop start) (by omega), List.nil_append,
        Nat.max_eq_left (Nat.le_of_lt hb)]
    · have hb' : s.stop ≤ stop := by omega
      rw [Span.replace_before ho hb', slice_replace_before hstart (Nat.min_le_right _ _),
        slice_of_le (i := max s.start stop) (by omega), List.append_nil]
      by_cases hc : s.start ≤ start
      · rw [Nat.min_eq_left hc]
      · have hc' : start ≤ s.start := Nat.le_of_not_le hc
        rw [slice_of_le (Nat.le_trans (Nat.min_le_right _ _) hc'),
          slice_of_le (Nat.le_min.2 ⟨Nat.le_trans (Nat.min_le_right _ _) hc', Nat.min_le_right _ _⟩)]

end TrackedText
