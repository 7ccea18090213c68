import Mathlib.Order.Interval.Finset.Nat
import TrackedText.Proofs.SpanOrder
import TrackedText.Proofs.WordArithmetic

namespace TrackedText

variable {s : Span} {m : Mutation} {ms ks : List Mutation} {start stop : Nat}

namespace Mutation

def pointAll (ms : List Mutation) (o : Nat) : Nat := ms.foldl (fun o m => m.point o) o

theorem point_insert_cases (offset n o : Nat) :
    (insert offset n).point o = o ∨ (insert offset n).point o = o + n := by
  rw [point]
  split
  · exact .inr rfl
  · exact .inl rfl

theorem le_point_insert (offset n o : Nat) : o ≤ (insert offset n).point o := by
  rcases point_insert_cases offset n o with h | h <;> omega

theorem point_delete_le (start stop o : Nat) : (delete start stop).point o ≤ o := by
  simp only [point, cutPoint]
  split <;> try split
  all_goals omega

theorem le_pointAll (h : ∀ m ∈ ms, ∃ offset n, m = .insert offset n) (o : Nat) : o ≤ pointAll ms o := by
  refine List.foldlRecOn (motive := fun p => o ≤ p) ms _ (Nat.le_refl o) fun p hp m hm => ?_
  obtain ⟨offset, n, rfl⟩ := h m hm
  exact Nat.le_trans hp (le_point_insert offset n p)

theorem pointAll_le (h : ∀ m ∈ ms, ∃ start stop, m = .delete start stop) (o : Nat) : pointAll ms o ≤ o := by
  refine List.foldlRecOn (motive := fun p => p ≤ o) ms _ (Nat.le_refl o) fun p hp m hm => ?_
  obtain ⟨start, stop, rfl⟩ := h m hm
  exact Nat.le_trans (point_delete_le start stop p) hp

end Mutation

namespace Span

def adjustAll (ms : List Mutation) (s : Span) : Span := ms.foldl (fun s m => s.adjust m) s

theorem adjustAll_append (ms ks : List Mutation) (s : Span) :
    s.adjustAll (ms ++ ks) = (s.adjustAll ms).adjustAll ks := List.foldl_append

theorem adjustAll_eq_pointAll (ho : s.start ≤ s.stop) (ms : List Mutation) :
    s.adjustAll ms = ⟨Mutation.pointAll ms s.start, Mutation.pointAll ms s.stop⟩ := by
  induction ms generalizing s with
  | nil => rfl
  | cons m ms ih =>
      have hm := ih (ordered_adjust ho m)
      rw [adjust_eq_point ho] at hm
      rw [adjustAll, List.foldl_cons, adjust_eq_point ho]
      exact hm

theorem ordered_adjustAll (ho : s.start ≤ s.stop) (ms : List Mutation) :
    (s.adjustAll ms).start ≤ (s.adjustAll ms).stop :=
  List.foldlRecOn (motive := fun t : Span => t.start ≤ t.stop) ms _ ho fun _ ht m _ => ordered_adjust ht m

theorem isCollapsed_adjustAll (h : s.isCollapsed = true) (ms : List Mutation) :
    (s.adjustAll ms).isCollapsed = true := by
  rw [isCollapsed, beq_iff_eq] at h ⊢
  rw [adjustAll_eq_pointAll (Nat.le_of_eq h)]
  exact congrArg (Mutation.pointAll ms) h

theorem le_adjustAll_append (ho : s.start ≤ s.stop) (ms : List Mutation)
    (hk : ∀ m ∈ ks, ∃ offset n, m = .insert offset n) :
    (s.adjustAll ms).start ≤ (s.adjustAll (ms ++ ks)).start ∧
      (s.adjustAll ms).stop ≤ (s.adjustAll (ms ++ ks)).stop := by
  rw [adjustAll_append, adjustAll_eq_pointAll (ordered_adjustAll ho ms) ks]
  exact ⟨Mutation.le_pointAll hk _, Mutation.le_pointAll hk _⟩

theorem adjustAll_append_le (ho : s.start ≤ s.stop) (ms : List Mutation)
    (hk : ∀ m ∈ ks, ∃ start stop, m = .delete start stop) :
    (s.adjustAll (ms ++ ks)).start ≤ (s.adjustAll ms).start ∧
      (s.adjustAll (ms ++ ks)).stop ≤ (s.adjustAll ms).stop := by
  rw [adjustAll_append, adjustAll_eq_pointAll (ordered_adjustAll ho ms) ks]
  exact ⟨Mutation.pointAll_le hk _, Mutation.pointAll_le hk _⟩

theorem length_adjust_insert (s : Span) (offset n : Nat) :
    (s.adjust (.insert offset n)).length =
      s.length + if s.start ≤ offset ∧ offset < s.stop then n else 0 := by
  by_cases hs : offset < s.start
  · have hout : ¬ (s.start ≤ offset ∧ offset < s.stop) := by omega
    simp only [adjust, length, hs, hout, if_true, if_false]
    omega
  · by_cases he : offset < s.stop
    · simp only [adjust, length, hs, he, and_true, Nat.le_of_not_lt hs, if_true, if_false]
      omega
    · simp only [adjust, length, hs, he, and_false, if_false, Nat.add_zero]

theorem length_adjust_insert_iff {n : Nat} (hn : 0 < n) (s : Span) (offset : Nat) :
    (s.adjust (.insert offset n)).length = s.length + n ↔ s.start ≤ offset ∧ offset < s.stop := by
  rw [length_adjust_insert]
  split
  · rename_i hin
    exact iff_of_true rfl hin
  · rename_i hout
    exact iff_of_false (by omega) hout

theorem tryAdjust_error_iff {e : RangeError} :
    s.tryAdjust m = .error e ↔ ∃ start stop, m = .delete start stop ∧ stop < start ∧ e = .malformedDeletion start stop := by
  cases m with
  | insert offset n => simp [tryAdjust]
  | delete start stop =>
      by_cases hs : stop < start
      · simp [tryAdjust, hs, eq_comm]
      · simp [tryAdjust, hs]

theorem length_adjust_delete (ho : s.start ≤ s.stop) (hs : start ≤ stop) :
    (s.adjust (.delete start stop)).length + (Finset.Ico s.start s.stop ∩ Finset.Ico start stop).card =
      s.length := by
  rw [Finset.Ico_inter_Ico, Nat.card_Ico]
  simp only [adjust, length]
  rcases Nat.le_total s.stop stop with hstop | hstop
  · rw [Mutation.cutPoint_inside hstop, Mutation.cutPoint_inside (Nat.le_trans ho hstop)]
    omega
  · rw [Mutation.cutPoint_behind hs hstop]
    rcases Nat.le_total s.start stop with hstart | hstart
    · rw [Mutation.cutPoint_inside hstart]
      omega
    · rw [Mutation.cutPoint_behind hs hstart]
      omega

theorem adjust_swallowed (ho : s.start ≤ s.stop) (hs : start ≤ s.start) (hstop : s.stop ≤ stop) :
    s.adjust (.delete start stop) = ⟨start, start⟩ := by
  have hstart : start ≤ s.stop := Nat.le_trans hs ho
  simp only [adjust, Mutation.cutPoint_inside hstop, Mutation.cutPoint_inside (Nat.le_trans ho hstop),
    Nat.min_eq_right hs, Nat.min_eq_right hstart]

end Span

/-- An adjustment overflows nowhere on the way if its result is still made of words. -/
theorem Word.adjust_eq_of_lt (hm : m.IsWellFormed) (ho : s.start ≤ s.stop) (hw : (s.adjust m).stop < wordCount) :
    Word.adjust m s = some (s.adjust m) := by
  cases m with
  | insert offset n =>
      by_cases hs : offset < s.start
      · simp only [Span.adjust, hs, if_true] at hw
        have hstart : add s.start n = some (s.start + n) := add_of_lt (by omega)
        simp [adjust, Span.adjust, hs, hstart, add_of_lt hw]
      · by_cases he : offset < s.stop
        · simp only [Span.adjust, hs, he, if_true, if_false] at hw
          simp [adjust, Span.adjust, hs, he, add_of_lt hw]
        · simp [adjust, Span.adjust, hs, he]
  | delete start stop => simp [adjust, cutPoint_eq hm, Span.adjust]

namespace Span

/-- What an edit can do to a span whose ends are in order. Unless it is a deletion with its own ends reversed, it is
taken; the ends stay in order, and no word overflows as long as the result fits into words. An insertion takes each end to the right by what it inserts or leaves it, and the
span grows by that if it comes at the start or inside, and by nothing otherwise. A deletion takes no end to the
right; the span shrinks by the characters that both have in common, and collapses where the deletion began if
they are all its own. So in any run of edits a collapsed span stays collapsed; while the edits are insertions
neither end ever goes left, and while they are deletions neither ever goes right. -/
theorem adjusting_obeys_laws (s : Span) (ho : s.start ≤ s.stop) :
    (∀ m : Mutation, m.IsWellFormed →
      s.tryAdjust m = .ok (s.adjust m) ∧
      (s.adjust m).start ≤ (s.adjust m).stop ∧
      ((s.adjust m).stop < wordCount → Word.adjust m s = some (s.adjust m))) ∧
    (∀ offset n t, s.adjust (.insert offset n) = t →
      (t.start = s.start ∨ t.start = s.start + n) ∧
      (t.stop = s.stop ∨ t.stop = s.stop + n) ∧
      t.length = s.length + (if s.start ≤ offset ∧ offset < s.stop then n else 0) ∧
      (0 < n → (t.length = s.length + n ↔ s.start ≤ offset ∧ offset < s.stop))) ∧
    (∀ start stop t, start ≤ stop → s.adjust (.delete start stop) = t →
      t.start ≤ s.start ∧
      t.stop ≤ s.stop ∧
      t.length + (Finset.Ico s.start s.stop ∩ Finset.Ico start stop).card = s.length ∧
      (start ≤ s.start → s.stop ≤ stop → t = ⟨start, start⟩)) ∧
    (s.isCollapsed = true → ∀ ms, (s.adjustAll ms).isCollapsed = true) ∧
    (∀ ms ks, (∀ m ∈ ms ++ ks, ∃ offset n, m = .insert offset n) →
      (s.adjustAll ms).start ≤ (s.adjustAll (ms ++ ks)).start ∧
      (s.adjustAll ms).stop ≤ (s.adjustAll (ms ++ ks)).stop) ∧
    ∀ ms ks, (∀ m ∈ ms ++ ks, ∃ start stop, start ≤ stop ∧ m = .delete start stop) →
      (s.adjustAll (ms ++ ks)).start ≤ (s.adjustAll ms).start ∧
      (s.adjustAll (ms ++ ks)).stop ≤ (s.adjustAll ms).stop := by
  refine ⟨fun m hm => ⟨tryAdjust_eq hm s, ordered_adjust ho m, Word.adjust_eq_of_lt hm ho⟩, ?_, ?_,
    isCollapsed_adjustAll, ?_, ?_⟩
  · rintro offset n t rfl
    refine ⟨?_, ?_, length_adjust_insert s offset n, fun hn => length_adjust_insert_iff hn s offset⟩
    · rw [adjust_eq_point ho]
      exact Mutation.point_insert_cases offset n s.start
    · rw [adjust_eq_point ho]
      exact Mutation.point_insert_cases offset n s.stop
  · rintro start stop t hs rfl
    exact ⟨Mutation.point_delete_le start stop s.start, Mutation.point_delete_le start stop s.stop,
      length_adjust_delete ho hs, adjust_swallowed ho⟩
  · intro ms ks hm
    exact le_adjustAll_append ho ms fun m hk => hm m (List.mem_append_right ms hk)
  · intro ms ks hm
    refine adjustAll_append_le ho ms fun m hk => ?_
    obtain ⟨start, stop, -, rfl⟩ := hm m (List.mem_append_right ms hk)
    exact ⟨start, stop, rfl⟩

def caretRun : List Mutation := [.insert 7 4, .delete 4 9, .insert 0 2, .delete 6 6, .insert 5 1]

theorem adjusting_obeys_laws_caretRun :
    Word.adjust (.insert 5 3) ⟨5, 10⟩ = some ⟨5, 13⟩ ∧
    (⟨5, 13⟩ : Span).length = (⟨5, 10⟩ : Span).length + 3 ∧
    (⟨5, 8⟩ : Span).length + (Finset.Ico 5 10 ∩ Finset.Ico 8 14).card = (⟨5, 10⟩ : Span).length ∧
    (⟨5, 10⟩ : Span).adjust (.delete 3 12) = ⟨3, 3⟩ ∧
    ((⟨7, 7⟩ : Span).adjustAll caretRun).isCollapsed = true ∧
    ((⟨5, 10⟩ : Span).adjustAll [.insert 5 1]).stop ≤ ((⟨5, 10⟩ : Span).adjustAll [.insert 5 1, .insert 0 2]).stop ∧
    ((⟨5, 10⟩ : Span).adjustAll [.delete 9 9, .delete 0 6]).start ≤
      ((⟨5, 10⟩ : Span).adjustAll [.delete 9 9]).start := by
  obtain ⟨hany, hinsert, hdelete, -, hright, hleft⟩ := adjusting_obeys_laws ⟨5, 10⟩ (by decide)
  obtain ⟨-, -, -, hcollapsed, -⟩ := adjusting_obeys_laws ⟨7, 7⟩ (by decide)
  obtain ⟨-, -, -, hgrown⟩ := hinsert 5 3 ⟨5, 13⟩ rfl
  obtain ⟨-, -, hshrunk, -⟩ := hdelete 8 14 ⟨5, 8⟩ (by decide) rfl
  obtain ⟨-, -, -, hcovered⟩ := hdelete 3 12 _ (by decide) rfl
  refine ⟨(hany (.insert 5 3) trivial).2.2 (by decide), (hgrown (by decide)).2 (by decide), hshrunk,
    hcovered (by decide) (by decide), hcollapsed rfl caretRun, (hright [.insert 5 1] [.insert 0 2] ?_).2,
    (hleft [.delete 9 9] [.delete 0 6] ?_).1⟩
  · simp
  · simp

end Span

end TrackedText
