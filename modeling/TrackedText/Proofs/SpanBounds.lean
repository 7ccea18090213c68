import TrackedText.Mutation

namespace TrackedText

variable {x : Extent} {s : Span} {m : Mutation}

/-- Both ends of the span are offsets of the story, in order. -/
structure Span.InStory (x : Extent) (s : Span) : Prop where
  ordered : s.start ≤ s.stop
  bounded : s.stop ≤ x.length

/-- The edit can be made in the story: nothing is put past its end, and the terminator is spared. -/
def Mutation.FitsIn (x : Extent) : Mutation → Prop
  | insert offset _ => offset ≤ x.length
  | delete start stop => start ≤ stop ∧ stop < x.length

def Extent.edit (x : Extent) : Mutation → Extent
  | .insert _ n => x.grow n
  | .delete start stop => x.shrink start stop

def Mutation.inserted : Mutation → Nat
  | insert _ n => n
  | delete _ _ => 0

def Mutation.removed : Mutation → Nat
  | insert _ _ => 0
  | delete start stop => stop - start

namespace Extent

theorem clamp_le (p : Position) : x.clamp p ≤ x.length := Nat.min_le_right _ _

theorem narrow_le (o : Nat) : x.narrow o ≤ x.length := Nat.min_le_right _ _

theorem narrow_of_le {o : Nat} (h : o ≤ x.length) : x.narrow o = o := Nat.min_eq_left h

theorem ofLength_pos (n : Nat) : 0 < (ofLength n).length := by simp only [ofLength]; omega

theorem narrowDeletion_fits (hx : 0 < x.length) (start stop : Nat) :
    (Mutation.delete (x.narrowDeletion start stop).1 (x.narrowDeletion start stop).2).FitsIn x := by
  simp only [narrowDeletion, terminator, Mutation.FitsIn]
  omega

theorem narrowDeletion_of_fits {start stop : Nat} (h : (Mutation.delete start stop).FitsIn x) :
    x.narrowDeletion start stop = (start, stop) := by
  simp only [Mutation.FitsIn] at h
  simp only [narrowDeletion, terminator, Prod.mk.injEq]
  omega

theorem edit_pos (hx : 0 < x.length) (hm : m.FitsIn x) : 0 < (x.edit m).length := by
  cases m with
  | insert offset n => simp only [edit, grow]; omega
  | delete start stop => simp only [Mutation.FitsIn] at hm; simp only [edit, shrink]; omega

theorem edit_noop (h : m.isNoop = true) : x.edit m = x := by
  cases m <;> simp_all [Mutation.isNoop, edit, grow, shrink]

theorem length_edit (hm : m.FitsIn x) : (x.edit m).length + m.removed = x.length + m.inserted := by
  cases m with
  | insert offset n => rfl
  | delete start stop =>
      simp only [Mutation.FitsIn] at hm
      simp only [edit, shrink, Mutation.removed, Mutation.inserted]
      omega

end Extent

namespace Mutation

theorem FitsIn.isWellFormed (h : m.FitsIn x) : m.IsWellFormed := by
  cases m with
  | insert offset n => trivial
  | delete start stop => exact h.1

theorem cutPoint_mono {start stop o o' : Nat} (h : o ≤ o') :
    cutPoint start stop o ≤ cutPoint start stop o' := by
  rw [cutPoint, cutPoint]
  split <;> split <;> try split
  all_goals try split
  all_goals omega

theorem cutPoint_inside {start stop o : Nat} (ho : o ≤ stop) : cutPoint start stop o = min o start := by
  rw [cutPoint]
  split <;> try split
  all_goals omega

theorem cutPoint_behind {start stop o : Nat} (hs : start ≤ stop) (ho : stop ≤ o) :
    cutPoint start stop o = o - (stop - start) := by
  rw [cutPoint]
  split <;> try split
  all_goals omega

theorem cutPoint_self (start o : Nat) : cutPoint start start o = o := by
  rcases Nat.le_total o start with ho | ho
  · rw [cutPoint_inside ho, Nat.min_eq_left ho]
  · rw [cutPoint_behind (Nat.le_refl start) ho, Nat.sub_self, Nat.sub_zero]

end Mutation

namespace Span

theorem InStory.le_length (h : s.InStory x) : s.start ≤ x.length := Nat.le_trans h.ordered h.bounded

theorem inStory_caret (o : Nat) : (caret x o).InStory x := ⟨Nat.le_refl _, x.narrow_le o⟩

theorem inStory_ofPositions (first last : Position) : (ofPositions x first last).InStory x :=
  ⟨Nat.le_max_right _ _, Nat.max_le.2 ⟨x.clamp_le last, x.clamp_le first⟩⟩

theorem inStory_between (active other : Position) : (between x active other).InStory x :=
  ⟨by simp only [between]; omega, Nat.max_le.2 ⟨x.clamp_le active, x.clamp_le other⟩⟩

theorem inStory_narrow (s : Span) : (s.narrow x).InStory x :=
  ⟨Nat.le_max_right _ _, Nat.max_le.2 ⟨x.narrow_le s.stop, x.narrow_le s.start⟩⟩

theorem narrow_of_inStory (h : s.InStory x) : s.narrow x = s := by
  have ho := h.ordered
  simp only [narrow, Extent.narrow_of_le h.bounded, Extent.narrow_of_le h.le_length, Nat.max_eq_left ho]

theorem ordered_collapse (toStart : Bool) : (s.collapse toStart).start ≤ (s.collapse toStart).stop := by
  cases toStart <;> exact Nat.le_refl _

theorem inStory_collapse (h : s.InStory x) (toStart : Bool) : (s.collapse toStart).InStory x := by
  refine ⟨ordered_collapse toStart, ?_⟩
  cases toStart with
  | false => exact h.bounded
  | true => exact h.le_length

theorem inStory_setStart (s : Span) (p : Position) : (s.setStart x p).InStory x :=
  ⟨Nat.min_le_right _ _, (inStory_narrow s).bounded⟩

theorem inStory_setStop (s : Span) (p : Position) : (s.setStop x p).InStory x :=
  ⟨Nat.le_max_right _ _, Nat.max_le.2 ⟨x.clamp_le p, x.narrow_le s.start⟩⟩

theorem inStory_move (h : s.InStory x) (m : Move) : (s.move x m).InStory x := by
  cases m with
  | start p => exact inStory_setStart s p
  | stop p => exact inStory_setStop s p
  | both active other => exact inStory_between active other
  | collapse toStart => exact inStory_collapse h toStart

/-- Every move but a collapse brings the span into the story, wherever it was before. -/
theorem ordered_move (s : Span) (m : Move) : (s.move x m).start ≤ (s.move x m).stop := by
  cases m with
  | start p => exact (inStory_setStart s p).ordered
  | stop p => exact (inStory_setStop s p).ordered
  | both active other => exact (inStory_between active other).ordered
  | collapse toStart => exact ordered_collapse toStart

theorem tryAdjust_eq (hm : m.IsWellFormed) (s : Span) : s.tryAdjust m = .ok (s.adjust m) := by
  cases m with
  | insert offset n => rfl
  | delete start stop => exact if_neg (Nat.not_lt.2 hm)

theorem adjust_noop (h : m.isNoop = true) (s : Span) : s.adjust m = s := by
  cases m with
  | insert offset n => simp_all [Mutation.isNoop, adjust]
  | delete start stop => simp_all [Mutation.isNoop, adjust, Mutation.cutPoint_self]

theorem start_adjust_insert (s : Span) (offset n : Nat) :
    (s.adjust (.insert offset n)).start = if offset < s.start then s.start + n else s.start := by
  simp only [adjust]
  split <;> try split
  all_goals rfl

theorem stop_adjust_insert (h : s.start ≤ s.stop) (offset n : Nat) :
    (s.adjust (.insert offset n)).stop = if offset < s.stop then s.stop + n else s.stop := by
  by_cases hs : offset < s.start
  · simp only [adjust, hs, if_true, Nat.lt_of_lt_of_le hs h]
  · by_cases he : offset < s.stop <;> simp only [adjust, hs, he, if_true, if_false]

theorem ordered_adjust (h : s.start ≤ s.stop) (m : Mutation) : (s.adjust m).start ≤ (s.adjust m).stop := by
  cases m with
  | insert offset n =>
      rw [start_adjust_insert, stop_adjust_insert h]
      split <;> split <;> omega
  | delete start stop => exact Mutation.cutPoint_mono h

theorem inStory_adjust (h : s.InStory x) (hm : m.FitsIn x) : (s.adjust m).InStory (x.edit m) := by
  refine ⟨ordered_adjust h.ordered m, ?_⟩
  have hb := h.bounded
  cases m with
  | insert offset n =>
      rw [stop_adjust_insert h.ordered]
      simp only [Extent.edit, Extent.grow]
      split <;> omega
  | delete start stop =>
      simp only [Mutation.FitsIn] at hm
      change Mutation.cutPoint start stop s.stop ≤ x.length - (stop - start)
      rcases Nat.le_total s.stop stop with ho | ho
      · rw [Mutation.cutPoint_inside ho]
        omega
      · rw [Mutation.cutPoint_behind hm.1 ho]
        omega

end Span

end TrackedText
