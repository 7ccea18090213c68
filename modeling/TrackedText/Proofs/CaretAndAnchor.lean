import TrackedText.Proofs.RangeHistory
import TrackedText.Proofs.SpanOrder

namespace TrackedText

variable {r r' : Registry} {t : Selection} {e : ActiveEnd} {a b : Nat} {m m' : Mutation}

namespace Selection

/-- The caret is at `a`, the anchor at `b`, and the ends of the span are in order. -/
structure IsAt (e : ActiveEnd) (a b : Nat) (t : Selection) : Prop where
  ordered : t.span.start ≤ t.span.stop
  activeEnd : t.activeEnd = e
  active : t.active = a
  anchor : t.anchor = b

namespace IsAt

theorem span_eq (h : t.IsAt e a b) : t.span = ⟨min a b, max a b⟩ := by
  have ho := h.ordered
  rw [← h.active, ← h.anchor, Selection.active, Selection.anchor]
  cases t.activeEnd with
  | start => rw [Nat.min_eq_left ho, Nat.max_eq_right ho]
  | stop => rw [Nat.min_eq_right ho, Nat.max_eq_left ho]

/-- The span moves as a whole, and yet each of its ends goes where a lone point would: no point passes another,
so neither do they change places. -/
theorem adjust (h : t.IsAt e a b) (m : Mutation) : (t.adjust m).IsAt e (m.point a) (m.point b) where
  ordered := Span.ordered_adjust h.ordered m
  activeEnd := h.activeEnd
  active := by
    rw [← h.active, Selection.adjust, Span.adjust_eq_point h.ordered, Selection.active, Selection.active]
    cases t.activeEnd <;> rfl
  anchor := by
    rw [← h.anchor, Selection.adjust, Span.adjust_eq_point h.ordered, Selection.anchor, Selection.anchor]
    cases t.activeEnd <;> rfl

theorem detach (h : t.IsAt e a b) : t.detach.IsAt e a b := ⟨h.ordered, h.activeEnd, h.active, h.anchor⟩

end IsAt

theorem isAt_both (t : Selection) (x : Extent) (active other : Position) :
    (t.move x (.both active other)).IsAt (t.move x (.both active other)).activeEnd
      (x.clamp active) (x.clamp other) := by
  have ho := (Span.inStory_between (x := x) active other).ordered
  by_cases hlt : x.clamp active < x.clamp other
  · have hle := Nat.le_of_lt hlt
    refine ⟨ho, rfl, ?_, ?_⟩
    · simp only [Selection.move, if_pos hlt]
      exact Nat.min_eq_left hle
    · simp only [Selection.move, if_pos hlt]
      exact Nat.max_eq_right hle
  · have hle := Nat.le_of_not_lt hlt
    refine ⟨ho, rfl, ?_, ?_⟩
    · simp only [Selection.move, if_neg hlt]
      exact Nat.max_eq_left hle
    · simp only [Selection.move, if_neg hlt]
      exact Nat.min_eq_right hle

end Selection

namespace Registry

theorem selection_notify (h : r.notify m = .ok (m', r')) : r'.selection = r.selection.adjust m' := by
  obtain ⟨-, -, -, rfl⟩ := notify_ok h
  rw [react]
  split
  · rename_i hm
    simp only [Selection.adjust, Span.adjust_noop hm]
  · rfl

end Registry

namespace Session

open Registry

variable {s : Session} {q : Request} {p : Except Fault Answer × Session}

theorem isAt_outcome (ho : Outcome s q p) (hq : q.placesSelection = false) (h : s.registry.selection.IsAt e a b) :
    p.2.registry.selection.IsAt e ((reported p.1).toList.foldl (fun o m => m.point o) a)
      ((reported p.1).toList.foldl (fun o m => m.point o) b) := by
  cases ho with
  | unknown | refused | readSelection | move | detach => exact h
  | moveSelection | select => cases hq
  | create tracked name first last =>
      rw [(lets_hold _ name s.registry.nextId).selection]
      exact (selection_create tracked first last).symm ▸ h
  | share hn other => exact (lets_hold s other _).selection.symm ▸ h
  | drop name => exact (lets_drop s name).selection.symm ▸ h
  | attach hn => exact selection_attach.symm ▸ h
  | notified hm => exact selection_notify hm ▸ h.adjust _
  | detachDocument =>
      change Selection.IsAt e a b s.registry.detachDocument.selection
      rw [Registry.detachDocument]
      split
      · exact h
      · exact h.detach

theorem isAt_run (qs : List Request) (hq : ∀ q ∈ qs, q.placesSelection = false)
    (h : s.registry.selection.IsAt e a b) :
    (qs.foldl (fun s q => (s.perform q).2) s).registry.selection.IsAt e
      ((collect returned s qs).foldl (fun o m => m.point o) a)
      ((collect returned s qs).foldl (fun o m => m.point o) b) := by
  induction qs generalizing s a b with
  | nil => exact h
  | cons q qs ih =>
      obtain ⟨hq, hqs⟩ := List.forall_mem_cons.1 hq
      simp only [List.foldl_cons, collect, List.foldl_append]
      exact ih hqs (isAt_outcome (outcome s q) hq h)

/-- Whatever a registry has been through, a selection that is put between two positions has its caret at the
first and its anchor at the second, each brought into the story. From then on, until it is placed anew, the
caret and the anchor each go where the edits that are reported back take a lone point, and they never change
places: the span lies between the two. -/
theorem caret_and_anchor_are_points (s : Session) (active other : Position) :
    ∃ s₀, s.perform (.moveSelection (.both active other)) = (.ok .nothing, s₀) ∧
      s₀.registry.selection.active = s.registry.extent.clamp active ∧
      s₀.registry.selection.anchor = s.registry.extent.clamp other ∧
      ∀ qs : List Request, (∀ q ∈ qs, q.placesSelection = false) → ∃ t,
        ((qs.foldl (fun s q => (s.perform q).2) s₀).perform .readSelection).1 = .ok (.selection t) ∧
        t.activeEnd = s₀.registry.selection.activeEnd ∧
        t.active = (collect returned s₀ qs).foldl (fun o m => m.point o) (s.registry.extent.clamp active) ∧
        t.anchor = (collect returned s₀ qs).foldl (fun o m => m.point o) (s.registry.extent.clamp other) ∧
        t.span.start = min t.active t.anchor ∧ t.span.stop = max t.active t.anchor := by
  have hplaced := Selection.isAt_both s.registry.selection s.registry.extent active other
  refine ⟨_, rfl, hplaced.active, hplaced.anchor, fun qs hq => ?_⟩
  have hrun := isAt_run (s := { s with registry := s.registry.moveSelection (.both active other) }) qs hq hplaced
  refine ⟨_, rfl, hrun.activeEnd, hrun.active, hrun.anchor, ?_, ?_⟩
  · rw [hrun.active, hrun.anchor]
    exact congrArg Span.start hrun.span_eq
  · rw [hrun.active, hrun.anchor]
    exact congrArg Span.stop hrun.span_eq

def caretEdits : List Request :=
  [.notify (.insert 2 3), .create true "a" 1 4, .notify (.insert 4 2), .notify (.delete 5 3), .notify (.delete 1 30),
    .notify (.insert 0 1)]

theorem caret_and_anchor_are_points_caretEdits :
    ∃ s₀, (after 9 []).perform (.moveSelection (.both 2 7)) = (.ok .nothing, s₀) ∧
      s₀.registry.selection.active = 2 ∧ s₀.registry.selection.anchor = 7 ∧
      ∃ t, ((caretEdits.foldl (fun s q => (s.perform q).2) s₀).perform .readSelection).1 = .ok (.selection t) ∧
        t.active = 2 ∧ t.anchor = 2 := by
  obtain ⟨s₀, hs, hactive, hanchor, hrun⟩ := caret_and_anchor_are_points (after 9 []) 2 7
  obtain ⟨t, ht, -, htactive, htanchor, -⟩ := hrun caretEdits (by decide)
  refine ⟨s₀, hs, hactive, hanchor, t, ht, ?_, ?_⟩
  · obtain rfl : _ = s₀ := congrArg Prod.snd hs
    rw [htactive]
    decide +kernel
  · obtain rfl : _ = s₀ := congrArg Prod.snd hs
    rw [htanchor]
    decide +kernel

end Session

end TrackedText
