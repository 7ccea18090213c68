import TrackedText.Proofs.SpanBounds
import TrackedText.Wire

namespace TrackedText

variable {x : Extent} {s t : Span}

theorem Extent.clamp_eq (x : Extent) (p : Position) : (x.clamp p : Int) = max 0 (min p x.length) := by
  rw [clamp]
  omega

namespace Wire

theorem Value.offset?_eq_some_iff {v : Value} {o : Nat} : v.offset? = some o ↔ v = .whole o ∧ o < wordCount := by
  cases v with
  | whole n =>
      simp only [Value.offset?, Option.ite_none_right_eq_some, Option.some.injEq, Value.whole.injEq]
      omega
  | null | flag b | fraction | text s | list vs | record fields => simp [Value.offset?]

theorem span?_ofSpan (hstart : s.start < wordCount) (hstop : s.stop < wordCount) : span? (ofSpan s) = some s := by
  have hfields : (ofSpan s).fields? ["start", "end"] = some [.whole s.start, .whole s.stop] := rfl
  have hstart' := Value.offset?_eq_some_iff.2 ⟨rfl, hstart⟩
  have hstop' := Value.offset?_eq_some_iff.2 ⟨rfl, hstop⟩
  simp only [span?, hfields, hstart', hstop']
  rfl

theorem lt_wordCount_of_span? {v : Value} (h : span? v = some s) : s.start < wordCount ∧ s.stop < wordCount := by
  rw [span?] at h
  split at h
  · simp only [Option.bind_eq_bind, Option.bind_eq_some_iff, Option.pure_def, Option.some.injEq] at h
    obtain ⟨start, hstart, stop, hstop, rfl⟩ := h
    exact ⟨(Value.offset?_eq_some_iff.1 hstart).2, (Value.offset?_eq_some_iff.1 hstop).2⟩
  · cases h

end Wire

namespace Span

theorem narrow_narrow (x : Extent) (s : Span) : (s.narrow x).narrow x = s.narrow x :=
  narrow_of_inStory (inStory_narrow s)

theorem narrow_eq_self_iff : s.narrow x = s ↔ s.InStory x :=
  ⟨fun h => h ▸ inStory_narrow s, narrow_of_inStory⟩

theorem start_setStart (x : Extent) (s : Span) (p : Position) :
    ((s.setStart x p).start : Int) = max 0 (min p (s.narrow x).stop) := by
  have hb := (inStory_narrow (x := x) s).bounded
  have hp := x.clamp_eq p
  simp only [setStart]
  omega

theorem stop_setStop (x : Extent) (s : Span) (p : Position) :
    ((s.setStop x p).stop : Int) = max ((s.narrow x).start : Int) (min p x.length) := by
  have hp := x.clamp_eq p
  simp only [setStop]
  omega

theorem start_between (x : Extent) (active other : Position) :
    ((between x active other).start : Int) = max 0 (min (min active other) x.length) := by
  have ha := x.clamp_eq active
  have ho := x.clamp_eq other
  simp only [between]
  omega

theorem stop_between (x : Extent) (active other : Position) :
    ((between x active other).stop : Int) = max 0 (min (max active other) x.length) := by
  have ha := x.clamp_eq active
  have ho := x.clamp_eq other
  simp only [between]
  omega

/-- A collapse takes the end as it is stored, while an end before the start reads as the start. The two are the
same place only if both ends have left the story behind. -/
theorem collapse_narrow_iff (x : Extent) (s : Span) (toStart : Bool) :
    (s.narrow x).collapse toStart = (s.collapse toStart).narrow x ↔
      (toStart = false → s.start ≤ s.stop ∨ x.length ≤ s.stop) := by
  cases toStart with
  | true => simp [collapse, narrow]
  | false =>
      simp only [collapse, narrow, Extent.narrow, Span.mk.injEq, true_imp_iff, Bool.false_eq_true, if_false]
      omega

/-- What a move leaves to be read is what it makes of the span as that reads. -/
theorem move_narrow_iff (x : Extent) (s : Span) (m : Move) :
    ((s.narrow x).move x m).narrow x = (s.move x m).narrow x ↔
      (m = .collapse false → s.start ≤ s.stop ∨ x.length ≤ s.stop) := by
  cases m with
  | start p => simp [move, setStart, narrow_narrow]
  | stop p => simp [move, setStop, narrow_narrow]
  | both active other => simp [move]
  | collapse toStart =>
      have hc := narrow_of_inStory (inStory_collapse (inStory_narrow (x := x) s) toStart)
      rw [move, move, hc, collapse_narrow_iff, Move.collapse.injEq]

def moveAll (x : Extent) (ms : List Move) (s : Span) : Span := ms.foldl (fun s m => s.move x m) s

theorem narrow_move_congr (hs : s.start ≤ s.stop) (ht : t.start ≤ t.stop) (h : s.narrow x = t.narrow x) (m : Move) :
    (s.move x m).narrow x = (t.move x m).narrow x := by
  rw [← (move_narrow_iff x s m).2 fun _ => .inl hs, h, (move_narrow_iff x t m).2 fun _ => .inl ht]

theorem narrow_moveAll_congr (hs : s.start ≤ s.stop) (ht : t.start ≤ t.stop) (h : s.narrow x = t.narrow x)
    (ms : List Move) : (moveAll x ms s).narrow x = (moveAll x ms t).narrow x := by
  induction ms generalizing s t with
  | nil => exact h
  | cons m ms ih =>
      -- a move may leave the span as stale as it was, but never with its ends out of order
      exact ih (ordered_move s m) (ordered_move t m) (narrow_move_congr hs ht h m)

theorem narrow_moveAll (x : Extent) (s : Span) (ms : List Move)
    (h : ms.head? = some (.collapse false) → s.start ≤ s.stop ∨ x.length ≤ s.stop) :
    (moveAll x ms (s.narrow x)).narrow x = (moveAll x ms s).narrow x := by
  cases ms with
  | nil => exact narrow_narrow x s
  | cons m ms =>
      have hm := (move_narrow_iff x s m).2 fun he => h (congrArg some he)
      exact narrow_moveAll_congr (ordered_move _ m) (ordered_move s m) hm ms

/-- Any two words can come in as a span, in order or not. Narrowed, or moved in any way but by a collapse, a span
lies in the story, and narrowing changes just those that did not. A new start goes no further than the end that
could be read, a new end no further back than the start that could be read, and these stay where they were; two
new ends are put in order. Narrowing a span beforehand makes no difference to what is read after a move, unless it
is a collapse to an end that is stored before the start and before the end of the story. Nor does it make any to
what is read after a run of moves, of which only the first can be such a collapse. -/
theorem moves_repair_spans (x : Extent) (s : Span) :
    ((∃ v, Wire.span? v = some s) ↔ s.start < wordCount ∧ s.stop < wordCount) ∧
    (s.narrow x).InStory x ∧
    (s.narrow x).narrow x = s.narrow x ∧
    (s.narrow x = s ↔ s.InStory x) ∧
    (∀ p, (s.move x (.start p)).InStory x ∧
      (s.move x (.start p)).stop = (s.narrow x).stop ∧
      ((s.move x (.start p)).start : Int) = max 0 (min p (s.narrow x).stop)) ∧
    (∀ p, (s.move x (.stop p)).InStory x ∧
      (s.move x (.stop p)).start = (s.narrow x).start ∧
      ((s.move x (.stop p)).stop : Int) = max ((s.narrow x).start : Int) (min p x.length)) ∧
    (∀ active other, (s.move x (.both active other)).InStory x ∧
      ((s.move x (.both active other)).start : Int) = max 0 (min (min active other) x.length) ∧
      ((s.move x (.both active other)).stop : Int) = max 0 (min (max active other) x.length)) ∧
    (∀ m, ((s.narrow x).move x m).narrow x = (s.move x m).narrow x ↔
      (m = .collapse false → s.start ≤ s.stop ∨ x.length ≤ s.stop)) ∧
    ∀ ms : List Move, (ms.head? = some (.collapse false) → s.start ≤ s.stop ∨ x.length ≤ s.stop) →
      (moveAll x ms (s.narrow x)).narrow x = (moveAll x ms s).narrow x := by
  refine ⟨⟨fun ⟨_, hv⟩ => Wire.lt_wordCount_of_span? hv, fun hw => ⟨_, Wire.span?_ofSpan hw.1 hw.2⟩⟩,
    inStory_narrow s, narrow_narrow x s, narrow_eq_self_iff, fun p => ?_, fun p => ?_, fun active other => ?_,
    move_narrow_iff x s, narrow_moveAll x s⟩
  · exact ⟨inStory_setStart s p, rfl, start_setStart x s p⟩
  · exact ⟨inStory_setStop s p, rfl, stop_setStop x s p⟩
  · exact ⟨inStory_between active other, start_between x active other, stop_between x active other⟩

def strayPair : Span := ⟨20, 5⟩

theorem moves_repair_spans_strayPair :
    (∃ v, Wire.span? v = some strayPair) ∧ strayPair.narrow ⟨7⟩ ≠ strayPair ∧
    (strayPair.move ⟨7⟩ (.start 9)).start = 7 ∧ (strayPair.move ⟨7⟩ (.stop (-3))).stop = 7 ∧
    ((strayPair.narrow ⟨7⟩).move ⟨7⟩ (.collapse false)).narrow ⟨7⟩ ≠
      (strayPair.move ⟨7⟩ (.collapse false)).narrow ⟨7⟩ ∧
    (moveAll ⟨7⟩ [.start 2, .collapse false, .start (-1)] strayPair).narrow ⟨7⟩ = ⟨0, 7⟩ := by
  obtain ⟨hadmitted, -, -, hvalid, hstart, hstop, -, hmove, hrun⟩ := moves_repair_spans ⟨7⟩ strayPair
  refine ⟨hadmitted.2 ⟨by decide, by decide⟩, fun h => ?_, ?_, ?_, fun h => ?_, ?_⟩
  · exact absurd (hvalid.1 h).ordered (by decide)
  · obtain ⟨-, -, hp⟩ := hstart 9
    exact Int.ofNat.inj hp
  · obtain ⟨-, -, hp⟩ := hstop (-3)
    exact Int.ofNat.inj hp
  · exact absurd ((hmove (.collapse false)).1 h rfl) (by decide)
  · rw [← hrun _ (by decide)]
    decide

end Span

end TrackedText
