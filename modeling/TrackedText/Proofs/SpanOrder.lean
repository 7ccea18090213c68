import Mathlib.Data.List.Chain
import Mathlib.Logic.ExistsUnique
import TrackedText.Proofs.CoveredText

namespace TrackedText

variable {s t s' t' s'' t'' : Span} {m : Mutation} {ss : List Span} {n length : Nat}

namespace Mutation

theorem point_mono (m : Mutation) {o o' : Nat} (h : o ≤ o') : m.point o ≤ m.point o' := by
  cases m with
  | insert offset n =>
      rw [point, point]
      split <;> split <;> omega
  | delete start stop => exact cutPoint_mono h

theorem point_zero (m : Mutation) : m.point 0 = 0 := by
  cases m with
  | insert offset n => simp [point]
  | delete start stop => simp [point, cutPoint]

def SparesEnd (length : Nat) : Mutation → Prop
  | insert offset _ => offset < length
  | delete start stop => start ≤ stop ∧ stop < length

theorem point_length (h : m.SparesEnd length) : m.point length = (Extent.edit ⟨length⟩ m).length := by
  cases m with
  | insert offset n => exact if_pos h
  | delete start stop => exact cutPoint_behind h.1 (Nat.le_of_lt h.2)

end Mutation

namespace Span

/-- Both ends move as any point of the story does, so two spans that share an end go on sharing it. -/
theorem adjust_eq_point (h : s.start ≤ s.stop) (m : Mutation) : s.adjust m = ⟨m.point s.start, m.point s.stop⟩ := by
  cases m with
  | insert offset n =>
      simp only [Mutation.point]
      rw [← start_adjust_insert, ← stop_adjust_insert h]
  | delete start stop => rfl

theorem isWithin_iff : s.isWithin t = true ↔ t.start ≤ s.start ∧ s.stop ≤ t.stop := by
  simp [isWithin]

/-- A span that lay within the other still does, and one that ended before the other began still does. -/
structure PlacesKept (s t s' t' : Span) : Prop where
  within : s.isWithin t = true → s'.isWithin t' = true
  before : s.stop ≤ t.start → s'.stop ≤ t'.start

namespace PlacesKept

theorem refl (s t : Span) : PlacesKept s t s t := ⟨id, id⟩

theorem trans (h : PlacesKept s t s' t') (h' : PlacesKept s' t' s'' t'') : PlacesKept s t s'' t'' :=
  ⟨h'.within ∘ h.within, h'.before ∘ h.before⟩

theorem adjust (hs : s.start ≤ s.stop) (ht : t.start ≤ t.stop) (m : Mutation) :
    PlacesKept s t (s.adjust m) (t.adjust m) := by
  rw [adjust_eq_point hs, adjust_eq_point ht]
  constructor
  · intro h
    rw [isWithin_iff] at h ⊢
    exact ⟨m.point_mono h.1, m.point_mono h.2⟩
  · exact m.point_mono

theorem replace (hs : s.start ≤ s.stop) (ht : t.start ≤ t.stop) (start stop n : Nat) :
    PlacesKept s t (s.replace start stop n) (t.replace start stop n) :=
  (adjust hs ht _).trans (adjust (ordered_adjust hs _) (ordered_adjust ht _) _)

end PlacesKept

def Covers (s : Span) (o : Nat) : Prop := s.start ≤ o ∧ o < s.stop

/-- The spans follow one another through the whole story: each begins where the one before it ends. -/
structure Tiles (length : Nat) (ss : List Span) : Prop where
  first : ss.head?.map Span.start = some 0
  joined : ss.IsChain fun s t => s.stop = t.start
  last : ss.getLast?.map Span.stop = some length

namespace Tiles

theorem adjust (h : Tiles length ss) (ho : ∀ s ∈ ss, s.start ≤ s.stop) (hm : m.SparesEnd length) :
    Tiles (Extent.edit ⟨length⟩ m).length (ss.map (·.adjust m)) := by
  rw [List.map_congr_left fun s hs => adjust_eq_point (ho s hs) m]
  refine ⟨?_, ?_, ?_⟩
  · obtain ⟨s, hs, h0⟩ := Option.map_eq_some_iff.1 h.first
    simp [hs, h0, m.point_zero]
  · rw [List.isChain_map]
    exact h.joined.imp fun s t hst => congrArg m.point hst
  · obtain ⟨s, hs, hl⟩ := Option.map_eq_some_iff.1 h.last
    simp [hs, hl, Mutation.point_length hm]

theorem replace {start stop : Nat} (h : Tiles length ss) (ho : ∀ s ∈ ss, s.start ≤ s.stop) (hs : start ≤ stop)
    (hb : stop < length) (n : Nat) :
    Tiles (length - (stop - start) + n) (ss.map (·.replace start stop n)) := by
  have hd := h.adjust (m := .delete start stop) ho ⟨hs, hb⟩
  have hi := hd.adjust (m := .insert start n) (fun t ht => ?_) ?_
  · rwa [List.map_map] at hi
  · obtain ⟨s, hm, rfl⟩ := List.mem_map.1 ht
    exact ordered_adjust (ho s hm) _
  · simp only [Mutation.SparesEnd, Extent.edit, Extent.shrink]
    omega

end Tiles

theorem stop_le_start (h : (s :: ss).IsChain fun s t => s.stop = t.start) (ho : ∀ t ∈ ss, t.start ≤ t.stop)
    (ht : t ∈ ss) : s.stop ≤ t.start := by
  induction ss generalizing s with
  | nil => cases ht
  | cons u us ih =>
      obtain ⟨hu, hus⟩ := List.isChain_cons_cons.1 h
      rcases List.mem_cons.1 ht with rfl | ht
      · exact Nat.le_of_eq hu
      · have hle := ih hus (fun t ht => ho t (List.mem_cons_of_mem _ ht)) ht
        have hou := ho u List.mem_cons_self
        omega

theorem covered_once {a b p : Nat} (hf : ss.head?.map Span.start = some a) (hj : ss.IsChain fun s t => s.stop = t.start)
    (hl : ss.getLast?.map Span.stop = some b) (ho : ∀ s ∈ ss, s.start ≤ s.stop) (ha : a ≤ p) (hb : p < b) :
    ∃! i : Nat, ∃ s, ss[i]? = some s ∧ s.Covers p := by
  induction ss generalizing a with
  | nil => cases hf
  | cons s ss ih =>
      obtain rfl : s.start = a := by simpa using hf
      have ho' : ∀ t ∈ ss, t.start ≤ t.stop := fun t ht => ho t (List.mem_cons_of_mem _ ht)
      -- the first span covers `p`, and no later one begins before it ends, or it ends before `p`
      by_cases hp : p < s.stop
      · refine ⟨0, ⟨s, rfl, ha, hp⟩, fun i hi => ?_⟩
        obtain ⟨t, ht, hts, -⟩ := hi
        cases i with
        | zero => rfl
        | succ i =>
            have hle := stop_le_start hj ho' (List.mem_of_getElem? ht)
            omega
      · cases ss with
        | nil =>
            have hb' : s.stop = b := by simpa using hl
            omega
        | cons u us =>
            obtain ⟨hu, hus⟩ := List.isChain_cons_cons.1 hj
            obtain ⟨i, ⟨t, ht, hin⟩, hone⟩ := ih (by simp [hu]) hus (by simpa using hl) ho' (Nat.le_of_not_lt hp)
            refine ⟨i + 1, ⟨t, ht, hin⟩, fun j hj => ?_⟩
            obtain ⟨v, hv, hvin⟩ := hj
            cases j with
            | zero =>
                obtain rfl : s = v := Option.some.inj hv
                exact absurd hvin.2 hp
            | succ j => exact congrArg (· + 1) (hone j ⟨v, hv, hvin⟩)

theorem Tiles.existsUnique (h : Tiles length ss) (ho : ∀ s ∈ ss, s.start ≤ s.stop) {p : Nat} (hp : p < length) :
    ∃! i : Nat, ∃ s, ss[i]? = some s ∧ s.Covers p :=
  covered_once h.first h.joined h.last ho (Nat.zero_le p) hp

end Span

end TrackedText
