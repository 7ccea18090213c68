import TrackedText.Proofs.RegistryRanges

namespace TrackedText.Registry

variable {r r' : Registry} {id : RangeId} {s : Span} {m m' : Mutation}

/-- What holds between the calls on a registry. A range that is not tracked may lie outside the
story; numbers that have been given to a range are never given again. -/
structure Sound (r : Registry) : Prop where
  positive : 0 < r.extent.length
  distinct : r.tracked.Nodup
  trackedOld : ∀ id ∈ r.tracked, id < r.nextId
  liveOld : ∀ l ∈ r.ranges, l.id < r.nextId
  ordered : ∀ l ∈ r.ranges, l.span.start ≤ l.span.stop
  bounded : ∀ l ∈ r.ranges, l.id ∈ r.tracked → l.span.stop ≤ r.extent.length
  selected : r.selection.span.InStory r.extent
  together : r.selection.detached = r.detached

inductive Step : Registry → Registry → Prop
  | create (r : Registry) (tracked : Bool) (first last : Position) : Step r (r.create tracked first last).2
  | release (r : Registry) (id : RangeId) : Step r (r.release id)
  | attach (r : Registry) (id : RangeId) (h : id < r.nextId) : Step r (r.attach id).2
  | detach (r : Registry) (id : RangeId) : Step r (r.detach id).2
  | moveRange (r : Registry) (id : RangeId) (m : Span.Move) : Step r (r.moveRange id m)
  | setSpan (r : Registry) (id : RangeId) (s : Span) (h : s.InStory r.extent) : Step r (r.setSpan id s)
  | notify {r r' : Registry} {m m' : Mutation} (h : r.notify m = .ok (m', r')) : Step r r'
  | moveSelection (r : Registry) (m : Span.Move) : Step r (r.moveSelection m)
  | select (r : Registry) (s : Span) (h : s.InStory r.extent) : Step r (r.select s)
  | detachDocument (r : Registry) : Step r r.detachDocument

theorem sound_ofLength (n : Nat) : (ofLength n).Sound where
  positive := Extent.ofLength_pos n
  distinct := List.nodup_nil
  trackedOld := by simp [ofLength]
  liveOld := by simp [ofLength]
  ordered := by simp [ofLength]
  bounded := by simp [ofLength]
  selected := Span.inStory_caret 0
  together := rfl

namespace Sound

theorem inStory (h : r.Sound) {l : LiveRange} (hl : l ∈ r.ranges) (ht : l.id ∈ r.tracked) :
    l.span.InStory r.extent := ⟨h.ordered l hl, h.bounded l hl ht⟩

theorem ordered_span? (h : r.Sound) (hs : r.span? id = some s) : s.start ≤ s.stop := by
  obtain ⟨l, hl, rfl, rfl⟩ := mem_of_span? hs
  exact h.ordered l hl

theorem inStory_span? (h : r.Sound) (hs : r.span? id = some s) (ht : id ∈ r.tracked) :
    s.InStory r.extent := by
  obtain ⟨l, hl, rfl, rfl⟩ := mem_of_span? hs
  exact h.inStory hl ht

theorem nextId_not_mem (h : r.Sound) : r.nextId ∉ r.tracked :=
  fun hm => Nat.lt_irrefl _ (h.trackedOld _ hm)

theorem mapSpans (h : r.Sound) {g : LiveRange → Span} (ho : ∀ l ∈ r.ranges, (g l).start ≤ (g l).stop)
    (hb : ∀ l ∈ r.ranges, l.id ∈ r.tracked → (g l).stop ≤ r.extent.length) : (r.mapSpans g).Sound where
  positive := h.positive
  distinct := h.distinct
  trackedOld := h.trackedOld
  liveOld := by
    intro l hl
    obtain ⟨k, hk, rfl⟩ := List.mem_map.1 hl
    exact h.liveOld k hk
  ordered := by
    intro l hl
    obtain ⟨k, hk, rfl⟩ := List.mem_map.1 hl
    exact ho k hk
  bounded := by
    intro l hl ht
    obtain ⟨k, hk, rfl⟩ := List.mem_map.1 hl
    exact hb k hk ht
  selected := h.selected
  together := h.together

theorem update (h : r.Sound) {f : Span → Span} (ho : ∀ s : Span, s.start ≤ s.stop → (f s).start ≤ (f s).stop)
    (hb : ∀ s : Span, s.InStory r.extent → (f s).InStory r.extent) : (r.update id f).Sound := by
  rw [update_eq]
  refine h.mapSpans (fun l hl => ?_) (fun l hl ht => ?_)
  · split
    · exact ho _ (h.ordered l hl)
    · exact h.ordered l hl
  · split
    · exact (hb _ (h.inStory hl ht)).bounded
    · exact h.bounded l hl ht

theorem purge (h : r.Sound) : r.purge.Sound where
  positive := h.positive
  distinct := purge_sublist.nodup h.distinct
  trackedOld := fun id hid => h.trackedOld id (purge_sublist.subset hid)
  liveOld := h.liveOld
  ordered := h.ordered
  bounded := fun l hl ht => h.bounded l hl (purge_sublist.subset ht)
  selected := h.selected
  together := h.together

theorem track (h : r.Sound) (hn : id ∉ r.tracked) (hid : id < r.nextId)
    (hs : ∀ l ∈ r.ranges, l.id = id → l.span.stop ≤ r.extent.length) : (r.track id).Sound where
  positive := h.positive
  distinct := by
    refine List.nodup_append.2 ⟨h.purge.distinct, by simp, ?_⟩
    rintro a ha b hb rfl
    exact hn (purge_sublist.subset (List.mem_singleton.1 hb ▸ ha))
  trackedOld := by
    intro a ha
    rcases List.mem_append.1 ha with ha | ha
    · exact h.purge.trackedOld a ha
    · exact List.mem_singleton.1 ha ▸ hid
  liveOld := h.liveOld
  ordered := h.ordered
  bounded := by
    intro l hl ht
    rcases List.mem_append.1 ht with ht | ht
    · exact h.purge.bounded l hl ht
    · exact hs l hl (List.mem_singleton.1 ht)
  selected := h.selected
  together := h.together

theorem create (h : r.Sound) (tracked : Bool) (first last : Position) :
    (r.create tracked first last).2.Sound := by
  have hc : ({ r with
      ranges := ⟨r.nextId, .ofPositions r.extent first last⟩ :: r.ranges
      nextId := r.nextId + 1 } : Registry).Sound :=
    { positive := h.positive
      distinct := h.distinct
      trackedOld := fun id hid => Nat.lt_succ_of_lt (h.trackedOld id hid)
      liveOld := by
        intro l hl
        rcases List.mem_cons.1 hl with rfl | hl
        · exact Nat.lt_succ_self _
        · exact Nat.lt_succ_of_lt (h.liveOld l hl)
      ordered := by
        intro l hl
        rcases List.mem_cons.1 hl with rfl | hl
        · exact (Span.inStory_ofPositions first last).ordered
        · exact h.ordered l hl
      bounded := by
        intro l hl ht
        rcases List.mem_cons.1 hl with rfl | hl
        · exact (Span.inStory_ofPositions first last).bounded
        · exact h.bounded l hl ht
      selected := h.selected
      together := h.together }
  cases tracked with
  | false => exact hc
  | true =>
      refine hc.track h.nextId_not_mem (Nat.lt_succ_self _) (fun l hl he => ?_)
      rcases List.mem_cons.1 hl with rfl | hl
      · exact (Span.inStory_ofPositions first last).bounded
      · exact absurd (h.liveOld l hl) (by rw [he]; exact Nat.lt_irrefl _)

theorem release (h : r.Sound) (id : RangeId) : (r.release id).Sound where
  positive := h.positive
  distinct := h.distinct
  trackedOld := h.trackedOld
  liveOld := fun l hl => h.liveOld l (List.mem_filter.1 hl).1
  ordered := fun l hl => h.ordered l (List.mem_filter.1 hl).1
  bounded := fun l hl => h.bounded l (List.mem_filter.1 hl).1
  selected := h.selected
  together := h.together

theorem attach (h : r.Sound) (hid : id < r.nextId) : (r.attach id).2.Sound := by
  rw [Registry.attach]
  split
  · exact h
  · rename_i ht
    refine (h.update (fun _ _ => (Span.inStory_ofPositions _ _).ordered)
      (fun _ _ => Span.inStory_ofPositions _ _)).track (fun hm => ht (isTracked_iff.2 hm)) hid (fun l hl he => ?_)
    rw [update_eq] at hl
    obtain ⟨k, hk, rfl⟩ := List.mem_map.1 hl
    have hk : k.id = id := he
    simp only [hk, if_true]
    exact (Span.inStory_ofPositions _ _).bounded

theorem detach (h : r.Sound) (id : RangeId) : (r.detach id).2.Sound where
  positive := h.positive
  distinct := List.filter_sublist.nodup h.distinct
  trackedOld := fun a ha => h.trackedOld a (List.filter_sublist.subset ha)
  liveOld := h.liveOld
  ordered := h.ordered
  bounded := fun l hl ht => h.bounded l hl (List.filter_sublist.subset ht)
  selected := h.selected
  together := h.together

theorem withSelection (h : r.Sound) {t : Selection} (ht : t.span.InStory r.extent)
    (hd : t.detached = r.selection.detached) : ({ r with selection := t } : Registry).Sound where
  positive := h.positive
  distinct := h.distinct
  trackedOld := h.trackedOld
  liveOld := h.liveOld
  ordered := h.ordered
  bounded := h.bounded
  selected := ht
  together := hd.trans h.together

theorem detachDocument (h : r.Sound) : r.detachDocument.Sound := by
  rw [Registry.detachDocument]
  split
  · exact h
  · exact {
      positive := h.positive
      distinct := List.nodup_nil
      trackedOld := by simp
      liveOld := h.liveOld
      ordered := h.ordered
      bounded := by simp
      selected := h.selected
      together := rfl }

theorem notified (h : r.Sound) (hn : Notified m r r') : r'.Sound where
  positive := by
    rw [hn.extent]
    exact Extent.edit_pos h.positive hn.fits
  distinct := hn.tracked.nodup h.distinct
  trackedOld := fun id hid => by
    rw [hn.nextId]
    exact h.trackedOld id (hn.tracked.subset hid)
  liveOld := by
    intro l hl
    rw [hn.ranges] at hl
    obtain ⟨k, hk, rfl⟩ := List.mem_map.1 hl
    rw [hn.nextId]
    exact h.liveOld k hk
  ordered := by
    intro l hl
    rw [hn.ranges] at hl
    obtain ⟨k, hk, rfl⟩ := List.mem_map.1 hl
    simp only
    split
    · exact Span.ordered_adjust (h.ordered k hk) m
    · exact h.ordered k hk
  bounded := by
    intro l hl ht
    rw [hn.ranges] at hl
    obtain ⟨k, hk, rfl⟩ := List.mem_map.1 hl
    have ht : k.id ∈ r.tracked := hn.tracked.subset ht
    simp only [ht, if_true, hn.extent]
    exact (Span.inStory_adjust (h.inStory hk ht) hn.fits).bounded
  selected := by
    rw [hn.selection, hn.extent]
    exact Span.inStory_adjust h.selected hn.fits
  together := by
    rw [hn.selection, hn.still, ← hn.attached]
    exact h.together

theorem notify (h : r.Sound) (hn : r.notify m = .ok (m', r')) : Notified m' r r' :=
  notified_of_notify h.positive h.distinct hn

theorem step (hs : Step r r') (h : r.Sound) : r'.Sound := by
  cases hs with
  | create tracked first last => exact h.create tracked first last
  | release id => exact h.release id
  | attach id hid => exact h.attach hid
  | detach id => exact h.detach id
  | moveRange id m => exact h.update (fun s _ => Span.ordered_move s m) (fun _ hs => Span.inStory_move hs m)
  | setSpan id s hs => exact h.update (fun _ _ => hs.ordered) (fun _ _ => hs)
  | notify hn => exact h.notified (h.notify hn)
  | moveSelection m => exact h.withSelection (Span.inStory_move h.selected m) rfl
  | select s hs => exact h.withSelection hs rfl
  | detachDocument => exact h.detachDocument

end Sound

end TrackedText.Registry
