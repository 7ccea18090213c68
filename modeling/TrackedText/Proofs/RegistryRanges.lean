import TrackedText.Proofs.SpanBounds
import TrackedText.Registry

namespace TrackedText.Registry

variable {r r' : Registry} {id other : RangeId} {s : Span} {m m' : Mutation}

theorem mem_of_span? (h : r.span? id = some s) : ∃ l ∈ r.ranges, l.id = id ∧ l.span = s := by
  obtain ⟨l, hl, hs⟩ := Option.map_eq_some_iff.1 h
  exact ⟨l, List.mem_of_find?_eq_some hl, by simpa using List.find?_some hl, hs⟩

theorem isLive_of_mem {l : LiveRange} (h : l ∈ r.ranges) : r.isLive l.id = true := by
  simp only [isLive, span?, Option.isSome_map, List.find?_isSome]
  exact ⟨l, h, by simp⟩

theorem span_eq (h : r.span? id = some s) : r.span id = s := by simp only [span, h, Option.getD_some]

theorem isTracked_iff : r.isTracked id = true ↔ id ∈ r.tracked := by simp [isTracked]

theorem mem_purge {l : LiveRange} (h : l ∈ r.ranges) : l.id ∈ r.purge.tracked ↔ l.id ∈ r.tracked := by
  simp [purge, isLive_of_mem h]

theorem purge_sublist : r.purge.tracked.Sublist r.tracked := List.filter_sublist

def mapSpans (r : Registry) (g : LiveRange → Span) : Registry :=
  { r with ranges := r.ranges.map fun l => ⟨l.id, g l⟩ }

theorem span?_mapSpans (g : LiveRange → Span) :
    (r.mapSpans g).span? id = (r.ranges.find? (·.id == id)).map g := by
  simp only [span?, mapSpans, List.find?_map, Option.map_map, Function.comp_def]

theorem span?_mapSpans_if (p : RangeId → Prop) [DecidablePred p] (f : Span → Span) :
    (r.mapSpans fun l => if p l.id then f l.span else l.span).span? id =
      (r.span? id).map fun s => if p id then f s else s := by
  rw [span?_mapSpans, span?]
  cases h : r.ranges.find? (·.id == id) with
  | none => rfl
  | some l =>
      have hl : l.id = id := by simpa using List.find?_some h
      simp only [Option.map_some, hl]

theorem update_eq (f : Span → Span) :
    r.update other f = r.mapSpans fun l => if l.id = other then f l.span else l.span := by
  simp only [update, mapSpans]
  congr 2
  funext l
  split <;> rfl

theorem span?_update (f : Span → Span) :
    (r.update other f).span? id = (r.span? id).map fun s => if id = other then f s else s := by
  rw [update_eq, span?_mapSpans_if (· = other)]

theorem span?_create (tracked : Bool) (first last : Position) :
    (r.create tracked first last).2.span? id =
      if id = r.nextId then some (.ofPositions r.extent first last) else r.span? id := by
  have h : (r.create tracked first last).2.span? id =
      ((⟨r.nextId, .ofPositions r.extent first last⟩ :: r.ranges).find? (·.id == id)).map (·.span) := by
    cases tracked <;> rfl
  rw [h, List.find?_cons]
  by_cases he : id = r.nextId
  · simp [he]
  · have hb : (r.nextId == id) = false := by simpa using Ne.symm he
    simp only [hb, he, if_false, span?]

theorem span?_release : (r.release other).span? id = if id = other then none else r.span? id := by
  simp only [span?, release, List.find?_filter]
  by_cases he : id = other
  · subst he
    simp
  · rw [if_neg he]
    congr 2
    funext l
    by_cases hl : l.id = id <;> simp [hl, he]

/-- Each of the listed ranges takes the change once, whatever the order of the list. -/
theorem foldl_update_eq (f : Span → Span) (ids : List RangeId) (hn : ids.Nodup) (r : Registry) :
    ids.foldl (fun r id => r.update id f) r =
      r.mapSpans fun l => if l.id ∈ ids then f l.span else l.span := by
  induction ids generalizing r with
  | nil => simp [mapSpans]
  | cons id ids ih =>
      obtain ⟨hid, hn⟩ := List.nodup_cons.1 hn
      rw [List.foldl_cons, ih hn, update_eq]
      simp only [mapSpans, List.map_map, Function.comp_def, List.mem_cons]
      congr 2
      funext l
      by_cases he : l.id = id
      · simp [he, hid]
      · simp [he]

theorem broadcast_eq (hn : r.tracked.Nodup) (m : Mutation) :
    r.broadcast m =
      { r.mapSpans fun l => if l.id ∈ r.tracked then l.span.adjust m else l.span with
        tracked := r.tracked.filter r.isLive
        selection := r.selection.adjust m } := by
  have h : r.ranges.map (fun l =>
        LiveRange.mk l.id (if l.id ∈ r.purge.tracked then l.span.adjust m else l.span)) =
      r.ranges.map fun l => ⟨l.id, if l.id ∈ r.tracked then l.span.adjust m else l.span⟩ :=
    List.map_congr_left fun l hl => by simp only [mem_purge hl]
  simp only [broadcast]
  rw [foldl_update_eq _ _ (purge_sublist.nodup hn)]
  simp only [mapSpans, purge] at h ⊢
  rw [h]

/-- What one reported edit does: each held range takes it once if it is tracked and not at all
otherwise, and the selection always does. -/
structure Notified (m : Mutation) (r r' : Registry) : Prop where
  fits : m.FitsIn r.extent
  attached : r.detached = false
  still : r'.detached = false
  extent : r'.extent = r.extent.edit m
  ranges : r'.ranges = (r.mapSpans fun l => if l.id ∈ r.tracked then l.span.adjust m else l.span).ranges
  tracked : r'.tracked.Sublist r.tracked
  kept : ∀ l ∈ r.ranges, l.id ∈ r.tracked → l.id ∈ r'.tracked
  nextId : r'.nextId = r.nextId
  selection : r'.selection = r.selection.adjust m

theorem notified_noop (h : m.isNoop = true) (hm : m.FitsIn r.extent) (hd : r.detached = false) :
    Notified m r r where
  fits := hm
  attached := hd
  still := hd
  extent := (Extent.edit_noop h).symm
  ranges := by simp [mapSpans, Span.adjust_noop h]
  tracked := List.Sublist.refl _
  kept := fun _ _ h => h
  nextId := rfl
  selection := by simp only [Selection.adjust, Span.adjust_noop h]

def react (r : Registry) (m : Mutation) : Registry :=
  if m.isNoop then r else { r with extent := r.extent.edit m }.broadcast m

theorem notified_react (hn : r.tracked.Nodup) (hm : m.FitsIn r.extent) (hd : r.detached = false) :
    Notified m r (r.react m) := by
  cases h : m.isNoop with
  | true => simpa only [react, h, if_true] using notified_noop h hm hd
  | false =>
      have hb := broadcast_eq (r := { r with extent := r.extent.edit m }) hn m
      simp only [react, h, Bool.false_eq_true, if_false, hb]
      exact {
        fits := hm
        attached := hd
        still := hd
        extent := rfl
        ranges := rfl
        tracked := List.filter_sublist
        kept := fun l hl h => List.mem_filter.2 ⟨h, isLive_of_mem (r := r) hl⟩
        nextId := rfl
        selection := rfl }

/-- The edit that a registry makes of a report: its offsets are narrowed into the story. -/
def received (r : Registry) : Mutation → Mutation
  | .insert offset n => .insert (r.extent.narrow offset) n
  | .delete start stop =>
    .delete (r.extent.narrowDeletion start stop).1 (r.extent.narrowDeletion start stop).2

theorem received_fits (hx : 0 < r.extent.length) (m : Mutation) : (r.received m).FitsIn r.extent := by
  cases m with
  | insert offset n => exact Extent.narrow_le offset
  | delete start stop => exact Extent.narrowDeletion_fits hx start stop

theorem received_of_fits (h : m.FitsIn r.extent) : r.received m = m := by
  cases m with
  | insert offset n => exact congrArg (Mutation.insert · n) (Extent.narrow_of_le h)
  | delete start stop => simp only [received, Extent.narrowDeletion_of_fits h]

theorem notify_detached (h : r.detached = true) (m : Mutation) : r.notify m = .error .detached := by
  cases m <;> simp [notify, notifyInsert, notifyDelete, h]

theorem notify_malformed (h : r.detached = false) {start stop : Nat} (hm : stop < start) :
    r.notify (.delete start stop) = .error (.malformedDeletion start stop) := by
  simp [notify, notifyDelete, h, hm]

theorem notify_attached (h : r.detached = false) (hm : m.IsWellFormed) :
    r.notify m = .ok (r.received m, r.react (r.received m)) := by
  cases m with
  | insert offset n => simp [notify, notifyInsert, h, received, react, Mutation.isNoop, Extent.edit]
  | delete start stop =>
      have hm : ¬ stop < start := Nat.not_lt.2 hm
      simp [notify, notifyDelete, h, hm, received, react, Mutation.isNoop, Extent.edit]

theorem notify_of_fits (h : r.detached = false) (hm : m.FitsIn r.extent) : r.notify m = .ok (m, r.react m) := by
  rw [notify_attached h hm.isWellFormed, received_of_fits hm]

theorem notify_ok (h : r.notify m = .ok (m', r')) :
    r.detached = false ∧ m.IsWellFormed ∧ m' = r.received m ∧ r' = r.react m' := by
  cases hd : r.detached with
  | true => simp [notify_detached hd] at h
  | false =>
      by_cases hm : m.IsWellFormed
      · simp only [notify_attached hd hm, Except.ok.injEq, Prod.mk.injEq] at h
        obtain ⟨rfl, rfl⟩ := h
        exact ⟨rfl, hm, rfl, rfl⟩
      · cases m with
        | insert offset n => exact absurd trivial hm
        | delete start stop => simp [notify_malformed hd (Nat.not_le.1 hm)] at h

theorem notified_of_notify (hx : 0 < r.extent.length) (hn : r.tracked.Nodup) (h : r.notify m = .ok (m', r')) :
    Notified m' r r' := by
  obtain ⟨hd, -, rfl, rfl⟩ := notify_ok h
  exact notified_react hn (received_fits hx m) hd

theorem Notified.span? (h : Notified m r r') (id : RangeId) :
    r'.span? id = (r.span? id).map fun s => if id ∈ r.tracked then s.adjust m else s := by
  rw [← span?_mapSpans_if (· ∈ r.tracked) (·.adjust m), Registry.span?, h.ranges, Registry.span?]

/-! Which of the live ranges are tracked, call by call. A purge only ever takes others off the list. -/

theorem isTracked_track (h : (r.span? id).isSome) :
    (r.track other).isTracked id = (r.isTracked id || id == other) := by
  rw [Bool.eq_iff_iff]
  simp [isTracked, track, purge, isLive, h]

theorem isTracked_create (h : (r.span? id).isSome) (hn : id ≠ r.nextId) (tracked : Bool) (first last : Position) :
    (r.create tracked first last).2.isTracked id = r.isTracked id := by
  cases tracked with
  | false => rfl
  | true =>
      have hl : (({ r with
          ranges := ⟨r.nextId, .ofPositions r.extent first last⟩ :: r.ranges
          nextId := r.nextId + 1 } : Registry).span? id).isSome := by
        have hc : (r.create false first last).2.span? id = r.span? id := by rw [span?_create, if_neg hn]
        exact (congrArg Option.isSome hc).trans h
      refine (isTracked_track hl).trans ?_
      simp only [beq_eq_false_iff_ne.2 hn, Bool.or_false]
      rfl

theorem isTracked_create_nextId (h : r.nextId ∉ r.tracked) (tracked : Bool) (first last : Position) :
    (r.create tracked first last).2.isTracked r.nextId = tracked := by
  cases tracked with
  | false => simpa [isTracked, create] using h
  | true => simp [isTracked, create, track]

theorem isTracked_attach (h : (r.span? id).isSome) :
    (r.attach other).2.isTracked id = (r.isTracked id || id == other) := by
  rw [attach]
  cases ht : r.isTracked other with
  | true =>
      by_cases he : id = other
      · simp [he, ht]
      · simp [he]
  | false =>
      have hl : ((r.update other r.renew).span? id).isSome := by simpa only [span?_update, Option.isSome_map] using h
      exact isTracked_track hl

theorem isTracked_detach : (r.detach other).2.isTracked id = (r.isTracked id && id != other) := by
  rw [Bool.eq_iff_iff]
  simp [isTracked, detach]

theorem span?_attach :
    (r.attach other).2.span? id =
      (r.span? id).map fun s => if id = other ∧ r.isTracked id = false then r.renew s else s := by
  rw [attach]
  cases ht : r.isTracked other with
  | true =>
      have hne : ¬ (id = other ∧ r.isTracked id = false) := by
        rintro ⟨rfl, hf⟩
        simp [ht] at hf
      simp only [if_true, if_neg hne, Option.map_id']
  | false =>
      have hu : (r.update other r.renew).span? id =
          (r.span? id).map fun s => if id = other then r.renew s else s := span?_update r.renew
      refine hu.trans ?_
      by_cases he : id = other
      · simp [he, ht]
      · simp [he]

theorem extent_create (tracked : Bool) (first last : Position) :
    (r.create tracked first last).2.extent = r.extent := by cases tracked <;> rfl

theorem selection_create (tracked : Bool) (first last : Position) :
    (r.create tracked first last).2.selection = r.selection := by cases tracked <;> rfl

theorem selection_attach : (r.attach other).2.selection = r.selection := by
  rw [attach]
  split <;> rfl

theorem extent_detachDocument : r.detachDocument.extent = r.extent := by
  rw [detachDocument]
  split <;> rfl

theorem span?_detachDocument : r.detachDocument.span? id = r.span? id := by
  rw [detachDocument]
  split <;> rfl

theorem span_detachDocument : r.detachDocument.selection.span = r.selection.span := by
  rw [detachDocument]
  split <;> rfl

theorem extent_attach : (r.attach other).2.extent = r.extent := by
  rw [attach]
  split <;> rfl

theorem detached_attach : (r.attach other).2.detached = r.detached := by
  rw [attach]
  split <;> rfl

theorem nextId_attach : (r.attach other).2.nextId = r.nextId := by
  rw [attach]
  split <;> rfl

theorem Notified.isTracked (h : Notified m r r') (hl : (r.span? id).isSome) : r'.isTracked id = r.isTracked id := by
  obtain ⟨s, hs⟩ := Option.isSome_iff_exists.1 hl
  obtain ⟨l, hm, rfl, -⟩ := mem_of_span? hs
  rw [Bool.eq_iff_iff, isTracked_iff, isTracked_iff]
  exact ⟨fun ht => h.tracked.subset ht, h.kept l hm⟩

end TrackedText.Registry
