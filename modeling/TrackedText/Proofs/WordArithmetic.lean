import TrackedText.Proofs.SessionRuns

namespace TrackedText.Word

open Registry

variable {x : Extent} {s : Span} {m : Mutation} {r : Registry}

def add (a b : Nat) : Option Nat := if a + b < wordCount then some (a + b) else none

def sub (a b : Nat) : Option Nat := if b ≤ a then some (a - b) else none

/-! The arithmetic of a notification as 64-bit words carry it out. Each sum and each difference is
taken in the order of the calculation, and one that leaves the words leaves no result. -/

def terminator (x : Extent) : Option Nat := sub x.length 1

def narrowDeletion (x : Extent) (start stop : Nat) : Option (Nat × Nat) := do
  let last ← terminator x
  return (min start (min stop last), min stop last)

def grow (x : Extent) (n : Nat) : Option Extent := do return ⟨← add x.length n⟩

def shrink (x : Extent) (start stop : Nat) : Option Extent := do
  return ⟨← sub x.length (← sub stop start)⟩

def cutPoint (start stop o : Nat) : Option Nat :=
  if o ≤ start then some o else if stop ≤ o then do sub o (← sub stop start) else some start

def adjust (m : Mutation) (s : Span) : Option Span :=
  match m with
  | .insert offset n =>
    if offset < s.start then do return ⟨← add s.start n, ← add s.stop n⟩
    else if offset < s.stop then do return ⟨s.start, ← add s.stop n⟩
    else some s
  | .delete start stop => do return ⟨← cutPoint start stop s.start, ← cutPoint start stop s.stop⟩

def update (r : Registry) (id : RangeId) (f : Span → Option Span) : Option Registry := do
  let ranges ← r.ranges.mapM fun l => if l.id = id then do return { l with span := ← f l.span } else some l
  return { r with ranges }

def broadcast (r : Registry) (m : Mutation) : Option Registry := do
  let reached ← r.purge.tracked.foldlM (fun r id => update r id (adjust m)) r.purge
  return { reached with selection := { r.selection with span := ← adjust m r.selection.span } }

def notify (r : Registry) : Mutation → Option (Except RangeError (Mutation × Registry))
  | .insert offset n =>
    if r.detached then some (.error .detached)
    else
      let m := .insert (r.extent.narrow offset) n
      if n = 0 then some (.ok (m, r))
      else do return .ok (m, ← broadcast { r with extent := ← grow r.extent n } m)
  | .delete start stop =>
    if r.detached then some (.error .detached)
    else if stop < start then some (.error (.malformedDeletion start stop))
    else do
      let (start, stop) ← narrowDeletion r.extent start stop
      let m := .delete start stop
      if start = stop then return .ok (m, r)
      else return .ok (m, ← broadcast { r with extent := ← shrink r.extent start stop } m)

def HasRoom (x : Extent) : Mutation → Prop
  | .insert _ n => x.length + n < wordCount
  | .delete _ _ => True

theorem add_of_lt {a b : Nat} (h : a + b < wordCount) : add a b = some (a + b) := if_pos h

theorem sub_of_le {a b : Nat} (h : b ≤ a) : sub a b = some (a - b) := if_pos h

theorem narrowDeletion_eq (hx : 0 < x.length) (start stop : Nat) :
    narrowDeletion x start stop = some (x.narrowDeletion start stop) := by
  simp [narrowDeletion, terminator, sub_of_le (Nat.succ_le_of_lt hx), Extent.narrowDeletion, Extent.terminator]

theorem grow_eq {offset n : Nat} (h : HasRoom x (.insert offset n)) : grow x n = some (x.grow n) := by
  simp [grow, add_of_lt h, Extent.grow]

theorem shrink_eq {start stop : Nat} (h : (Mutation.delete start stop).FitsIn x) :
    shrink x start stop = some (x.shrink start stop) := by
  simp only [Mutation.FitsIn] at h
  have hs : stop - start ≤ x.length := by omega
  simp [shrink, sub_of_le h.1, sub_of_le hs, Extent.shrink]

theorem cutPoint_eq {start stop : Nat} (h : start ≤ stop) (o : Nat) :
    cutPoint start stop o = some (Mutation.cutPoint start stop o) := by
  rw [cutPoint, Mutation.cutPoint]
  split
  · rfl
  · split
    · have hs : stop - start ≤ o := by omega
      simp [sub_of_le h, sub_of_le hs]
    · rfl

/-- Ends of a span in the story stay below the new length, which is a word. -/
theorem adjust_eq (hs : s.InStory x) (hm : m.FitsIn x) (hr : HasRoom x m) : adjust m s = some (s.adjust m) := by
  cases m with
  | insert offset n =>
      have ho := hs.ordered
      have hb := hs.bounded
      simp only [HasRoom] at hr
      have hstart : add s.start n = some (s.start + n) := add_of_lt (by omega)
      have hstop : add s.stop n = some (s.stop + n) := add_of_lt (by omega)
      simp only [adjust, Span.adjust, hstart, hstop]
      by_cases h : offset < s.start
      · simp [h]
      · by_cases h' : offset < s.stop <;> simp [h, h']
  | delete start stop => simp [adjust, cutPoint_eq hm.1, Span.adjust]

theorem mapM_some {α β : Type} {f : α → Option β} {g : α → β} {xs : List α}
    (h : ∀ a ∈ xs, f a = some (g a)) :
    xs.mapM f = some (xs.map g) := by
  induction xs with
  | nil => rfl
  | cons a xs ih => simp [h a (by simp), ih fun b hb => h b (by simp [hb])]

theorem update_eq {id : RangeId} {f : Span → Option Span} {g : Span → Span}
    (h : ∀ l ∈ r.ranges, l.id = id → f l.span = some (g l.span)) : update r id f = some (r.update id g) := by
  have hm : (r.ranges.mapM fun l => if l.id = id then do return { l with span := ← f l.span } else some l) =
      some (r.ranges.map fun l => if l.id = id then { l with span := g l.span } else l) := by
    refine mapM_some fun l hl => ?_
    by_cases he : l.id = id
    · simp [he, h l hl he]
    · simp [he]
  simp only [update, hm]
  rfl

theorem foldlM_update_eq {f : Span → Option Span} {g : Span → Span} (ids : List RangeId) (hn : ids.Nodup)
    (r : Registry) (h : ∀ l ∈ r.ranges, l.id ∈ ids → f l.span = some (g l.span)) :
    ids.foldlM (fun r id => update r id f) r = some (ids.foldl (fun r id => r.update id g) r) := by
  induction ids generalizing r with
  | nil => rfl
  | cons id ids ih =>
      obtain ⟨hid, hn⟩ := List.nodup_cons.1 hn
      rw [List.foldlM_cons, update_eq fun l hl he => h l hl (by simp [he])]
      refine ih hn _ fun l hl hm => ?_
      rw [Registry.update_eq] at hl
      obtain ⟨k, hk, rfl⟩ := List.mem_map.1 hl
      -- a range further down the list has not been reached yet
      have hne : k.id ≠ id := fun he => hid (he ▸ hm)
      simpa only [hne, if_false] using h k hk (List.mem_cons_of_mem _ hm)

theorem broadcast_eq (hr : r.Sound) (hm : m.FitsIn r.extent) (hw : HasRoom r.extent m) (x : Extent) :
    broadcast { r with extent := x } m = some ({ r with extent := x }.broadcast m) := by
  have hf := foldlM_update_eq (f := adjust m) (g := (·.adjust m)) { r with extent := x }.purge.tracked
    hr.purge.distinct { r with extent := x }.purge
    fun l hl ht => adjust_eq (hr.inStory hl (purge_sublist.subset ht)) hm hw
  simp only [broadcast, Registry.broadcast, hf, adjust_eq hr.selected hm hw]
  rfl

theorem notify_eq (hr : r.Sound) (hw : r.detached = false → HasRoom r.extent m) :
    notify r m = some (r.notify m) := by
  cases hd : r.detached with
  | true => cases m <;> simp [notify, Registry.notify, notifyInsert, notifyDelete, hd]
  | false =>
      have hw := hw hd
      cases m with
      | insert offset n =>
          have hb := broadcast_eq (m := .insert (r.extent.narrow offset) n) hr (Extent.narrow_le offset) hw
            (r.extent.grow n)
          simp only [hd] at hb
          by_cases hn : n = 0
          · simp [notify, Registry.notify, notifyInsert, hd, hn]
          · simp [notify, Registry.notify, notifyInsert, hd, hn, grow_eq hw, hb]
      | delete start stop =>
          have hf := Extent.narrowDeletion_fits hr.positive start stop
          have hb := broadcast_eq hr hf trivial
            (r.extent.shrink (r.extent.narrowDeletion start stop).1 (r.extent.narrowDeletion start stop).2)
          simp only [hd] at hb
          by_cases hm : stop < start
          · simp [notify, Registry.notify, notifyDelete, hd, hm]
          · by_cases he : (r.extent.narrowDeletion start stop).1 = (r.extent.narrowDeletion start stop).2
            · simp [notify, Registry.notify, notifyDelete, hd, hm, narrowDeletion_eq hr.positive, he]
            · simp [notify, Registry.notify, notifyDelete, hd, hm, narrowDeletion_eq hr.positive, he,
                shrink_eq hf, hb]

/-- Whatever a run asks of a registry, its ranges keep their order and, while tracked, keep to the story,
and no word overflows in a report as long as the story itself has room for it. -/
theorem bounded_within_words (n : Nat) (qs : List Session.Request) :
    1 ≤ (Session.after n qs).registry.extent.length ∧
    (∀ id s, (Session.after n qs).registry.span? id = some s →
      s.start ≤ s.stop ∧ ((Session.after n qs).registry.isTracked id = true →
        s.stop ≤ (Session.after n qs).registry.extent.length)) ∧
    ((Session.after n qs).registry.selection.span.start ≤ (Session.after n qs).registry.selection.span.stop ∧
      (Session.after n qs).registry.selection.span.stop ≤ (Session.after n qs).registry.extent.length) ∧
    ∀ m, ((Session.after n qs).registry.detached = false → HasRoom (Session.after n qs).registry.extent m) →
      notify (Session.after n qs).registry m = some ((Session.after n qs).registry.notify m) := by
  have h := (Session.sound_after n qs).registry
  refine ⟨h.positive, fun id s hs => ⟨h.ordered_span? hs, fun ht => ?_⟩,
    ⟨h.selected.ordered, h.selected.bounded⟩, fun m hw => notify_eq h hw⟩
  exact (h.inStory_span? hs (isTracked_iff.1 ht)).bounded

def clearedRun : List Session.Request := [.create true "a" 3 99, .notify (.delete 0 wordCount)]

theorem bounded_within_words_clearedRun :
    (∃ s, (Session.after 8 clearedRun).registry.span? 0 = some s ∧ s.start ≤ s.stop ∧
      s.stop ≤ (Session.after 8 clearedRun).registry.extent.length) ∧
    notify (Session.after 8 clearedRun).registry (.insert 0 (wordCount - 2)) =
      some (.ok (.insert 0 (wordCount - 2),
        ⟨⟨wordCount - 1⟩, [⟨0, ⟨0, wordCount - 1⟩⟩], 1, [0], .caret ⟨1⟩ 0, false⟩)) := by
  have hw : HasRoom (Session.after 8 clearedRun).registry.extent (.insert 0 (wordCount - 2)) := by
    simp only [HasRoom]
    decide +kernel
  have hs : (Session.after 8 clearedRun).registry.span? 0 = some ⟨0, 1⟩ := by decide +kernel
  have ht : (Session.after 8 clearedRun).registry.isTracked 0 = true := by decide +kernel
  obtain ⟨-, hspans, -, hwords⟩ := bounded_within_words 8 clearedRun
  refine ⟨⟨_, hs, (hspans 0 _ hs).1, (hspans 0 _ hs).2 ht⟩, ?_⟩
  rw [hwords _ fun _ => hw]
  rfl

end TrackedText.Word
