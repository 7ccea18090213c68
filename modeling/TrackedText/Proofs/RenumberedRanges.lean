import TrackedText.Proofs.ConfinedCalls

namespace TrackedText

variable {makers : List DocumentId} {maker other : DocumentId} {id : RangeId}

/-- A range's number among those of its maker. -/
def number (makers : List DocumentId) (maker : DocumentId) (id : RangeId) : RangeId := (makers.take id).count maker

theorem number_succ (h : makers[id]? = some other) :
    number makers maker (id + 1) = number makers maker id + if other = maker then 1 else 0 := by
  simp [number, List.take_add_one, h, List.count_append, List.count_singleton]

theorem number_mono {first second : RangeId} (h : first ≤ second) :
    number makers maker first ≤ number makers maker second :=
  (List.take_sublist_take_left h).count_le _

theorem number_lt {first second : RangeId} (h : makers[first]? = some maker) (hlt : first < second) :
    number makers maker first < number makers maker second :=
  Nat.lt_of_lt_of_le (by rw [number_succ h, if_pos rfl]; exact Nat.lt_succ_self _) (number_mono hlt)

theorem number_inj {first second : RangeId} (h : makers[first]? = some maker) (h' : makers[second]? = some maker) :
    number makers maker first = number makers maker second ↔ first = second := by
  refine ⟨fun he => ?_, congrArg _⟩
  rcases Nat.lt_trichotomy first second with hlt | rfl | hlt
  · exact absurd he (Nat.ne_of_lt (number_lt h hlt))
  · rfl
  · exact absurd he.symm (Nat.ne_of_lt (number_lt h' hlt))

theorem number_append (h : id ≤ makers.length) (more : List DocumentId) :
    number (makers ++ more) maker id = number makers maker id := by
  rw [number, number, List.take_append_of_le_length h]

namespace Registry

variable {r : Registry} {m : Mutation}

/-- The registry that a document keeps of its own ranges, numbered from nought. -/
def renumber (makers : List DocumentId) (maker : DocumentId) (r : Registry) : Registry :=
  { r with
    ranges := (r.ranges.filter fun l => makers[l.id]? = some maker).map fun l =>
      { l with id := number makers maker l.id }
    nextId := number makers maker r.nextId
    tracked := r.tracked.map (number makers maker) }

section

variable (ho : makers[id]? = some maker)

include ho

theorem span?_renumber : (r.renumber makers maker).span? (number makers maker id) = r.span? id := by
  have hp : ∀ l : LiveRange, (makers[l.id]? = some maker ∧ number makers maker l.id = number makers maker id) ↔
      l.id = id := by
    intro l
    refine ⟨fun ⟨hl, he⟩ => (number_inj hl ho).1 he, ?_⟩
    rintro rfl
    exact ⟨ho, rfl⟩
  simp [span?, renumber, List.find?_map, List.find?_filter, Function.comp_def, hp, ← Bool.beq_eq_decide_eq]

theorem update_renumber (f : Span → Span) :
    (r.update id f).renumber makers maker = (r.renumber makers maker).update (number makers maker id) f := by
  have hp : (fun l : LiveRange => decide (makers[l.id]? = some maker)) ∘
      (fun l => if l.id = id then { l with span := f l.span } else l) =
      fun l => decide (makers[l.id]? = some maker) := by
    funext l
    by_cases hl : l.id = id <;> simp [hl]
  simp only [renumber, update, List.filter_map, hp, List.map_map]
  congr 1
  refine List.map_congr_left fun l hl => ?_
  have hl : makers[l.id]? = some maker := by simpa using (List.mem_filter.1 hl).2
  by_cases he : l.id = id
  · simp [he]
  · simp [he, number_inj hl ho]

theorem release_renumber :
    (r.release id).renumber makers maker = (r.renumber makers maker).release (number makers maker id) := by
  simp only [renumber, release, List.filter_map, List.filter_filter]
  congr 2
  refine List.filter_congr fun l _ => ?_
  by_cases hl : makers[l.id]? = some maker
  · simp [hl, number_inj hl ho]
  · simp [hl]

end

theorem foldl_update_renumber {ids : List RangeId} (ho : ∀ id ∈ ids, makers[id]? = some maker) (f : Span → Span) :
    (ids.foldl (fun r id => r.update id f) r).renumber makers maker =
      (ids.map (number makers maker)).foldl (fun r id => r.update id f) (r.renumber makers maker) := by
  induction ids generalizing r with
  | nil => rfl
  | cons id ids ih =>
      obtain ⟨hid, ho⟩ := List.forall_mem_cons.1 ho
      rw [List.foldl_cons, ih ho, update_renumber hid, List.map_cons, List.foldl_cons]

section

variable (ht : ∀ id ∈ r.tracked, makers[id]? = some maker)

include ht

theorem purge_renumber : r.purge.renumber makers maker = (r.renumber makers maker).purge := by
  simp only [renumber, purge, List.filter_map]
  congr 2
  refine List.filter_congr fun id hid => ?_
  exact congrArg Option.isSome (span?_renumber (r := r) (ht id hid)).symm

theorem track_renumber :
    (r.track id).renumber makers maker = (r.renumber makers maker).track (number makers maker id) := by
  simp only [track, ← purge_renumber ht]
  simp [renumber]

theorem broadcast_renumber (m : Mutation) :
    (r.renumber makers maker).broadcast m = (r.broadcast m).renumber makers maker := by
  have hp : ∀ id ∈ r.purge.tracked, makers[id]? = some maker := fun id hid => ht id (purge_sublist.subset hid)
  have hu := foldl_update_renumber (r := r.purge) hp (·.adjust m)
  simp only [broadcast, ← purge_renumber ht]
  change { (r.purge.tracked.map (number makers maker)).foldl (fun r id => r.update id (·.adjust m))
    (r.purge.renumber makers maker) with selection := r.selection.adjust m } = _
  rw [← hu]
  rfl

theorem react_renumber (m : Mutation) : (r.renumber makers maker).react m = (r.react m).renumber makers maker := by
  have hb := broadcast_renumber (r := { r with extent := r.extent.edit m }) ht m
  simp only [react]
  split
  · rfl
  · exact hb

theorem notify_renumber (m : Mutation) :
    (r.renumber makers maker).notify m = (r.notify m).map fun p => (p.1, p.2.renumber makers maker) := by
  cases hd : r.detached with
  | true =>
      have hd' : (r.renumber makers maker).detached = true := hd
      rw [notify_detached hd, notify_detached hd']
      rfl
  | false =>
      have hd' : (r.renumber makers maker).detached = false := hd
      by_cases hm : m.IsWellFormed
      · rw [notify_attached hd hm, notify_attached hd' hm, react_renumber ht]
        rfl
      · cases m with
        | insert offset n => exact absurd trivial hm
        | delete start stop =>
            have hm : stop < start := Nat.not_le.1 hm
            rw [notify_malformed hd hm, notify_malformed hd' hm]
            rfl

theorem create_renumber (hn : makers[r.nextId]? = some maker) (tracked : Bool) (first last : Position) :
    (r.renumber makers maker).create tracked first last =
      (number makers maker (r.create tracked first last).1,
        (r.create tracked first last).2.renumber makers maker) := by
  have hc : (r.create false first last).2.renumber makers maker =
      ((r.renumber makers maker).create false first last).2 := by
    simp [create, renumber, hn, number_succ hn]
  cases tracked with
  | false => exact Prod.ext rfl hc.symm
  | true =>
      refine Prod.ext rfl ?_
      have hk : ((r.create false first last).2.track r.nextId).renumber makers maker =
          ((r.create false first last).2.renumber makers maker).track (number makers maker r.nextId) :=
        track_renumber ht
      rw [hc] at hk
      exact hk.symm

variable (ho : makers[id]? = some maker)

include ho

theorem isTracked_renumber : (r.renumber makers maker).isTracked (number makers maker id) = r.isTracked id := by
  rw [Bool.eq_iff_iff, isTracked_iff, isTracked_iff]
  refine ⟨fun h => ?_, fun h => List.mem_map.2 ⟨id, h, rfl⟩⟩
  obtain ⟨i, hi, he⟩ := List.mem_map.1 h
  exact (number_inj (ht i hi) ho).1 he ▸ hi

theorem attach_renumber : (r.renumber makers maker).attach (number makers maker id) =
      ((r.attach id).1, (r.attach id).2.renumber makers maker) := by
  simp only [attach, isTracked_renumber ht ho]
  split
  · rfl
  · rw [track_renumber (r := r.update id r.renew) ht, update_renumber ho]
    rfl

theorem detach_renumber : (r.renumber makers maker).detach (number makers maker id) =
      ((r.detach id).1, (r.detach id).2.renumber makers maker) := by
  have hf : (r.tracked.map (number makers maker)).filter (· ≠ number makers maker id) =
      (r.tracked.filter (· ≠ id)).map (number makers maker) := by
    rw [List.filter_map]
    refine congrArg _ (List.filter_congr fun i hi => ?_)
    simp [number_inj (ht i hi) ho]
  simp only [detach, renumber, hf, List.length_map]

end

end Registry

namespace Document

open Registry

variable {d : Document}

def renumber (makers : List DocumentId) (maker : DocumentId) (d : Document) : Document :=
  { d with registry := d.registry.renumber makers maker }

section

variable (ho : makers[id]? = some maker)

include ho

theorem bounds_renumber : (d.renumber makers maker).bounds (number makers maker id) = d.bounds id := by
  have hs : (d.renumber makers maker).registry.span (number makers maker id) = d.registry.span id :=
    congrArg (·.getD default) (span?_renumber ho)
  rw [bounds, hs]
  rfl

theorem rangeText_renumber : (d.renumber makers maker).rangeText (number makers maker id) = d.rangeText id := by
  rw [rangeText, bounds_renumber ho]
  rfl

theorem moveRange_renumber (m : Span.Move) :
    (d.renumber makers maker).moveRange (number makers maker id) m = (d.moveRange id m).renumber makers maker := by
  rw [moveRange, bounds_renumber ho]
  exact congrArg (fun r => { d with registry := r }) (update_renumber ho _).symm

theorem select_renumber :
    (d.renumber makers maker).select (number makers maker id) = (d.select id).renumber makers maker := by
  rw [select, bounds_renumber ho]
  rfl

theorem release_renumber :
    (d.release id).renumber makers maker = (d.renumber makers maker).release (number makers maker id) :=
  congrArg (fun r => { d with registry := r }) (Registry.release_renumber ho)

end

section

variable (ht : ∀ id ∈ d.registry.tracked, makers[id]? = some maker)

include ht

theorem perform_renumber (e : StoryEdit) :
    (d.renumber makers maker).perform e = (d.perform e).map fun p => (p.1, p.2.renumber makers maker) := by
  rw [perform_eq, perform_eq]
  simp only [renumber, notify_renumber ht]
  cases d.registry.notify (d.story.edit e).1 <;> rfl

theorem made_of_perform {e : StoryEdit} {p : Mutation × Document} (hp : d.perform e = .ok p) :
    ∀ id ∈ p.2.registry.tracked, makers[id]? = some maker := by
  have hc : d.registry.Confined (fun id => makers[id]? = some maker) p.2.registry :=
    performAll_confined ht (performAll_singleton hp)
  exact hc.tracked

theorem performAll_renumber (es : List StoryEdit) :
    (d.renumber makers maker).performAll es = (d.performAll es).map fun p => (p.1, p.2.renumber makers maker) := by
  induction es generalizing d with
  | nil => rfl
  | cons e es ih =>
      simp only [performAll, perform_renumber ht]
      cases hp : d.perform e with
      | error => rfl
      | ok p =>
          have hs := ih (made_of_perform ht hp)
          simp only [Except.map, bind, Except.bind, hs]
          cases p.2.performAll es <;> rfl

theorem apply_renumber (c : Command) :
    (d.renumber makers maker).apply c = (d.apply c).map fun p => (p.1, p.2.renumber makers maker) := by
  have hp : (d.renumber makers maker).performAll (c.edits (d.renumber makers maker).story) = _ :=
    performAll_renumber ht (c.edits d.story)
  simp only [apply, hp]
  cases d.performAll (c.edits d.story) <;> rfl

theorem createRange_renumber (hn : makers[d.registry.nextId]? = some maker) (tracked : Bool) (first last : Position) :
    (d.renumber makers maker).createRange tracked first last =
      (number makers maker (d.createRange tracked first last).1,
        (d.createRange tracked first last).2.renumber makers maker) := by
  simp only [createRange, renumber, create_renumber ht hn]

variable (ho : makers[id]? = some maker)

include ho

theorem setText_renumber (t : Text) :
    (d.renumber makers maker).setText (number makers maker id) t = (d.setText id t).map (renumber makers maker) := by
  simp only [setText, bounds_renumber ho, perform_renumber ht]
  cases hp : d.perform (.delete (d.bounds id).start (d.bounds id).stop) with
  | error => rfl
  | ok p =>
      simp only [Except.map, bind, Except.bind, perform_renumber (made_of_perform ht hp)]
      cases p.2.perform (.insert (d.bounds id).start t) with
      | error => rfl
      | ok q => exact congrArg (fun r => Except.ok { q.2.bump with registry := r }) (update_renumber ho _).symm

theorem deleteText_renumber : (d.renumber makers maker).deleteText (number makers maker id) =
      (d.deleteText id).map fun p => (p.1, p.2.renumber makers maker) := by
  have hi : (d.renumber makers maker).registry.isTracked (number makers maker id) = d.registry.isTracked id :=
    isTracked_renumber ht ho
  simp only [deleteText, bounds_renumber ho, perform_renumber ht, hi]
  cases d.perform (.delete (d.bounds id).start (d.bounds id).stop) with
  | error => rfl
  | ok p =>
      have hu := update_renumber (r := p.2.bump.registry) ho fun _ => (d.bounds id).adjust p.1
      simp only [Except.map, bind, Except.bind, pure, Except.pure]
      cases d.registry.isTracked id with
      | true => rfl
      | false => exact congrArg (fun r => Except.ok (p.1.delta.natAbs, { p.2.bump with registry := r })) hu.symm

theorem attach_renumber : (d.renumber makers maker).attach (number makers maker id) =
      ((d.attach id).1, (d.attach id).2.renumber makers maker) := by
  simp only [attach, renumber, Registry.attach_renumber ht ho]

theorem detach_renumber : (d.renumber makers maker).detach (number makers maker id) =
      ((d.detach id).1, (d.detach id).2.renumber makers maker) := by
  simp only [detach, renumber, Registry.detach_renumber ht ho]

theorem duplicate_renumber (hn : makers[d.registry.nextId]? = some maker) :
    (d.renumber makers maker).duplicate (number makers maker id) =
      (number makers maker (d.duplicate id).1, (d.duplicate id).2.renumber makers maker) := by
  rw [duplicate, bounds_renumber ho]
  exact createRange_renumber ht hn true _ _

end

end Document

end TrackedText
