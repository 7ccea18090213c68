import TrackedText.Proofs.ReportedEdits
import TrackedText.Proofs.WorldEffects

namespace TrackedText

namespace Registry

variable {own : RangeId → Prop} {r r' r'' : Registry} {id : RangeId} {m m' : Mutation}

/-- A change that writes to no range but its own ones, follows none but these and neither makes nor drops
any. -/
structure Confined (own : RangeId → Prop) (r r' : Registry) : Prop where
  nextId : r'.nextId = r.nextId
  ids : r'.ranges.map (·.id) = r.ranges.map (·.id)
  tracked : ∀ id ∈ r'.tracked, own id
  frame : ∀ keep : RangeId → Bool, (∀ id, keep id = true → ¬ own id) →
    r'.ranges.filter (keep ·.id) = r.ranges.filter (keep ·.id)

namespace Confined

theorem refl (ht : ∀ id ∈ r.tracked, own id) : Confined own r r := ⟨rfl, rfl, ht, fun _ _ => rfl⟩

theorem trans (h : Confined own r r') (h' : Confined own r' r'') : Confined own r r'' where
  nextId := h'.nextId.trans h.nextId
  ids := h'.ids.trans h.ids
  tracked := h'.tracked
  frame := fun keep hk => (h'.frame keep hk).trans (h.frame keep hk)

theorem update (h : Confined own r r') (ho : own id) (f : Span → Span) : Confined own r (r'.update id f) where
  nextId := h.nextId
  ids := by
    rw [update_eq, ← h.ids]
    simp only [mapSpans, List.map_map, Function.comp_def]
  tracked := h.tracked
  frame := by
    intro keep hk
    rw [← h.frame keep hk]
    simp only [Registry.update, List.filter_map]
    have hp : (fun l : LiveRange => keep l.id) ∘ (fun l => if l.id = id then { l with span := f l.span } else l) =
        fun l => keep l.id := by
      funext l
      by_cases hl : l.id = id <;> simp [hl]
    rw [hp]
    refine (List.map_congr_left fun l hl => if_neg fun hi => ?_).trans (List.map_id _)
    exact hk l.id (List.mem_filter.1 hl).2 (hi ▸ ho)

theorem foldl_update (h : Confined own r r') {ids : List RangeId} (ho : ∀ id ∈ ids, own id) (f : Span → Span) :
    Confined own r (ids.foldl (fun r id => r.update id f) r') := by
  induction ids generalizing r' with
  | nil => exact h
  | cons id ids ih =>
      obtain ⟨hid, ho⟩ := List.forall_mem_cons.1 ho
      exact ih (h.update hid f) ho

theorem purge (h : Confined own r r') : Confined own r r'.purge :=
  ⟨h.nextId, h.ids, fun id hid => h.tracked id (purge_sublist.subset hid), h.frame⟩

theorem setSpan (h : Confined own r r') (ho : own id) (s : Span) : Confined own r (r'.setSpan id s) :=
  h.update ho fun _ => s

theorem track (h : Confined own r r') (ho : own id) : Confined own r (r'.track id) where
  nextId := h.nextId
  ids := h.ids
  tracked := by
    intro i hi
    rcases List.mem_append.1 hi with hi | hi
    · exact h.purge.tracked i hi
    · exact List.mem_singleton.1 hi ▸ ho
  frame := h.frame

theorem attach (ht : ∀ id ∈ r.tracked, own id) (ho : own id) : Confined own r (r.attach id).2 := by
  rw [Registry.attach]
  split
  · exact .refl ht
  · exact ((Confined.refl ht).update ho r.renew).track ho

theorem detach (ht : ∀ id ∈ r.tracked, own id) (id : RangeId) : Confined own r (r.detach id).2 :=
  ⟨rfl, rfl, fun i hi => ht i (List.filter_sublist.subset hi), fun _ _ => rfl⟩

theorem broadcast (h : Confined own r r') (m : Mutation) : Confined own r (r'.broadcast m) :=
  let reached := h.purge.foldl_update h.purge.tracked (·.adjust m)
  ⟨reached.nextId, reached.ids, reached.tracked, reached.frame⟩

theorem notify (ht : ∀ id ∈ r.tracked, own id) (hm : r.notify m = .ok (m', r')) : Confined own r r' := by
  obtain ⟨-, -, -, rfl⟩ := notify_ok hm
  rw [react]
  split
  · exact .refl ht
  · have hc : Confined own r { r with extent := r.extent.edit m' } := ⟨rfl, rfl, ht, fun _ _ => rfl⟩
    exact hc.broadcast m'

end Confined

/-- What a call leaves of the ranges that a document has at hand: it is confined, but that it may make one range
and drop such as are its own. -/
structure Grown (own : RangeId → Prop) (r r' : Registry) : Prop where
  older : r.nextId ≤ r'.nextId
  newer : r'.nextId ≤ r.nextId + 1
  ids : ∀ l ∈ r'.ranges, l.id ∈ r.ranges.map (·.id) ∨ r.nextId ≤ l.id ∧ l.id < r'.nextId
  tracked : ∀ id ∈ r'.tracked, own id ∨ r.nextId ≤ id ∧ id < r'.nextId
  frame : ∀ keep : RangeId → Bool, (∀ id, keep id = true → id < r.nextId ∧ ¬ own id) →
    r'.ranges.filter (keep ·.id) = r.ranges.filter (keep ·.id)

theorem Confined.grown (h : Confined own r r') : Grown own r r' where
  older := Nat.le_of_eq h.nextId.symm
  newer := Nat.le_trans (Nat.le_of_eq h.nextId) (Nat.le_succ _)
  ids := fun _ hl => .inl (h.ids ▸ List.mem_map_of_mem hl)
  tracked := fun id hid => .inl (h.tracked id hid)
  frame := fun keep hk => h.frame keep fun id hid => (hk id hid).2

theorem grown_create (ht : ∀ id ∈ r.tracked, own id) (tracked : Bool) (first last : Position) :
    Grown own r (r.create tracked first last).2 := by
  have hc : Grown own r (r.create false first last).2 :=
    { older := Nat.le_succ _
      newer := Nat.le_refl _
      ids := by
        intro l hl
        rcases List.mem_cons.1 hl with rfl | hl
        · exact .inr ⟨Nat.le_refl _, Nat.lt_succ_self _⟩
        · exact .inl (List.mem_map_of_mem hl)
      tracked := fun id hid => .inl (ht id hid)
      frame := by
        intro keep hk
        refine List.filter_cons_of_neg fun hn => ?_
        exact absurd (hk _ hn).1 (Nat.lt_irrefl _) }
  cases tracked with
  | false => exact hc
  | true =>
      refine { hc with tracked := fun id hid => ?_ }
      rcases List.mem_append.1 hid with hid | hid
      · exact .inl (ht id (purge_sublist (r := (r.create false first last).2).subset hid))
      · obtain rfl := List.mem_singleton.1 hid
        exact .inr ⟨Nat.le_refl _, Nat.lt_succ_self _⟩

theorem Grown.release (h : Grown own r r') (ho : own id) : Grown own r (r'.release id) where
  older := h.older
  newer := h.newer
  ids := fun l hl => h.ids l (List.mem_filter.1 hl).1
  tracked := h.tracked
  frame := by
    intro keep hk
    rw [← h.frame keep hk, Registry.release, List.filter_filter]
    refine List.filter_congr fun l _ => ?_
    by_cases hl : keep l.id = true
    · have hne : l.id ≠ id := fun he => (hk l.id hl).2 (he ▸ ho)
      simp [hne]
    · simp [hl]

end Registry

namespace Document

open Registry

variable {own : RangeId → Prop} {d d' : Document} {id : RangeId} {t : Text}

theorem performAll_confined (ht : ∀ id ∈ d.registry.tracked, own id) {es : List StoryEdit}
    {p : List Mutation × Document} (hp : d.performAll es = .ok p) : d.registry.Confined own p.2.registry := by
  induction es generalizing d p with
  | nil =>
      cases hp
      exact .refl ht
  | cons e es ih =>
      obtain ⟨⟨m, d₁⟩, he, hp⟩ := World.of_bind hp
      obtain ⟨q, hq, hp⟩ := World.of_bind hp
      cases hp
      obtain ⟨r, hn, rfl⟩ := perform_ok he
      have hc := Confined.notify ht hn
      exact hc.trans (ih hc.tracked hq)

theorem apply_confined (ht : ∀ id ∈ d.registry.tracked, own id) {c : Command} {p : Patch × Document}
    (hp : d.apply c = .ok p) : d.registry.Confined own p.2.registry := by
  obtain ⟨q, hq, hp⟩ := World.of_bind hp
  cases hp
  exact performAll_confined ht hq

theorem setText_confined (ht : ∀ id ∈ d.registry.tracked, own id) (ho : own id) (hd : d.setText id t = .ok d') :
    d.registry.Confined own d'.registry := by
  obtain ⟨⟨m, d₁⟩, h₁, hd⟩ := World.of_bind hd
  obtain ⟨⟨m', d₂⟩, h₂, hd⟩ := World.of_bind hd
  cases hd
  have hc := performAll_confined ht (performAll_singleton h₁)
  exact (hc.trans (performAll_confined hc.tracked (performAll_singleton h₂))).setSpan ho _

theorem deleteText_confined (ht : ∀ id ∈ d.registry.tracked, own id) (ho : own id) {p : Nat × Document}
    (hp : d.deleteText id = .ok p) : d.registry.Confined own p.2.registry := by
  obtain ⟨⟨m, d₁⟩, h₁, hp⟩ := World.of_bind hp
  cases hp
  have hc := performAll_confined ht (performAll_singleton h₁)
  dsimp only
  split
  · exact hc
  · exact hc.setSpan ho _

end Document

namespace World

open Registry

variable {w w' : World} {o : OpenDocument} {id : DocumentId} {g : Handle}
  {name : String} {a : Answer} {c : Call} {about : Option DocumentId}

/-- The ranges that a document can reach: those that it tracks and those that its handles stand for. -/
def Reaches (w : World) (id : DocumentId) (d : Document) (r : RangeId) : Prop :=
  r ∈ d.registry.tracked ∨ ∃ q ∈ w.handles, q.2 = ⟨id, r⟩

/-- What a call does to a world, and that it does it to no document but the one that it is about. -/
inductive Course (w : World) (about : Option DocumentId) : World → Prop
  | nothing : Course w about w
  | opened (name : String) (t : Text) (terminator : Char) (ha : (w.documents.get? name).map (·.id) = about) :
      Course w about (w.openDocument name (.ofText t terminator))
  | closed (name : String) (ha : (w.documents.get? name).map (·.id) = about) : Course w about (w.dropDocument name)
  | changed {p : String × OpenDocument} {d' : Document} (hp : p ∈ w.documents) (ha : about = some p.2.id)
      (hc : p.2.document.registry.Confined (w.Reaches p.2.id p.2.document) d'.registry) :
      Course w about (w.setDocument p.2.id d')
  | created {p : String × OpenDocument} (hp : p ∈ w.documents) (ha : about = some p.2.id) (tracked : Bool)
      (first last : Position) (name : String) :
      Course w about ((w.setDocument p.2.id (p.2.document.createRange tracked first last).2).hold name
        ⟨p.2.id, (p.2.document.createRange tracked first last).1⟩)
  | shared {q : String × Handle} (hq : q ∈ w.handles) (ha : about = none) (name : String) :
      Course w about (w.hold name q.2)
  | letGo (name : String) (ha : about = none) : Course w about (w.dropHandle name)
  | selection (name : String) (id : DocumentId) : Course w about { w with selections := w.selections.put name id }

theorem runDocument_course (ho : w.documents.get? name = some o) {c : DocumentCall}
    (hr : w.runDocument o c = .ok (a, w')) : Course w (some o.id) w' := by
  have hp := Named.mem_of_get? ho
  cases c with
  | apply c =>
      obtain ⟨q, hq, hr⟩ := of_bind hr
      cases hr
      exact .changed hp rfl (Document.apply_confined (fun _ => .inl) (of_refuse hq))
  | info => cases hr; exact .nothing
  | createRange tracked name first last => cases hr; exact .created hp rfl tracked first last name
  | attach handle =>
      obtain ⟨g, hg, hr⟩ := of_bind hr
      obtain ⟨⟨⟩, he, hr⟩ := of_bind hr
      cases hr
      -- a handle of another document was refused
      have hi := of_ensureOwned he
      exact .changed hp rfl (.attach (fun _ => .inl) (.inr ⟨_, of_resolve hg, by rw [← hi]⟩))
  | detach handle =>
      obtain ⟨g, -, hr⟩ := of_bind hr
      obtain ⟨⟨⟩, -, hr⟩ := of_bind hr
      cases hr
      exact .changed hp rfl (.detach (fun _ => .inl) _)
  | selection name => cases hr; exact .selection name o.id

theorem runHandle_course (hg : w.handles.get? name = some g) {c : HandleCall}
    (hr : w.runHandle g c = .ok (a, w')) : Course w (some g.document) w' := by
  obtain ⟨d, hl, hr⟩ := of_bind hr
  obtain ⟨p, hp, hi, rfl⟩ := mem_of_live (of_refuse hl)
  have ho : w.Reaches p.2.id p.2.document g.range := .inr ⟨_, Named.mem_of_get? hg, by rw [hi]⟩
  cases c with
  | start | stop | length | storyLength | bounds | isCollapsed | isAttached | text => cases hr; exact .nothing
  | move m =>
      cases hr
      exact hi ▸ .changed hp rfl ((Confined.refl fun _ => .inl).setSpan ho _)
  | setText t =>
      obtain ⟨d', hd', hr⟩ := of_bind hr
      cases hr
      exact hi ▸ .changed hp rfl (Document.setText_confined (fun _ => .inl) ho (of_refuse hd'))
  | deleteText =>
      obtain ⟨q, hq, hr⟩ := of_bind hr
      cases hr
      exact hi ▸ .changed hp rfl (Document.deleteText_confined (fun _ => .inl) ho (of_refuse hq))
  | select =>
      cases hr
      exact hi ▸ .changed hp rfl ⟨rfl, rfl, fun _ => .inl, fun _ _ => rfl⟩
  | duplicate name => cases hr; exact hi ▸ .created hp rfl true _ _ name
  | inStory | isEqual | inRange =>
      obtain ⟨_, -, hr⟩ := of_bind hr
      cases hr
      exact .nothing

theorem runSelection_course {c : SelectionCall} (hr : w.runSelection id c = .ok (a, w')) : Course w (some id) w' := by
  obtain ⟨d, hl, hr⟩ := of_bind hr
  obtain ⟨p, hp, rfl, rfl⟩ := mem_of_liveSelection (of_refuse hl)
  cases c with
  | start | stop | active | anchor | storyLength | bounds | activeEnd | isCollapsed | text =>
      cases hr; exact .nothing
  | move m => cases hr; exact .changed hp rfl ⟨rfl, rfl, fun _ => .inl, fun _ _ => rfl⟩

theorem run_course (hr : w.run c = .ok (a, w')) : Course w (c.subject w) w' := by
  cases c with
  | openText name t terminator => cases hr; exact .opened name t terminator rfl
  | openBytes name bytes =>
      simp only [World.run] at hr
      split at hr
      · cases hr; exact .opened name _ _ rfl
      · cases hr
  | dropDocument name => cases hr; exact .closed name rfl
  | document name c =>
      obtain ⟨o, ho, hr⟩ := of_bind hr
      rw [Call.subject, get?_of_resolve ho]
      exact runDocument_course (get?_of_resolve ho) hr
  | cloneHandle name other =>
      obtain ⟨g, hg, hr⟩ := of_bind hr
      cases hr
      exact .shared (of_resolve hg) rfl other
  | dropHandle name => cases hr; exact .letGo name rfl
  | handle name c =>
      obtain ⟨g, hg, hr⟩ := of_bind hr
      rw [Call.subject, get?_of_resolve hg]
      exact runHandle_course (get?_of_resolve hg) hr
  | selection name c =>
      obtain ⟨id, hi, hr⟩ := of_bind hr
      rw [Call.subject, get?_of_resolve hi]
      exact runSelection_course hr

theorem course (w : World) (c : Call) : Course w (c.subject w) (w.perform c).2 := by
  rw [World.perform]
  split
  · rename_i hr
    exact run_course hr
  · exact .nothing

end World

end TrackedText
