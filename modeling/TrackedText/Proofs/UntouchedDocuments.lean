import TrackedText.Proofs.ConfinedCalls

namespace TrackedText.World

open Registry

variable {w w' : World} {o o' : OpenDocument} {id : DocumentId} {g : Handle} {name : String}
  {p p' : String × OpenDocument} {hs : Named Handle} {about : Option DocumentId}

/-- A document stays as it is, but for ranges that no handle stands for any more. -/
structure Untouched (hs : Named Handle) (o o' : OpenDocument) : Prop where
  id : o'.id = o.id
  story : o'.document.story = o.document.story
  version : o'.document.version = o.document.version
  registry : o'.document.registry = { o.document.registry with ranges := o'.document.registry.ranges }
  ids : ∀ l ∈ o'.document.registry.ranges, l ∈ o.document.registry.ranges
  ranges : ∀ keep : RangeId → Bool, (∀ id, keep id = true → ∃ q ∈ hs, q.2 = ⟨o.id, id⟩) →
    o'.document.registry.ranges.filter (keep ·.id) = o.document.registry.ranges.filter (keep ·.id)

namespace Untouched

theorem same (hi : o'.id = o.id) (hd : o'.document = o.document) : Untouched hs o o' :=
  ⟨hi, by rw [hd], by rw [hd], by rw [hd], hd ▸ fun _ hl => hl, fun _ _ => by rw [hd]⟩

theorem refl (hs : Named Handle) (o : OpenDocument) : Untouched hs o o := same rfl rfl

theorem release (hi : o'.id = o.id) (hd : o'.document = o.document.release g.range) (hg : o.id = g.document)
    (hn : ∀ q ∈ hs, q.2 ≠ g) : Untouched hs o o' := by
  refine ⟨hi, by rw [hd]; rfl, by rw [hd]; rfl, by rw [hd]; rfl, ?_, ?_⟩ <;> rw [hd]
  · exact fun l hl => (List.mem_filter.1 hl).1
  · intro keep hk
    rw [Document.release, Registry.release, List.filter_filter]
    refine List.filter_congr fun l _ => ?_
    by_cases hl : keep l.id = true
    · obtain ⟨q, hq, he⟩ := hk l.id hl
      have hne : l.id ≠ g.range := fun hr => hn q hq (by rw [he, hg, hr])
      simp [hne]
    · simp [hl]

theorem tracked (h : Untouched hs o o') : o'.document.registry.tracked = o.document.registry.tracked := by
  rw [h.registry]

theorem nextId (h : Untouched hs o o') : o'.document.registry.nextId = o.document.registry.nextId := by
  rw [h.registry]

theorem span? (h : Untouched hs o o') {r : RangeId} (hr : ∃ q ∈ hs, q.2 = ⟨o.id, r⟩) :
    o'.document.registry.span? r = o.document.registry.span? r := by
  simp only [Registry.span?, ← List.head?_filter, h.ranges (· == r) fun i hi => beq_iff_eq.1 hi ▸ hr]

end Untouched

theorem Frees.untouched (h : Frees w w') (hp : p' ∈ w'.documents) :
    ∃ p ∈ w.documents, Untouched w'.handles p.2 p'.2 := by
  obtain ⟨p, hm, hi, he | ⟨old, -, hg, he, hn⟩⟩ := h p' hp
  · exact ⟨p, hm, .same hi.symm he⟩
  · exact ⟨p, hm, .release hi.symm he hg hn⟩

theorem settle_untouched (hd : (w.documents.map (·.2.id)).Nodup) (ho : w.documents.get? name = some o) (g : Handle) :
    ∃ o', (w.settle g).documents.get? name = some o' ∧ Untouched w.handles o o' := by
  rw [World.settle]
  split
  · exact ⟨o, ho, .refl _ o⟩
  · rename_i ha
    cases hg : w.document? g.document with
    | none => exact ⟨o, ho, .refl _ o⟩
    | some d =>
        simp only [get?_setDocument, ho, Option.map_some]
        by_cases hi : o.id = g.document
        · have hdo := document?_of_distinct hd (Named.mem_of_get? ho)
          rw [hi, hg] at hdo
          obtain rfl := Option.some.inj hdo
          refine ⟨⟨g.document, o.document.release g.range⟩, by rw [if_pos hi],
            .release hi.symm rfl hi fun q hq he => ?_⟩
          exact ha (List.any_eq_true.2 ⟨q, hq, beq_iff_eq.2 he⟩)
        · exact ⟨o, by rw [if_neg hi], .refl _ o⟩

theorem hold_untouched (hd : (w.documents.map (·.2.id)).Nodup) (ho : w.documents.get? name = some o) (other : String)
    (g : Handle) :
    ∃ o', (w.hold other g).documents.get? name = some o' ∧ Untouched (w.hold other g).handles o o' := by
  rw [handles_hold, World.hold]
  split
  · exact settle_untouched (w := { w with handles := w.handles.put other g }) hd ho _
  · exact ⟨o, ho, .refl _ o⟩

theorem dropHandle_untouched (hd : (w.documents.map (·.2.id)).Nodup) (ho : w.documents.get? name = some o)
    (other : String) :
    ∃ o', (w.dropHandle other).documents.get? name = some o' ∧ Untouched (w.dropHandle other).handles o o' := by
  rw [World.dropHandle]
  split
  · rw [handles_settle]
    exact settle_untouched (w := { w with handles := w.handles.erase other }) hd ho _
  · exact ⟨o, ho, .refl _ o⟩

theorem get?_setDocument_ne (ho : w.documents.get? name = some o) (hi : o.id ≠ id) (d' : Document) :
    (w.setDocument id d').documents.get? name = some o := by
  rw [get?_setDocument, ho, Option.map_some, if_neg hi]

theorem get?_erase_ne {α : Type} {xs : Named α} {other : String} (hn : name ≠ other) :
    (xs.erase other).get? name = xs.get? name := by
  simp only [Named.get?, Named.erase]
  induction xs with
  | nil => rfl
  | cons p xs ih =>
      by_cases hp : p.1 = other
      · have hne : (name == p.1) = false := by simpa [hp] using hn
        rw [List.filter_cons_of_neg (by simpa using hp), ih, List.lookup_cons, hne]
      · rw [List.filter_cons_of_pos (by simpa using hp), List.lookup_cons, List.lookup_cons, ih]

theorem Course.untouched (hd : (w.documents.map (·.2.id)).Nodup) (hc : Course w about w')
    (ho : w.documents.get? name = some o) (ha : about ≠ some o.id) :
    ∃ o', w'.documents.get? name = some o' ∧ Untouched w'.handles o o' := by
  have hname : ∀ other, (w.documents.get? other).map (·.id) = about → name ≠ other := by
    rintro other hn rfl
    rw [ho] at hn
    exact ha hn.symm
  cases hc with
  | nothing | selection => exact ⟨o, ho, .refl _ o⟩
  | opened other t terminator hn =>
      have hne := hname other hn
      refine ⟨o, ?_, .refl _ o⟩
      rw [World.openDocument, Named.put, Named.get?, List.lookup_cons, beq_eq_false_iff_ne.2 hne]
      exact (get?_erase_ne hne).trans ho
  | closed other hn => exact ⟨o, (get?_erase_ne (hname other hn)).trans ho, .refl _ o⟩
  | @changed p d' hp hp' _ =>
      refine ⟨o, get?_setDocument_ne ho (fun hi => ha ?_) d', .refl _ o⟩
      rw [hp', hi]
  | @created p hp hp' tracked first last other =>
      have hne : o.id ≠ p.2.id := fun hi => ha (by rw [hp', hi])
      exact hold_untouched (by rw [ids_setDocument]; exact hd) (get?_setDocument_ne ho hne
        (p.2.document.createRange tracked first last).2) other _
  | shared _ _ other => exact hold_untouched hd ho other _
  | letGo other _ => exact dropHandle_untouched hd ho other

theorem Course.inherited (hc : Course w about w') (hp : p' ∈ w'.documents) (ha : about ≠ some p'.2.id) :
    (∃ t terminator, p'.2 = ⟨w.nextId, .ofText t terminator⟩) ∨
      ∃ p ∈ w.documents, Untouched w'.handles p.2 p'.2 := by
  cases hc with
  | nothing | selection => exact .inr ⟨p', hp, .refl _ _⟩
  | opened name t terminator _ =>
      rcases Named.mem_put.1 hp with rfl | ⟨hp, -⟩
      · exact .inl ⟨t, terminator, rfl⟩
      · exact .inr ⟨p', hp, .refl _ _⟩
  | closed name _ => exact .inr ⟨p', (Named.mem_erase.1 hp).1, .refl _ _⟩
  | @changed p d' _ hp' _ =>
      rcases mem_setDocument hp with ⟨hp, -⟩ | ⟨hi, -⟩
      · exact .inr ⟨p', hp, .refl _ _⟩
      · exact absurd (hp'.trans (congrArg some hi.symm)) ha
  | @created p _ hp' tracked first last name =>
      obtain ⟨p₁, hp₁, hu⟩ := (frees_hold _ _ _).untouched hp
      rcases mem_setDocument hp₁ with ⟨hp₁, -⟩ | ⟨hi, -⟩
      · exact .inr ⟨p₁, hp₁, hu⟩
      · exact absurd (by rw [hp', hu.id, hi]) ha
  | shared _ _ name => exact .inr ((frees_hold _ _ _).untouched hp)
  | letGo name _ => exact .inr ((frees_dropHandle _ _).untouched hp)

/-- What a call leaves of the ranges of the document that it was about. -/
theorem Course.grown (hw : ∀ p ∈ w.documents, p.2.id < w.nextId) (hc : Course w about w') (hp : p' ∈ w'.documents)
    (ha : about = some p'.2.id) : ∃ p ∈ w.documents, p.2.id = p'.2.id ∧
      Grown (w.Reaches p.2.id p.2.document) p.2.document.registry p'.2.document.registry := by
  have still : ∀ p ∈ w.documents, Grown (w.Reaches p.2.id p.2.document) p.2.document.registry p.2.document.registry :=
    fun p _ => (Confined.refl fun _ => .inl).grown
  cases hc with
  | nothing | selection => exact ⟨p', hp, rfl, still p' hp⟩
  | opened name t terminator hn =>
      rcases Named.mem_put.1 hp with rfl | ⟨hp, -⟩
      · -- the new document is not the one that gave way to it
        obtain ⟨o, ho, hi⟩ := Option.map_eq_some_iff.1 (hn.trans ha)
        exact absurd (hw _ (Named.mem_of_get? ho)) (hi ▸ Nat.lt_irrefl _)
      · exact ⟨p', hp, rfl, still p' hp⟩
  | closed name _ => exact ⟨p', (Named.mem_erase.1 hp).1, rfl, still p' (Named.mem_erase.1 hp).1⟩
  | @changed p d' hm hp' hc =>
      rcases mem_setDocument hp with ⟨-, hne⟩ | ⟨hi, hd⟩
      · exact absurd (Option.some.inj (ha.symm.trans hp')) hne
      · exact ⟨p, hm, hi.symm, hd ▸ hc.grown⟩
  | @created p hm hp' tracked first last name =>
      have hg : Grown (w.Reaches p.2.id p.2.document) p.2.document.registry
          (p.2.document.createRange tracked first last).2.registry := grown_create (fun _ => .inl) tracked first last
      obtain ⟨p₁, hp₁, hi₁, hd⟩ := frees_hold _ _ _ p' hp
      have hi : p.2.id = p'.2.id := Option.some.inj (hp'.symm.trans ha)
      refine ⟨p, hm, hi, ?_⟩
      have hd₁ : p₁.2.document = (p.2.document.createRange tracked first last).2 :=
        document_setDocument hp₁ (hi₁.trans hi.symm)
      rcases hd with he | ⟨old, ho, hg', he, -⟩
      · rw [he, hd₁]
        exact hg
      · rw [he, hd₁]
        refine hg.release (.inr ⟨old, ho, ?_⟩)
        rw [hi, ← hi₁, hg']
  | shared _ hn name => rw [hn] at ha; cases ha
  | letGo name hn => rw [hn] at ha; cases ha

theorem ids_settle (w : World) (g : Handle) : (w.settle g).documents.map (·.2.id) = w.documents.map (·.2.id) := by
  rw [World.settle]
  split
  · rfl
  · split
    · exact ids_setDocument w _ _
    · rfl

theorem ids_hold (w : World) (name : String) (g : Handle) :
    (w.hold name g).documents.map (·.2.id) = w.documents.map (·.2.id) := by
  rw [World.hold]
  split
  · exact ids_settle { w with handles := w.handles.put name g } _
  · rfl

theorem Course.handles (hc : Course w about w') {q : String × Handle} (hq : q ∈ w'.handles) :
    (∃ q' ∈ w.handles, q'.2 = q.2) ∨ ∃ p ∈ w.documents, ∃ p' ∈ w'.documents, about = some p.2.id ∧
      p'.2.id = p.2.id ∧ p'.2.document.registry.nextId = p.2.document.registry.nextId + 1 ∧
      q.2 = ⟨p.2.id, p.2.document.registry.nextId⟩ := by
  cases hc with
  | nothing | selection | opened | closed | changed => exact .inl ⟨q, hq, rfl⟩
  | @created p hp hp' tracked first last name =>
      rw [handles_hold] at hq
      rcases Named.mem_put.1 hq with rfl | ⟨hq, -⟩
      · have hids := ids_hold (w.setDocument p.2.id (p.2.document.createRange tracked first last).2) name
          ⟨p.2.id, (p.2.document.createRange tracked first last).1⟩
        rw [ids_setDocument] at hids
        have hid : p.2.id ∈ w.documents.map (·.2.id) := List.mem_map_of_mem hp
        obtain ⟨p', hm, hi⟩ := List.mem_map.1 (hids ▸ hid)
        refine .inr ⟨p, hp, p', hm, hp', hi, ?_, rfl⟩
        obtain ⟨p₁, hp₁, hu⟩ := (frees_hold _ _ _).untouched hm
        rw [hu.nextId, document_setDocument hp₁ (hu.id.symm.trans hi)]
        cases tracked <;> rfl
      · exact .inl ⟨q, hq, rfl⟩
  | @shared g hg _ name =>
      rw [handles_hold] at hq
      rcases Named.mem_put.1 hq with rfl | ⟨hq, -⟩
      · exact .inl ⟨g, hg, rfl⟩
      · exact .inl ⟨q, hq, rfl⟩
  | letGo name _ => exact .inl ⟨q, mem_handles_dropHandle hq, rfl⟩

theorem nextId_settle (w : World) (g : Handle) : (w.settle g).nextId = w.nextId := by
  rw [World.settle]
  split
  · rfl
  · split <;> rfl

theorem Course.nextId (hc : Course w about w') : w.nextId ≤ w'.nextId := by
  have hold : ∀ (w : World) (name : String) (g : Handle), (w.hold name g).nextId = w.nextId := by
    intro w name g
    rw [World.hold]
    split
    · exact nextId_settle _ _
    · rfl
  cases hc with
  | nothing | closed | changed | selection => exact Nat.le_refl _
  | opened => exact Nat.le_succ _
  | created => exact Nat.le_of_eq (hold (w.setDocument _ _) _ _).symm
  | shared => exact Nat.le_of_eq (hold w _ _).symm
  | letGo name _ =>
      rw [World.dropHandle]
      split
      · exact Nat.le_of_eq (nextId_settle { w with handles := w.handles.erase name } _).symm
      · exact Nat.le_refl _

/-- Every range of an open document is held under some name. -/
structure Held (w : World) : Prop where
  names : w.handles.Distinct
  ranges : ∀ p ∈ w.documents, ∀ l ∈ p.2.document.registry.ranges, ∃ q ∈ w.handles, q.2 = ⟨p.2.id, l.id⟩

namespace Held

theorem settle (hn : w.handles.Distinct) (hr : ∀ p ∈ w.documents, ∀ l ∈ p.2.document.registry.ranges,
    (∃ q ∈ w.handles, q.2 = ⟨p.2.id, l.id⟩) ∨ ⟨p.2.id, l.id⟩ = g) : Held (w.settle g) := by
  refine ⟨by rw [handles_settle]; exact hn, fun p hp l hl => ?_⟩
  rw [handles_settle]
  rw [World.settle] at hp
  split at hp
  · rename_i ha
    rcases hr p hp l hl with hq | rfl
    · exact hq
    · obtain ⟨q, hq, he⟩ := List.any_eq_true.1 ha
      exact ⟨q, hq, beq_iff_eq.1 he⟩
  · cases hd : w.document? g.document with
    | none =>
        rw [hd] at hp
        refine (hr p hp l hl).resolve_right ?_
        rintro rfl
        exact List.find?_eq_none.1 (Option.map_eq_none_iff.1 hd) p hp (beq_self_eq_true _)
    | some d =>
        rw [hd] at hp
        rcases mem_setDocument hp with ⟨hp, hne⟩ | ⟨hi, hd'⟩
        · refine (hr p hp l hl).resolve_right ?_
          rintro rfl
          exact hne rfl
        · obtain ⟨p₁, hp₁, hi₁, rfl⟩ := mem_of_document? hd
          rw [hd'] at hl
          obtain ⟨hl, hne⟩ := List.mem_filter.1 hl
          rw [hi, ← hi₁]
          refine (hr p₁ hp₁ l hl).resolve_right ?_
          rintro rfl
          simp at hne

theorem hold (hn : w.handles.Distinct) (name : String) (hr : ∀ p ∈ w.documents, ∀ l ∈ p.2.document.registry.ranges,
    (∃ q ∈ w.handles, q.2 = ⟨p.2.id, l.id⟩) ∨ ⟨p.2.id, l.id⟩ = g) : Held (w.hold name g) := by
  have hp : ∀ p ∈ w.documents, ∀ l ∈ p.2.document.registry.ranges,
      (∃ q ∈ w.handles.put name g, q.2 = ⟨p.2.id, l.id⟩) ∨ w.handles.get? name = some ⟨p.2.id, l.id⟩ := by
    intro p hp l hl
    rcases hr p hp l hl with ⟨q, hq, he⟩ | he
    · by_cases hne : q.1 = name
      · exact .inr (he ▸ hn.get?_of_mem (hne ▸ hq))
      · exact .inl ⟨q, Named.mem_put.2 (.inr ⟨hq, hne⟩), he⟩
    · exact .inl ⟨(name, g), Named.mem_put.2 (.inl rfl), he.symm⟩
  rw [World.hold]
  split
  · rename_i old ho
    refine settle (w := { w with handles := w.handles.put name g }) (hn.put name g) fun p hp' l hl => ?_
    refine (hp p hp' l hl).imp id fun he => ?_
    exact Option.some.inj (he.symm.trans ho)
  · rename_i ho
    refine ⟨hn.put name g, fun p hp' l hl => (hp p hp' l hl).resolve_right fun he => ?_⟩
    rw [ho] at he
    cases he

theorem dropHandle (h : Held w) (name : String) : Held (w.dropHandle name) := by
  rw [World.dropHandle]
  split
  · rename_i old ho
    refine settle (w := { w with handles := w.handles.erase name }) (h.names.erase name) fun p hp l hl => ?_
    obtain ⟨q, hq, he⟩ := h.ranges p hp l hl
    by_cases hne : q.1 = name
    · exact .inr (he ▸ Option.some.inj ((h.names.get?_of_mem (hne ▸ hq)).symm.trans ho))
    · exact .inl ⟨q, Named.mem_erase.2 ⟨hq, hne⟩, he⟩
  · exact h

theorem course (h : Held w) (hc : Course w about w') : Held w' := by
  cases hc with
  | nothing | selection => exact ⟨h.names, h.ranges⟩
  | opened name t terminator _ =>
      refine ⟨h.names, fun p hp l hl => ?_⟩
      rcases Named.mem_put.1 hp with rfl | ⟨hp, -⟩
      · cases hl
      · exact h.ranges p hp l hl
  | closed name _ => exact ⟨h.names, fun p hp => h.ranges p (Named.mem_erase.1 hp).1⟩
  | @changed p d' hp _ hc =>
      refine ⟨h.names, fun p' hp' l hl => ?_⟩
      rcases mem_setDocument hp' with ⟨hp', -⟩ | ⟨hi, hd⟩
      · exact h.ranges p' hp' l hl
      · obtain ⟨k, hk, he⟩ := List.mem_map.1 (hc.ids ▸ List.mem_map_of_mem (hd ▸ hl))
        rw [hi, ← he]
        exact h.ranges p hp k hk
  | @created p hp _ tracked first last name =>
      refine hold (w := w.setDocument p.2.id _) h.names name fun p' hp' l hl => ?_
      rcases mem_setDocument hp' with ⟨hp', -⟩ | ⟨hi, hd⟩
      · exact .inl (h.ranges p' hp' l hl)
      · have hl : l ∈ (p.2.document.registry.create false first last).2.ranges := by
          rw [hd] at hl
          cases tracked <;> exact hl
        rw [hi]
        rcases List.mem_cons.1 hl with rfl | hl
        · exact .inr rfl
        · exact .inl (h.ranges p hp l hl)
  | shared hq _ name => exact hold h.names name fun p hp l hl => .inl (h.ranges p hp l hl)
  | letGo name _ => exact h.dropHandle name

end Held

theorem held_after (cs : List Call) : Held (after cs) := by
  induction cs using List.reverseRecOn with
  | nil => exact ⟨Named.distinct_nil, fun p hp => absurd hp List.not_mem_nil⟩
  | append_singleton cs c ih =>
      rw [after_append]
      exact ih.course (course _ c)

end TrackedText.World
