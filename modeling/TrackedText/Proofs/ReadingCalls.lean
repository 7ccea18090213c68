import TrackedText.Proofs.RefusedCalls
import TrackedText.Proofs.UntouchedDocuments

namespace TrackedText

/-- Two documents with the same text and selection. Ranges of the one kind read the same in both, and those of the
other kind are tracked in both or in neither. -/
structure Document.ReadsAlike (reads follows : RangeId → Prop) (d d' : Document) : Prop where
  story : d'.story = d.story
  version : d'.version = d.version
  selection : d'.registry.selection = d.registry.selection
  bounds : ∀ id, reads id → d'.bounds id = d.bounds id
  tracked : ∀ id, follows id → d'.registry.isTracked id = d.registry.isTracked id

namespace Document.ReadsAlike

variable {d d' : Document} {reads reads' follows follows' : RangeId → Prop}

theorem refl (reads follows : RangeId → Prop) (d : Document) : ReadsAlike reads follows d d :=
  ⟨rfl, rfl, rfl, fun _ _ => rfl, fun _ _ => rfl⟩

theorem mono (h : d.ReadsAlike reads follows d') (hr : ∀ id, reads' id → reads id)
    (hf : ∀ id, follows' id → follows id) : d.ReadsAlike reads' follows' d' :=
  ⟨h.story, h.version, h.selection, fun id hid => h.bounds id (hr id hid), fun id hid => h.tracked id (hf id hid)⟩

theorem release (d : Document) {old : RangeId} (ho : ¬ reads old) : ReadsAlike reads follows d (d.release old) where
  story := rfl
  version := rfl
  selection := rfl
  bounds := by
    intro id hid
    have hne : id ≠ old := fun he => ho (he ▸ hid)
    have hspan : (d.release old).registry.span? id = d.registry.span? id := Registry.span?_release.trans (if_neg hne)
    simp only [Document.bounds, Registry.span, hspan]
    rfl
  tracked := fun _ _ => rfl

end Document.ReadsAlike

namespace World

open Registry

/-- The call asks for something that is there, and for nothing to be done. -/
def Call.reads : Call → Bool
  | document _ .info => true
  | handle _ (.move _) | handle _ (.setText _) | handle _ .deleteText | handle _ .select | handle _ (.duplicate _) =>
    false
  | handle _ _ => true
  | selection _ (.move _) => false
  | selection _ _ => true
  | _ => false

def Call.operands : Call → List String
  | handle name c => name :: c.operands
  | _ => []

variable {w w' : World} {ts ts' : List Char} {g h : Handle} {d d' : Document} {id : DocumentId}
  {name other : String} {a : Answer} {c : Call} {reads follows : Handle → Prop}

theorem run_reads (hc : c.reads = true) (hr : w.run c = .ok (a, w')) : w' = w := by
  cases c with
  | document name c =>
      cases c with
      | info =>
          obtain ⟨o, -, hr⟩ := of_bind hr
          cases hr
          rfl
      | apply | createRange | attach | detach | selection => cases hc
  | handle name c =>
      obtain ⟨g, -, hr⟩ := of_bind hr
      obtain ⟨d, -, hr⟩ := of_bind hr
      cases c with
      | start | stop | length | storyLength | bounds | isCollapsed | isAttached | text => cases hr; rfl
      | inStory | isEqual | inRange =>
          obtain ⟨_, -, hr⟩ := of_bind hr
          cases hr
          rfl
      | move | setText | deleteText | select | duplicate => cases hc
  | selection name c =>
      obtain ⟨id, -, hr⟩ := of_bind hr
      obtain ⟨d, -, hr⟩ := of_bind hr
      cases c with
      | start | stop | active | anchor | storyLength | bounds | activeEnd | isCollapsed | text => cases hr; rfl
      | move => cases hc
  | openText | openBytes | dropDocument | cloneHandle | dropHandle => cases hc

theorem perform_reads (w : World) (hc : c.reads = true) : (w.perform c).2 = w := by
  rw [World.perform]
  split
  · rename_i hr
    exact run_reads hc hr
  · rfl

theorem foldl_filter_reads (w : World) (cs : List Call) :
    (cs.filter fun c => !c.reads).foldl (fun w c => (w.perform c).2) w = cs.foldl (fun w c => (w.perform c).2) w := by
  induction cs generalizing w with
  | nil => rfl
  | cons c cs ih =>
      cases hc : c.reads with
      | true => rw [List.filter_cons_of_neg (by simp [hc]), ih, List.foldl_cons, perform_reads w hc]
      | false => rw [List.filter_cons_of_pos (by simp [hc]), List.foldl_cons, List.foldl_cons, ih]

/-- The same documents are open under the same names, and each is alike in both worlds as far as the handles of the
two kinds are concerned. -/
structure ReadsAlike (reads follows : Handle → Prop) (w w' : World) : Prop where
  selections : w'.selections = w.selections
  named : ∀ name, (w'.documents.get? name).map (·.id) = (w.documents.get? name).map (·.id)
  gone : ∀ id, w.document? id = none → w'.document? id = none
  document : ∀ id d, w.document? id = some d → ∃ d', w'.document? id = some d' ∧
    d.ReadsAlike (fun r => reads ⟨id, r⟩) (fun r => follows ⟨id, r⟩) d'

namespace ReadsAlike

theorem refl (reads follows : Handle → Prop) (w : World) : ReadsAlike reads follows w w :=
  ⟨rfl, fun _ => rfl, fun _ h => h, fun _ d hd => ⟨d, hd, .refl _ _ d⟩⟩

theorem setDocument (hd : w.document? id = some d)
    (ha : d.ReadsAlike (fun r => reads ⟨id, r⟩) (fun r => follows ⟨id, r⟩) d') :
    ReadsAlike reads follows w (w.setDocument id d') where
  selections := rfl
  named := by
    intro name
    rw [get?_setDocument, Option.map_map]
    congr 1
    funext o
    by_cases hi : o.id = id <;> simp [hi]
  gone := fun k hk => by rw [document?_setDocument, hk, Option.map_none]
  document := by
    intro k d₁ hk
    rw [document?_setDocument, hk, Option.map_some]
    by_cases hi : k = id
    · subst hi
      obtain rfl := Option.some.inj (hd.symm.trans hk)
      exact ⟨d', by rw [if_pos rfl], ha⟩
    · exact ⟨d₁, by rw [if_neg hi], .refl _ _ d₁⟩

theorem settle (w : World) (old : Handle) (hr : ∀ g, reads g → ∃ q ∈ w.handles, q.2 = g) :
    ReadsAlike reads follows w (w.settle old) := by
  rw [World.settle]
  split
  · exact .refl _ _ w
  · rename_i hany
    split
    · rename_i d hd
      refine .setDocument hd (.release d fun ho => hany ?_)
      obtain ⟨q, hq, he⟩ := hr _ ho
      exact List.any_eq_true.2 ⟨q, hq, beq_iff_eq.2 he⟩
    · exact .refl _ _ w

theorem hold (w : World) (name : String) (g : Handle)
    (hr : ∀ h, reads h → ∃ q ∈ w.handles.put name g, q.2 = h) : ReadsAlike reads follows w (w.hold name g) := by
  have hput : ReadsAlike reads follows w { w with handles := w.handles.put name g } :=
    ⟨rfl, fun _ => rfl, fun _ h => h, fun _ d hd => ⟨d, hd, .refl _ _ d⟩⟩
  rw [World.hold]
  split
  · rename_i old _
    obtain ⟨hs, hn, hgone, hd⟩ : ReadsAlike reads follows { w with handles := w.handles.put name g }
        (World.settle { w with handles := w.handles.put name g } old) := .settle _ old hr
    exact ⟨hs, hn, hgone, hd⟩
  · exact hput

end ReadsAlike

theorem Sound.live_document? (h : Sound ts w) (hd : w.document? id = some d) : w.live id = .ok d := by
  obtain ⟨p, hp, rfl, rfl⟩ := mem_of_document? hd
  exact h.live hp

theorem Sound.liveSelection_document? (h : Sound ts w) (hd : w.document? id = some d) :
    w.liveSelection id = .ok d := by
  obtain ⟨p, hp, rfl, rfl⟩ := mem_of_document? hd
  exact h.liveSelection hp

theorem live_none (hd : w.document? id = none) : w.live id = .error .detached := by rw [live, hd]

theorem liveSelection_none (hd : w.document? id = none) : w.liveSelection id = .error .detached := by
  rw [liveSelection, live_none hd]
  rfl

namespace ReadsAlike

theorem perform_info (ha : ReadsAlike reads follows w w') (h : Sound ts w) (h' : Sound ts' w') (name : String) :
    (w'.perform (.document name .info)).1 = (w.perform (.document name .info)).1 := by
  have hn := ha.named name
  cases ho : w.documents.get? name with
  | none =>
      rw [ho, Option.map_none, Option.map_eq_none_iff] at hn
      simp [perform_eq, World.run, resolve, ho, hn]
  | some o =>
      rw [ho, Option.map_some] at hn
      obtain ⟨o', ho', hi⟩ := Option.map_eq_some_iff.1 hn
      obtain ⟨d', hd', hk⟩ := ha.document o.id _ (h.document?_eq (Named.mem_of_get? ho))
      rw [← hi, h'.document?_eq (Named.mem_of_get? ho')] at hd'
      obtain rfl := Option.some.inj hd'
      have hstory : o'.document.story = o.document.story := hk.story
      have hversion : o'.document.version = o.document.version := hk.version
      simp [perform_document ho, perform_document ho', runDocument, hstory, hversion]

theorem perform_selection (ha : ReadsAlike reads follows w w') (h : Sound ts w) (h' : Sound ts' w') (name : String)
    {c : SelectionCall} (hc : (Call.selection name c).reads = true) :
    (w'.perform (.selection name c)).1 = (w.perform (.selection name c)).1 := by
  cases hi : w.selections.get? name with
  | none => simp [perform_eq, World.run, resolve, ha.selections, hi]
  | some id =>
      have hi' : w'.selections.get? name = some id := by rw [ha.selections, hi]
      cases hd : w.document? id with
      | none =>
          simp [World.perform_selection hi, World.perform_selection hi', runSelection, liveSelection_none hd,
            liveSelection_none (ha.gone id hd)]
      | some d =>
          obtain ⟨d', hd', hk⟩ := ha.document id d hd
          rw [World.perform_selection hi, World.perform_selection hi', runSelection, runSelection,
            h.liveSelection_document? hd, h'.liveSelection_document? hd']
          cases c with
          | start | stop | active | anchor | storyLength | bounds | activeEnd | isCollapsed | text =>
              simp [hk.story, hk.selection, Document.textIn]
          | move => cases hc

theorem perform_handle (ha : ReadsAlike reads follows w w') (h : Sound ts w) (h' : Sound ts' w') {c : HandleCall}
    (hc : (Call.handle name c).reads = true)
    (hn : ∀ other ∈ (Call.handle name c).operands, w'.handles.get? other = w.handles.get? other)
    (hr : ∀ other ∈ (Call.handle name c).operands, ∀ g, w.handles.get? other = some g → reads g)
    (hf : c = .isAttached → ∀ g, w.handles.get? name = some g → follows g) :
    (w'.perform (.handle name c)).1 = (w.perform (.handle name c)).1 := by
  have hname := hn name List.mem_cons_self
  cases hg : w.handles.get? name with
  | none => simp [perform_eq, World.run, resolve, hname, hg]
  | some g =>
      have hg' : w'.handles.get? name = some g := hname.trans hg
      cases hd : w.document? g.document with
      | none =>
          simp [World.perform_handle hg, World.perform_handle hg', runHandle, live_none hd,
            live_none (ha.gone g.document hd)]
      | some d =>
          obtain ⟨d', hd', hk⟩ := ha.document g.document d hd
          have hl := h.live_document? hd
          have hl' := h'.live_document? hd'
          have hb : d'.bounds g.range = d.bounds g.range := hk.bounds _ (hr name List.mem_cons_self g hg)
          rw [World.perform_handle hg, World.perform_handle hg', runHandle, runHandle, hl, hl']
          cases c with
          | start | stop | length | storyLength | bounds | isCollapsed | text =>
              simp [hb, hk.story, Document.rangeText, Document.textIn]
          | isAttached => simp [hk.tracked _ (hf rfl g hg)]
          | inStory other | isEqual other | inRange other =>
              have hmem : other ∈ [name, other] := by simp
              have hother := hn other hmem
              cases ho : w.handles.get? other with
              | none => simp [resolve, hother, ho]
              | some g' =>
                  -- with a handle of another document there is nothing to compare
                  have hcompare : (g'.document == g.document) = false ∨ d'.bounds g'.range = d.bounds g'.range := by
                    by_cases hi : g'.document = g.document
                    · exact .inr (hk.bounds _ (hi ▸ hr other hmem g' ho))
                    · exact .inl (beq_eq_false_iff_ne.2 hi)
                  rcases hcompare with hi | hb'
                  · simp [resolve, hother, ho, hi]
                  · simp [resolve, hother, ho, hb, hb']
          | move | setText | deleteText | select | duplicate => cases hc

/-- What is read by way of handles that read the same, and asks about no other tracking than of handles that follow
the same, is answered the same. -/
theorem perform (ha : ReadsAlike reads follows w w') (h : Sound ts w) (h' : Sound ts' w') (hc : c.reads = true)
    (hn : ∀ name ∈ c.operands, w'.handles.get? name = w.handles.get? name)
    (hr : ∀ name ∈ c.operands, ∀ g, w.handles.get? name = some g → reads g)
    (hf : ∀ name g, c = .handle name .isAttached → w.handles.get? name = some g → follows g) :
    (w'.perform c).1 = (w.perform c).1 := by
  cases c with
  | document name c =>
      cases c with
      | info => exact ha.perform_info h h' name
      | apply | createRange | attach | detach | selection => cases hc
  | handle name c =>
      refine ha.perform_handle h h' hc hn hr fun he g hg => ?_
      exact hf name g (he ▸ rfl) hg
  | selection name c => exact ha.perform_selection h h' name hc
  | openText | openBytes | dropDocument | cloneHandle | dropHandle => cases hc

end ReadsAlike

end World

end TrackedText
