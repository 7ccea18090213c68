import TrackedText.Proofs.RenumberedRanges

namespace TrackedText

namespace Named

variable {α β : Type}

theorem get?_map (xs : Named α) (name : String) (f : α → β) :
    Named.get? (xs.map fun p => (p.1, f p.2)) name = (xs.get? name).map f := by
  simp only [get?]
  induction xs with
  | nil => rfl
  | cons p xs ih =>
      rw [List.map_cons, List.lookup_cons, List.lookup_cons, ih]
      cases name == p.1 <;> rfl

theorem erase_map (xs : Named α) (name : String) (f : α → β) :
    Named.erase (xs.map fun p => (p.1, f p.2)) name = (xs.erase name).map fun p => (p.1, f p.2) := by
  simp only [erase, List.filter_map]
  rfl

theorem put_map (xs : Named α) (name : String) (f : α → β) (a : α) :
    Named.put (xs.map fun p => (p.1, f p.2)) name (f a) = (xs.put name a).map fun p => (p.1, f p.2) := by
  rw [put, erase_map]
  rfl

end Named

def Handle.renumber (makers : List DocumentId) (g : Handle) : Handle := ⟨g.document, number makers g.document g.range⟩

theorem Handle.renumber_inj {makers : List DocumentId} {g h : Handle} (hg : makers[g.range]? = some g.document)
    (hh : makers[h.range]? = some h.document) :
    g.renumber makers = h.renumber makers ↔ g = h := by
  refine ⟨fun he => ?_, congrArg _⟩
  obtain ⟨document, range⟩ := g
  obtain ⟨document', range'⟩ := h
  simp only [Handle.renumber, Handle.mk.injEq] at he
  obtain ⟨rfl, he⟩ := he
  exact congrArg _ ((number_inj hg hh).1 he)

def OpenDocument.renumber (makers : List DocumentId) (o : OpenDocument) : OpenDocument :=
  ⟨o.id, o.document.renumber makers o.id⟩

namespace World

variable {makers : List DocumentId} {w : World} {d d' : Document} {o : OpenDocument} {id : DocumentId} {g : Handle}
  {name : String} {p : String × OpenDocument} {c : Call}

/-- Every document has its own ranges for itself. -/
def renumber (makers : List DocumentId) (w : World) : World :=
  { w with
    documents := w.documents.map fun p => (p.1, p.2.renumber makers)
    handles := w.handles.map fun q => (q.1, q.2.renumber makers) }

/-- The documents track, and the handles stand for, what was made in their name. -/
structure Made (makers : List DocumentId) (w : World) : Prop where
  tracked : ∀ p ∈ w.documents, ∀ id ∈ p.2.document.registry.tracked, makers[id]? = some p.2.id
  handles : ∀ q ∈ w.handles, makers[q.2.range]? = some q.2.document

theorem document?_renumber (makers : List DocumentId) (w : World) (id : DocumentId) :
    (w.renumber makers).document? id = (w.document? id).map (·.renumber makers id) := by
  simp only [document?, World.renumber, List.find?_map, Function.comp_def, OpenDocument.renumber, Option.map_map]
  cases hf : w.documents.find? (·.2.id == id) with
  | none => rfl
  | some p =>
      have hi : p.2.id = id := by simpa using List.find?_some hf
      simp [hi]

theorem setDocument_renumber (makers : List DocumentId) (w : World) (id : DocumentId) (d' : Document) :
    (w.setDocument id d').renumber makers = (w.renumber makers).setDocument id (d'.renumber makers id) := by
  simp only [World.setDocument, World.renumber, List.map_map]
  congr 1
  refine List.map_congr_left fun p _ => ?_
  by_cases hi : p.2.id = id <;> simp [OpenDocument.renumber, hi]

theorem handles_renumber : (w.renumber makers).handles.get? name = (w.handles.get? name).map (·.renumber makers) :=
  Named.get?_map _ _ _

theorem settle_renumber (hw : Made makers w) (hg : makers[g.range]? = some g.document) :
    (w.settle g).renumber makers = (w.renumber makers).settle (g.renumber makers) := by
  have ha : (w.renumber makers).handles.any (·.2 == g.renumber makers) = w.handles.any (·.2 == g) := by
    rw [Bool.eq_iff_iff]
    simp only [World.renumber, List.any_map, Function.comp_def, List.any_eq_true, beq_iff_eq]
    exact exists_congr fun q => and_congr_right fun hq => Handle.renumber_inj (hw.handles q hq) hg
  simp only [World.settle, ha]
  split
  · rfl
  · simp only [Handle.renumber, document?_renumber]
    cases w.document? g.document with
    | none => rfl
    | some d => simp only [Option.map_some, setDocument_renumber, Document.release_renumber hg]

theorem hold_renumber (hw : Made makers w) (hg : makers[g.range]? = some g.document) :
    (w.hold name g).renumber makers = (w.renumber makers).hold name (g.renumber makers) := by
  have hput : { w.renumber makers with handles := (w.renumber makers).handles.put name (g.renumber makers) } =
      ({ w with handles := w.handles.put name g } : World).renumber makers :=
    congrArg (fun hs => { w.renumber makers with handles := hs }) (Named.put_map _ _ _ _)
  simp only [World.hold, handles_renumber, hput]
  cases ho : w.handles.get? name with
  | none => rfl
  | some old =>
      refine settle_renumber ⟨hw.tracked, fun q hq => ?_⟩ (hw.handles _ (Named.mem_of_get? ho))
      rcases Named.mem_put.1 hq with rfl | ⟨hq, -⟩
      · exact hg
      · exact hw.handles q hq

theorem dropHandle_renumber (hw : Made makers w) :
    (w.dropHandle name).renumber makers = (w.renumber makers).dropHandle name := by
  have herase : { w.renumber makers with handles := (w.renumber makers).handles.erase name } =
      ({ w with handles := w.handles.erase name } : World).renumber makers :=
    congrArg (fun hs => { w.renumber makers with handles := hs }) (Named.erase_map _ _ _)
  simp only [World.dropHandle, handles_renumber, herase]
  cases ho : w.handles.get? name with
  | none => rfl
  | some old =>
      exact settle_renumber ⟨hw.tracked, fun q hq => hw.handles q (Named.mem_erase.1 hq).1⟩
        (hw.handles _ (Named.mem_of_get? ho))

theorem live_renumber : (w.renumber makers).live id = (w.live id).map (·.renumber makers id) := by
  simp only [live, document?_renumber]
  cases w.document? id with
  | none => rfl
  | some d =>
      change (if d.registry.detached = true then _ else _) =
        Except.map _ (if d.registry.detached = true then _ else _)
      cases d.registry.detached <;> rfl

theorem liveSelection_renumber :
    (w.renumber makers).liveSelection id = (w.liveSelection id).map (·.renumber makers id) := by
  simp only [liveSelection, live_renumber]
  cases w.live id with
  | error => rfl
  | ok d =>
      change (if d.registry.selection.detached = true then _ else _) =
        Except.map _ (if d.registry.selection.detached = true then _ else _)
      cases d.registry.selection.detached <;> rfl

theorem resolve_renumber :
    resolve (w.renumber makers).handles name = (resolve w.handles name).map (·.renumber makers) := by
  simp only [resolve, handles_renumber]
  cases w.handles.get? name <;> rfl

theorem Made.createRange (hw : Made makers w) (hp : p ∈ w.documents)
    (hn : makers[p.2.document.registry.nextId]? = some p.2.id) (tracked : Bool) (first last : Position) :
    Made makers (w.setDocument p.2.id (p.2.document.createRange tracked first last).2) := by
  refine ⟨fun q hq id hid => ?_, hw.handles⟩
  rcases mem_setDocument hq with ⟨hq, -⟩ | ⟨hi, hd⟩
  · exact hw.tracked q hq id hid
  · rw [hd] at hid
    rw [hi]
    cases tracked with
    | false => exact hw.tracked p hp id hid
    | true =>
        rcases List.mem_append.1 hid with hid | hid
        · have hid := (Registry.purge_sublist (r := (p.2.document.registry.create false first last).2)).subset hid
          exact hw.tracked p hp id hid
        · exact List.mem_singleton.1 hid ▸ hn

theorem createRange_renumber (hw : Made makers w) (hp : p ∈ w.documents)
    (hn : makers[p.2.document.registry.nextId]? = some p.2.id) (tracked : Bool) (first last : Position) :
    ((w.setDocument p.2.id (p.2.document.createRange tracked first last).2).hold name
        ⟨p.2.id, (p.2.document.createRange tracked first last).1⟩).renumber makers =
      ((w.renumber makers).setDocument p.2.id
          ((p.2.document.createRange tracked first last).2.renumber makers p.2.id)).hold name
        ⟨p.2.id, number makers p.2.id (p.2.document.createRange tracked first last).1⟩ := by
  rw [hold_renumber (hw.createRange hp hn tracked first last) hn, setDocument_renumber]
  rfl

theorem runDocument_renumber (hw : Made makers w) (ho : w.documents.get? name = some o)
    (hn : makers[o.document.registry.nextId]? = some o.id) (c : DocumentCall) :
    (w.renumber makers).runDocument (o.renumber makers) c =
      (w.runDocument o c).map fun p => (p.1, p.2.renumber makers) := by
  have hp := Named.mem_of_get? ho
  have ht : ∀ id ∈ o.document.registry.tracked, makers[id]? = some o.id := hw.tracked _ hp
  cases c with
  | apply c =>
      simp only [runDocument, OpenDocument.renumber, Document.apply_renumber ht]
      cases o.document.apply c with
      | error => rfl
      | ok q => exact congrArg (fun w => Except.ok (Answer.patch q.1, w)) (setDocument_renumber _ _ _ _).symm
  | info => rfl
  | createRange tracked other first last =>
      simp only [runDocument, OpenDocument.renumber, Document.createRange_renumber ht hn]
      exact congrArg (fun w => Except.ok (Answer.nothing, w)) (createRange_renumber hw hp hn tracked first last).symm
  | attach handle =>
      simp only [runDocument, resolve_renumber]
      cases hg : resolve w.handles handle with
      | error => rfl
      | ok g =>
          simp only [Except.map, bind, Except.bind, ensureOwned, OpenDocument.renumber, Handle.renumber]
          by_cases hi : g.document = o.id
          · have hm : makers[g.range]? = some o.id := hi ▸ hw.handles _ (of_resolve hg)
            simp only [hi, if_true, Document.attach_renumber ht hm]
            exact congrArg (fun w => Except.ok (_, w)) (setDocument_renumber _ _ _ _).symm
          · simp only [hi, if_false]
  | detach handle =>
      simp only [runDocument, resolve_renumber]
      cases hg : resolve w.handles handle with
      | error => rfl
      | ok g =>
          simp only [Except.map, bind, Except.bind, ensureOwned, OpenDocument.renumber, Handle.renumber]
          by_cases hi : g.document = o.id
          · have hm : makers[g.range]? = some o.id := hi ▸ hw.handles _ (of_resolve hg)
            simp only [hi, if_true, Document.detach_renumber ht hm]
            exact congrArg (fun w => Except.ok (_, w)) (setDocument_renumber _ _ _ _).symm
          · simp only [hi, if_false]
  | selection other => rfl

theorem compared_renumber {other : Handle} (ho : makers[other.range]? = some other.document) (id : DocumentId)
    (d : Document) (test : Span → Bool) :
    (other.document == id && test ((d.renumber makers id).bounds (number makers other.document other.range))) =
      (other.document == id && test (d.bounds other.range)) := by
  by_cases he : other.document = id
  · rw [he] at ho ⊢
    rw [Document.bounds_renumber ho]
  · simp only [beq_eq_false_iff_ne.2 he, Bool.false_and]

theorem runHandle_renumber (hw : Made makers w) (hg : w.handles.get? name = some g)
    (hn : ∀ p ∈ w.documents, p.2.id = g.document → makers[p.2.document.registry.nextId]? = some p.2.id)
    (c : HandleCall) :
    (w.renumber makers).runHandle (g.renumber makers) c =
      (w.runHandle g c).map fun p => (p.1, p.2.renumber makers) := by
  have hm := hw.handles _ (Named.mem_of_get? hg)
  simp only [runHandle, Handle.renumber, live_renumber]
  cases hl : w.live g.document with
  | error => rfl
  | ok d =>
      obtain ⟨p, hp, hi, rfl⟩ := mem_of_live hl
      have ht := hw.tracked p hp
      simp only [← hi] at hm ⊢
      have hb := Document.bounds_renumber (d := p.2.document) hm
      simp only [Except.map, refuse, Except.mapError, bind, Except.bind, hb]
      cases c with
      | start | stop | length | storyLength | bounds | isCollapsed => rfl
      | isAttached =>
          exact congrArg (fun b => Except.ok (Answer.flag b, w.renumber makers)) (Registry.isTracked_renumber ht hm)
      | text =>
          exact congrArg (fun t => Except.ok (Answer.text t, w.renumber makers)) (Document.rangeText_renumber hm)
      | move m =>
          simp only [Document.moveRange_renumber hm]
          exact congrArg (fun w => Except.ok (Answer.nothing, w)) (setDocument_renumber _ _ _ _).symm
      | setText t =>
          simp only [Document.setText_renumber ht hm]
          cases p.2.document.setText g.range t with
          | error => rfl
          | ok d' => exact congrArg (fun w => Except.ok (Answer.nothing, w)) (setDocument_renumber _ _ _ _).symm
      | deleteText =>
          simp only [Document.deleteText_renumber ht hm]
          cases p.2.document.deleteText g.range with
          | error => rfl
          | ok q => exact congrArg (fun w => Except.ok (Answer.number q.1, w)) (setDocument_renumber _ _ _ _).symm
      | select =>
          simp only [Document.select_renumber hm]
          exact congrArg (fun w => Except.ok (Answer.nothing, w)) (setDocument_renumber _ _ _ _).symm
      | duplicate other =>
          simp only [Document.duplicate_renumber ht hm (hn p hp hi)]
          exact congrArg (fun w => Except.ok (Answer.nothing, w))
            (createRange_renumber hw hp (hn p hp hi) true _ _).symm
      | inStory other =>
          simp only [resolve_renumber]
          cases resolve w.handles other <;> rfl
      | isEqual other =>
          simp only [resolve_renumber]
          cases ho : resolve w.handles other with
          | error => rfl
          | ok g' =>
              have ho := hw.handles _ (of_resolve ho)
              exact congrArg (fun b => Except.ok (Answer.flag b, _)) (compared_renumber ho _ _ _)
      | inRange other =>
          simp only [resolve_renumber]
          cases ho : resolve w.handles other with
          | error => rfl
          | ok g' =>
              have ho := hw.handles _ (of_resolve ho)
              exact congrArg (fun b => Except.ok (Answer.flag b, _)) (compared_renumber ho _ _ _)

theorem runSelection_renumber (id : DocumentId) (c : SelectionCall) :
    (w.renumber makers).runSelection id c = (w.runSelection id c).map fun p => (p.1, p.2.renumber makers) := by
  simp only [runSelection, liveSelection_renumber]
  cases w.liveSelection id with
  | error => rfl
  | ok d =>
      cases c with
      | start | stop | active | anchor | storyLength | bounds | activeEnd | isCollapsed | text => rfl
      | move m =>
          have hd := setDocument_renumber makers w id (d.moveSelection m)
          exact congrArg (fun w => Except.ok (Answer.nothing, w)) hd.symm

/-- Whether ranges are numbered for each document or across all of them makes no difference to a call. -/
theorem run_renumber (hw : Made makers w)
    (hn : ∀ p ∈ w.documents, c.subject w = some p.2.id → makers[p.2.document.registry.nextId]? = some p.2.id) :
    (w.renumber makers).run c = (w.run c).map fun p => (p.1, p.2.renumber makers) := by
  have hopen : ∀ name t terminator, (w.renumber makers).openDocument name (.ofText t terminator) =
      (w.openDocument name (.ofText t terminator)).renumber makers := by
    intro name t terminator
    have hput := Named.put_map w.documents name (OpenDocument.renumber makers)
      ⟨w.nextId, .ofText t terminator⟩
    exact congrArg (fun ds => { w.renumber makers with documents := ds, nextId := w.nextId + 1 }) hput
  cases c with
  | openText name t terminator => exact congrArg (fun w => Except.ok (Answer.nothing, w)) (hopen name t terminator)
  | openBytes name bytes =>
      simp only [run]
      cases Utf8.decode bytes with
      | error => rfl
      | ok t => exact congrArg (fun w => Except.ok (Answer.nothing, w)) (hopen name t _)
  | dropDocument name =>
      exact congrArg (fun ds => Except.ok (Answer.nothing, { w.renumber makers with documents := ds }))
        (Named.erase_map _ _ _)
  | document name c =>
      have hget : (w.renumber makers).documents.get? name = (w.documents.get? name).map (·.renumber makers) :=
        Named.get?_map _ _ _
      simp only [run, resolve, hget]
      cases hd : w.documents.get? name with
      | none => rfl
      | some o => exact runDocument_renumber hw hd (hn _ (Named.mem_of_get? hd) (by simp [Call.subject, hd])) c
  | cloneHandle name other =>
      simp only [run, resolve_renumber]
      cases hg : resolve w.handles name with
      | error => rfl
      | ok g =>
          have hg := hw.handles _ (of_resolve hg)
          exact congrArg (fun w => Except.ok (Answer.nothing, w)) (hold_renumber hw hg).symm
  | dropHandle name => exact congrArg (fun w => Except.ok (Answer.nothing, w)) (dropHandle_renumber hw).symm
  | handle name c =>
      simp only [run, resolve_renumber]
      cases hg : resolve w.handles name with
      | error => rfl
      | ok g =>
          have hg := get?_of_resolve hg
          exact runHandle_renumber hw hg (fun p hp hi => hn p hp (by simp [Call.subject, hg, hi])) c
  | selection name c =>
      simp only [run]
      cases hi : resolve w.selections name with
      | error =>
          simp only [World.renumber, hi]
          rfl
      | ok id =>
          simp only [World.renumber, hi]
          exact runSelection_renumber id c

theorem perform_renumber (hw : Made makers w)
    (hn : ∀ p ∈ w.documents, c.subject w = some p.2.id → makers[p.2.document.registry.nextId]? = some p.2.id) :
    (w.renumber makers).perform c = ((w.perform c).1, (w.perform c).2.renumber makers) := by
  simp only [perform, run_renumber hw hn]
  cases w.run c <;> rfl

theorem ids_renumber (makers : List DocumentId) (w : World) :
    (w.renumber makers).documents.map (·.2.id) = w.documents.map (·.2.id) := by
  simp only [World.renumber, List.map_map]
  rfl

end World

end TrackedText
