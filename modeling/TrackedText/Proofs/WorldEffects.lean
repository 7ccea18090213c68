import TrackedText.Proofs.DocumentChanges
import TrackedText.Proofs.WorldRuns

namespace TrackedText.World

/-- The call edits documents: a command, or the text of a range replaced or taken out. -/
def Call.edits : Call → Bool
  | document _ (.apply _) | handle _ (.setText _) | handle _ .deleteText => true
  | _ => false

/-- The document that a call is made on, closes or replaces. Names of handles that come and go are no
matter of documents. -/
def Call.subject (w : World) : Call → Option DocumentId
  | openText name _ _ | openBytes name _ | dropDocument name | document name _ => (w.documents.get? name).map (·.id)
  | handle name _ => (w.handles.get? name).map (·.document)
  | selection name _ => w.selections.get? name
  | cloneHandle _ _ | dropHandle _ => none

/-- The call puts the range of the handle somewhere itself, or stops it from following edits. -/
def Call.places (w : World) (h : Handle) : Call → Bool
  | handle name (.move _) | handle name (.setText _) | document _ (.detach name) => w.handles.get? name = some h
  | _ => false

/-- No call of the run, in the state it meets, places one of the ranges. -/
def untouched (hs : List Handle) (w : World) : List Call → Bool
  | [] => true
  | c :: cs => hs.all (fun h => !c.places w h) && untouched hs (w.perform c).2 cs

variable {w w' : World} {ts : List Char} {d d' : Document} {p p' : String × OpenDocument} {g h : Handle}
  {name : String} {a : Answer} {c : Call}

/-- What a call does to a world: the changes of one document, and names that come and go. -/
inductive Effect (w : World) (c : Call) : World → Prop
  | nothing : Effect w c w
  | opened (name : String) (t : Text) (terminator : Char) : Effect w c (w.openDocument name (.ofText t terminator))
  | closed (name : String) : Effect w c (w.dropDocument name)
  | changed {p : String × OpenDocument} {d' : Document} (hp : p ∈ w.documents)
      (hc : p.2.document.Change (fun id => c.places w ⟨p.2.id, id⟩ = true) d') : Effect w c (w.setDocument p.2.id d')
  | created {p : String × OpenDocument} (hp : p ∈ w.documents) (tracked : Bool) (first last : Position)
      (name : String) : Effect w c ((w.setDocument p.2.id (p.2.document.createRange tracked first last).2).hold name
        ⟨p.2.id, (p.2.document.createRange tracked first last).1⟩)
  | shared {q : String × Handle} (hq : q ∈ w.handles) (name : String) : Effect w c (w.hold name q.2)
  | letGo (name : String) : Effect w c (w.dropHandle name)
  | selection (name : String) (id : DocumentId) : Effect w c { w with selections := w.selections.put name id }

/-- What a call does to a world that edits no text. -/
inductive Rearranged (w : World) (c : Call) : World → Prop
  | nothing : Rearranged w c w
  | opened (name : String) (t : Text) (terminator : Char) :
      Rearranged w c (w.openDocument name (.ofText t terminator))
  | closed (name : String) : Rearranged w c (w.dropDocument name)
  | changed {p : String × OpenDocument} {d' : Document} (hp : p ∈ w.documents)
      (hc : p.2.document.Rearranged (fun id => c.places w ⟨p.2.id, id⟩ = true) d') :
      Rearranged w c (w.setDocument p.2.id d')
  | created {p : String × OpenDocument} (hp : p ∈ w.documents) (tracked : Bool) (first last : Position)
      (name : String) : Rearranged w c ((w.setDocument p.2.id (p.2.document.createRange tracked first last).2).hold name
        ⟨p.2.id, (p.2.document.createRange tracked first last).1⟩)
  | shared {q : String × Handle} (hq : q ∈ w.handles) (name : String) : Rearranged w c (w.hold name q.2)
  | letGo (name : String) : Rearranged w c (w.dropHandle name)
  | selection (name : String) (id : DocumentId) : Rearranged w c { w with selections := w.selections.put name id }

theorem Rearranged.effect (h : Rearranged w c w') : Effect w c w' := by
  cases h with
  | nothing => exact .nothing
  | opened name t terminator => exact .opened name t terminator
  | closed name => exact .closed name
  | changed hp hc => exact .changed hp hc.change
  | created hp tracked first last name => exact .created hp tracked first last name
  | shared hq name => exact .shared hq name
  | letGo name => exact .letGo name
  | selection name id => exact .selection name id

theorem get?_of_resolve {α : Type} {xs : Named α} {b : α} (h : resolve xs name = .ok b) : xs.get? name = some b := by
  rw [resolve] at h
  split at h
  · rename_i a ha
    exact Except.ok.inj h ▸ ha
  · cases h

theorem run_edit (hc : c.edits = true) (hr : w.run c = .ok (a, w')) :
    ∃ p ∈ w.documents, c.subject w = some p.2.id ∧
      ∃ d', p.2.document.Edit (fun id => c.places w ⟨p.2.id, id⟩ = true) d' ∧ w' = w.setDocument p.2.id d' := by
  cases c with
  | document name c =>
      cases c with
      | apply c =>
          obtain ⟨o, ho, hr⟩ := of_bind hr
          obtain ⟨q, hq, hr⟩ := of_bind hr
          cases hr
          refine ⟨(name, o), of_resolve ho, ?_, q.2, .apply (of_refuse hq), rfl⟩
          rw [Call.subject, get?_of_resolve ho, Option.map_some]
      | info | createRange | attach | detach | selection => cases hc
  | handle name c =>
      cases c with
      | setText t =>
          obtain ⟨g, hg, hr⟩ := of_bind hr
          obtain ⟨d, hl, hr⟩ := of_bind hr
          obtain ⟨p, hp, hi, rfl⟩ := mem_of_live (of_refuse hl)
          obtain ⟨d', hd, hr⟩ := of_bind hr
          cases hr
          refine ⟨p, hp, ?_, d', .setText ?_ (of_refuse hd), by rw [hi]⟩
          · rw [Call.subject, get?_of_resolve hg, Option.map_some, hi]
          · simp [Call.places, get?_of_resolve hg, hi]
      | deleteText =>
          obtain ⟨g, hg, hr⟩ := of_bind hr
          obtain ⟨d, hl, hr⟩ := of_bind hr
          obtain ⟨p, hp, hi, rfl⟩ := mem_of_live (of_refuse hl)
          obtain ⟨q, hd, hr⟩ := of_bind hr
          cases hr
          refine ⟨p, hp, ?_, q.2, .deleteText (of_refuse hd), by rw [hi]⟩
          rw [Call.subject, get?_of_resolve hg, Option.map_some, hi]
      | start | stop | length | storyLength | bounds | isCollapsed | isAttached | text | move | select | duplicate
        | inStory | isEqual | inRange => cases hc
  | openText | openBytes | dropDocument | cloneHandle | dropHandle | selection => cases hc

theorem run_rearranged (hc : c.edits = false) (hr : w.run c = .ok (a, w')) : Rearranged w c w' := by
  cases c with
  | openText name t terminator => cases hr; exact .opened name t terminator
  | openBytes name bytes =>
      simp only [World.run] at hr
      split at hr
      · cases hr; exact .opened name _ _
      · cases hr
  | dropDocument name => cases hr; exact .closed name
  | document name c =>
      obtain ⟨o, ho, hr⟩ := of_bind hr
      have hp := of_resolve ho
      cases c with
      | apply c => cases hc
      | info => cases hr; exact .nothing
      | createRange tracked name first last => cases hr; exact .created hp tracked first last name
      | attach handle =>
          obtain ⟨g, -, hr⟩ := of_bind hr
          obtain ⟨_, -, hr⟩ := of_bind hr
          cases hr
          exact .changed hp (.attach g.range)
      | detach handle =>
          obtain ⟨g, hg, hr⟩ := of_bind hr
          obtain ⟨⟨⟩, ho, hr⟩ := of_bind hr
          cases hr
          refine .changed hp (.detach ?_)
          simp [Call.places, get?_of_resolve hg, ← of_ensureOwned ho]
      | selection name => cases hr; exact .selection name o.id
  | cloneHandle name other =>
      obtain ⟨g, hg, hr⟩ := of_bind hr
      cases hr
      exact .shared (of_resolve hg) other
  | dropHandle name => cases hr; exact .letGo name
  | handle name c =>
      obtain ⟨g, hg, hr⟩ := of_bind hr
      obtain ⟨d, hl, hr⟩ := of_bind hr
      obtain ⟨p, hp, hi, rfl⟩ := mem_of_live (of_refuse hl)
      cases c with
      | start | stop | length | storyLength | bounds | isCollapsed | isAttached | text => cases hr; exact .nothing
      | move m =>
          cases hr
          refine hi ▸ .changed hp (.moveRange ?_ m)
          simp [Call.places, get?_of_resolve hg, hi]
      | select => cases hr; exact hi ▸ .changed hp (.select g.range)
      | duplicate name => cases hr; exact hi ▸ .created hp true _ _ name
      | setText | deleteText => cases hc
      | inStory | isEqual | inRange =>
          obtain ⟨_, -, hr⟩ := of_bind hr
          cases hr
          exact .nothing
  | selection name c =>
      obtain ⟨id, -, hr⟩ := of_bind hr
      obtain ⟨d, hl, hr⟩ := of_bind hr
      obtain ⟨p, hp, rfl, rfl⟩ := mem_of_liveSelection (of_refuse hl)
      cases c with
      | start | stop | active | anchor | storyLength | bounds | activeEnd | isCollapsed | text =>
          cases hr; exact .nothing
      | move m => cases hr; exact .changed hp (.moveSelection m)

theorem run_effect (hr : w.run c = .ok (a, w')) : Effect w c w' := by
  cases hc : c.edits with
  | true =>
      obtain ⟨p, hp, -, d', hd, rfl⟩ := run_edit hc hr
      exact .changed hp hd.change
  | false => exact (run_rearranged hc hr).effect

theorem effect (w : World) (c : Call) : Effect w c (w.perform c).2 := by
  rw [World.perform]
  split
  · rename_i hr
    exact run_effect hr
  · exact .nothing

def Lets (w w' : World) : Prop :=
  ∀ p' ∈ w'.documents, ∃ p ∈ w.documents, p.2.id = p'.2.id ∧ (p'.2.document = p.2.document ∨
    ∃ id, p'.2.document = p.2.document.release id ∧ ∀ q ∈ w'.handles, q.2 ≠ ⟨p'.2.id, id⟩)

theorem mem_setDocument {id : DocumentId} (h : p' ∈ (w.setDocument id d').documents) :
    p' ∈ w.documents ∧ p'.2.id ≠ id ∨ p'.2.id = id ∧ p'.2.document = d' := by
  obtain ⟨p, hp, rfl⟩ := List.mem_map.1 h
  by_cases hi : p.2.id = id
  · exact .inr (by simp [hi])
  · exact .inl (by simpa [hi] using hp)

theorem handles_settle (w : World) (g : Handle) : (w.settle g).handles = w.handles := by
  rw [World.settle]
  split
  · rfl
  · split <;> rfl

theorem handles_hold (w : World) (name : String) (g : Handle) : (w.hold name g).handles = w.handles.put name g := by
  rw [World.hold]
  split
  · exact handles_settle _ _
  · rfl

theorem mem_settle (hp : p' ∈ (w.settle g).documents) : ∃ p ∈ w.documents, p.2.id = p'.2.id ∧
    (p'.2.document = p.2.document ∨ p.2.id = g.document ∧ p'.2.document = p.2.document.release g.range ∧
      ∀ q ∈ w.handles, q.2 ≠ g) := by
  rw [World.settle] at hp
  split at hp
  · exact ⟨p', hp, rfl, .inl rfl⟩
  · rename_i ha
    cases hd : w.document? g.document with
    | none =>
        rw [hd] at hp
        exact ⟨p', hp, rfl, .inl rfl⟩
    | some d =>
        rw [hd] at hp
        obtain ⟨p, hm, hi, rfl⟩ := mem_of_document? hd
        rcases mem_setDocument hp with ⟨hm', -⟩ | ⟨hi', hd'⟩
        · exact ⟨p', hm', rfl, .inl rfl⟩
        · refine ⟨p, hm, hi.trans hi'.symm, .inr ⟨hi, hd', fun q hq he => ha ?_⟩⟩
          exact List.any_eq_true.2 ⟨q, hq, beq_iff_eq.2 he⟩

def Frees (w w' : World) : Prop :=
  ∀ p' ∈ w'.documents, ∃ p ∈ w.documents, p.2.id = p'.2.id ∧ (p'.2.document = p.2.document ∨
    ∃ old ∈ w.handles, p.2.id = old.2.document ∧ p'.2.document = p.2.document.release old.2.range ∧
      ∀ q ∈ w'.handles, q.2 ≠ old.2)

theorem frees_hold (w : World) (name : String) (g : Handle) : Frees w (w.hold name g) := by
  intro p' hp
  rw [handles_hold]
  rw [World.hold] at hp
  split at hp
  · rename_i old ho
    obtain ⟨p, hm, hi, he | ⟨hg, he, hn⟩⟩ := mem_settle hp
    · exact ⟨p, hm, hi, .inl he⟩
    · exact ⟨p, hm, hi, .inr ⟨_, Named.mem_of_get? ho, hg, he, hn⟩⟩
  · exact ⟨p', hp, rfl, .inl rfl⟩

theorem frees_dropHandle (w : World) (name : String) : Frees w (w.dropHandle name) := by
  rw [World.dropHandle]
  split
  · rename_i old ho
    intro p' hp
    rw [handles_settle]
    obtain ⟨p, hm, hi, he | ⟨hg, he, hn⟩⟩ := mem_settle hp
    · exact ⟨p, hm, hi, .inl he⟩
    · exact ⟨p, hm, hi, .inr ⟨_, Named.mem_of_get? ho, hg, he, hn⟩⟩
  · exact fun p hp => ⟨p, hp, rfl, .inl rfl⟩

theorem Frees.lets (h : Frees w w') : Lets w w' := by
  intro p' hp'
  obtain ⟨p, hp, hi, he | ⟨old, -, hg, he, hn⟩⟩ := h p' hp'
  · exact ⟨p, hp, hi, .inl he⟩
  · refine ⟨p, hp, hi, .inr ⟨old.2.range, he, fun q hq hq' => hn q hq ?_⟩⟩
    rw [hq', ← hi, hg]

theorem lets_hold (w : World) (name : String) (g : Handle) : Lets w (w.hold name g) := (frees_hold w name g).lets

theorem lets_dropHandle (w : World) (name : String) : Lets w (w.dropHandle name) := (frees_dropHandle w name).lets

theorem mem_handles_dropHandle {q : String × Handle} (h : q ∈ (w.dropHandle name).handles) : q ∈ w.handles := by
  rw [World.dropHandle] at h
  split at h
  · rw [handles_settle] at h
    exact (Named.mem_erase.1 h).1
  · exact h

/-- A handle on an open document stands for a range that is alive. -/
def HandlesLive (hs : Named Handle) (w : World) : Prop :=
  ∀ q ∈ hs, ∀ p ∈ w.documents, p.2.id = q.2.document → p.2.document.registry.isLive q.2.range = true

namespace HandlesLive

theorem lets (h : HandlesLive w'.handles w) (hl : Lets w w') : HandlesLive w'.handles w' := by
  intro q hq p' hp' hi
  obtain ⟨p, hp, hid, he | ⟨id, he, hn⟩⟩ := hl p' hp'
  · rw [he]
    exact h q hq p hp (hid.trans hi)
  · have hne : q.2.range ≠ id := fun hr => hn q hq (by rw [hi, ← hr])
    rw [he]
    refine (congrArg Option.isSome Registry.span?_release).trans ?_
    rw [if_neg hne]
    exact h q hq p hp (hid.trans hi)

theorem setDocument (h : HandlesLive w.handles w) (hp : p ∈ w.documents)
    (hd : ∀ id, p.2.document.registry.isLive id = true → d'.registry.isLive id = true) :
    HandlesLive w.handles (w.setDocument p.2.id d') := by
  intro q hq p' hp' hi
  rcases mem_setDocument hp' with ⟨hm, -⟩ | ⟨hi', hd'⟩
  · exact h q hq p' hm hi
  · rw [hd']
    exact hd _ (h q hq p hp (hi'.symm.trans hi))

theorem hold (h : HandlesLive w.handles w)
    (hg : ∀ p ∈ w.documents, p.2.id = g.document → p.2.document.registry.isLive g.range = true) :
    HandlesLive (w.hold name g).handles (w.hold name g) := by
  refine lets ?_ (lets_hold w name g)
  rw [handles_hold]
  intro q hq p hp hi
  rcases Named.mem_put.1 hq with rfl | ⟨hq, -⟩
  · exact hg p hp hi
  · exact h q hq p hp hi

theorem effect (hs : Sound ts w) (h : HandlesLive w.handles w) (he : Effect w c w') : HandlesLive w'.handles w' := by
  cases he with
  | nothing | selection => exact h
  | opened name t terminator =>
      intro q hq p hp hi
      rcases Named.mem_put.1 hp with rfl | ⟨hp, -⟩
      · exact absurd (hs.handles q hq) (by rw [← hi]; exact Nat.lt_irrefl _)
      · exact h q hq p hp hi
  | closed name => exact fun q hq p hp hi => h q hq p (Named.mem_erase.1 hp).1 hi
  | changed hp hc => exact h.setDocument hp fun _ => hc.isLive (hs.documents _ hp)
  | @created p hp tracked first last name =>
      have hc : p.2.document.Change (fun _ => False) (p.2.document.createRange tracked first last).2 :=
        .create tracked first last
      refine (h.setDocument hp fun _ => hc.isLive (hs.documents _ hp)).hold fun p' hp' hi => ?_
      rw [document_setDocument hp' hi]
      refine (congrArg Option.isSome (Registry.span?_create tracked first last)).trans ?_
      exact congrArg Option.isSome (if_pos rfl)
  | shared hq name => exact h.hold fun p hp hi => h _ hq p hp hi
  | letGo name => exact lets (fun q hq => h q (mem_handles_dropHandle hq)) (lets_dropHandle w name)

end HandlesLive

theorem handlesLive_after (cs : List Call) : HandlesLive (after cs).handles (after cs) := by
  induction cs using List.reverseRecOn with
  | nil => exact fun q hq => absurd hq List.not_mem_nil
  | append_singleton cs c ih =>
      rw [after_append]
      exact ih.effect (sound_after cs) (effect _ c)

theorem Lets.carried {placed : RangeId → Prop} (hl : Lets w w') (hp' : p' ∈ w'.documents) :
    ∃ p ∈ w.documents, p.2.id = p'.2.id ∧ ∀ {start stop t d}, Document.Carried placed start stop t d p.2.document →
      Document.Carried placed start stop t d p'.2.document := by
  obtain ⟨p, hp, hi, he | ⟨id, he, -⟩⟩ := hl p' hp'
  · exact ⟨p, hp, hi, fun h => he ▸ h⟩
  · exact ⟨p, hp, hi, fun h => he ▸ h.release id⟩

theorem Effect.carried (hs : Sound ts w) (he : Effect w c w') (hp' : p' ∈ w'.documents) (hid : p'.2.id < w.nextId) :
    ∃ p ∈ w.documents, p.2.id = p'.2.id ∧ ∃ start stop t,
      Document.Carried (fun id => c.places w ⟨p'.2.id, id⟩ = true) start stop t p.2.document p'.2.document := by
  have still : ∀ p ∈ w.documents, ∃ start stop t,
      Document.Carried (fun id => c.places w ⟨p.2.id, id⟩ = true) start stop t p.2.document p.2.document :=
    fun p hp => ⟨0, 0, [], .refl (hs.documents p hp)⟩
  cases he with
  | nothing | selection => exact ⟨p', hp', rfl, still p' hp'⟩
  | opened name t terminator =>
      rcases Named.mem_put.1 hp' with rfl | ⟨hp', -⟩
      · exact absurd hid (Nat.lt_irrefl _)
      · exact ⟨p', hp', rfl, still p' hp'⟩
  | closed name =>
      have hp' := (Named.mem_erase.1 hp').1
      exact ⟨p', hp', rfl, still p' hp'⟩
  | @changed p d' hp hc =>
      rcases mem_setDocument hp' with ⟨hm, -⟩ | ⟨hi, hd⟩
      · exact ⟨p', hm, rfl, still p' hm⟩
      · rw [hi, hd]
        exact ⟨p, hp, rfl, hc.carried (hs.documents p hp)⟩
  | @created p hp tracked first last name =>
      obtain ⟨p₁, hp₁, hi₁, hk⟩ := (lets_hold _ name _).carried hp'
      rcases mem_setDocument hp₁ with ⟨hm, -⟩ | ⟨hi, hd⟩
      · obtain ⟨start, stop, t, hc⟩ := still p₁ hm
        exact ⟨p₁, hm, hi₁, start, stop, t, hk (hi₁ ▸ hc)⟩
      · have hc : p.2.document.Change (fun id => c.places w ⟨p'.2.id, id⟩ = true)
          (p.2.document.createRange tracked first last).2 := .create tracked first last
        obtain ⟨start, stop, t, hc⟩ := hc.carried (hs.documents p hp)
        exact ⟨p, hp, hi.symm.trans hi₁, start, stop, t, hk (hd ▸ hc)⟩
  | shared hq name =>
      obtain ⟨p, hp, hi, hk⟩ := (lets_hold w name _).carried hp'
      exact ⟨p, hp, hi, 0, 0, [], hk (.refl (hs.documents p hp))⟩
  | letGo name =>
      obtain ⟨p, hp, hi, hk⟩ := (lets_dropHandle w name).carried hp'
      exact ⟨p, hp, hi, 0, 0, [], hk (.refl (hs.documents p hp))⟩

theorem document?_setDocument (w : World) (id : DocumentId) (d' : Document) (k : DocumentId) :
    (w.setDocument id d').document? k = (w.document? k).map fun d => if k = id then d' else d := by
  have hp : ((fun p : String × OpenDocument => p.2.id == k) ∘ fun (p : String × OpenDocument) =>
      (p.1, if p.2.id = id then ⟨id, d'⟩ else p.2)) = fun p => p.2.id == k := by
    funext p
    by_cases hi : p.2.id = id <;> simp [hi]
  simp only [document?, World.setDocument, List.find?_map, hp, Option.map_map]
  cases hf : w.documents.find? (fun p => p.2.id == k) with
  | none => rfl
  | some p =>
      have hk : p.2.id = k := by simpa using List.find?_some hf
      by_cases hi : k = id <;> simp [hk, hi]

theorem get?_setDocument (w : World) (id : DocumentId) (d' : Document) (name : String) :
    (w.setDocument id d').documents.get? name =
      (w.documents.get? name).map fun o => if o.id = id then ⟨id, d'⟩ else o := by
  simp only [World.setDocument, Named.get?]
  induction w.documents with
  | nil => rfl
  | cons p ps ih =>
      rw [List.map_cons, List.lookup_cons, List.lookup_cons]
      split
      · rfl
      · exact ih

theorem setDocument_setDocument (w : World) (id : DocumentId) (d d' : Document) :
    (w.setDocument id d).setDocument id d' = w.setDocument id d' := by
  simp only [World.setDocument, List.map_map]
  congr 1
  refine List.map_congr_left fun p _ => ?_
  by_cases hi : p.2.id = id <;> simp [hi]

theorem perform_edit (hs : Sound ts w) (hc : c.edits = true) {id : DocumentId} (hd : w.document? id = some d) :
    (w.perform c).2.handles = w.handles ∧ ∃ d', (w.perform c).2.document? id = some d' ∧
      (d' = d ∨ d.Edit (fun r => c.places w ⟨id, r⟩ = true) d') := by
  rw [World.perform]
  split
  · rename_i hr
    obtain ⟨p, hp, -, d', he, rfl⟩ := run_edit hc hr
    refine ⟨rfl, ?_⟩
    rw [document?_setDocument, hd]
    by_cases hi : id = p.2.id
    · subst hi
      obtain rfl := Option.some.inj ((hs.document?_eq hp).symm.trans hd)
      exact ⟨d', by simp, .inr he⟩
    · exact ⟨d, by simp [hi], .inl rfl⟩
  · exact ⟨rfl, d, hd, .inl rfl⟩

theorem places_congr (h : w'.handles = w.handles) (g : Handle) (c : Call) : c.places w' g = c.places w g := by
  unfold Call.places
  rw [h]

theorem edit_keeps {cs cs' : List Call} {id : DocumentId} {P : Document → Prop} (he : ∀ c ∈ cs', c.edits = true)
    (hP : ∀ c ∈ cs', ∀ d d' : Document, d.Sound → d'.Sound →
      d.Edit (fun r => c.places (after cs) ⟨id, r⟩ = true) d' → P d → P d')
    (hd : (after cs).document? id = some d) (h : P d) :
    (after (cs ++ cs')).handles = (after cs).handles ∧
      ∃ d', (after (cs ++ cs')).document? id = some d' ∧ P d' := by
  induction cs' using List.reverseRecOn with
  | nil =>
      rw [List.append_nil]
      exact ⟨rfl, d, hd, h⟩
  | append_singleton cs' c ih =>
      obtain ⟨hh, d₁, hd₁, h₁⟩ := ih (fun c hc => he c (List.mem_append_left _ hc))
        fun c hc => hP c (List.mem_append_left _ hc)
      have hs := sound_after (cs ++ cs')
      have hs' := sound_after (cs ++ (cs' ++ [c]))
      rw [← List.append_assoc, after_append] at hs' ⊢
      obtain ⟨hh', d₂, hd₂, hc⟩ := perform_edit hs (he c (by simp)) hd₁
      refine ⟨hh'.trans hh, d₂, hd₂, ?_⟩
      rcases hc with rfl | hc
      · exact h₁
      · -- edits bind no names, so each one means the handles that it named at the start
        simp only [places_congr hh] at hc
        exact hP c (by simp) _ _ (hs.document?_sound hd₁) (hs'.document?_sound hd₂) hc h₁

theorem edits_keep {cs cs' : List Call} {id : DocumentId} {P : Document → Prop} (he : ∀ c ∈ cs', c.edits = true)
    (hP : ∀ c ∈ cs', ∀ d d' : Document, d.Sound → d'.Sound →
      d.Change (fun r => c.places (after cs) ⟨id, r⟩ = true) d' → P d → P d')
    (hd : (after cs).document? id = some d) (h : P d) :
    (after (cs ++ cs')).handles = (after cs).handles ∧
      ∃ d', (after (cs ++ cs')).document? id = some d' ∧ P d' :=
  edit_keeps he (fun c hc d d' h h' hd => hP c hc d d' h h' hd.change) hd h

end TrackedText.World
