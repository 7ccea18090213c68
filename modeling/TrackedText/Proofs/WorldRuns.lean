import Mathlib.Data.List.Induction
import Mathlib.Data.List.Nodup
import TrackedText.Proofs.DocumentCalls
import TrackedText.Proofs.StagedReports
import TrackedText.World.Call

namespace TrackedText.World

def Call.opens : Call → Option Char
  | openText _ _ terminator => some terminator
  | openBytes _ bytes =>
    match Utf8.decode bytes with
    | .ok _ => some Story.defaultTerminator
    | .error _ => none
  | _ => none

/-- The terminators chosen in a run, document by document in the order of their numbers. -/
def opened (cs : List Call) : List Char := cs.filterMap Call.opens

variable {w w' : World} {ts : List Char} {d d' : Document} {p : String × OpenDocument} {g : Handle} {name : String}
  {a : Answer}

/-- Every open document is in order and has the terminator that it was opened with, and handles only
know ranges that have been created. -/
structure Sound (ts : List Char) (w : World) : Prop where
  count : w.nextId = ts.length
  documents : ∀ p ∈ w.documents, p.2.document.Sound
  terminators : ∀ p ∈ w.documents, ts[p.2.id]? = some p.2.document.story.terminator
  distinct : (w.documents.map (·.2.id)).Nodup
  handles : ∀ q ∈ w.handles, q.2.document < w.nextId
  ranges : ∀ q ∈ w.handles, ∀ p ∈ w.documents, p.2.id = q.2.document →
    q.2.range < p.2.document.registry.nextId

theorem mem_of_document? {id : DocumentId} (h : w.document? id = some d) :
    ∃ p ∈ w.documents, p.2.id = id ∧ p.2.document = d := by
  obtain ⟨p, hp, rfl⟩ := Option.map_eq_some_iff.1 h
  exact ⟨p, List.mem_of_find?_eq_some hp, by simpa using List.find?_some hp, rfl⟩

theorem mem_of_live {id : DocumentId} (h : w.live id = .ok d) :
    ∃ p ∈ w.documents, p.2.id = id ∧ p.2.document = d := by
  rw [live] at h
  split at h
  · rename_i d₁ hd
    split at h
    · cases h
    · cases h
      exact mem_of_document? hd
  · cases h

theorem ids_setDocument (w : World) (id : DocumentId) (d' : Document) :
    (w.setDocument id d').documents.map (·.2.id) = w.documents.map (·.2.id) := by
  simp only [World.setDocument, List.map_map]
  refine List.map_congr_left fun p _ => ?_
  by_cases hi : p.2.id = id <;> simp [hi]

theorem document?_of_distinct (hd : (w.documents.map (·.2.id)).Nodup) (hp : p ∈ w.documents) :
    w.document? p.2.id = some p.2.document := by
  cases hf : w.documents.find? (·.2.id == p.2.id) with
  | none => exact absurd (List.find?_eq_none.1 hf p hp) (by simp)
  | some q =>
      have hq : q.2.id = p.2.id := by simpa using List.find?_some hf
      have he := List.inj_on_of_nodup_map hd (List.mem_of_find?_eq_some hf) hp hq
      rw [document?, hf, he, Option.map_some]

theorem sound_empty : Sound [] empty where
  count := rfl
  documents := by simp [empty]
  terminators := by simp [empty]
  distinct := List.nodup_nil
  handles := by simp [empty]
  ranges := by simp [empty]

namespace Sound

theorem id_lt (h : Sound ts w) (hp : p ∈ w.documents) : p.2.id < w.nextId := by
  rw [h.count]
  exact (List.getElem?_eq_some_iff.1 (h.terminators p hp)).1

theorem document?_eq (h : Sound ts w) (hp : p ∈ w.documents) : w.document? p.2.id = some p.2.document :=
  document?_of_distinct h.distinct hp

theorem document?_lt (h : Sound ts w) {id : DocumentId} (hd : w.document? id = some d) : id < w.nextId := by
  obtain ⟨p, hp, rfl, -⟩ := mem_of_document? hd
  exact h.id_lt hp

theorem document?_sound (h : Sound ts w) {id : DocumentId} (hd : w.document? id = some d) : d.Sound := by
  obtain ⟨p, hp, -, rfl⟩ := mem_of_document? hd
  exact h.documents p hp

theorem setDocument (h : Sound ts w) (hp : p ∈ w.documents) (hk : p.2.document.Keeps d') :
    Sound ts (w.setDocument p.2.id d') := by
  have hmem : ∀ q ∈ (w.setDocument p.2.id d').documents, ∃ q₁ ∈ w.documents, q₁.2.id = q.2.id ∧
      q₁.2.document.Keeps q.2.document := by
    intro q hq
    obtain ⟨q₁, hm, rfl⟩ := List.mem_map.1 hq
    refine ⟨q₁, hm, ?_⟩
    by_cases he : q₁.2.id = p.2.id
    · obtain rfl := List.inj_on_of_nodup_map h.distinct hm hp he
      simp only [if_true, true_and]
      exact hk
    · simp only [he, if_false, true_and]
      exact .refl (h.documents q₁ hm)
  refine ⟨h.count, fun q hq => ?_, fun q hq => ?_, ids_setDocument w p.2.id d' ▸ h.distinct, h.handles,
    fun g hg q hq he => ?_⟩
  · obtain ⟨q₁, -, -, hk₁⟩ := hmem q hq
    exact hk₁.sound
  · obtain ⟨q₁, hm, hi, hk₁⟩ := hmem q hq
    rw [hk₁.terminator, ← hi]
    exact h.terminators q₁ hm
  · obtain ⟨q₁, hm, hi, hk₁⟩ := hmem q hq
    exact Nat.lt_of_lt_of_le (h.ranges g hg q₁ hm (hi.trans he)) hk₁.nextId

theorem withHandles (h : Sound ts w) {hs : Named Handle} (hd : ∀ q ∈ hs, q.2.document < w.nextId)
    (hr : ∀ q ∈ hs, ∀ p ∈ w.documents, p.2.id = q.2.document → q.2.range < p.2.document.registry.nextId) :
    Sound ts { w with handles := hs } :=
  ⟨h.count, h.documents, h.terminators, h.distinct, hd, hr⟩

theorem settle (h : Sound ts w) (g : Handle) : Sound ts (w.settle g) := by
  rw [World.settle]
  split
  · exact h
  · cases hd : w.document? g.document with
    | none => exact h
    | some d =>
        obtain ⟨p, hp, hi, rfl⟩ := mem_of_document? hd
        exact hi ▸ h.setDocument hp ((h.documents p hp).keeps_release g.range)

theorem dropHandle (h : Sound ts w) (name : String) : Sound ts (w.dropHandle name) := by
  rw [World.dropHandle]
  split
  · exact (h.withHandles (fun q hq => h.handles q (Named.mem_erase.1 hq).1)
      fun q hq => h.ranges q (Named.mem_erase.1 hq).1).settle _
  · exact h

theorem hold (h : Sound ts w) (name : String) (hd : g.document < w.nextId)
    (hr : ∀ p ∈ w.documents, p.2.id = g.document → g.range < p.2.document.registry.nextId) :
    Sound ts (w.hold name g) := by
  have hh : Sound ts { w with handles := w.handles.put name g } := by
    refine h.withHandles (fun q hq => ?_) (fun q hq => ?_)
    · rcases Named.mem_put.1 hq with rfl | hq
      · exact hd
      · exact h.handles q hq.1
    · rcases Named.mem_put.1 hq with rfl | hq
      · exact hr
      · exact h.ranges q hq.1
  rw [World.hold]
  split
  · exact hh.settle _
  · exact hh

theorem dropDocument (h : Sound ts w) (name : String) : Sound ts (w.dropDocument name) where
  count := h.count
  documents := fun p hp => h.documents p (Named.mem_erase.1 hp).1
  terminators := fun p hp => h.terminators p (Named.mem_erase.1 hp).1
  distinct := (List.filter_sublist.map _).nodup h.distinct
  handles := h.handles
  ranges := fun q hq p hp => h.ranges q hq p (Named.mem_erase.1 hp).1

theorem openDocument (h : Sound ts w) (name : String) (t : Text) (terminator : Char) :
    Sound (ts ++ [terminator]) (w.openDocument name (.ofText t terminator)) where
  count := by simp [World.openDocument, h.count]
  documents := by
    intro p hp
    rcases Named.mem_put.1 hp with rfl | hp
    · exact Document.sound_ofText t terminator
    · exact h.documents p hp.1
  terminators := by
    intro p hp
    rcases Named.mem_put.1 hp with rfl | hp
    · simp only [h.count, List.getElem?_concat_length]
      rfl
    · rw [List.getElem?_append_left (h.count ▸ h.id_lt hp.1)]
      exact h.terminators p hp.1
  distinct := by
    refine List.nodup_cons.2 ⟨fun hm => ?_, (h.dropDocument name).distinct⟩
    obtain ⟨p, hp, he⟩ := List.mem_map.1 hm
    exact absurd (h.id_lt (Named.mem_erase.1 hp).1) (by rw [he]; exact Nat.lt_irrefl _)
  handles := fun q hq => Nat.lt_succ_of_lt (h.handles q hq)
  ranges := by
    intro q hq p hp he
    rcases Named.mem_put.1 hp with rfl | hp
    · -- a handle made so far cannot mean a document that is only opened now
      exact absurd (h.handles q hq) (by rw [← he]; exact Nat.lt_irrefl _)
    · exact h.ranges q hq p hp.1 he

end Sound

/-! What a call that is not refused has gone through. -/

theorem of_bind {ε α β : Type} {x : Except ε α} {f : α → Except ε β} {b : β} (h : x >>= f = .ok b) :
    ∃ a, x = .ok a ∧ f a = .ok b := by
  cases x with
  | error e => cases h
  | ok a => exact ⟨a, rfl, h⟩

theorem of_refuse {α : Type} {x : Except RangeError α} {b : α} (h : refuse x = .ok b) : x = .ok b := by
  cases x with
  | error e => cases h
  | ok a => exact congrArg _ (Except.ok.inj h)

theorem mem_of_liveSelection {id : DocumentId} (h : w.liveSelection id = .ok d) :
    ∃ p ∈ w.documents, p.2.id = id ∧ p.2.document = d := by
  obtain ⟨d₁, hl, h⟩ := of_bind h
  split at h
  · cases h
  · cases h
    exact mem_of_live hl

theorem of_resolve {α : Type} {xs : Named α} {b : α} (h : resolve xs name = .ok b) : (name, b) ∈ xs := by
  rw [resolve] at h
  split at h
  · rename_i a ha
    exact Except.ok.inj h ▸ Named.mem_of_get? ha
  · cases h

theorem of_ensureOwned {o : OpenDocument} (h : ensureOwned o g = .ok ()) : g.document = o.id := by
  rw [ensureOwned] at h
  split at h
  · assumption
  · cases h

theorem document_setDocument {id : DocumentId} (hp : p ∈ (w.setDocument id d').documents) (hi : p.2.id = id) :
    p.2.document = d' := by
  obtain ⟨q, -, rfl⟩ := List.mem_map.1 hp
  by_cases hq : q.2.id = id
  · simp [hq]
  · simp [hq] at hi

theorem run_opens (w : World) {c : Call} {terminator : Char} (h : c.opens = some terminator) :
    ∃ name t, w.run c = .ok (.nothing, w.openDocument name (.ofText t terminator)) := by
  cases c with
  | openText name t k =>
      obtain rfl := Option.some.inj h
      exact ⟨name, t, rfl⟩
  | openBytes name bytes =>
      simp only [Call.opens] at h
      split at h
      · rename_i t ht
        obtain rfl := Option.some.inj h
        exact ⟨name, t, by simp only [World.run, ht]⟩
      · cases h
  | dropDocument | document | cloneHandle | dropHandle | handle | selection => cases h

namespace Sound

theorem newRange (h : Sound ts w) (hp : p ∈ w.documents) (tracked : Bool) (first last : Position) (name : String) :
    Sound ts ((w.setDocument p.2.id (p.2.document.createRange tracked first last).2).hold name
      ⟨p.2.id, (p.2.document.createRange tracked first last).1⟩) := by
  refine (h.setDocument hp ((h.documents p hp).keeps_createRange tracked first last)).hold name (h.id_lt hp)
    fun q hq hi => ?_
  rw [document_setDocument hq hi]
  cases tracked <;> exact Nat.lt_succ_self _

theorem runDocument (h : Sound ts w) (hp : p ∈ w.documents) {c : DocumentCall}
    (hr : w.runDocument p.2 c = .ok (a, w')) : Sound ts w' := by
  have hd := h.documents p hp
  cases c with
  | apply c =>
      obtain ⟨q, hq, hr⟩ := of_bind hr
      cases hr
      exact h.setDocument hp (hd.keeps_apply (of_refuse hq))
  | info => cases hr; exact h
  | createRange tracked name first last => cases hr; exact h.newRange hp tracked first last name
  | attach handle =>
      obtain ⟨g, hg, hr⟩ := of_bind hr
      obtain ⟨⟨⟩, ho, hr⟩ := of_bind hr
      cases hr
      exact h.setDocument hp (hd.keeps_attach (h.ranges _ (of_resolve hg) p hp (of_ensureOwned ho).symm))
  | detach handle =>
      obtain ⟨g, hg, hr⟩ := of_bind hr
      obtain ⟨_, -, hr⟩ := of_bind hr
      cases hr
      exact h.setDocument hp (hd.keeps_detach g.range)
  | selection name =>
      cases hr
      exact ⟨h.count, h.documents, h.terminators, h.distinct, h.handles, h.ranges⟩

theorem runHandle (h : Sound ts w) {c : HandleCall} (hr : w.runHandle g c = .ok (a, w')) : Sound ts w' := by
  obtain ⟨d, hl, hr⟩ := of_bind hr
  obtain ⟨p, hp, hi, rfl⟩ := mem_of_live (of_refuse hl)
  have hd := h.documents p hp
  cases c with
  | start | stop | length | storyLength | bounds | isCollapsed | isAttached | text => cases hr; exact h
  | move m => cases hr; exact hi ▸ h.setDocument hp (hd.keeps_moveRange g.range m)
  | setText t =>
      obtain ⟨d', hs, hr⟩ := of_bind hr
      obtain ⟨d₁, hs₁, hk⟩ := hd.setText g.range t
      obtain rfl := Except.ok.inj (hs₁.symm.trans (of_refuse hs))
      cases hr
      exact hi ▸ h.setDocument hp hk
  | deleteText =>
      obtain ⟨⟨n, d'⟩, hs, hr⟩ := of_bind hr
      obtain ⟨n₁, d₁, hs₁, hk⟩ := hd.deleteText g.range
      obtain ⟨rfl, rfl⟩ := Prod.mk.inj (Except.ok.inj (hs₁.symm.trans (of_refuse hs)))
      cases hr
      exact hi ▸ h.setDocument hp hk
  | select => cases hr; exact hi ▸ h.setDocument hp (hd.keeps_select g.range)
  | duplicate name => cases hr; exact hi ▸ h.newRange hp true _ _ name
  | inStory other | isEqual other | inRange other =>
      obtain ⟨_, -, hr⟩ := of_bind hr
      cases hr
      exact h

theorem runSelection (h : Sound ts w) {id : DocumentId} {c : SelectionCall} (hr : w.runSelection id c = .ok (a, w')) :
    Sound ts w' := by
  obtain ⟨d, hl, hr⟩ := of_bind hr
  obtain ⟨p, hp, rfl, rfl⟩ := mem_of_liveSelection (of_refuse hl)
  cases c with
  | start | stop | active | anchor | storyLength | bounds | activeEnd | isCollapsed | text => cases hr; exact h
  | move m => cases hr; exact h.setDocument hp ((h.documents p hp).keeps_moveSelection m)

theorem run (h : Sound ts w) {c : Call} (hc : c.opens = none) (hr : w.run c = .ok (a, w')) : Sound ts w' := by
  cases c with
  | openText name t terminator => cases hc
  | openBytes name bytes =>
      simp only [World.run] at hr
      split at hr
      · rename_i t ht
        simp [Call.opens, ht] at hc
      · cases hr
  | dropDocument name => cases hr; exact h.dropDocument name
  | document name c =>
      obtain ⟨o, ho, hr⟩ := of_bind hr
      exact h.runDocument (of_resolve ho) hr
  | cloneHandle name other =>
      obtain ⟨g, hg, hr⟩ := of_bind hr
      cases hr
      exact h.hold other (h.handles _ (of_resolve hg)) (h.ranges _ (of_resolve hg))
  | dropHandle name => cases hr; exact h.dropHandle name
  | handle name c =>
      obtain ⟨g, -, hr⟩ := of_bind hr
      exact h.runHandle hr
  | selection name c =>
      obtain ⟨id, -, hr⟩ := of_bind hr
      exact h.runSelection hr

theorem perform (h : Sound ts w) (c : Call) : Sound (ts ++ c.opens.toList) (w.perform c).2 := by
  cases hc : c.opens with
  | some terminator =>
      obtain ⟨name, t, hr⟩ := run_opens w hc
      rw [World.perform, hr]
      exact h.openDocument name t terminator
  | none =>
      rw [Option.toList_none, List.append_nil, World.perform]
      split
      · rename_i a w' hr
        exact h.run hc hr
      · exact h

end Sound

theorem after_append (cs : List Call) (c : Call) : after (cs ++ [c]) = ((after cs).perform c).2 := by simp [after]

theorem opened_append (cs : List Call) (c : Call) : opened (cs ++ [c]) = opened cs ++ c.opens.toList := by
  cases h : c.opens <;> simp [opened, h]

theorem sound_after (cs : List Call) : Sound (opened cs) (after cs) := by
  induction cs using List.reverseRecOn with
  | nil => exact sound_empty
  | append_singleton cs c ih =>
      rw [after_append, opened_append]
      exact ih.perform c

theorem Sound.live (h : Sound ts w) (hp : p ∈ w.documents) : w.live p.2.id = .ok p.2.document := by
  simp [World.live, h.document?_eq hp, (h.documents p hp).attached]

theorem Sound.liveSelection (h : Sound ts w) (hp : p ∈ w.documents) :
    w.liveSelection p.2.id = .ok p.2.document := by
  have hd := h.documents p hp
  simp [World.liveSelection, h.live hp, hd.registry.together, hd.attached, bind, Except.bind, pure, Except.pure]

@[simp] theorem refuse_ok {α : Type} (a : α) : refuse (.ok a) = .ok a := rfl

@[simp] theorem refuse_error {α : Type} (e : RangeError) :
    refuse (.error e : Except RangeError α) = .error (.range e) := rfl

theorem perform_eq (w : World) (c : Call) : w.perform c = orUnchanged w (w.run c) := by
  rw [World.perform]
  cases w.run c <;> rfl

theorem resolve_eq {α : Type} {xs : Named α} {b : α} (hb : xs.get? name = some b) : resolve xs name = .ok b := by
  rw [resolve, hb]

theorem perform_document {o : OpenDocument} (ho : w.documents.get? name = some o) (c : DocumentCall) :
    w.perform (.document name c) = orUnchanged w (w.runDocument o c) := by
  simp [perform_eq, World.run, resolve_eq ho]

theorem perform_handle (hg : w.handles.get? name = some g) (c : HandleCall) :
    w.perform (.handle name c) = orUnchanged w (w.runHandle g c) := by
  simp [perform_eq, World.run, resolve_eq hg]

theorem perform_selection {id : DocumentId} (hi : w.selections.get? name = some id) (c : SelectionCall) :
    w.perform (.selection name c) = orUnchanged w (w.runSelection id c) := by
  simp [perform_eq, World.run, resolve_eq hi]

theorem perform_bounds (hg : w.handles.get? name = some g) (hl : w.live g.document = .ok d) :
    w.perform (.handle name .bounds) = (.ok (.span (d.bounds g.range)), w) := by
  simp [perform_handle hg, runHandle, hl]

theorem perform_text (hg : w.handles.get? name = some g) (hl : w.live g.document = .ok d) :
    w.perform (.handle name .text) = (.ok (.text (d.rangeText g.range)), w) := by
  simp [perform_handle hg, runHandle, hl]

theorem perform_selectionBounds {id : DocumentId} (hi : w.selections.get? name = some id)
    (hl : w.liveSelection id = .ok d) :
    w.perform (.selection name .bounds) = (.ok (.span d.registry.selection.span), w) := by
  simp [perform_selection hi, runSelection, hl]

theorem perform_apply {o : OpenDocument} {c : Command} {q : Patch} (ho : w.documents.get? name = some o)
    (hq : o.document.apply c = .ok (q, d')) :
    w.perform (.document name (.apply c)) = (.ok (.patch q), w.setDocument o.id d') := by
  simp [perform_document ho, runDocument, hq]

/-- Whatever a run does, the stored text of an open document is its text and the terminator that it was
opened with, both counters of its length agree with that, what the registry stores of tracked ranges and
of the selection lies inside the story, and so does what is read through any handle. -/
theorem documents_stay_in_step (cs : List Call) :
    (∀ name o, (after cs).documents.get? name = some o →
      o.document.story.content = o.document.story.text ++ [o.document.story.terminator] ∧
      (opened cs)[o.id]? = some o.document.story.terminator ∧
      o.document.story.length = o.document.story.text.length + 1 ∧
      o.document.story.length = o.document.registry.extent.length ∧
      (∀ id s, o.document.registry.span? id = some s → o.document.registry.isTracked id = true →
        s.start ≤ s.stop ∧ s.stop ≤ o.document.story.length) ∧
      o.document.registry.selection.span.start ≤ o.document.registry.selection.span.stop ∧
      o.document.registry.selection.span.stop ≤ o.document.story.length) ∧
    (∀ name g d, (after cs).handles.get? name = some g → (after cs).document? g.document = some d →
      ∃ s, (after cs).perform (.handle name .bounds) = (.ok (.span s), after cs) ∧
        s.start ≤ s.stop ∧ s.stop ≤ d.story.length) ∧
    ∀ name id d, (after cs).selections.get? name = some id → (after cs).document? id = some d →
      ∃ s, (after cs).perform (.selection name .bounds) = (.ok (.span s), after cs) ∧
        s.start ≤ s.stop ∧ s.stop ≤ d.story.length := by
  have h := sound_after cs
  refine ⟨fun name o ho => ?_, fun name g d hg hd => ?_, fun name id d hi hd => ?_⟩
  · have hm := Named.mem_of_get? ho
    have hd : o.document.Sound := h.documents _ hm
    have hsel := hd.registry.selected
    refine ⟨hd.story.content_eq, h.terminators _ hm, hd.story.length_eq, hd.inStep, fun id s hs ht => ?_,
      hsel.ordered, hd.inStep ▸ hsel.bounded⟩
    have hspan := hd.registry.inStory_span? hs (Registry.isTracked_iff.1 ht)
    exact ⟨hspan.ordered, hd.inStep ▸ hspan.bounded⟩
  · obtain ⟨p, hp, he, rfl⟩ := mem_of_document? hd
    exact ⟨_, perform_bounds hg (he ▸ h.live hp), (h.documents p hp).bounds_inStory g.range⟩
  · obtain ⟨p, hp, rfl, rfl⟩ := mem_of_document? hd
    have hd := h.documents p hp
    exact ⟨_, perform_selectionBounds hi (h.liveSelection hp), hd.registry.selected.ordered,
      hd.inStep ▸ hd.registry.selected.bounded⟩

/-- A document edited through a command and through a handle; one of its ranges misses an edit. -/
def editedRun : List Call :=
  [.openText "d" ['n', 'a', 'ï', 'v', 'e', 't', 'é'] '\n', .document "d" (.createRange true "r" 1 5),
    .cloneHandle "r" "s", .document "d" (.selection "c"), .selection "c" (.move (.both 6 2)),
    .handle "r" (.duplicate "q"), .handle "q" (.setText ['x', 'y', 'z', 'w']), .document "d" (.detach "r"),
    .document "d" (.apply (.replaceRange 7 3 ['é'])), .dropHandle "s"]

theorem documents_stay_in_step_editedRun :
    (∃ o, (after editedRun).documents.get? "d" = some o ∧
      (opened editedRun)[o.id]? = some o.document.story.terminator ∧
      o.document.story.length = o.document.story.text.length + 1) ∧
    (∃ s, (after editedRun).perform (.handle "r" .bounds) = (.ok (.span s), after editedRun) ∧
      s.start ≤ s.stop ∧ s.stop ≤ 5) ∧
    ∃ s, (after editedRun).perform (.selection "c" .bounds) = (.ok (.span s), after editedRun) ∧
      s.start ≤ s.stop ∧ s.stop ≤ 5 := by
  obtain ⟨hdocuments, hhandles, hselections⟩ := documents_stay_in_step editedRun
  obtain ⟨o, ho⟩ : ∃ o, (after editedRun).documents.get? "d" = some o := ⟨_, rfl⟩
  obtain ⟨-, hterminator, hlength, -⟩ := hdocuments "d" o ho
  exact ⟨⟨o, ho, hterminator, hlength⟩, hhandles "r" ⟨0, 0⟩ _ rfl rfl, hselections "c" 0 _ rfl rfl⟩

/-- A command is carried out on any document that can be reached, and what a tracked range or the
selection covers afterwards is what it covered before, but for the characters taken out, and with the new
ones exactly if it had begun and not yet ended where the command's interval ends. -/
theorem edits_keep_covered_text (cs : List Call) (name : String) (o : OpenDocument) (c : Command)
    (ho : (after cs).documents.get? name = some o) :
    ∃ q d', (after cs).perform (.document name (.apply c)) = (.ok (.patch q), (after cs).setDocument o.id d') ∧
      (∀ id, o.document.registry.isTracked id = true →
        d'.rangeText id = Text.covered (c.interval o.document.story.length).1 (c.interval o.document.story.length).2
          c.text (o.document.bounds id) o.document.story.content) ∧
      d'.textIn d'.registry.selection.span =
        Text.covered (c.interval o.document.story.length).1 (c.interval o.document.story.length).2
          c.text o.document.registry.selection.span o.document.story.content ∧
      ∀ handle g, (after cs).handles.get? handle = some g → g.document = o.id →
        ((after cs).setDocument o.id d').perform (.handle handle .text) =
          (.ok (.text (d'.rangeText g.range)), (after cs).setDocument o.id d') := by
  have h := sound_after cs
  have hm := Named.mem_of_get? ho
  have hd : o.document.Sound := h.documents _ hm
  obtain ⟨q, d', hq, hr⟩ := hd.apply c
  refine ⟨q, d', perform_apply ho hq, fun id ht => hr.rangeText_eq hd ht, hr.selectionText_eq hd,
    fun handle g hg hi => perform_text hg ?_⟩
  have h' : Sound (opened cs) ((after cs).setDocument o.id d') := h.setDocument hm hr.keeps
  have hm' : (name, ⟨o.id, d'⟩) ∈ ((after cs).setDocument o.id d').documents :=
    List.mem_map.2 ⟨_, hm, by simp⟩
  rw [hi]
  exact h'.live hm'

theorem edits_keep_covered_text_editedRun :
    ∃ w', ((after editedRun).perform (.document "d" (.apply (.replaceRange 1 0 ['!', '?'])))).2 = w' ∧
      (w'.perform (.handle "q" .text)).1 = .ok (.text ['!', '?', 'x', 'y']) := by
  have hrun : ((after editedRun).documents.get? "d").map (fun o =>
      (o.id, o.document.story.length, o.document.story.content, o.document.bounds 1,
        o.document.registry.isTracked 1)) =
      some (0, 5, ['n', 'x', 'y', 'é', '\n'], ⟨1, 3⟩, true) := by decide +kernel
  have hg : (after editedRun).handles.get? "q" = some ⟨0, 1⟩ := by decide +kernel
  obtain ⟨o, ho, heq⟩ := Option.map_eq_some_iff.1 hrun
  simp only [Prod.mk.injEq] at heq
  obtain ⟨hid, hlength, hcontent, hbounds, htracked⟩ := heq
  obtain ⟨q, d', hp, hranges, -, hread⟩ :=
    edits_keep_covered_text editedRun "d" o (.replaceRange 1 0 ['!', '?']) ho
  refine ⟨_, congrArg Prod.snd hp, ?_⟩
  rw [hread "q" ⟨0, 1⟩ hg hid.symm, hranges 1 htracked, hlength, hcontent, hbounds]
  rfl

end TrackedText.World
