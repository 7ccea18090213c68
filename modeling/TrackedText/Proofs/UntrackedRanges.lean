import TrackedText.Proofs.ReadingCalls
import TrackedText.Proofs.RelativePlaces

namespace TrackedText

namespace Registry

variable {r r' : Registry} {id other : RangeId} {s : Span}

theorem Confined.withSelection {own : RangeId → Prop} (ht : ∀ id ∈ r.tracked, own id) (t : Selection) :
    Confined own r { r with selection := t } := ⟨rfl, rfl, ht, fun _ _ => rfl⟩

/-- The range has been made and is not tracked; as long as somebody holds it, it stays at `s`. -/
structure Frozen (id : RangeId) (s : Span) (r : Registry) : Prop where
  old : id < r.nextId
  untracked : id ∉ r.tracked
  span? : ∀ s', r.span? id = some s' → s' = s

namespace Frozen

theorem ne_of_mem (h : r.Frozen id s) (hm : other ∈ r.tracked) : other ≠ id := fun he => h.untracked (he ▸ hm)

theorem grown (h : r.Frozen id s) (hg : r.Grown (· ≠ id) r') : r'.Frozen id s where
  old := Nat.lt_of_lt_of_le h.old hg.older
  untracked := by
    intro hm
    rcases hg.tracked id hm with hne | ⟨hle, -⟩
    · exact hne rfl
    · exact Nat.not_lt.2 hle h.old
  span? := by
    intro s' hs
    refine h.span? s' (Eq.trans ?_ hs)
    simp only [Registry.span?, ← List.head?_filter,
      hg.frame (· == id) fun i hi => ⟨beq_iff_eq.1 hi ▸ h.old, fun hne => hne (beq_iff_eq.1 hi)⟩]

theorem release (h : r.Frozen id s) (other : RangeId) : (r.release other).Frozen id s where
  old := h.old
  untracked := h.untracked
  span? := by
    intro s' hs
    rw [span?_release] at hs
    split at hs
    · cases hs
    · exact h.span? s' hs

end Frozen

end Registry

theorem Document.Sound.bounds_stored {d : Document} {id : RangeId} {s : Span} (h : d.Sound)
    (hs : d.registry.span? id = some s) :
    d.bounds id = ⟨min s.start d.story.length, min s.stop d.story.length⟩ := by
  have ho := h.registry.ordered_span? hs
  have hmin : min s.start d.story.length ≤ min s.stop d.story.length := by omega
  simp only [Document.bounds, Registry.span_eq hs, Span.narrow, Extent.narrow, ← h.inStep, Nat.max_eq_left hmin]

theorem Handle.eq_of_range {g h : Handle} (hd : g.document = h.document) (hr : g.range = h.range) : g = h := by
  cases g
  cases h
  exact congr (congrArg mk hd) hr

namespace World

open Registry

/-- The call attaches the range of the handle, or puts it somewhere, by way of the handle or a clone. -/
def Call.disturbs (w : World) (g : Handle) : Call → Bool
  | handle name (.move _) | handle name (.setText _) | handle name .deleteText => w.handles.get? name = some g
  | document owner (.attach name) =>
    (w.documents.get? owner).map (·.id) = some g.document && w.handles.get? name = some g
  | _ => false

/-- No call of the run, in the state it meets, disturbs the range. -/
def undisturbed (g : Handle) (w : World) : List Call → Bool
  | [] => true
  | c :: cs => !c.disturbs w g && undisturbed g (w.perform c).2 cs

variable {w w' : World} {g h : Handle} {s : Span} {o : OpenDocument} {d' : Document} {p : String × OpenDocument}
  {id : DocumentId} {name : String} {a : Answer} {c : Call}

def Frozen (g : Handle) (s : Span) (w : World) : Prop :=
  ∀ p ∈ w.documents, p.2.id = g.document → p.2.document.registry.Frozen g.range s

namespace Frozen

theorem frees (h : w.Frozen g s) (hf : Frees w w') : w'.Frozen g s := by
  intro p' hp' hi
  obtain ⟨p, hp, hid, he | ⟨old, -, -, he, -⟩⟩ := hf p' hp'
  · exact he ▸ h p hp (hid.trans hi)
  · exact he ▸ (h p hp (hid.trans hi)).release old.2.range

theorem changed (h : w.Frozen g s) (hp : p ∈ w.documents)
    (hd : p.2.id = g.document → (∀ id ∈ p.2.document.registry.tracked, id ≠ g.range) →
      p.2.document.registry.Grown (· ≠ g.range) d'.registry) : (w.setDocument p.2.id d').Frozen g s := by
  intro p' hp' hi
  rcases mem_setDocument hp' with ⟨hm, -⟩ | ⟨hid, he⟩
  · exact h p' hm hi
  · have hf := h p hp (hid.symm.trans hi)
    exact he ▸ hf.grown (hd (hid.symm.trans hi) fun _ => hf.ne_of_mem)

theorem created (h : w.Frozen g s) (hp : p ∈ w.documents) (tracked : Bool) (first last : Position) (name : String) :
    ((w.setDocument p.2.id (p.2.document.createRange tracked first last).2).hold name
      ⟨p.2.id, (p.2.document.createRange tracked first last).1⟩).Frozen g s :=
  (h.changed hp fun _ ht => grown_create ht tracked first last).frees (frees_hold _ _ _)

theorem opened (h : w.Frozen g s) (hg : g.document < w.nextId) (name : String) (d : Document) :
    (w.openDocument name d).Frozen g s := by
  intro p hp hi
  rcases Named.mem_put.1 hp with rfl | ⟨hp, -⟩
  · exact absurd hg (by rw [← hi]; exact Nat.lt_irrefl _)
  · exact h p hp hi

theorem runDocument (h : w.Frozen g s) (ho : w.documents.get? name = some o) {c : DocumentCall}
    (hc : (Call.document name c).disturbs w g = false) (hr : w.runDocument o c = .ok (a, w')) : w'.Frozen g s := by
  have hp := Named.mem_of_get? ho
  cases c with
  | apply c =>
      obtain ⟨q, hq, hr⟩ := of_bind hr
      cases hr
      exact h.changed hp fun _ ht => (Document.apply_confined ht (of_refuse hq)).grown
  | info | selection => cases hr; exact h
  | createRange tracked name first last => cases hr; exact h.created hp tracked first last name
  | attach handle =>
      obtain ⟨g', hg', hr⟩ := of_bind hr
      obtain ⟨⟨⟩, he, hr⟩ := of_bind hr
      cases hr
      refine h.changed hp fun hi ht => (Confined.attach ht ?_).grown
      intro hrange
      obtain rfl := Handle.eq_of_range ((of_ensureOwned he).trans hi) hrange
      simp [Call.disturbs, ho, of_ensureOwned he, get?_of_resolve hg'] at hc
  | detach handle =>
      obtain ⟨g', -, hr⟩ := of_bind hr
      obtain ⟨_, -, hr⟩ := of_bind hr
      cases hr
      exact h.changed hp fun _ ht => (Confined.detach ht g'.range).grown

theorem runHandle (hf : w.Frozen g s) (hh : w.handles.get? name = some h) {c : HandleCall}
    (hc : (Call.handle name c).disturbs w g = false) (hr : w.runHandle h c = .ok (a, w')) : w'.Frozen g s := by
  obtain ⟨d, hl, hr⟩ := of_bind hr
  obtain ⟨p, hp, hi, rfl⟩ := mem_of_live (of_refuse hl)
  have hother (hne : h ≠ g) (hid : p.2.id = g.document) : h.range ≠ g.range :=
    fun hrange => hne (Handle.eq_of_range (hi.symm.trans hid) hrange)
  cases c with
  | start | stop | length | storyLength | bounds | isCollapsed | isAttached | text => cases hr; exact hf
  | move m =>
      cases hr
      have hne : h ≠ g := by simpa [Call.disturbs, hh] using hc
      exact hi ▸ hf.changed hp fun hid ht => ((Confined.refl ht).setSpan (hother hne hid) _).grown
  | setText t =>
      obtain ⟨d', hd', hr⟩ := of_bind hr
      cases hr
      have hne : h ≠ g := by simpa [Call.disturbs, hh] using hc
      exact hi ▸ hf.changed hp fun hid ht => (Document.setText_confined ht (hother hne hid) (of_refuse hd')).grown
  | deleteText =>
      obtain ⟨q, hq, hr⟩ := of_bind hr
      cases hr
      have hne : h ≠ g := by simpa [Call.disturbs, hh] using hc
      exact hi ▸ hf.changed hp fun hid ht => (Document.deleteText_confined ht (hother hne hid) (of_refuse hq)).grown
  | select =>
      cases hr
      exact hi ▸ hf.changed hp fun _ ht => (Confined.withSelection ht _).grown
  | duplicate name => cases hr; exact hi ▸ hf.created hp true _ _ name
  | inStory | isEqual | inRange =>
      obtain ⟨_, -, hr⟩ := of_bind hr
      cases hr
      exact hf

theorem runSelection (h : w.Frozen g s) {c : SelectionCall} (hr : w.runSelection id c = .ok (a, w')) :
    w'.Frozen g s := by
  obtain ⟨d, hl, hr⟩ := of_bind hr
  obtain ⟨p, hp, rfl, rfl⟩ := mem_of_liveSelection (of_refuse hl)
  cases c with
  | start | stop | active | anchor | storyLength | bounds | activeEnd | isCollapsed | text => cases hr; exact h
  | move m =>
      cases hr
      exact h.changed hp fun _ ht => (Confined.withSelection ht _).grown

theorem run (h : w.Frozen g s) (hg : g.document < w.nextId) (hc : c.disturbs w g = false)
    (hr : w.run c = .ok (a, w')) : w'.Frozen g s := by
  cases c with
  | openText name t terminator => cases hr; exact h.opened hg name _
  | openBytes name bytes =>
      simp only [World.run] at hr
      split at hr
      · cases hr; exact h.opened hg name _
      · cases hr
  | dropDocument name => cases hr; exact fun p hp => h p (Named.mem_erase.1 hp).1
  | document name c =>
      obtain ⟨o, ho, hr⟩ := of_bind hr
      exact h.runDocument (get?_of_resolve ho) hc hr
  | cloneHandle name other =>
      obtain ⟨g', -, hr⟩ := of_bind hr
      cases hr
      exact h.frees (frees_hold w other g')
  | dropHandle name => cases hr; exact h.frees (frees_dropHandle w name)
  | handle name c =>
      obtain ⟨g', hg', hr⟩ := of_bind hr
      exact h.runHandle (get?_of_resolve hg') hc hr
  | selection name c =>
      obtain ⟨id, -, hr⟩ := of_bind hr
      exact h.runSelection hr

theorem perform (h : w.Frozen g s) (hg : g.document < w.nextId) (hc : c.disturbs w g = false) :
    (w.perform c).2.Frozen g s := by
  rw [World.perform]
  split
  · rename_i hr
    exact h.run hg hc hr
  · exact h

theorem foldl (h : w.Frozen g s) (hg : g.document < w.nextId) {cs : List Call} (hu : undisturbed g w cs = true) :
    (cs.foldl (fun w c => (w.perform c).2) w).Frozen g s := by
  induction cs generalizing w with
  | nil => exact h
  | cons c cs ih =>
      rw [undisturbed, Bool.and_eq_true, Bool.not_eq_true'] at hu
      exact ih (h.perform hg hu.1) (Nat.lt_of_lt_of_le hg (course w c).nextId) hu.2

end Frozen

/-- A range that is not tracked is frozen: as long as nobody attaches it or puts it somewhere by way of its own
handles, what is stored of it is what was stored at first, and it reads as the part of that inside the story of
the moment. So it reads as at first whenever the story reaches to its end, however short it has been meanwhile.
Reading leaves no trace. -/
theorem untracked_ranges_are_frozen (cs : List Call) (name : String) (g : Handle) (d : Document)
    (hg : (after cs).handles.get? name = some g) (hd : (after cs).document? g.document = some d)
    (ht : d.registry.isTracked g.range = false) :
    ∃ s, d.registry.span? g.range = some s ∧ ∀ cs', undisturbed g (after cs) cs' = true →
      (∀ name' d', (after (cs ++ cs')).handles.get? name' = some g →
        (after (cs ++ cs')).document? g.document = some d' →
        d'.registry.span? g.range = some s ∧ d'.registry.isTracked g.range = false ∧
        (after (cs ++ cs')).perform (.handle name' .bounds) =
          (.ok (.span ⟨min s.start d'.story.length, min s.stop d'.story.length⟩), after (cs ++ cs')) ∧
        (s.stop ≤ d'.story.length →
          (after (cs ++ cs')).perform (.handle name' .bounds) = (.ok (.span s), after (cs ++ cs')))) ∧
      (∀ c : Call, c.reads = true → ((after (cs ++ cs')).perform c).2 = after (cs ++ cs')) ∧
      after (cs ++ cs'.filter fun c => !c.reads) = after (cs ++ cs') := by
  have hw := sound_after cs
  obtain ⟨p, hp, hi, rfl⟩ := mem_of_document? hd
  obtain ⟨s, hs⟩ := Option.isSome_iff_exists.1 (handlesLive_after cs _ (Named.mem_of_get? hg) p hp hi)
  have hfrozen : (after cs).Frozen g s := by
    intro p' hp' hi'
    obtain rfl := List.inj_on_of_nodup_map hw.distinct hp' hp (hi'.trans hi.symm)
    refine ⟨hw.ranges _ (Named.mem_of_get? hg) p' hp' hi', fun hm => ?_, fun s' hs' => ?_⟩
    · simp [isTracked_iff.2 hm] at ht
    · exact Option.some.inj (hs'.symm.trans hs)
  refine ⟨s, hs, fun cs' hu => ⟨fun name' d' hg' hd' => ?_, fun c hc => perform_reads _ hc, ?_⟩⟩
  · have hw' := sound_after (cs ++ cs')
    obtain ⟨p', hp', hi', rfl⟩ := mem_of_document? hd'
    have hf := hfrozen.foldl (hw.handles _ (Named.mem_of_get? hg)) hu
    rw [after_append_append] at hf
    obtain ⟨s', hs'⟩ := Option.isSome_iff_exists.1 (handlesLive_after _ _ (Named.mem_of_get? hg') p' hp' hi')
    obtain rfl := (hf p' hp' hi').span? s' hs'
    have hb := (hw'.documents p' hp').bounds_stored hs'
    have hread := perform_bounds hg' (hi' ▸ hw'.live hp')
    refine ⟨hs', ?_, hb ▸ hread, fun hstop => ?_⟩
    · exact Bool.eq_false_iff.2 fun htracked => (hf p' hp' hi').untracked (isTracked_iff.1 htracked)
    · have hstart := Nat.le_trans ((hw'.documents p' hp').registry.ordered_span? hs') hstop
      rw [hread, hb, Nat.min_eq_left hstart, Nat.min_eq_left hstop]
  · rw [← after_append_append cs, foldl_filter_reads, after_append_append]

def frozenRun : List Call :=
  [.openText "d" ['n', 'a', 'ï', 'v', 'e', 't', 'é'] '\n', .document "d" (.createRange false "r" 3 6),
    .document "d" (.createRange true "t" 0 5)]

def frozenEdits : List Call :=
  [.handle "t" .deleteText, .handle "r" .bounds, .handle "r" .select, .handle "r" (.duplicate "q"),
    .cloneHandle "r" "copy", .dropHandle "r", .document "d" (.detach "copy"), .document "d" (.attach "q"),
    .handle "q" (.setText ['☃', '!', '?', 'x'])]

theorem untracked_ranges_are_frozen_frozenRun :
    ((after (frozenRun ++ frozenEdits.take 1)).perform (.handle "r" .bounds)).1 = .ok (.span ⟨3, 3⟩) ∧
      ((after (frozenRun ++ frozenEdits)).perform (.handle "copy" .bounds)).1 = .ok (.span ⟨3, 6⟩) := by
  obtain ⟨d, hd⟩ : ∃ d, (after frozenRun).document? 0 = some d := ⟨_, rfl⟩
  have hrun : ((after frozenRun).document? 0).map (fun d => (d.registry.isTracked 0, d.registry.span? 0)) =
      some (false, some ⟨3, 6⟩) := by decide +kernel
  rw [hd, Option.map_some, Option.some.injEq, Prod.mk.injEq] at hrun
  obtain ⟨s, hs, hfrozen⟩ := untracked_ranges_are_frozen frozenRun "r" ⟨0, 0⟩ d (by decide +kernel) hd hrun.1
  obtain rfl : s = ⟨3, 6⟩ := Option.some.inj (hs.symm.trans hrun.2)
  constructor
  · have hlength : ((after (frozenRun ++ frozenEdits.take 1)).document? 0).map (·.story.length) = some 3 := by
      decide +kernel
    obtain ⟨d', hd', hl⟩ := Option.map_eq_some_iff.1 hlength
    obtain ⟨hreads, -⟩ := hfrozen (frozenEdits.take 1) (by decide +kernel)
    obtain ⟨-, -, hread, -⟩ := hreads "r" d' (by decide +kernel) hd'
    rw [hread, hl]
    rfl
  · have hlength : ((after (frozenRun ++ frozenEdits)).document? 0).map (·.story.length) = some 7 := by
      decide +kernel
    obtain ⟨d', hd', hl⟩ := Option.map_eq_some_iff.1 hlength
    obtain ⟨hreads, -⟩ := hfrozen frozenEdits (by decide +kernel)
    obtain ⟨-, -, -, hread⟩ := hreads "copy" d' (by decide +kernel) hd'
    rw [hread (by rw [hl]; decide)]

end World

end TrackedText
