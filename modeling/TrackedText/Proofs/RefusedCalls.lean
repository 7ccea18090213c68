import TrackedText.Proofs.StagedCalls

namespace TrackedText.World

/-- No name stands for the document any more. -/
def Gone (w : World) (id : DocumentId) : Prop := ∀ p ∈ w.documents, p.2.id ≠ id

instance (w : World) (id : DocumentId) : Decidable (w.Gone id) :=
  inferInstanceAs (Decidable (∀ p ∈ w.documents, p.2.id ≠ id))

def Fails (w : World) (c : Call) : Prop := ∃ e, (w.perform c).1 = .error e

def HandleCall.operands : HandleCall → List String
  | inStory other | isEqual other | inRange other => [other]
  | _ => []

variable {w : World} {ts : List Char} {g h : Handle} {o : OpenDocument} {id : DocumentId} {name other : String}
  {c : Call} {e : RangeError} {P : Prop}

theorem fails_iff (hr : P → w.perform c = (.error (.range e), w))
    (ha : ¬ P → ∃ a w', w.perform c = (.ok a, w')) : w.Fails c ↔ P := by
  constructor
  · rintro ⟨f, hf⟩
    by_contra hp
    obtain ⟨a, w', hc⟩ := ha hp
    rw [hc] at hf
    cases hf
  · intro hp
    exact ⟨_, congrArg Prod.fst (hr hp)⟩

theorem live_gone (hg : w.Gone id) : w.live id = .error .detached := by
  have hf : w.documents.find? (·.2.id == id) = none := List.find?_eq_none.2 fun p hp => by simpa using hg p hp
  rw [live, document?, hf]
  rfl

theorem liveSelection_gone (hg : w.Gone id) : w.liveSelection id = .error .detached := by
  rw [liveSelection, live_gone hg]
  rfl

theorem not_gone (hg : ¬ w.Gone id) : ∃ p ∈ w.documents, p.2.id = id := by
  simpa [Gone] using hg

/-! Nothing is asked of a handle before its document is. -/

theorem perform_handle_gone (hn : w.handles.get? name = some g) (hg : w.Gone g.document) (c : HandleCall) :
    w.perform (.handle name c) = (.error (.range .detached), w) := by
  simp [perform_handle hn, runHandle, live_gone hg]

theorem perform_selection_gone (hn : w.selections.get? name = some id) (hg : w.Gone id) (c : SelectionCall) :
    w.perform (.selection name c) = (.error (.range .detached), w) := by
  simp [perform_selection hn, runSelection, liveSelection_gone hg]

namespace Sound

theorem handle_carried_out (hs : Sound ts w) (hn : w.handles.get? name = some g) (hg : ¬ w.Gone g.document)
    {c : HandleCall} (hc : ∀ other ∈ c.operands, ∃ h, w.handles.get? other = some h) :
    ∃ a w', w.perform (.handle name c) = (.ok a, w') := by
  obtain ⟨p, hp, hi⟩ := not_gone hg
  have hl : w.live g.document = .ok p.2.document := hi ▸ hs.live hp
  cases c with
  | setText t =>
      obtain ⟨d', hd, -⟩ := (hs.documents p hp).setText g.range t
      simp [perform_handle hn, World.runHandle, hl, hd]
  | deleteText =>
      obtain ⟨n, d', hd, -⟩ := (hs.documents p hp).deleteText g.range
      simp [perform_handle hn, World.runHandle, hl, hd]
  | inStory other | isEqual other | inRange other =>
      obtain ⟨h, hh⟩ := hc other (List.mem_singleton_self other)
      simp [perform_handle hn, World.runHandle, hl, resolve_eq hh]
  | start | stop | length | storyLength | bounds | isCollapsed | isAttached | text | move | select | duplicate =>
      simp [perform_handle hn, World.runHandle, hl]

theorem selection_carried_out (hs : Sound ts w) (hn : w.selections.get? name = some id) (hg : ¬ w.Gone id)
    (c : SelectionCall) : ∃ a w', w.perform (.selection name c) = (.ok a, w') := by
  obtain ⟨p, hp, rfl⟩ := not_gone hg
  cases c <;> simp [perform_selection hn, World.runSelection, hs.liveSelection hp]

theorem perform_apart (hs : Sound ts w) (hn : w.handles.get? name = some g) (hh : w.handles.get? other = some h)
    (hg : ¬ w.Gone g.document) (ha : h.document ≠ g.document) {c : HandleCall}
    (hc : c ∈ [.inStory other, .isEqual other, .inRange other]) :
    w.perform (.handle name c) = (.ok (.flag false), w) := by
  obtain ⟨p, hp, hi⟩ := not_gone hg
  have hl : w.live g.document = .ok p.2.document := hi ▸ hs.live hp
  simp only [List.mem_cons, List.not_mem_nil, or_false] at hc
  rcases hc with rfl | rfl | rfl
  all_goals simp [perform_handle hn, World.runHandle, hl, resolve_eq hh, ha]

end Sound

theorem perform_foreign (ho : w.documents.get? name = some o) (hh : w.handles.get? other = some h)
    (hf : h.document ≠ o.id) {c : DocumentCall} (hc : c = .attach other ∨ c = .detach other) :
    w.perform (.document name c) = (.error (.range .foreignDocument), w) := by
  rcases hc with rfl | rfl
  all_goals simp [perform_document ho, runDocument, resolve_eq hh, ensureOwned, hf]

theorem own_carried_out (ho : w.documents.get? name = some o) (hh : w.handles.get? other = some h)
    (hf : h.document = o.id) {c : DocumentCall} (hc : c = .attach other ∨ c = .detach other) :
    ∃ a w', w.perform (.document name c) = (.ok a, w') := by
  rcases hc with rfl | rfl
  all_goals simp [perform_document ho, runDocument, resolve_eq hh, ensureOwned, hf]

/-- A handle fails if its document is gone and in no other case, a document takes every handle of its own
and no other one, and to compare with a handle of another document is no failure, whether that one is gone or
not. A call that fails leaves the world as it met it, although each of its steps changes the world at once. -/
theorem refusals_are_exact (cs : List Call) :
    (∀ name g c, (after cs).handles.get? name = some g →
      ((after cs).Gone g.document →
        (after cs).perform (.handle name c) = (.error (.range .detached), after cs)) ∧
      ((∀ other ∈ c.operands, ∃ h, (after cs).handles.get? other = some h) →
        ((after cs).Fails (.handle name c) ↔ (after cs).Gone g.document))) ∧
    (∀ name id c, (after cs).selections.get? name = some id →
      ((after cs).Gone id → (after cs).perform (.selection name c) = (.error (.range .detached), after cs)) ∧
      ((after cs).Fails (.selection name c) ↔ (after cs).Gone id)) ∧
    (∀ name o other h c, (after cs).documents.get? name = some o → (after cs).handles.get? other = some h →
      c = .attach other ∨ c = .detach other →
      (h.document ≠ o.id →
        (after cs).perform (.document name c) = (.error (.range .foreignDocument), after cs)) ∧
      ((after cs).Fails (.document name c) ↔ h.document ≠ o.id)) ∧
    (∀ name other g h, (after cs).handles.get? name = some g → (after cs).handles.get? other = some h →
      ¬ (after cs).Gone g.document → h.document ≠ g.document →
      ∀ c ∈ [HandleCall.inStory other, .isEqual other, .inRange other],
        (after cs).perform (.handle name c) = (.ok (.flag false), after cs)) ∧
    ∀ c, (staged c).outcome (after cs) = (after cs).perform c ∧
      ∀ e, ((staged c).outcome (after cs)).1 = .error e → ((staged c).outcome (after cs)).2 = after cs := by
  have hs := sound_after cs
  refine ⟨?_, ?_, ?_, ?_, ?_⟩
  · intro name g c hn
    have hr := fun hg => perform_handle_gone hn hg c
    exact ⟨hr, fun hc => fails_iff hr fun hg => hs.handle_carried_out hn hg hc⟩
  · intro name id c hn
    have hr := fun hg => perform_selection_gone hn hg c
    exact ⟨hr, fails_iff hr fun hg => hs.selection_carried_out hn hg c⟩
  · intro name o other h c ho hh hc
    have hr := fun hf => perform_foreign ho hh hf hc
    exact ⟨hr, fails_iff hr fun hf => own_carried_out ho hh (not_not.1 hf) hc⟩
  · intro name other g h hn hh hg ha c hc
    exact hs.perform_apart hn hh hg ha hc
  · intro c
    refine ⟨hs.staged c, fun e he => ?_⟩
    rw [hs.staged, perform_eq] at he ⊢
    exact unchanged_of_error he

def strayRun : List Call :=
  editedRun ++ [.openText "e" ['a', 'b'] '\n', .document "e" (.createRange true "t" 0 1),
    .document "e" (.selection "k"), .openText "e" ['z'] '\n', .document "e" (.createRange false "u" 0 9)]

theorem refusals_are_exact_strayRun :
    (after strayRun).perform (.handle "t" (.setText ['!'])) = (.error (.range .detached), after strayRun) ∧
    ¬ (after strayRun).Fails (.handle "q" (.setText ['!'])) ∧
    ¬ (after strayRun).Fails (.handle "u" (.isEqual "t")) ∧
    (after strayRun).perform (.selection "k" .active) = (.error (.range .detached), after strayRun) ∧
    ¬ (after strayRun).Fails (.selection "c" .active) ∧
    (after strayRun).perform (.document "d" (.attach "t")) = (.error (.range .foreignDocument), after strayRun) ∧
    (after strayRun).perform (.document "e" (.detach "q")) = (.error (.range .foreignDocument), after strayRun) ∧
    (after strayRun).perform (.handle "q" (.inRange "t")) = (.ok (.flag false), after strayRun) ∧
    (after strayRun).perform (.handle "q" (.isEqual "u")) = (.ok (.flag false), after strayRun) ∧
    ((staged (.document "d" (.attach "t"))).outcome (after strayRun)).2 = after strayRun := by
  obtain ⟨hhandles, hselections, hdocuments, hapart, hstaged⟩ := refusals_are_exact strayRun
  obtain ⟨hq, ht, hu⟩ : (after strayRun).handles.get? "q" = some ⟨0, 1⟩ ∧
      (after strayRun).handles.get? "t" = some ⟨1, 0⟩ ∧ (after strayRun).handles.get? "u" = some ⟨2, 0⟩ := by
    decide +kernel
  obtain ⟨hc, hk⟩ : (after strayRun).selections.get? "c" = some 0 ∧ (after strayRun).selections.get? "k" = some 1 := by
    decide +kernel
  obtain ⟨hfirst, hgone, hlast⟩ : ¬ (after strayRun).Gone 0 ∧ (after strayRun).Gone 1 ∧ ¬ (after strayRun).Gone 2 := by
    decide +kernel
  obtain ⟨hdid, heid⟩ : ((after strayRun).documents.get? "d").map (·.id) = some 0 ∧
      ((after strayRun).documents.get? "e").map (·.id) = some 2 := by decide +kernel
  obtain ⟨d, hd, hdi⟩ := Option.map_eq_some_iff.1 hdid
  obtain ⟨e, he, hei⟩ := Option.map_eq_some_iff.1 heid
  have hforeign := (hdocuments "d" d "t" _ _ hd ht (.inl rfl)).1 (by rw [hdi]; decide)
  refine ⟨(hhandles "t" _ _ ht).1 hgone, ?_, ?_, (hselections "k" _ _ hk).1 hgone, ?_, hforeign,
    (hdocuments "e" e "q" _ _ he hq (.inr rfl)).1 (by rw [hei]; decide), ?_, ?_, ?_⟩
  · exact fun hf => hfirst (((hhandles "q" _ _ hq).2 (by simp [HandleCall.operands])).1 hf)
  · exact fun hf => hlast (((hhandles "u" _ _ hu).2 (by simp [HandleCall.operands, ht])).1 hf)
  · exact fun hf => hfirst ((hselections "c" _ _ hc).2.1 hf)
  · exact hapart "q" "t" _ _ hq ht hfirst (by decide) _ (by simp)
  · exact hapart "q" "u" _ _ hq hu hfirst (by decide) _ (by simp)
  · exact (hstaged _).2 _ (by rw [(hstaged _).1, hforeign])

end TrackedText.World
