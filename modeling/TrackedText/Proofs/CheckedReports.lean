import TrackedText.Proofs.StagedReports
import TrackedText.Proofs.TrackingHistory

namespace TrackedText

open Registry

variable {x : Extent} {r r' : Registry} {m m' : Mutation}

/-- An edit that is not empty always shows in the length of the story. -/
theorem Extent.edit_eq_iff (hm : m.FitsIn x) : x.edit m = x ↔ m.isNoop = true := by
  refine ⟨fun h => ?_, edit_noop⟩
  have hl : (x.edit m).length = x.length := congrArg length h
  cases m with
  | insert offset n =>
      simp only [edit, grow] at hl
      exact beq_iff_eq.2 (by omega)
  | delete start stop =>
      simp only [Mutation.FitsIn] at hm
      simp only [edit, shrink] at hl
      exact beq_iff_eq.2 (by omega)

namespace Registry

theorem eq_of_isNoop (hn : r.notify m = .ok (m', r')) (hm : m'.isNoop = true) : r' = r := by
  obtain ⟨-, -, -, rfl⟩ := notify_ok hn
  exact if_pos hm

theorem isNoop_iff_of_notify (h : r.Sound) (hn : r.notify m = .ok (m', r')) :
    m'.isNoop = true ↔
      r'.extent = r.extent ∧ (∀ id, r'.span? id = r.span? id) ∧ r'.selection.span = r.selection.span := by
  have hm := h.notify hn
  constructor
  · intro hnoop
    obtain rfl := eq_of_isNoop hn hnoop
    exact ⟨rfl, fun _ => rfl, rfl⟩
  · rintro ⟨he, -, -⟩
    rwa [← Extent.edit_eq_iff hm.fits, ← hm.extent]

end Registry

namespace Session

variable {s : Session} {id : RangeId} {q : Request} {start stop : Nat}

theorem eventOf_closed_iff : eventOf id s q = some .closed ↔ q = .detachDocument := by
  cases q <;> simp [eventOf, eventAt]

theorem closed_mem_collect_iff (id : RangeId) (s : Session) (qs : List Request) :
    .closed ∈ collect (eventOf id) s qs ↔ .detachDocument ∈ qs := by
  induction qs generalizing s with
  | nil => simp [collect]
  | cons q qs ih =>
      rw [collect, List.mem_append, Option.mem_toList, eventOf_closed_iff, ih, List.mem_cons, eq_comm]

theorem detached_after (n : Nat) (qs : List Request) :
    (after n qs).registry.detached = true ↔ .detachDocument ∈ qs := by
  rw [← (follows_after n 0 qs).closed, trace, (Trace.tracked_eq _ _).1, decide_eq_true_iff]
  exact closed_mem_collect_iff 0 (ofLength n) qs

theorem perform_notify_error {e : RangeError} (h : s.registry.notify m = .error e) :
    s.perform (.notify m) = (.error (.range e), s) := by
  simp only [perform, run, h]

theorem perform_notify_ok (h : s.registry.notify m = .ok (m', r)) :
    s.perform (.notify m) = (.ok (.mutation m'), { s with registry := r }) := by
  simp only [perform, run, h]

theorem perform_malformed_iff (h : s.registry.detached = false) :
    s.perform (.notify m) = (.error (.range (.malformedDeletion start stop)), s) ↔
      m = .delete start stop ∧ stop < start := by
  refine ⟨fun hp => ?_, ?_⟩
  · by_cases hm : m.IsWellFormed
    · rw [perform_notify_ok (notify_attached h hm)] at hp
      cases congrArg Prod.fst hp
    · cases m with
      | insert offset n => exact absurd trivial hm
      | delete start stop =>
          have hlt : stop < start := Nat.not_le.1 hm
          rw [perform_notify_error (notify_malformed h hlt)] at hp
          cases congrArg Prod.fst hp
          exact ⟨rfl, hlt⟩
  · rintro ⟨rfl, hlt⟩
    exact perform_notify_error (notify_malformed h hlt)

/-- A report is checked before anything is done. Once the document is detached every report is refused, malformed
or not, and nothing changes, whatever else comes before or after. Until then those of a deletion
whose ends are reversed, and no others, are malformed; they change nothing either, so the run can go on. Any other
is answered by the edit as the story of that moment has room for it, and the answer is an empty edit exactly if
neither the length of the story nor any bounds have changed. It comes to
the same where the steps of a request change the session one by one: what is refused is refused before the first. -/
theorem reports_are_checked_first (n : Nat) (qs : List Request) (m : Mutation) :
    (.detachDocument ∈ qs → (after n qs).perform (.notify m) = (.error (.range .detached), after n qs)) ∧
    (.detachDocument ∉ qs →
      (∀ start stop,
        (after n qs).perform (.notify m) = (.error (.range (.malformedDeletion start stop)), after n qs) ↔
          m = .delete start stop ∧ stop < start) ∧
      (m.IsWellFormed → ∃ m' s', (after n qs).perform (.notify m) = (.ok (.mutation m'), s') ∧
        (∀ offset k, m = .insert offset k → m' = .insert (min offset (after n qs).registry.extent.length) k) ∧
        (∀ start stop, m = .delete start stop → ∃ start' stop', m' = .delete start' stop' ∧
          stop' = min stop ((after n qs).registry.extent.length - 1) ∧ start' = min start stop') ∧
        (m'.isNoop = true → s' = after n qs) ∧
        (m'.isNoop = true ↔
          s'.registry.extent = (after n qs).registry.extent ∧
          (∀ id, s'.registry.span? id = (after n qs).registry.span? id) ∧
          s'.registry.selection.span = (after n qs).registry.selection.span))) ∧
    ∀ q, (staged q).outcome (after n qs) = (after n qs).perform q ∧
      ∀ e, ((staged q).outcome (after n qs)).1 = .error e → ((staged q).outcome (after n qs)).2 = after n qs := by
  have hs := (sound_after n qs).registry
  refine ⟨fun hc => ?_, fun hc => ?_, fun q => ⟨outcome_staged q _, fun e he => ?_⟩⟩
  · exact perform_notify_error (notify_detached ((detached_after n qs).2 hc) m)
  · have hd : (after n qs).registry.detached = false := Bool.eq_false_iff.2 (mt (detached_after n qs).1 hc)
    refine ⟨fun start stop => perform_malformed_iff hd, fun hm => ?_⟩
    have hn := notify_attached hd hm
    refine ⟨_, _, perform_notify_ok hn, ?_, ?_, fun hm' => ?_, isNoop_iff_of_notify hs hn⟩
    · rintro offset k rfl
      rfl
    · rintro start stop rfl
      exact ⟨_, _, rfl, rfl, rfl⟩
    · rw [eq_of_isNoop hn hm']
  · rw [outcome_staged, perform_eq] at he ⊢
    exact unchanged_of_error he

def openRun : List Request :=
  [.create true "a" 2 6, .create false "b" 1 9, .notify (.insert 4 3), .drop "a", .notify (.delete 5 40)]

theorem reports_are_checked_first_openRun :
    (after 8 closedRun).perform (.notify (.delete 5 2)) = (.error (.range .detached), after 8 closedRun) ∧
    (after 8 openRun).perform (.notify (.delete 5 2)) =
      (.error (.range (.malformedDeletion 5 2)), after 8 openRun) ∧
    (after 8 openRun).perform (.notify (.delete 5 30)) = (.ok (.mutation (.delete 5 5)), after 8 openRun) ∧
    ((staged (.notify (.delete 5 2))).outcome (after 8 openRun)).2 = after 8 openRun ∧
    ∃ s', (after 8 openRun).perform (.notify (.insert 40 2)) = (.ok (.mutation (.insert 6 2)), s') ∧
      ¬ (s'.registry.extent = (after 8 openRun).registry.extent ∧
        (∀ id, s'.registry.span? id = (after 8 openRun).registry.span? id) ∧
        s'.registry.selection.span = (after 8 openRun).registry.selection.span) := by
  have hlength : (after 8 openRun).registry.extent.length = 6 := by decide +kernel
  have hopen : .detachDocument ∉ openRun := by simp [openRun]
  obtain ⟨hclosed, -⟩ := reports_are_checked_first 8 closedRun (.delete 5 2)
  obtain ⟨-, hreversed, hstaged⟩ := reports_are_checked_first 8 openRun (.delete 5 2)
  obtain ⟨-, hempty, -⟩ := reports_are_checked_first 8 openRun (.delete 5 30)
  obtain ⟨-, hbehind, -⟩ := reports_are_checked_first 8 openRun (.insert 40 2)
  have hrefused := ((hreversed hopen).1 5 2).2 ⟨rfl, by decide⟩
  refine ⟨hclosed (by simp [closedRun]), hrefused, ?_, (hstaged _).2 _ (by rw [(hstaged _).1, hrefused]), ?_⟩
  · obtain ⟨m', s', hp, -, hdelete, hnothing, -⟩ := (hempty hopen).2 (by decide)
    obtain ⟨start', stop', rfl, hstop, hstart⟩ := hdelete 5 30 rfl
    rw [hlength] at hstop
    obtain rfl : stop' = 5 := hstop
    obtain rfl : start' = 5 := hstart
    rw [hp, hnothing rfl]
  · obtain ⟨m', s', hp, hinsert, -, -, hnoop⟩ := (hbehind hopen).2 trivial
    obtain rfl := hinsert 40 2 rfl
    rw [hlength] at hp
    exact ⟨s', hp, mt hnoop.2 (by decide)⟩

end Session

end TrackedText
