import TrackedText.Script.Runner

namespace TrackedText.Script

namespace Run

variable {a : Run} {next : Runner → Run} {t : Text}

theorem idle_followedBy (r : Runner) (next : Runner → Run) : (Run.mk r [] (.ok [])).followedBy next = next r := by
  simp only [followedBy, List.nil_append]
  obtain ⟨r', ws, e | shown⟩ := next r <;> rfl

theorem followedBy_ok_iff : (a.followedBy next).result = .ok t ↔
    ∃ first last, a.result = .ok first ∧ (next a.runner).result = .ok last ∧ t = first ++ last := by
  obtain ⟨r, ws, e | first⟩ := a
  · simp [followedBy]
  · cases hl : (next r).result <;> simp [followedBy, hl, Except.map, eq_comm]

theorem followedBy_assoc (a : Run) (f g : Runner → Run) :
    (a.followedBy f).followedBy g = a.followedBy fun r => (f r).followedBy g := by
  obtain ⟨r, ws, e | shown⟩ := a
  · rfl
  · simp only [followedBy]
    obtain ⟨r', ws', e | shown'⟩ := f r
    · rfl
    · obtain ⟨r₂, ws₂, e | last⟩ := g r' <;> simp [Except.map]

end Run

/-- The steps are carried out in their order and none of them fails. What they show is put together. -/
inductive Runs : Runner → List (Nat × Step) → Runner → Text → Prop
  | nil {r} : Runs r [] r []
  | cons {r r₁ r₂ line s steps warning? shown rest} (hstep : r.step s = .ok (r₁, warning?, shown))
      (hrest : Runs r₁ steps r₂ rest) : Runs r ((line, s) :: steps) r₂ (shown ++ rest)

variable {r r' : Runner} {line : Nat} {s : Step} {steps before : List (Nat × Step)} {cause : Cause} {output shown : Text}

theorem Runner.run_append (r : Runner) (before after : List (Nat × Step)) :
    r.run (before ++ after) = (r.run before).followedBy (·.run after) := by
  induction before generalizing r with
  | nil => rw [List.nil_append, Runner.run, Run.idle_followedBy]
  | cons p before ih =>
      obtain ⟨line, s⟩ := p
      simp only [List.cons_append, Runner.run, ih, Run.followedBy_assoc]

/-- A step that fails ends the run and takes back nothing but what was shown. -/
theorem Runner.run_failing (hr : (r.run before).result = .ok shown) (hs : (r.run before).runner.step s = .error cause)
    (line : Nat) (after : List (Nat × Step)) : r.run (before ++ (line, s) :: after) =
      ⟨(r.run before).runner, (r.run before).warnings, .error ⟨line, cause⟩⟩ := by
  rw [Runner.run_append]
  simp [Run.followedBy, hr, Runner.run, Runner.perform, hs, Except.map]

theorem Runs.run (h : Runs r steps r' output) : ∃ ws, r.run steps = ⟨r', ws, .ok output⟩ := by
  induction h with
  | nil => exact ⟨[], rfl⟩
  | cons hstep _ ih =>
      obtain ⟨ws, hw⟩ := ih
      simp only [Runner.run, Runner.perform, hstep, Run.followedBy, hw]
      exact ⟨_, rfl⟩

theorem step_of_perform (h : (r.perform line s).result = .ok shown) :
    ∃ warning?, r.step s = .ok ((r.perform line s).runner, warning?, shown) := by
  rw [Runner.perform] at h ⊢
  cases hs : r.step s with
  | error cause => simp [hs] at h
  | ok q =>
      rw [hs] at h
      obtain rfl := Except.ok.inj h
      exact ⟨q.2.1, rfl⟩

theorem runs_of_run (h : (r.run steps).result = .ok output) : ∃ r', Runs r steps r' output := by
  induction steps generalizing r output with
  | nil =>
      obtain rfl := Except.ok.inj h
      exact ⟨r, .nil⟩
  | cons p steps ih =>
      obtain ⟨line, s⟩ := p
      obtain ⟨first, last, hfirst, hlast, rfl⟩ := Run.followedBy_ok_iff.1 h
      obtain ⟨warning?, hs⟩ := step_of_perform hfirst
      obtain ⟨r', hrest⟩ := ih hlast
      exact ⟨r', .cons hs hrest⟩

theorem Runs.run_failing (h : Runs r before r' output) (hs : r'.step s = .error cause) (line : Nat)
    (after : List (Nat × Step)) : (r.run (before ++ (line, s) :: after)).result = .error ⟨line, cause⟩ := by
  obtain ⟨ws, hw⟩ := h.run
  have hr : (r.run before).result = .ok output := congrArg Run.result hw
  have hs' : (r.run before).runner.step s = .error cause := by rw [hw, hs]
  rw [Runner.run_failing hr hs']

end TrackedText.Script
