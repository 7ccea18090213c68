import Mathlib.Control.Monad.Basic
import TrackedText.Program
import TrackedText.Proofs.SavedConfigs
import TrackedText.Proofs.ScriptRuns

namespace TrackedText

namespace Program

variable {h : Host} {c : Config} {arguments : List Text} {path source output : Text}

/-- The settings that hold: those of the file, or the defaults where there is none. -/
inductive Settles (h : Host) : Config → Prop
  | absent (hfile : (h.find (configPath h)).isThere = false) : Settles h default
  | loaded {t : Text} {c : Config} (hfile : h.find (configPath h) = .ok (Utf8.encode t))
      (hparse : Config.parse t = .ok c) : Settles h (c.expandPaths h.environment)

inductive Reads (h : Host) (c : Config) : Text → Text → Prop
  | input {source : Text} (hinput : h.input = Utf8.encode source) : Reads h c ['-'] source
  | file {path source : Text} (hpath : path ≠ ['-'])
      (hfile : h.find (c.resolveScript h.environment path) = .ok (Utf8.encode source)) : Reads h c path source

/-- Every stage is passed up to the last line of the script, and `output` is all that the script shows. -/
def Completes (h : Host) (arguments : List Text) (output : Text) : Prop :=
  ∃ program path c source steps r, arguments = [program, path] ∧ Settles h c ∧ Reads h c path source ∧
    Script.parse source = .ok steps ∧ Script.Runs (.start c.terminator c.showText) steps r output

def scriptFailure (path : Text) (e : Script.Error) : Failure :=
  ⟨"Script '" ++ String.ofList path ++ "' failed", e.message⟩

theorem loadConfig_ok_iff : loadConfig h = .ok c ↔ Settles h c := by
  constructor
  · intro hc
    rw [loadConfig] at hc
    cases hl : Config.load h.environment (configPath h) (h.find (configPath h)) with
    | error e => simp [hl, Except.map] at hc
    | ok c? =>
        rw [hl] at hc
        obtain rfl := Except.ok.inj hc
        cases c? with
        | none => exact .absent (Config.load_none_iff.1 hl)
        | some c =>
            obtain ⟨t, written, hfile, hparse, rfl⟩ := Config.load_some_iff.1 hl
            exact .loaded hfile hparse
  · rintro (hfile | ⟨hfile, hparse⟩)
    · rw [loadConfig, Config.load_none_iff.2 hfile]
      rfl
    · rw [loadConfig, Config.load_some_iff.2 ⟨_, _, hfile, hparse, rfl⟩]
      rfl

theorem readScript_ok_iff : readScript h c path = .ok source ↔ Reads h c path source := by
  unfold readScript
  split
  · subst path
    rw [mapError_ok_iff, readText_ok_iff]
    refine ⟨.input, ?_⟩
    rintro (hinput | ⟨hpath, -⟩)
    · exact hinput
    · exact absurd rfl hpath
  · rw [mapError_ok_iff, Found.text_ok_iff]
    refine ⟨.file ‹_›, ?_⟩
    rintro (hinput | ⟨-, hfile⟩)
    · exact absurd rfl ‹_›
    · exact hfile

theorem runScript_ok_iff : runScript h c path = .ok output ↔ ∃ source steps r, Reads h c path source ∧
    Script.parse source = .ok steps ∧ Script.Runs (.start c.terminator c.showText) steps r output := by
  simp only [runScript, bind_ok_iff, mapError_ok_iff, readScript_ok_iff]
  constructor
  · rintro ⟨source, hsource, steps, hsteps, hrun⟩
    obtain ⟨r, hr⟩ := Script.runs_of_run hrun
    exact ⟨source, steps, r, hsource, hsteps, hr⟩
  · rintro ⟨source, steps, r, hsource, hsteps, hr⟩
    obtain ⟨ws, hw⟩ := hr.run
    exact ⟨source, hsource, steps, hsteps, congrArg Script.Run.result hw⟩

theorem completes_iff : Completes h arguments output ↔ ∃ program path c, arguments = [program, path] ∧
    loadConfig h = .ok c ∧ runScript h c path = .ok output := by
  simp only [Completes, loadConfig_ok_iff, runScript_ok_iff]
  constructor
  · rintro ⟨program, path, c, source, steps, r, ha, hc, hsource, hsteps, hr⟩
    exact ⟨program, path, c, ha, hc, source, steps, r, hsource, hsteps, hr⟩
  · rintro ⟨program, path, c, ha, hc, source, steps, r, hsource, hsteps, hr⟩
    exact ⟨program, path, c, source, steps, r, ha, hc, hsource, hsteps, hr⟩

theorem Completes.run (hc : Completes h arguments output) : run h arguments = ⟨0, output, ""⟩ := by
  obtain ⟨program, path, c, rfl, hc, hs⟩ := completes_iff.1 hc
  simp only [Program.run, hc, hs]

theorem run_fails (hn : ¬ ∃ output, Completes h arguments output) : ∃ errors, run h arguments = fail errors := by
  unfold run
  split
  · exact ⟨_, rfl⟩
  · split
    · split
      · exact absurd ⟨_, completes_iff.2 ⟨_, _, _, rfl, ‹_›, ‹_›⟩⟩ hn
      · exact ⟨_, rfl⟩
    · exact ⟨_, rfl⟩

theorem run_failing {program : Text} {before after : List (Nat × Script.Step)} {line : Nat} {s : Script.Step}
    {r : Script.Runner} {cause : Script.Cause} (hc : Settles h c) (hsource : Reads h c path source)
    (hsteps : Script.parse source = .ok (before ++ (line, s) :: after))
    (hr : Script.Runs (.start c.terminator c.showText) before r output) (hs : r.step s = .error cause) :
    run h [program, path] = fail (scriptFailure path ⟨line, cause⟩).message := by
  have hscript : runScript h c path = .error (scriptFailure path ⟨line, cause⟩) := by
    rw [runScript, readScript_ok_iff.2 hsource]
    change (Script.parse source).mapError _ >>= _ = _
    rw [hsteps]
    change (Script.Runner.run _ _).result.mapError _ = _
    rw [hr.run_failing hs]
    rfl
  simp only [run, loadConfig_ok_iff.2 hc, hscript]

/-- The program shows all that its script shows or nothing at all. It ends well if and only if there is no file of
settings or one that can be loaded, it is told of one script and no more, that script is found as the encoding of a
text, every line of it can be parsed, and every step of it can be carried out on an empty document. Else it ends with
the code one, though steps before the failing line may have shown something. -/
theorem all_or_nothing (h : Host) (arguments : List Text) :
    ((run h arguments).code = 0 ↔ ∃ output, Completes h arguments output) ∧
    (∀ output, Completes h arguments output → (run h arguments).output = output) ∧
    ((¬ ∃ output, Completes h arguments output) → (run h arguments).code = 1 ∧ (run h arguments).output = []) ∧
    ∀ program path c source before line s after r shown cause, arguments = [program, path] → Settles h c →
      Reads h c path source → Script.parse source = .ok (before ++ (line, s) :: after) →
      Script.Runs (.start c.terminator c.showText) before r shown → r.step s = .error cause →
      run h arguments = fail (scriptFailure path ⟨line, cause⟩).message := by
  refine ⟨⟨fun hcode => ?_, ?_⟩, fun output hc => by rw [hc.run], fun hn => ?_, ?_⟩
  · refine Classical.byContradiction fun hn => ?_
    obtain ⟨errors, he⟩ := run_fails hn
    rw [he] at hcode
    exact Nat.one_ne_zero hcode
  · rintro ⟨output, hc⟩
    rw [hc.run]
  · obtain ⟨errors, he⟩ := run_fails hn
    rw [he]
    exact ⟨rfl, rfl⟩
  · rintro program path c source before line s after r shown cause rfl hc hsource hsteps hr hs
    exact run_failing hc hsource hsteps hr hs

def scriptHost : Host where
  environment := ⟨[("HOME".toList, "/home/user".toList)]⟩
  find := fun path =>
    if path = "/home/user/.config/storyrange/config.toml".toList then
      .ok (Utf8.encode "scripts_path = '~/scripts'\nshow_text = false\n".toList)
    else if path = "/home/user/scripts/whole".toList then
      .ok (Utf8.encode "text abc\nrange r 1 9\nshow\n".toList)
    else if path = "/home/user/scripts/broken".toList then
      .ok (Utf8.encode "text abc\nshow\nselect r\n".toList)
    else .error .missing
  input := []

theorem all_or_nothing_scriptHost :
    (run scriptHost ["cli".toList, "whole".toList]).code = 0 ∧
    (run scriptHost ["cli".toList, "whole".toList]).output = "r: (1, 4)\nselection: (0, 0) caret=0\n".toList ∧
    (∃ r shown, Script.Runs (.start Story.defaultTerminator false) [(1, .text "abc".toList), (2, .display)] r shown ∧
      shown ≠ []) ∧
    run scriptHost ["cli".toList, "broken".toList] =
      ⟨1, [], "Error: Script 'broken' failed\n\nCaused by:\n    line 3: no range named 'r'\n"⟩ := by
  have hsettings : Settles scriptHost
      ⟨some "/home/user/scripts".toList, Story.defaultTerminator, "warn".toList, false⟩ :=
    loadConfig_ok_iff.1 (by decide +kernel)
  have hwhole : ((Script.Runner.start Story.defaultTerminator false).run
      [(1, .text "abc".toList), (2, .range "r".toList 1 9), (3, .display)]).result =
      .ok "r: (1, 4)\nselection: (0, 0) caret=0\n".toList := rfl
  have hbroken : ∃ r shown, Script.Runs (.start Story.defaultTerminator false) [(1, .text "abc".toList), (2, .display)]
      r shown ∧ shown ≠ [] ∧ r.step (.select "r".toList) = .error (.unknownRange "r".toList) := by
    refine ⟨_, _, .cons rfl (.cons rfl .nil), ?_, rfl⟩
    decide +kernel
  obtain ⟨r, hr⟩ := Script.runs_of_run hwhole
  have hcompletes : Completes scriptHost ["cli".toList, "whole".toList]
      "r: (1, 4)\nselection: (0, 0) caret=0\n".toList :=
    ⟨_, _, _, "text abc\nrange r 1 9\nshow\n".toList, _, r, rfl, hsettings, .file (by decide) (by decide +kernel),
      by decide +kernel, hr⟩
  obtain ⟨r, shown, hr, hshown, hs⟩ := hbroken
  obtain ⟨hcode, houtput, -, -⟩ := all_or_nothing scriptHost ["cli".toList, "whole".toList]
  obtain ⟨-, -, -, hfails⟩ := all_or_nothing scriptHost ["cli".toList, "broken".toList]
  refine ⟨hcode.2 ⟨_, hcompletes⟩, houtput _ hcompletes, ⟨r, shown, hr, hshown⟩, ?_⟩
  exact hfails _ _ _ "text abc\nshow\nselect r\n".toList _ 3 _ [] r _ _ rfl hsettings
    (.file (by decide) (by decide +kernel)) (by decide +kernel) hr hs

end Program

end TrackedText
