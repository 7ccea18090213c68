import Mathlib.Data.List.Forall2
import TrackedText.Proofs.SavedConfigs

namespace TrackedText

variable {env : Environment} {t q : Text}

/-- Nothing is left to expand in the text. -/
def Text.IsInert (t : Text) : Prop := '$' ∉ t ∧ t.head? ≠ some '~'

instance : DecidablePred Text.IsInert := fun t => inferInstanceAs (Decidable ('$' ∉ t ∧ t.head? ≠ some '~'))

namespace Fragment

/-- What comes of the fragment holds no dollar sign, and a variable does not bring a tilde to the front, or nothing. -/
def IsInert : Fragment → Prop
  | plain t => '$' ∉ t
  | mention _ fallback? => ∀ t ∈ fallback?, t ≠ [] ∧ t.IsInert

instance : DecidablePred IsInert
  | plain t => inferInstanceAs (Decidable ('$' ∉ t))
  | mention _ fallback? => inferInstanceAs (Decidable (∀ t ∈ fallback?, t ≠ [] ∧ t.IsInert))

theorem split_plain (h : '$' ∉ t) : split 0 t = t.map fun c => plain [c] := by
  induction t with
  | nil => rfl
  | cons c t ih =>
      obtain ⟨hc, ht⟩ := not_or.1 (mt List.mem_cons.2 h)
      rw [split, if_neg (Ne.symm hc), ih ht, List.map_cons]

theorem dollar_mem_afterDollar {u : Text} (h : (afterDollar t).1 = plain u) : '$' ∈ u := by
  cases t with
  | nil =>
      obtain rfl := Fragment.plain.inj h
      decide
  | cons c t =>
      rw [afterDollar] at h
      split_ifs at h
      · simp only [braced] at h
        split at h <;> cases h
      all_goals
        obtain rfl := Fragment.plain.inj h
        exact List.mem_cons_self

theorem mapM_value_iff {fs : List Fragment} {vs : List Text} :
    fs.mapM (value? env) = some vs ↔ List.Forall₂ (fun f v => f.value? env = some v) fs vs := by
  induction fs generalizing vs with
  | nil => cases vs <;> simp
  | cons f fs ih =>
      rw [List.mapM_cons, List.forall₂_cons_left_iff]
      simp [← ih, Option.bind_eq_some_iff, @eq_comm _ vs]

end Fragment

namespace Environment

theorem expandVariables_plain (h : '$' ∉ t) : env.expandVariables t = some t := by
  have hvalues : (t.map fun c => Fragment.plain [c]).mapM (Fragment.value? env) = some (t.map fun c => [c]) := by
    induction t with
    | nil => rfl
    | cons c t ih =>
        rw [List.map_cons, List.mapM_cons, ih (mt (List.mem_cons_of_mem c) h)]
        rfl
  rw [expandVariables, Fragment.split_plain h, hvalues, Option.map_some, ← List.flatMap_def, List.flatMap_singleton']

theorem expandTilde_cases (env : Environment) (t : Text) :
    env.expandTilde t = t ∨
      ∃ home rest, env.home? = some home ∧ t = '~' :: rest ∧ env.expandTilde t = home ++ rest := by
  unfold expandTilde
  split
  · exact .inr ⟨_, [], ‹_›, rfl, (List.append_nil _).symm⟩
  · exact .inr ⟨_, _, ‹_›, rfl, rfl⟩
  · exact .inl rfl

theorem expandTilde_inert (h : t.head? ≠ some '~') : env.expandTilde t = t := by
  obtain he | ⟨home, rest, -, rfl, -⟩ := env.expandTilde_cases t
  · exact he
  · exact absurd rfl h

theorem expand_plain (h : '$' ∉ t) : env.expand t = env.expandTilde t := by
  have hif : ¬(t.head? = some '~' ∧ t.head? ≠ some '~') := fun ⟨h₁, h₂⟩ => h₂ h₁
  rw [expand, expand?, expandVariables_plain h, Option.map_some, if_neg hif, Option.getD_some]

theorem expand_inert (h : t.IsInert) : env.expand t = t := by
  rw [expand_plain h.1, expandTilde_inert h.2]

theorem expand_of_none (h : env.expand? t = none) : env.expand t = t := by
  rw [expand, h, Option.getD_none]

/-- No variable is set to a text that is empty or that would be expanded further. -/
def IsInert (env : Environment) : Prop := ∀ name t, env.get? name = some t → t ≠ [] ∧ t.IsInert

theorem isInert_of_entries (h : ∀ e ∈ env.entries, e.2 ≠ [] ∧ e.2.IsInert) : env.IsInert := by
  intro name t ht
  obtain ⟨before, after, he, -⟩ := List.lookup_eq_some_iff.1 ht
  exact h (name, t) (he ▸ List.mem_append_right before List.mem_cons_self)

namespace IsInert

variable (h : env.IsInert)

include h

theorem home {t : Text} (ht : env.home? = some t) : t ≠ [] ∧ t.IsInert := by
  obtain ⟨hget, -⟩ := Option.filter_eq_some_iff.1 ht
  exact h _ t hget

theorem inert_of_mention {name : Text} {fallback? : Option Text} (hf : (Fragment.mention name fallback?).IsInert)
    (ht : (Fragment.mention name fallback?).value? env = some t) : t ≠ [] ∧ t.IsInert := by
  rw [Fragment.value?] at ht
  cases hget : env.get? name with
  | none =>
      rw [hget, Option.none_or] at ht
      exact hf t ht
  | some u =>
      rw [hget, Option.some_or] at ht
      exact Option.some.inj ht ▸ h name u hget

theorem dollar_not_mem_value {f : Fragment} (hf : f.IsInert) (ht : f.value? env = some t) : '$' ∉ t := by
  cases f with
  | plain u => exact Option.some.inj ht ▸ hf
  | mention name fallback? => exact (h.inert_of_mention hf ht).2.1

section

variable (hq : ∀ f ∈ Fragment.split 0 q, f.IsInert)

include hq

theorem dollar_not_mem_expandVariables (ht : env.expandVariables q = some t) : '$' ∉ t := by
  obtain ⟨values, hvalues, rfl⟩ := Option.map_eq_some_iff.1 ht
  have hall := Fragment.mapM_value_iff.1 hvalues
  rw [List.mem_flatten]
  rintro ⟨v, hv, hd⟩
  obtain ⟨i, hi, rfl⟩ := List.mem_iff_getElem.1 hv
  have hf := hall.get (hall.length_eq ▸ hi) hi
  exact h.dollar_not_mem_value (hq _ (List.get_mem ..)) hf hd

theorem head_expandVariables (ht : env.expandVariables q = some t) (hhead : t.head? = some '~') :
    q.head? = some '~' := by
  obtain ⟨values, hvalues, rfl⟩ := Option.map_eq_some_iff.1 ht
  have hall := Fragment.mapM_value_iff.1 hvalues
  cases q with
  | nil =>
      cases hall
      cases hhead
  | cons c u =>
      rw [Fragment.split] at hall hq
      split at hall
      · rw [if_pos ‹_›] at hq
        obtain ⟨v, vs, hv, -, rfl⟩ := List.forall₂_cons_left_iff.1 hall
        have hf := hq _ List.mem_cons_self
        cases hfirst : (Fragment.afterDollar u).1 with
        | plain p =>
            rw [hfirst] at hf
            exact absurd (Fragment.dollar_mem_afterDollar hfirst) hf
        | mention name fallback? =>
            rw [hfirst] at hf hv
            obtain ⟨hne, -, hv⟩ := h.inert_of_mention hf hv
            rw [List.flatten_cons, List.head?_append_of_ne_nil _ hne] at hhead
            exact absurd hhead hv
      · obtain ⟨v, vs, hv, -, rfl⟩ := List.forall₂_cons_left_iff.1 hall
        obtain rfl := Option.some.inj hv
        exact hhead

theorem expand_expand : env.expand (env.expand q) = env.expand q := by
  cases ht : env.expandVariables q with
  | none =>
      have hnone : env.expand? q = none := by rw [expand?, ht, Option.map_none]
      rw [expand_of_none hnone, expand_of_none hnone]
  | some t =>
      have hd := h.dollar_not_mem_expandVariables hq ht
      have hp : env.expand q = env.expandTilde t := by
        rw [expand, expand?, ht, Option.map_some, if_neg fun hc => hc.2 (h.head_expandVariables hq ht hc.1),
          Option.getD_some]
      rw [hp]
      obtain he | ⟨home, rest, hhome, rfl, he⟩ := env.expandTilde_cases t
      · rw [he, expand_plain hd, he]
      · obtain ⟨hne, hi⟩ := h.home hhome
        have hfront : (home ++ rest).IsInert := by
          refine ⟨?_, ?_⟩
          · rw [List.mem_append, not_or]
            exact ⟨hi.1, mt (List.mem_cons_of_mem _) hd⟩
          · rw [List.head?_append_of_ne_nil _ hne]
            exact hi.2
        rw [he, expand_inert hfront]

end

end IsInert

end Environment

namespace Config

variable {c : Config}

theorem expandPaths_eq_iff : c.expandPaths env = c ↔ ∀ p ∈ c.scriptsPath, env.expand p = p := by
  obtain ⟨scriptsPath, terminator, logLevel, showText⟩ := c
  cases scriptsPath <;> simp [expandPaths]

/-- To keep the settings that were loaded and load them again expands the directory of the scripts once more. What
was loaded is found again if and only if that leaves the directory as it was, and so if nothing is left to expand in
it, if it could not be expanded as it was written, and if no variable brings in anything that would be expanded
further. -/
theorem kept_settings_expand_again (env : Environment) (path place : Text) (found : Found) (c : Config)
    (h : load env path found = .ok (some c)) :
    load env place (.ok c.save) = .ok (some (c.expandPaths env)) ∧
    (load env place (.ok c.save) = .ok (some c) ↔ ∀ p ∈ c.scriptsPath, env.expand p = p) ∧
    ((∀ p ∈ c.scriptsPath, p.IsInert) → load env place (.ok c.save) = .ok (some c)) ∧
    ∃ t written, found = .ok (Utf8.encode t) ∧ parse t = .ok written ∧ c = written.expandPaths env ∧
      ((∀ q ∈ written.scriptsPath,
          env.expand? q = none ∨ env.IsInert ∧ ∀ f ∈ Fragment.split 0 q, f.IsInert) →
        load env place (.ok c.save) = .ok (some c)) := by
  have hreload := load_save env place c
  have hsame : load env place (.ok c.save) = .ok (some c) ↔ ∀ p ∈ c.scriptsPath, env.expand p = p := by
    rw [hreload, ← expandPaths_eq_iff]
    simp
  obtain ⟨t, written, ht, hw, hc⟩ := load_some_iff.1 h
  refine ⟨hreload, hsame, fun hi => hsame.2 fun p hp => Environment.expand_inert (hi p hp), t, written, ht, hw, hc,
    fun hq => hsame.2 fun p hp => ?_⟩
  rw [hc] at hp
  obtain ⟨q, hmem, rfl⟩ := Option.map_eq_some_iff.1 hp
  obtain hnone | ⟨henv, hfs⟩ := hq q hmem
  · rw [Environment.expand_of_none hnone, Environment.expand_of_none hnone]
  · exact henv.expand_expand hfs

def homeEnvironment : Environment := ⟨[("HOME".toList, "/home/user".toList), ("PROJECT".toList, "notes".toList)]⟩

theorem kept_settings_expand_again_project :
    load homeEnvironment [] (.ok (Utf8.encode "scripts_path = '~/$PROJECT'\n".toList)) =
      .ok (some { (default : Config) with scriptsPath := some "/home/user/notes".toList }) ∧
    load homeEnvironment [] (.ok { (default : Config) with scriptsPath := some "/home/user/notes".toList }.save) =
      .ok (some { (default : Config) with scriptsPath := some "/home/user/notes".toList }) := by
  have hload : load homeEnvironment [] (.ok (Utf8.encode "scripts_path = '~/$PROJECT'\n".toList)) =
      .ok (some { (default : Config) with scriptsPath := some "/home/user/notes".toList }) := by decide +kernel
  obtain ⟨-, -, -, t, written, ht, hw, -, hkept⟩ := kept_settings_expand_again _ _ [] _ _ hload
  obtain rfl : t = "scripts_path = '~/$PROJECT'\n".toList := by
    have htext := Utf8.decode_encode "scripts_path = '~/$PROJECT'\n".toList
    rw [Except.ok.inj ht, Utf8.decode_encode] at htext
    exact Except.ok.inj htext
  obtain rfl : written = { (default : Config) with scriptsPath := some "~/$PROJECT".toList } :=
    Except.ok.inj (hw.symm.trans (by decide +kernel))
  refine ⟨hload, hkept fun q hq => .inr ⟨Environment.isInert_of_entries (by decide), ?_⟩⟩
  obtain rfl := Option.some.inj hq
  decide +kernel

/-- The dollar sign of a directory whose name looks like a variable is not doubled again when the settings are kept. -/
theorem doubled_dollar_is_lost : ∃ c c' : Config,
    load homeEnvironment [] (.ok (Utf8.encode "scripts_path = '$$HOME'\n".toList)) = .ok (some c) ∧
      load homeEnvironment [] (.ok c.save) = .ok (some c') ∧
      c.scriptsPath = some "$HOME".toList ∧ c'.scriptsPath = some "/home/user".toList ∧ c' ≠ c :=
  ⟨{ (default : Config) with scriptsPath := some "$HOME".toList },
    { (default : Config) with scriptsPath := some "/home/user".toList }, by decide +kernel⟩

end Config

end TrackedText
