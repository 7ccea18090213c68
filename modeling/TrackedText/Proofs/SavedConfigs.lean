import TrackedText.Config
import TrackedText.Proofs.EncodedTexts
import TrackedText.Proofs.WrittenStrings

namespace TrackedText

namespace Toml

variable {c d : Char} {key t w rest : Text} {es : Entries} {v : Value} {fuel : Nat}

def IsBareKey (key : Text) : Prop := key ≠ [] ∧ key.all isBareKeyChar = true

instance : DecidablePred IsBareKey := fun key =>
  inferInstanceAs (Decidable (key ≠ [] ∧ key.all isBareKeyChar = true))

theorem IsBareKey.all (hk : IsBareKey key) : ∀ c ∈ key, isBareKeyChar c = true := List.all_eq_true.1 hk.2

theorem IsBareKey.head_ne (hk : IsBareKey (c :: t)) (hd : isBareKeyChar d = false) : c ≠ d := by
  rintro rfl
  exact Bool.false_ne_true (hd.symm.trans (hk.all c List.mem_cons_self))

theorem dropSpaces_cons (hc : isSpace c = false) (t : Text) : dropSpaces (c :: t) = c :: t := by
  rw [dropSpaces, List.dropWhile_cons_of_neg (by simp [hc])]

theorem readKey_bare (hk : IsBareKey key) (t : Text) : readKey (key ++ ' ' :: t) = .ok (key, ' ' :: t) := by
  have htake : (key ++ ' ' :: t).takeWhile isBareKeyChar = key := by
    rw [List.takeWhile_append_of_pos hk.all, List.takeWhile_cons_of_neg (by decide), List.append_nil]
  have hdrop : (key ++ ' ' :: t).dropWhile isBareKeyChar = ' ' :: t := by
    rw [List.dropWhile_append_of_pos hk.all, List.dropWhile_cons_of_neg (by decide)]
  obtain ⟨k, ks, rfl⟩ := List.exists_cons_of_ne_nil hk.1
  rw [List.cons_append] at htake hdrop ⊢
  rw [readKey, htake, hdrop]
  · rfl
  · exact fun u h => hk.head_ne rfl (List.cons.inj h).1
  · exact fun u h => hk.head_ne rfl (List.cons.inj h).1

namespace Entries

theorem update_new {f : Option Value → Except Fault Value} (hnew : key ∉ es.map Prod.fst) (hf : f none = .ok v) :
    es.update key f = .ok (es ++ [(key, v)]) := by
  induction es with
  | nil => rw [update, hf]; rfl
  | cons e es ih =>
      obtain ⟨hne, hnew⟩ := not_or.1 (mt List.mem_cons.2 hnew)
      rw [update, if_neg (Ne.symm hne), ih hnew]
      rfl

theorem insertUnder_new (hnew : key ∉ es.map Prod.fst) : es.insertUnder [] [] key v = .ok (es ++ [(key, v)]) :=
  update_new hnew rfl

end Entries

/-- One line of a document that sets a new key of the top table. -/
theorem readLines_field (hk : IsBareKey key) (hnew : key ∉ es.map Prod.fst)
    (hw : ∀ c, w.head? = some c → isSpace c = false)
    (hv : readValue fuel maxDepth (w ++ '\n' :: rest) = .ok (v, '\n' :: rest)) :
    readLines (fuel + 1) [] es (key ++ ' ' :: '=' :: ' ' :: (w ++ '\n' :: rest)) =
      readLines fuel [] (es ++ [(key, v)]) rest := by
  have hpath : readPath maxDepth (key ++ ' ' :: '=' :: ' ' :: (w ++ '\n' :: rest)) =
      .ok ([], key, '=' :: ' ' :: (w ++ '\n' :: rest)) := by
    rw [maxDepth, readPath, readKey_bare hk]
    rfl
  have hdrop : dropSpaces (' ' :: (w ++ '\n' :: rest)) = w ++ '\n' :: rest := by
    cases w with
    | nil => rfl
    | cons c w => exact dropSpaces_cons (hw c rfl) _
  obtain ⟨k, ks, rfl⟩ := List.exists_cons_of_ne_nil hk.1
  have hspace : isSpace k = false := by
    have hblank : k ≠ ' ' := hk.head_ne rfl
    have htab : k ≠ '\t' := hk.head_ne rfl
    simp [isSpace, hblank, htab]
  rw [List.cons_append] at hpath ⊢
  rw [readLines, dropSpaces_cons hspace]
  split
  · exact absurd ‹_› (List.cons_ne_nil _ _)
  · exact absurd (List.cons.inj ‹_›).1 (hk.head_ne rfl)
  · exact absurd (List.cons.inj ‹_›).1 (hk.head_ne rfl)
  · rw [if_neg, hpath]
    · have hchar : readChar '=' ('=' :: ' ' :: (w ++ '\n' :: rest)) = .ok (' ' :: (w ++ '\n' :: rest)) := rfl
      have hend : endLine ('\n' :: rest) = .ok rest := rfl
      simp only [bind, Except.bind, hchar, hdrop, hv, Entries.insertUnder_new hnew, hend]
    · have hcomment : k ≠ '#' := hk.head_ne rfl
      rw [lineBreak?_cons (hk.head_ne rfl) (hk.head_ne rfl)]
      simpa using hcomment

theorem readValue_writeString (t : Text) (fuel : Nat) (rest : Text) :
    readValue (fuel + 1) maxDepth (writeString t ++ '\n' :: rest) = .ok (.text t, '\n' :: rest) := by
  unfold readValue
  rw [readString?_writeString t (by simp) (by simp)]
  rfl

theorem head_writeString (t : Text) (h : (writeString t).head? = some c) : isSpace c = false := by
  unfold writeString at h
  split at h <;> (obtain rfl := Option.some.inj h; rfl)

/-- A key with a value as it is written behind an equals sign and read up to the end of its line. -/
structure Field where
  key : String
  written : Text
  value : Value
  bare : IsBareKey key.toList
  front : ∀ c, written.head? = some c → isSpace c = false
  reads : ∀ fuel rest, readValue (fuel + 1) maxDepth (written ++ '\n' :: rest) = .ok (value, '\n' :: rest)

namespace Field

def text (key : String) (hk : IsBareKey key.toList) (t : Text) : Field :=
  ⟨key, writeString t, .text t, hk, fun _ => head_writeString t, readValue_writeString t⟩

def boolean (key : String) (hk : IsBareKey key.toList) (b : Bool) : Field where
  key := key
  written := (if b then "true" else "false").toList
  value := .boolean b
  bare := hk
  front := by cases b <;> (rintro c h; obtain rfl := Option.some.inj h; rfl)
  reads := by cases b <;> exact fun _ _ => rfl

def entry (f : Field) : Text × Value := (f.key.toList, f.value)

@[simp] theorem entry_text (key : String) (hk : IsBareKey key.toList) (t : Text) :
    (text key hk t).entry = (key.toList, .text t) := rfl

@[simp] theorem entry_boolean (key : String) (hk : IsBareKey key.toList) (b : Bool) :
    (boolean key hk b).entry = (key.toList, .boolean b) := rfl

end Field

end Toml

namespace Config

open Toml

section

variable {es : Entries} {fs : List Field} (fuel : Nat) (c : Config)

theorem line_append (key : String) (t rest : Text) :
    line key t ++ rest = key.toList ++ ' ' :: '=' :: ' ' :: (t ++ '\n' :: rest) := by
  simp [line]

theorem readLines_fields (hnew : (es.map Prod.fst ++ fs.map (·.key.toList)).Nodup) :
    readLines (fuel + fs.length + 1) [] es (fs.flatMap fun f => line f.key f.written) =
      .ok (es ++ fs.map Field.entry) := by
  induction fs generalizing es with
  | nil => rw [List.map_nil, List.append_nil]; rfl
  | cons f fs ih =>
      have hf : f.key.toList ∉ es.map Prod.fst := fun h =>
        (List.nodup_append.1 hnew).2.2 _ h _ List.mem_cons_self rfl
      rw [List.flatMap_cons, line_append, List.length_cons, ← Nat.add_assoc,
        readLines_field f.bare hf f.front (f.reads _ _), ih]
      · simp [Field.entry]
      · simpa using hnew

def fields : List Field :=
  (match c.scriptsPath with
    | some p => [.text "scripts_path" (by decide) p]
    | none => [])
    ++ [.text "terminator" (by decide) [c.terminator], .text "log_level" (by decide) c.logLevel,
      .boolean "show_text" (by decide) c.showText]

theorem render_eq : c.render = c.fields.flatMap fun f => line f.key f.written := by
  obtain ⟨scriptsPath, terminator, logLevel, showText⟩ := c
  cases scriptsPath <;> simp [render, fields, Field.text, Field.boolean]

theorem nodup_fields : (c.fields.map (·.key.toList)).Nodup := by
  obtain ⟨scriptsPath, terminator, logLevel, showText⟩ := c
  cases scriptsPath with
  | none => exact (by decide : ["terminator".toList, "log_level".toList, "show_text".toList].Nodup)
  | some p =>
      exact (by decide :
        ["scripts_path".toList, "terminator".toList, "log_level".toList, "show_text".toList].Nodup)

theorem length_fields : c.fields.length ≤ c.render.length := by
  obtain ⟨scriptsPath, terminator, logLevel, showText⟩ := c
  cases scriptsPath <;> simp [fields, render, line]

theorem read_render : Toml.read c.render = .ok (c.fields.map Field.entry) := by
  -- no line begins with the mark that the reader skips
  have hmark : c.render.head? ≠ some (Char.ofNat 0xfeff) := by
    obtain ⟨scriptsPath, terminator, logLevel, showText⟩ := c
    cases scriptsPath <;> exact fun h => nomatch Option.some.inj h
  have hnew : (([] : Entries).map Prod.fst ++ c.fields.map (·.key.toList)).Nodup := nodup_fields c
  obtain ⟨fuel, hf⟩ : ∃ fuel, 2 * c.render.length + 2 = fuel + c.fields.length + 1 :=
    ⟨2 * c.render.length + 1 - c.fields.length, by have := c.length_fields; omega⟩
  rw [Toml.read]
  simp only [if_neg hmark, hf]
  rw [render_eq, readLines_fields fuel hnew]
  rfl

theorem ofEntries_fields : ofEntries (c.fields.map Field.entry) = .ok c := by
  obtain ⟨scriptsPath, terminator, logLevel, showText⟩ := c
  cases scriptsPath <;> (simp only [fields, List.nil_append, List.cons_append, List.map_cons, List.map_nil,
    Field.entry_text, Field.entry_boolean]; rfl)

theorem parse_render : parse c.render = .ok c := by
  rw [parse, read_render]
  exact ofEntries_fields c

end

variable {env : Environment} {path : Text} {found : Found} {c : Config}

theorem load_none_iff : load env path found = .ok none ↔ found.isThere = false := by
  unfold load
  cases hthere : found.isThere with
  | false => simp
  | true =>
      simp only [Bool.not_true, Bool.false_eq_true, if_false, Bool.true_eq_false, iff_false]
      split
      · simp
      · split <;> simp

/-- A file is loaded if it is the encoding of a text that can be parsed, and only the directory of the scripts is
not taken as it is written. -/
theorem load_some_iff : load env path found = .ok (some c) ↔
    ∃ t written, found = .ok (Utf8.encode t) ∧ parse t = .ok written ∧ c = written.expandPaths env := by
  constructor
  · intro h
    unfold load at h
    split at h
    · cases h
    · split at h
      · cases h
      · split at h
        · cases h
        · cases h
          exact ⟨_, _, Found.text_ok_iff.1 ‹_›, ‹_›, rfl⟩
  · rintro ⟨t, written, rfl, hw, rfl⟩
    have hthere : Found.isThere (.ok (Utf8.encode t)) = true := rfl
    rw [load, Found.text_ok_iff.2 rfl, hthere]
    simp only [hw]
    rfl

theorem load_save (env : Environment) (path : Text) (c : Config) :
    load env path (.ok c.save) = .ok (some (c.expandPaths env)) :=
  load_some_iff.2 ⟨c.render, c, rfl, parse_render c, rfl⟩

/-- The settings that were kept are found again. Only the directory of the scripts is expanded, where it can be. -/
theorem saved_settings_come_back (env : Environment) (path : Text) (c : Config) :
    load env path (.ok c.save) =
      .ok (some { c with scriptsPath := c.scriptsPath.map fun p => (env.expand? p).getD p }) :=
  load_save env path c

end Config

end TrackedText
