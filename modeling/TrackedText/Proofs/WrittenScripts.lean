import TrackedText.Proofs.ScriptLines
import TrackedText.Script.Writer

namespace TrackedText

/-- The positions that a signed 64-bit word can stand for. -/
def Position.FitsWord (p : Int) : Prop := -Int.pow 2 63 ≤ p ∧ p < Int.pow 2 63

instance : DecidablePred Position.FitsWord := fun p =>
  inferInstanceAs (Decidable (-Int.pow 2 63 ≤ p ∧ p < Int.pow 2 63))

namespace Decimal

variable {n : Nat} {c : Char} {t : Text}

theorem digit?_eq (h : c.isDigit = true) : digit? c = some (c.toNat - '0'.toNat) := by
  simp only [Char.isDigit, Bool.and_eq_true, decide_eq_true_eq] at h
  exact if_pos h

theorem digitsFrom?_eq (h : ∀ c ∈ t, c.isDigit = true) (n : Nat) :
    digitsFrom? n t = some (Nat.ofDigitChars 10 t n) := by
  induction t generalizing n with
  | nil => rw [digitsFrom?, Nat.ofDigitChars_nil]
  | cons c t ih =>
      rw [digitsFrom?, digit?_eq (h c List.mem_cons_self), Nat.ofDigitChars_cons]
      exact ih (fun c hc => h c (List.mem_cons_of_mem _ hc)) _

theorem isDigit_of_mem (h : c ∈ ofNat n) : c.isDigit = true :=
  Nat.isDigit_of_mem_toDigits (by decide) (by decide) h

theorem ofNat_ne_nil : ofNat n ≠ [] := Nat.toDigits_ne_nil

theorem digits?_ofNat (n : Nat) : digits? (ofNat n) = some n := by
  have hd : digitsFrom? 0 (ofNat n) = some n := by
    rw [digitsFrom?_eq fun c hc => isDigit_of_mem hc, ofNat, Nat.ofDigitChars_ten_toDigits]
  cases ht : ofNat n with
  | nil => exact absurd ht ofNat_ne_nil
  | cons c t =>
      rw [digits?, ← ht, hd]
      exact List.cons_ne_nil c t

theorem ofNat_ne_cons (hc : c.isDigit = false) : ofNat n ≠ c :: t := by
  intro h
  have hd : c.isDigit = true := isDigit_of_mem (n := n) (h ▸ List.mem_cons_self)
  exact Bool.false_ne_true (hc.symm.trans hd)

theorem offset?_ofNat (h : n < wordCount) : offset? (ofNat n) = some n := by
  unfold offset?
  split
  · exact absurd ‹_› (ofNat_ne_cons (by decide))
  · rw [digits?_ofNat, Option.filter_some, if_pos (by simpa using h)]

theorem position?_ofInt {p : Int} (h : Position.FitsWord p) : position? (ofInt p) = some p := by
  have hp : (some p).filter (fun i : Int => decide (-wordCount ≤ 2 * i ∧ 2 * i < wordCount)) = some p := by
    obtain ⟨hl, hu⟩ := h
    have hw : (wordCount : Int) = 2 * Int.pow 2 63 := rfl
    rw [Option.filter_some, if_pos]
    rw [decide_eq_true_eq]
    omega
  unfold position?
  cases p with
  | ofNat n =>
      split
      · exact absurd ‹_› (ofNat_ne_cons (by decide))
      · exact absurd ‹_› (ofNat_ne_cons (by decide))
      · rw [ofInt, digits?_ofNat]
        exact hp
  | negSucc n =>
      simp only [ofInt, digits?_ofNat]
      exact hp

end Decimal

namespace Text

variable {c : Char} {p : Char → Bool} {t u : Text} {ls : List Text}

theorem isBlank_of_isDigit (h : c.isDigit = true) : isBlank c = false := by
  simp only [Char.isDigit, Bool.and_eq_true, decide_eq_true_eq] at h
  have hl : 48 ≤ c.toNat := h.1
  have hu : c.toNat ≤ 57 := h.2
  simp only [isBlank, blankRanges, CodeRanges.contains]
  grind

theorem splitOnce_append (h : ∀ c ∈ t, p c = false) (hc : p c = true) (u : Text) :
    splitOnce p (t ++ c :: u) = some (t, u) := by
  induction t with
  | nil => simp [splitOnce, hc]
  | cons a t ih =>
      rw [List.cons_append, splitOnce, if_neg (by simp [h a]), ih fun c hc => h c (List.mem_cons_of_mem _ hc)]
      rfl

theorem splitOnce_eq_none (h : ∀ c ∈ t, p c = false) : splitOnce p t = none := by
  induction t with
  | nil => rfl
  | cons a t ih =>
      rw [splitOnce, if_neg (by simp [h a]), ih fun c hc => h c (List.mem_cons_of_mem _ hc)]
      rfl

theorem dropTrailing_eq (h : ∀ c, t.getLast? = some c → p c = false) : dropTrailing p t = t := by
  rw [dropTrailing]
  cases ht : t.reverse with
  | nil => exact (List.reverse_eq_nil_iff.1 ht).symm
  | cons c u =>
      have hc : p c = false := h c (by rw [← List.head?_reverse, ht, List.head?_cons])
      rw [List.dropWhile_cons, if_neg (by simp [hc]), ← ht, List.reverse_reverse]

/-- Nothing in the text ends its line or belongs to the line break behind it. -/
structure Inline (t : Text) : Prop where
  noNewline : '\n' ∉ t
  noReturn : t.getLast? ≠ some '\r'

instance : DecidablePred Inline := fun t =>
  decidable_of_iff ('\n' ∉ t ∧ t.getLast? ≠ some '\r') ⟨fun h => ⟨h.1, h.2⟩, fun h => ⟨h.1, h.2⟩⟩

namespace Inline

theorem nil : Inline [] := ⟨List.not_mem_nil, nofun⟩

theorem append (ht : Inline t) (hu : Inline u) : Inline (t ++ u) where
  noNewline := by simp [ht.noNewline, hu.noNewline]
  noReturn := by
    rw [List.getLast?_append]
    cases h : u.getLast? with
    | none => simpa using ht.noReturn
    | some c => simpa [h] using hu.noReturn

end Inline

structure IsWord (t : Text) : Prop where
  nonempty : t ≠ []
  unbroken : ∀ c ∈ t, isBlank c = false

theorem isWord_iff : IsWord t ↔ t ≠ [] ∧ t.any isBlank = false := by
  rw [List.any_eq_false]
  constructor
  · rintro ⟨hn, hb⟩
    exact ⟨hn, fun c hc => by rw [hb c hc]; exact Bool.false_ne_true⟩
  · rintro ⟨hn, hb⟩
    exact ⟨hn, fun c hc => Bool.eq_false_iff.2 (hb c hc)⟩

instance : DecidablePred IsWord := fun _ => decidable_of_iff _ isWord_iff.symm

theorem IsWord.inline (h : IsWord t) : Inline t where
  noNewline := fun hm => absurd (h.unbroken _ hm) (by decide)
  noReturn := fun hl => absurd (h.unbroken _ (List.mem_of_getLast? hl)) (by decide)

end Text

open Text

theorem Decimal.isWord_ofNat (n : Nat) : IsWord (ofNat n) :=
  ⟨ofNat_ne_nil, fun _ hc => isBlank_of_isDigit (isDigit_of_mem hc)⟩

theorem Decimal.isWord_ofInt (p : Position) : IsWord (ofInt p) := by
  cases p with
  | ofNat n => exact isWord_ofNat n
  | negSucc n =>
      refine ⟨List.cons_ne_nil _ _, fun c hc => ?_⟩
      rcases List.mem_cons.1 hc with rfl | hc
      · decide
      · exact (isWord_ofNat (n + 1)).unbroken c hc

namespace Script

variable {w t : Text} {ws : List Text} {k : Keyword} {a : Argument} {s : Step}

def onLine : List Text → Text
  | [] => []
  | w :: ws => w ++ ws.flatMap (' ' :: ·)

theorem nextWord_onLine (h : IsWord w) (ws : List Text) : nextWord (onLine (w :: ws)) = (w, onLine ws) := by
  have hdrop : (onLine (w :: ws)).dropWhile isBlank = onLine (w :: ws) := by
    cases w with
    | nil => exact absurd rfl h.nonempty
    | cons c w => rw [onLine, List.cons_append, List.dropWhile_cons, if_neg (by simp [h.unbroken c])]
  rw [nextWord, hdrop]
  cases ws with
  | nil => simp [onLine, splitOnce_eq_none h.unbroken]
  | cons v ws =>
      have hs : onLine (w :: v :: ws) = w ++ ' ' :: onLine (v :: ws) := by simp [onLine]
      rw [hs, splitOnce_append h.unbroken (by decide)]
      rfl

/-- What a step holds can be told from what is written for it: names are words, texts stay on their line, and
numbers are words of the machine. -/
def Step.Writable : Step → Prop
  | text t => t.Inline
  | range name first last | detached name first last =>
    name.IsWord ∧ Position.FitsWord first ∧ Position.FitsWord last
  | attach name | detach name | select name | collapse name _ => name.IsWord
  | insert offset t => offset < wordCount ∧ t.Inline
  | delete first second => first < wordCount ∧ second < wordCount
  | replace first second t => first < wordCount ∧ second < wordCount ∧ t.Inline
  | setStart name p | setEnd name p => name.IsWord ∧ Position.FitsWord p
  | setText name t => name.IsWord ∧ t.Inline
  | caret active other => Position.FitsWord active ∧ Position.FitsWord other
  | display => True

instance : DecidablePred Step.Writable := fun s => by
  cases s <;> (delta Step.Writable; infer_instance)

namespace Arguments

theorem word_onLine (h : IsWord w) (ws : List Text) : word k a (onLine (w :: ws)) = .ok (w, onLine ws) := by
  rw [word, nextWord_onLine h]
  cases w with
  | nil => exact absurd rfl h.nonempty
  | cons c w => rfl

theorem number_onLine {α : Type} {read? : Text → Option α} {n : α} (h : IsWord w) (hn : read? w = some n)
    (ws : List Text) : number k a read? (onLine (w :: ws)) = .ok (n, onLine ws) := by
  simp only [number, bind, StateT.bind, Except.bind, word_onLine h, hn]
  rfl

theorem position_onLine {p : Position} (h : Position.FitsWord p) (ws : List Text) :
    position k a (onLine (Decimal.ofInt p :: ws)) = .ok (p, onLine ws) :=
  number_onLine (Decimal.isWord_ofInt p) (Decimal.position?_ofInt h) ws

theorem offset_onLine {o : Nat} (h : o < wordCount) (ws : List Text) :
    offset k a (onLine (Decimal.ofNat o :: ws)) = .ok (o, onLine ws) :=
  number_onLine (Decimal.isWord_ofNat o) (Decimal.offset?_ofNat h) ws

theorem side_onLine (toStart : Bool) (ws : List Text) :
    side k (onLine ((if toStart then "start" else "end").toList :: ws)) = .ok (toStart, onLine ws) := by
  cases toStart
  all_goals
    simp only [side, bind, StateT.bind, Except.bind]
    rw [word_onLine (by decide)]
    rfl

theorem text_onLine (t : Text) : text (onLine [t]) = .ok (t, t) := by
  simp [text, onLine, get, getThe, MonadStateOf.get, StateT.get, pure, Except.pure]

theorem run_bind {α β : Type} {x : Arguments α} {b : α} {f : α → Arguments β} {u : Text} (h : x t = .ok (b, u)) :
    (x >>= f).run' t = (f b).run' u := by
  simp only [StateT.run', bind, StateT.bind, h, Except.bind]

theorem name_onLine (h : IsWord w) (ws : List Text) : name k (onLine (w :: ws)) = .ok (w, onLine ws) :=
  word_onLine h ws

theorem step_onLine (h : s.Writable) : (step s.keyword).run' (onLine s.arguments) = .ok s := by
  cases s with
  | text t =>
      rw [Step.arguments, Step.keyword, step, run_bind (text_onLine t)]
      rfl
  | range name first last | detached name first last =>
      obtain ⟨hn, hf, hl⟩ := h
      rw [Step.arguments, Step.keyword, step, run_bind (name_onLine hn _), run_bind (position_onLine hf _),
        run_bind (position_onLine hl _)]
      rfl
  | attach name | detach name | select name =>
      rw [Step.arguments, Step.keyword, step, run_bind (name_onLine h _)]
      rfl
  | insert offset t =>
      obtain ⟨ho, -⟩ := h
      rw [Step.arguments, Step.keyword, step, run_bind (offset_onLine ho _), run_bind (text_onLine t)]
      rfl
  | delete first second =>
      obtain ⟨hf, hs⟩ := h
      rw [Step.arguments, Step.keyword, step, run_bind (offset_onLine hf _), run_bind (offset_onLine hs _)]
      rfl
  | replace first second t =>
      obtain ⟨hf, hs, -⟩ := h
      rw [Step.arguments, Step.keyword, step, run_bind (offset_onLine hf _), run_bind (offset_onLine hs _),
        run_bind (text_onLine t)]
      rfl
  | setStart name p | setEnd name p =>
      obtain ⟨hn, hp⟩ := h
      rw [Step.arguments, Step.keyword, step, run_bind (name_onLine hn _), run_bind (position_onLine hp _)]
      rfl
  | collapse name toStart =>
      rw [Step.arguments, Step.keyword, step, run_bind (name_onLine h _), run_bind (side_onLine toStart _)]
      rfl
  | setText name t =>
      obtain ⟨hn, -⟩ := h
      rw [Step.arguments, Step.keyword, step, run_bind (name_onLine hn _), run_bind (text_onLine t)]
      rfl
  | caret active other =>
      obtain ⟨ha, ho⟩ := h
      rw [Step.arguments, Step.keyword, step, run_bind (position_onLine ha _), run_bind (position_onLine ho _)]
      rfl
  | display => rfl

end Arguments

theorem isWord_word (k : Keyword) : IsWord k.word.toList := by
  cases k <;> decide

theorem render_eq (s : Step) : s.render = onLine (s.keyword.word.toList :: s.arguments) := rfl

theorem ofWord?_word (k : Keyword) : Keyword.ofWord? k.word.toList = some k := by cases k <;> decide

theorem parseCommand_render (h : s.Writable) : parseCommand s.render = .ok s := by
  rw [parseCommand, render_eq, nextWord_onLine (isWord_word s.keyword)]
  simp only [ofWord?_word, Arguments.step_onLine h]

theorem inline_arguments (h : s.Writable) (ht : t ∈ s.arguments) : t.Inline := by
  have hn : ∀ o, Inline (Decimal.ofNat o) := fun o => (Decimal.isWord_ofNat o).inline
  have hp : ∀ p, Inline (Decimal.ofInt p) := fun p => (Decimal.isWord_ofInt p).inline
  cases s with
  | collapse name toStart =>
      rcases List.mem_cons.1 ht with rfl | ht
      · exact IsWord.inline h
      · rw [List.mem_singleton.1 ht]
        cases toStart <;> exact ⟨by decide, by decide⟩
  | _ =>
      simp only [Step.Writable, Step.arguments, List.mem_cons, List.not_mem_nil, or_false] at h ht <;>
        grind [IsWord.inline]

theorem inline_spaced (h : ∀ t ∈ ws, t.Inline) : Inline (ws.flatMap (' ' :: ·)) := by
  induction ws with
  | nil => exact .nil
  | cons w ws ih =>
      have hw : Inline ([' '] ++ w) := .append ⟨by decide, by decide⟩ (h w List.mem_cons_self)
      exact hw.append (ih fun t ht => h t (List.mem_cons_of_mem _ ht))

theorem inline_render (h : s.Writable) : s.render.Inline :=
  (isWord_word s.keyword).inline.append (inline_spaced fun _ ht => inline_arguments h ht)

/-- A line is no comment and is not blank if it begins with a keyword. -/
theorem render_head (s : Step) : ∃ c t, s.render = c :: t ∧ isBlank c = false ∧ c ≠ '#' := by
  have hk : ∀ k : Keyword, ∃ c t, k.word.toList = c :: t ∧ isBlank c = false ∧ c ≠ '#' := fun k => by
    cases k <;> exact ⟨_, _, rfl, by decide, by decide⟩
  obtain ⟨c, t, hw, hc, hh⟩ := hk s.keyword
  exact ⟨c, t ++ s.arguments.flatMap (' ' :: ·), by rw [Step.render, hw, List.cons_append], hc, hh⟩

theorem parseLine_indented {indent : Text} (hi : ∀ c ∈ indent, isBlank c = true) (h : s.Writable) :
    parseLine (indent ++ s.render) = .ok (some s) := by
  obtain ⟨c, t, hr, hc, hh⟩ := render_head s
  have hdrop : (indent ++ s.render).dropWhile isBlank = s.render := by
    rw [List.dropWhile_append_of_pos hi, hr, List.dropWhile_cons, if_neg (by simp [hc])]
  have htrim : dropTrailing (· == '\r') s.render = s.render :=
    dropTrailing_eq fun c hl => beq_false_of_ne fun he => (inline_render h).noReturn (he ▸ hl)
  rw [parseLine, hdrop]
  split
  · rename_i hn
    exact absurd (hr.symm.trans hn) (List.cons_ne_nil c t)
  · rename_i hn
    exact absurd (List.cons.inj (hr.symm.trans hn)).1 hh
  · rw [htrim, parseCommand_render h]
    rfl

/-- The steps with the numbers of their lines, the first of which is `n`. -/
def numbered (n : Nat) (steps : List Step) : List (Nat × Step) := steps.mapIdx fun i s => (n + i, s)

theorem numbered_cons (n : Nat) (s : Step) (steps : List Step) :
    numbered n (s :: steps) = (n, s) :: numbered (n + 1) steps := by
  simp only [numbered, List.mapIdx_cons, Nat.add_zero, Nat.add_assoc, Nat.add_comm 1]

def renderIndented (lines : List (Text × Step)) : Text :=
  List.intercalate ['\n'] (lines.map fun l => l.1 ++ l.2.render)

theorem parseLines_indented {lines : List (Text × Step)} (n : Nat) (hi : ∀ l ∈ lines, ∀ c ∈ l.1, isBlank c = true)
    (h : ∀ l ∈ lines, l.2.Writable) :
    parseLines n (lines.map fun l => l.1 ++ l.2.render) = .ok (numbered n (lines.map (·.2))) := by
  induction lines generalizing n with
  | nil => rfl
  | cons l lines ih =>
      have hrest := ih (n + 1) (fun l hl => hi l (List.mem_cons_of_mem _ hl)) fun l hl => h l (List.mem_cons_of_mem _ hl)
      rw [List.map_cons, List.map_cons, parseLines,
        parseLine_indented (hi l List.mem_cons_self) (h l List.mem_cons_self), hrest, numbered_cons]
      rfl

theorem parse_renderIndented {lines : List (Text × Step)}
    (hi : ∀ l ∈ lines, ∀ c ∈ l.1, isBlank c = true ∧ c ≠ '\n') (h : ∀ l ∈ lines, l.2.Writable) :
    parse (renderIndented lines) = .ok (numbered 1 (lines.map (·.2))) := by
  have hnewline : ∀ k ∈ lines.map fun l => l.1 ++ l.2.render, '\n' ∉ k := by
    intro k hk hn
    obtain ⟨l, hl, rfl⟩ := List.mem_map.1 hk
    rcases List.mem_append.1 hn with hn | hn
    · exact (hi l hl _ hn).2 rfl
    · exact (inline_render (h l hl)).noNewline hn
  have hlines := parseLines_indented 1 (fun l hl c hc => (hi l hl c hc).1) h
  cases lines with
  | nil => rfl
  | cons l lines => rw [parse_eq, renderIndented, List.splitOn_intercalate _ hnewline (by simp), hlines]

/-- A script written step by step reads back as these very steps, numbered by their lines from 1, and blanks
at the beginning of its lines change nothing. -/
theorem written_scripts_read_back (steps : List Step) (h : ∀ s ∈ steps, s.Writable) :
    parse (render steps) = .ok (numbered 1 steps) ∧
    ∀ lines : List (Text × Step), lines.map (·.2) = steps →
      (∀ l ∈ lines, ∀ c ∈ l.1, isBlank c = true ∧ c ≠ '\n') → parse (renderIndented lines) = parse (render steps) := by
  have hplain : parse (render steps) = .ok (numbered 1 steps) := by
    have hr : render steps = renderIndented (steps.map fun s => ([], s)) := by
      simp [render, renderIndented, Function.comp_def]
    have hs : (steps.map fun s => (([] : Text), s)).map (·.2) = steps := by simp [Function.comp_def]
    rw [hr, parse_renderIndented (by simp) (by simpa using h), hs]
  refine ⟨hplain, fun lines hl hi => ?_⟩
  rw [hplain, parse_renderIndented hi fun l hm => h _ (hl ▸ List.mem_map_of_mem hm), hl]

def writtenSteps : List Step :=
  [.text [' ', '#', '\t'], .range ['#', 'é'] (-9223372036854775808) 9223372036854775807, .setText ['7'] [],
    .replace 0 18446744073709551615 ['\r', ' '], .collapse ['7'] false, .display]

theorem written_scripts_read_back_writtenSteps :
    parse (render writtenSteps) = .ok [(1, .text [' ', '#', '\t']),
      (2, .range ['#', 'é'] (-9223372036854775808) 9223372036854775807), (3, .setText ['7'] []),
      (4, .replace 0 18446744073709551615 ['\r', ' ']), (5, .collapse ['7'] false), (6, .display)] ∧
    parse (renderIndented (writtenSteps.map fun s => (['\t', '\r', '\u3000'], s))) = parse (render writtenSteps) := by
  have h : ∀ s ∈ writtenSteps, s.Writable := by decide +kernel
  obtain ⟨hread, hindented⟩ := written_scripts_read_back writtenSteps h
  have hblank : ∀ c ∈ ['\t', '\r', '\u3000'], isBlank c = true ∧ c ≠ '\n' := by
    simp only [List.forall_mem_cons, List.not_mem_nil, false_implies, implies_true, and_true]
    decide
  refine ⟨hread, hindented _ (by decide) fun l hl => ?_⟩
  obtain ⟨s, -, rfl⟩ := List.mem_map.1 hl
  exact hblank

end Script

end TrackedText
