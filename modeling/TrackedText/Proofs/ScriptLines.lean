import Mathlib.Data.List.Forall2
import TrackedText.Script.Parser

namespace TrackedText

namespace Text

variable {t l k : Text}

theorem splitOn_newline_cons {c : Char} (hc : c ≠ '\n') (t : Text) :
    (c :: t).splitOn '\n' = (t.splitOn '\n').modifyHead (c :: ·) := by
  rw [List.splitOn_cons_eq_if_modifyHead, if_neg (by simpa using hc)]

theorem splitOn_newline_break (t : Text) : ('\n' :: t).splitOn '\n' = [] :: t.splitOn '\n' :=
  List.splitOn_append_cons_self [] t

theorem length_splitOn_newline (t : Text) : (t.splitOn '\n').length = t.count '\n' + 1 := by
  induction t with
  | nil => rfl
  | cons c t ih =>
      by_cases hc : c = '\n'
      · rw [hc, splitOn_newline_break, List.length_cons, ih, List.count_cons_self]
      · rw [splitOn_newline_cons hc, List.length_modifyHead, ih, List.count_cons_of_ne hc]

theorem newline_not_mem_of_splitOn (h : l ∈ t.splitOn '\n') : '\n' ∉ l := by
  induction t generalizing l with
  | nil =>
      rw [List.splitOn_nil, List.mem_singleton] at h
      exact h ▸ List.not_mem_nil
  | cons c t ih =>
      by_cases hc : c = '\n'
      · rw [hc, splitOn_newline_break] at h
        rcases List.mem_cons.1 h with rfl | h
        · exact List.not_mem_nil
        · exact ih h
      · rw [splitOn_newline_cons hc] at h
        cases hs : t.splitOn '\n' with
        | nil => exact absurd hs (List.splitOn_ne_nil _ _)
        | cons k ks =>
            rw [hs, List.modifyHead_cons] at h
            have ih := fun l hl => ih (l := l) (hs ▸ hl)
            rcases List.mem_cons.1 h with rfl | h
            · exact fun hm => (List.mem_cons.1 hm).elim (fun he => hc he.symm) (ih k List.mem_cons_self)
            · exact ih l (List.mem_cons_of_mem _ h)

def GainsReturns (l k : Text) : Prop := ∃ n, k = l ++ List.replicate n '\r'

theorem gainsReturns_refl (l : Text) : GainsReturns l l := ⟨0, (List.append_nil l).symm⟩

theorem GainsReturns.cons (h : GainsReturns l k) (c : Char) : GainsReturns (c :: l) (c :: k) := by
  obtain ⟨n, rfl⟩ := h
  exact ⟨n, rfl⟩

/-- The lines are the pieces between newlines without the carriage returns that belong to those, and without the last
piece where that is empty. -/
theorem gainsReturns_lines (t : Text) : List.Forall₂ GainsReturns (lines t) (t.splitOn '\n') ∨
    List.Forall₂ GainsReturns (lines t ++ [[]]) (t.splitOn '\n') := by
  fun_induction lines t with
  | case1 => exact .inr (.cons (gainsReturns_refl []) .nil)
  | case2 t ih =>
      rw [splitOn_newline_break]
      exact ih.imp (.cons (gainsReturns_refl [])) (.cons (gainsReturns_refl []))
  | case3 t ih =>
      rw [splitOn_newline_cons (by decide), splitOn_newline_break, List.modifyHead_cons]
      exact ih.imp (.cons ⟨1, rfl⟩) (.cons ⟨1, rfl⟩)
  | case4 c t hc _ hnil ih =>
      rw [splitOn_newline_cons hc]
      rw [hnil] at ih
      rcases ih with ih | ih
      · exact absurd (List.forall₂_nil_left_iff.1 ih) (List.splitOn_ne_nil _ _)
      · obtain ⟨k, ks, hk, hks, hs⟩ := List.forall₂_cons_left_iff.1 ih
        rw [hs, List.modifyHead_cons]
        exact .inl (.cons (hk.cons c) hks)
  | case5 c t hc _ l ls hcons ih =>
      rw [splitOn_newline_cons hc]
      rw [hcons] at ih
      rcases ih with ih | ih
      all_goals
        obtain ⟨k, ks, hk, hks, hs⟩ := List.forall₂_cons_left_iff.1 ih
        rw [hs, List.modifyHead_cons]
      · exact .inl (.cons (hk.cons c) hks)
      · exact .inr (.cons (hk.cons c) hks)

theorem dropTrailing_returns (t : Text) (n : Nat) :
    dropTrailing (· == '\r') (t ++ List.replicate n '\r') = dropTrailing (· == '\r') t := by
  rw [dropTrailing, List.reverse_append, List.reverse_replicate, List.dropWhile_append_of_pos, dropTrailing]
  intro c hc
  exact beq_iff_eq.2 (List.eq_of_mem_replicate hc)

theorem dropBlanks_returns (l : Text) (n : Nat) :
    (l ++ List.replicate n '\r').dropWhile isBlank =
      if l.dropWhile isBlank = [] then [] else l.dropWhile isBlank ++ List.replicate n '\r' := by
  have hreturn : isBlank '\r' = true := by decide
  rw [List.dropWhile_append, List.dropWhile_replicate, if_pos hreturn]
  simp only [List.isEmpty_iff]

end Text

namespace Script

open Text

variable {ls ks : List Text} {l k : Text} {n : Nat} {e : Error} {cause : Cause} {xs : List (Nat × Step)}

def Error.below (e : Error) (k : Nat) : Error := { e with line := e.line + k }

def below (xs : List (Nat × Step)) (k : Nat) : List (Nat × Step) := xs.map fun (n, s) => (n + k, s)

/-- A line that is neither blank nor a comment. -/
def HoldsCommand (l : Text) : Prop := ∃ c t, l.dropWhile isBlank = c :: t ∧ c ≠ '#'

theorem parseLine_of_not_holdsCommand (h : ¬ HoldsCommand l) : parseLine l = .ok none := by
  rw [parseLine]
  split
  · rfl
  · rfl
  · rename_i hnil hhash
    cases hl : l.dropWhile isBlank with
    | nil => exact absurd hl hnil
    | cons c t => exact absurd ⟨c, t, hl, fun hc => hhash t (hc ▸ hl)⟩ h

theorem parseLine_of_holdsCommand {c : Char} {t : Text} (hl : l.dropWhile isBlank = c :: t) (hc : c ≠ '#') :
    parseLine l = (parseCommand (dropTrailing (· == '\r') (c :: t))).map some := by
  rw [parseLine, hl]
  split
  · rename_i h
    cases h
  · rename_i h
    exact absurd (List.cons.inj h).1 hc
  · rfl

theorem holdsCommand_of_returns {n : Nat} (h : HoldsCommand (l ++ List.replicate n '\r')) : HoldsCommand l := by
  obtain ⟨c, t, hk, hc⟩ := h
  rw [dropBlanks_returns] at hk
  cases hl : l.dropWhile isBlank with
  | nil => simp [hl] at hk
  | cons a u =>
      rw [hl, if_neg (List.cons_ne_nil a u), List.cons_append] at hk
      exact ⟨a, u, hl, (List.cons.inj hk).1 ▸ hc⟩

/-- Carriage returns behind a command are taken off before it is read, and behind anything else there is nothing
to read. -/
theorem parseLine_gainsReturns (h : GainsReturns l k) : parseLine k = parseLine l := by
  obtain ⟨n, rfl⟩ := h
  by_cases hl : HoldsCommand l
  · obtain ⟨c, t, hl, hc⟩ := hl
    have hk : (l ++ List.replicate n '\r').dropWhile isBlank = c :: (t ++ List.replicate n '\r') := by
      rw [dropBlanks_returns, hl, if_neg (List.cons_ne_nil c t), List.cons_append]
    rw [parseLine_of_holdsCommand hk hc, parseLine_of_holdsCommand hl hc, ← List.cons_append, dropTrailing_returns]
  · rw [parseLine_of_not_holdsCommand hl, parseLine_of_not_holdsCommand (mt holdsCommand_of_returns hl)]

theorem parseLines_cons (n : Nat) (l : Text) (ls : List Text) :
    parseLines n (l :: ls) = match parseLine l with
      | .error cause => .error ⟨n, cause⟩
      | .ok step? => match parseLines (n + 1) ls with
        | .error e => .error e
        | .ok xs => .ok (step?.toList.map (n, ·) ++ xs) := by
  rw [parseLines]
  cases parseLine l with
  | error cause => rfl
  | ok step? => cases parseLines (n + 1) ls <;> rfl

theorem parseLines_gainsReturns (h : List.Forall₂ GainsReturns ls ks) (n : Nat) :
    parseLines n ks = parseLines n ls := by
  induction h generalizing n with
  | nil => rfl
  | cons h hs ih => rw [parseLines_cons, parseLines_cons, parseLine_gainsReturns h, ih]

theorem parseLines_append (n : Nat) (ls ks : List Text) :
    parseLines n (ls ++ ks) = match parseLines n ls with
      | .error e => .error e
      | .ok xs => match parseLines (n + ls.length) ks with
        | .error e => .error e
        | .ok ys => .ok (xs ++ ys) := by
  induction ls generalizing n with
  | nil =>
      rw [List.nil_append, List.length_nil, Nat.add_zero]
      cases parseLines n ks <;> rfl
  | cons l ls ih =>
      rw [List.cons_append, parseLines_cons, parseLines_cons, ih, List.length_cons, ← Nat.add_assoc,
        Nat.add_right_comm]
      cases parseLine l with
      | error cause => rfl
      | ok step? =>
          cases parseLines (n + 1) ls with
          | error e => rfl
          | ok xs => cases parseLines (n + ls.length + 1) ks <;> simp

theorem parseLines_below (n k : Nat) (ls : List Text) :
    parseLines (n + k) ls = match parseLines n ls with
      | .ok xs => .ok (below xs k)
      | .error e => .error (e.below k) := by
  induction ls generalizing n with
  | nil => rfl
  | cons l ls ih =>
      rw [parseLines_cons, parseLines_cons, Nat.add_right_comm, ih]
      cases parseLine l with
      | error cause => rfl
      | ok step? => cases parseLines (n + 1) ls <;> simp [below, Function.comp_def]

theorem parseLines_error_iff : parseLines n ls = .error e ↔
    ∃ before l after, ls = before ++ l :: after ∧ e.line = n + before.length ∧ parseLine l = .error e.cause ∧
      ∀ k ∈ before, ∃ step?, parseLine k = .ok step? := by
  induction ls generalizing n with
  | nil => simp [parseLines]
  | cons l ls ih =>
      rw [parseLines_cons]
      cases hl : parseLine l with
      | error cause =>
          constructor
          · intro he
            obtain rfl := Except.error.inj he
            exact ⟨[], l, ls, rfl, rfl, hl, by simp⟩
          · rintro ⟨before, l', after, hsplit, hline, hcause, hbefore⟩
            cases before with
            | nil =>
                obtain ⟨rfl, rfl⟩ := List.cons.inj hsplit
                obtain rfl := Except.error.inj (hl.symm.trans hcause)
                exact congrArg (fun line => Except.error (Error.mk line e.cause)) hline.symm
            | cons k before =>
                obtain ⟨rfl, rfl⟩ := List.cons.inj hsplit
                obtain ⟨step?, hk⟩ := hbefore l List.mem_cons_self
                exact absurd (hl.symm.trans hk) (by simp)
      | ok step? =>
          have hrest : (match parseLines (n + 1) ls with
              | .error e => .error e
              | .ok xs => .ok (step?.toList.map (n, ·) ++ xs)) = Except.error e ↔
                parseLines (n + 1) ls = .error e := by
            cases parseLines (n + 1) ls <;> simp
          rw [hrest, ih]
          constructor
          · rintro ⟨before, l', after, rfl, hline, hcause, hbefore⟩
            refine ⟨l :: before, l', after, rfl, ?_, hcause, ?_⟩
            · rw [hline, List.length_cons, Nat.add_assoc, Nat.add_comm 1]
            · exact List.forall_mem_cons.2 ⟨⟨step?, hl⟩, hbefore⟩
          · rintro ⟨before, l', after, hsplit, hline, hcause, hbefore⟩
            cases before with
            | nil =>
                obtain ⟨rfl, -⟩ := List.cons.inj hsplit
                exact absurd (hl.symm.trans hcause) (by simp)
            | cons k before =>
                obtain ⟨rfl, rfl⟩ := List.cons.inj hsplit
                refine ⟨before, l', after, rfl, ?_, hcause, (List.forall_mem_cons.1 hbefore).2⟩
                rw [hline, List.length_cons, Nat.add_assoc, Nat.add_comm 1]

theorem parseLines_error_of_mem (n : Nat) (hl : l ∈ ls) (he : parseLine l = .error cause) :
    ∃ e, parseLines n ls = .error e := by
  obtain ⟨before, after, rfl⟩ := List.append_of_mem hl
  rw [parseLines_append, parseLines_cons, he]
  cases parseLines n before with
  | error e => exact ⟨e, rfl⟩
  | ok xs => exact ⟨_, rfl⟩

/-- Neither a carriage return nor an empty last piece makes a difference, so a script may as well be read piece
by piece. -/
theorem parse_eq (t : Text) : parse t = parseLines 1 (t.splitOn '\n') := by
  rcases gainsReturns_lines t with h | h
  · rw [parse, parseLines_gainsReturns h]
  · have hempty : ∀ n, parseLines n [[]] = .ok [] := fun _ => rfl
    rw [parse, parseLines_gainsReturns h, parseLines_append, hempty]
    cases parseLines 1 (lines t) with
    | error e => rfl
    | ok xs => simp

theorem parse_append (a b : Text) :
    parse (a ++ '\n' :: b) = match parse a with
      | .error e => .error e
      | .ok xs => match parse b with
        | .error e => .error (e.below (a.count '\n' + 1))
        | .ok ys => .ok (xs ++ below ys (a.count '\n' + 1)) := by
  rw [parse_eq, parse_eq a, parse_eq b, List.splitOn_append_cons_self, parseLines_append, length_splitOn_newline,
    parseLines_below]
  cases parseLines 1 (a.splitOn '\n') with
  | error e => rfl
  | ok xs => cases parseLines 1 (b.splitOn '\n') <;> rfl

theorem parse_line (h : '\n' ∉ l) :
    parse l = match parseLine l with
      | .ok step? => .ok (step?.toList.map (1, ·))
      | .error cause => .error ⟨1, cause⟩ := by
  rw [parse_eq, List.splitOn_eq_singleton h, parseLines_cons]
  cases parseLine l with
  | error cause => rfl
  | ok step? => simp [parseLines]

theorem parse_error_iff {t : Text} : parse t = .error e ↔
    ∃ before l after, t.splitOn '\n' = before ++ l :: after ∧ e.line = before.length + 1 ∧
      parse l = .error ⟨1, e.cause⟩ ∧ ∀ k ∈ before, ∃ xs, parse k = .ok xs := by
  rw [parse_eq, parseLines_error_iff]
  refine exists_congr fun before => exists_congr fun l => exists_congr fun after => and_congr_right fun hs => ?_
  have hpiece : ∀ k ∈ t.splitOn '\n', '\n' ∉ k := fun k hk => newline_not_mem_of_splitOn hk
  rw [hs] at hpiece
  have hl : parse l = .error ⟨1, e.cause⟩ ↔ parseLine l = .error e.cause := by
    rw [parse_line (hpiece l (by simp))]
    cases parseLine l <;> simp
  have hb : (∀ k ∈ before, ∃ xs, parse k = .ok xs) ↔ ∀ k ∈ before, ∃ step?, parseLine k = .ok step? := by
    refine forall₂_congr fun k hk => ?_
    rw [parse_line (hpiece k (by simp [hk]))]
    cases parseLine k <;> simp
  rw [hl, hb, Nat.add_comm]

theorem holdsCommand_of_error {t : Text} (hl : l ∈ t.splitOn '\n') (he : parse l = .error e) : HoldsCommand l := by
  refine Classical.byContradiction fun hn => ?_
  rw [parse_line (newline_not_mem_of_splitOn hl), parseLine_of_not_holdsCommand hn] at he
  cases he

/-- A script that goes on after a newline reads as its two parts do, the second one with its numbers raised
by the lines before it. So it fails where one of its lines fails on its own, and the first of these that does gives
the error, under its true number. -/
theorem scripts_read_by_lines (a b : Text) :
    (parse (a ++ '\n' :: b) = match parse a with
      | .error e => .error e
      | .ok xs => match parse b with
        | .error e => .error { e with line := e.line + (a.count '\n' + 1) }
        | .ok ys => .ok (xs ++ ys.map fun (n, s) => (n + (a.count '\n' + 1), s))) ∧
    ((∃ e, parse a = .error e) ↔ ∃ l ∈ a.splitOn '\n', HoldsCommand l ∧ ∃ e, parse l = .error e) ∧
    ∀ n cause, parse a = .error ⟨n, cause⟩ ↔
      ∃ before l after, a.splitOn '\n' = before ++ l :: after ∧ n = before.length + 1 ∧ HoldsCommand l ∧
        parse l = .error ⟨1, cause⟩ ∧ ∀ k ∈ before, ∃ xs, parse k = .ok xs := by
  refine ⟨parse_append a b, ⟨?_, ?_⟩, fun n cause => ?_⟩
  · rintro ⟨e, he⟩
    obtain ⟨before, l, after, hs, -, hl, -⟩ := parse_error_iff.1 he
    have hm : l ∈ a.splitOn '\n' := by simp [hs]
    exact ⟨l, hm, holdsCommand_of_error hm hl, _, hl⟩
  · rintro ⟨l, hm, -, e, he⟩
    rw [parse_line (newline_not_mem_of_splitOn hm)] at he
    rw [parse_eq]
    cases hl : parseLine l with
    | error cause => exact parseLines_error_of_mem 1 hm hl
    | ok step? =>
        rw [hl] at he
        cases he
  · rw [parse_error_iff]
    refine exists_congr fun before => exists_congr fun l => exists_congr fun after => and_congr_right fun hs =>
      and_congr_right fun _ => ⟨fun h => ⟨?_, h⟩, And.right⟩
    have hm : l ∈ a.splitOn '\n' := by simp [hs]
    exact holdsCommand_of_error hm h.1

def brokenKeyword : Text × Text :=
  ("text a\r\r\n#\n".toList, "attach\rx \r\n\r\n atta\rch x".toList)

theorem scripts_read_by_lines_brokenKeyword :
    parse (brokenKeyword.1 ++ '\n' :: brokenKeyword.2) = .error ⟨6, .unknownCommand ['a', 't', 't', 'a']⟩ ∧
    ∃ before l after, brokenKeyword.2.splitOn '\n' = before ++ l :: after ∧ 3 = before.length + 1 ∧
      HoldsCommand l ∧ parse l = .error ⟨1, .unknownCommand ['a', 't', 't', 'a']⟩ ∧
      ∀ k ∈ before, ∃ xs, parse k = .ok xs := by
  have hfirst : parse brokenKeyword.1 = .ok [(1, .text ['a'])] := by rfl
  have hsecond : parse brokenKeyword.2 = .error ⟨3, .unknownCommand ['a', 't', 't', 'a']⟩ := by rfl
  obtain ⟨hparts, -, -⟩ := scripts_read_by_lines brokenKeyword.1 brokenKeyword.2
  obtain ⟨-, -, hlines⟩ := scripts_read_by_lines brokenKeyword.2 []
  refine ⟨?_, (hlines 3 _).1 hsecond⟩
  rw [hparts, hfirst, hsecond]
  rfl

end Script

end TrackedText
