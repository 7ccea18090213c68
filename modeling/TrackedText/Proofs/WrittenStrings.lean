import TrackedText.Toml.Strings
import TrackedText.Toml.Writer

namespace TrackedText.Toml

variable {c q : Char} {e t u rest : Text} {multi : Bool} {k n : Nat}

/-! One character -/

/-- The characters after a backslash that stand for one character, whatever comes next. -/
def Escapes (e : Text) (c : Char) : Prop := ∀ t, escape (e ++ t) = .ok (c, e.length)

theorem upperHex_control : ∀ n < 128, isControl (Char.ofNat n) = true →
    (upperHex (Char.ofNat n)).length = 4 ∧ hexFrom? 0 (upperHex (Char.ofNat n)) = some n := by
  decide +kernel

theorem isControl_lt (h : isControl c = true) : c.toNat < 128 := by
  simp only [isControl, Bool.or_eq_true, Bool.and_eq_true, decide_eq_true_eq, beq_iff_eq] at h
  omega

theorem escapes_upperHex (h : isControl c = true) : Escapes ('u' :: upperHex c) c := by
  intro t
  have hc : Char.ofNat c.toNat = c := Char.ofNat_toNat c
  obtain ⟨hl, hx⟩ := upperHex_control c.toNat (isControl_lt h) (by rwa [hc])
  rw [hc] at hl hx
  have ht : (upperHex c ++ t).take 4 = upperHex c := hl ▸ List.take_left
  have hv : c.toNat.isValidChar := c.valid
  change (codePoint 4 (upperHex c ++ t)).map (·, 5) = .ok (c, (upperHex c).length + 1)
  rw [codePoint, ht, hx, hl]
  simp only [hv, and_self, if_true, hc]
  rfl

theorem writtenChar_cases (multi : Bool) (c : Char) :
    (writtenChar multi c = [c] ∧ c ≠ '\\' ∧ (isControl c = false ∨ c = '\n' ∧ multi = true)) ∨
      ∃ e, writtenChar multi c = '\\' :: e ∧ Escapes e c := by
  unfold writtenChar
  split
  · exact .inr ⟨['b'], rfl, fun t => by subst c; rfl⟩
  split
  · exact .inr ⟨['t'], rfl, fun t => by subst c; rfl⟩
  split
  · cases multi with
    | true => exact .inl (by subst c; exact ⟨rfl, by decide, .inr ⟨rfl, rfl⟩⟩)
    | false => exact .inr ⟨['n'], rfl, fun t => by subst c; rfl⟩
  split
  · exact .inr ⟨['f'], rfl, fun t => by subst c; rfl⟩
  split
  · exact .inr ⟨['r'], rfl, fun t => by subst c; rfl⟩
  split
  · exact .inr ⟨['\\'], rfl, fun t => by subst c; rfl⟩
  split
  · exact .inr ⟨_, rfl, escapes_upperHex ‹_›⟩
  · exact .inl ⟨rfl, ‹_›, .inl (Bool.eq_false_iff.2 ‹_›)⟩

/-! One line -/

theorem readBasic_skip (u t : Text) : readBasic u.length (u ++ t) = readBasic 0 t := by
  induction u with
  | nil => rfl
  | cons c u ih => rw [List.length_cons, List.cons_append, readBasic, ih]

theorem readBasic_escape (h : Escapes e c) (t : Text) : readBasic 0 ('\\' :: e ++ t) = (readBasic 0 t).cons c := by
  rw [List.cons_append, readBasic, if_neg (by decide), if_pos rfl, h t]
  dsimp only
  rw [readBasic_skip]

theorem readBasic_writtenChar (hc : c ≠ '"') (t : Text) :
    readBasic 0 (writtenChar false c ++ t) = (readBasic 0 t).cons c := by
  rcases writtenChar_cases false c with ⟨hw, hb, hp⟩ | ⟨e, hw, he⟩
  · have hp : isControl c = false := hp.resolve_right fun h => nomatch h.2
    rw [hw, List.singleton_append, readBasic, if_neg hc, if_neg hb, if_neg (by simp [hp])]
  · rw [hw, readBasic_escape he]

theorem escapes_quote : Escapes ['"'] '"' := fun _ => rfl

theorem readBasic_writeBasic (k : Nat) (t rest : Text) :
    readBasic 0 (writeBasic false k t ++ '"' :: rest) = .ok (t, rest) := by
  induction t generalizing k with
  | nil => rfl
  | cons c t ih =>
      rw [writeBasic]
      split
      · subst c
        exact (readBasic_escape escapes_quote _).trans (congrArg (Scanned.cons '"') (ih 0))
      · rw [List.append_assoc, readBasic_writtenChar ‹_›, ih]
        rfl

theorem readLiteral_append (ht : ∀ c ∈ t, c ≠ '\'' ∧ isControl c = false) (rest : Text) :
    readLiteral (t ++ '\'' :: rest) = .ok (t, rest) := by
  induction t with
  | nil => rfl
  | cons c t ih =>
      obtain ⟨hq, hc⟩ := ht c List.mem_cons_self
      rw [List.cons_append, readLiteral, if_neg hq, if_neg (by simp [hc]),
        ih fun c hc => ht c (List.mem_cons_of_mem _ hc)]
      rfl

/-! Several lines -/

theorem quoteRun_cons (q c : Char) (t : Text) : quoteRun q (c :: t) = if c = q then quoteRun q t + 1 else 0 := by
  rw [quoteRun, List.takeWhile_cons]
  by_cases h : c = q <;> simp [h, quoteRun]

def closing (q : Char) : Text := List.replicate 3 q

theorem quoteRun_replicate (hrest : rest.head? ≠ some q) (n : Nat) : quoteRun q (List.replicate n q ++ rest) = n := by
  induction n with
  | zero =>
      cases rest with
      | nil => rfl
      | cons c rest =>
          rw [List.replicate_zero, List.nil_append, quoteRun_cons, if_neg]
          rintro rfl
          exact hrest rfl
  | succ n ih => rw [List.replicate_succ, List.cons_append, quoteRun_cons, if_pos rfl, ih]

/-- In front of the closing quotes a text is nothing but quotes, or what quotes it begins with end inside it. -/
theorem quoteRun_append (q : Char) (t rest : Text) :
    t = List.replicate (quoteRun q t) q ∨ quoteRun q (t ++ rest) = quoteRun q t := by
  induction t with
  | nil => exact .inl rfl
  | cons c t ih =>
      rw [List.cons_append, quoteRun_cons, quoteRun_cons]
      split
      · subst c
        rcases ih with ih | ih
        · exact .inl (congrArg (q :: ·) ih)
        · exact .inr (congrArg (· + 1) ih)
      · exact .inr rfl

theorem closeRun_replicate (hn : n ≤ 2) (rest : Text) :
    closeRun q (n + 3) (List.replicate (n + 2) q ++ rest) = .ok (List.replicate n q, rest) := by
  have hd : min (n + 3) 5 - 1 = n + 2 := by omega
  have hr : min (n + 3 - 3) 2 = n := by omega
  rw [closeRun, hd, hr, List.drop_left' List.length_replicate]

theorem replicate_closing (n : Nat) (rest : Text) :
    List.replicate n q ++ (closing q ++ rest) = q :: (List.replicate (n + 2) q ++ rest) := by
  rw [closing, ← List.append_assoc, List.replicate_append_replicate]
  rfl

theorem readMultiBasic_skip (u t : Text) : readMultiBasic u.length (u ++ t) = readMultiBasic 0 t := by
  induction u with
  | nil => rfl
  | cons c u ih => rw [List.length_cons, List.cons_append, readMultiBasic, ih]

/-- A backslash at the end of its line is no escape. -/
theorem lineBreak?_of_escape {p : Char × Nat} (h : escape t = .ok p) : lineBreak? (t.dropWhile isSpace) = none := by
  unfold escape at h
  split at h <;> first | rfl | cases h

theorem readMultiBasic_escape (h : Escapes e c) (t : Text) :
    readMultiBasic 0 ('\\' :: e ++ t) = (readMultiBasic 0 t).cons c := by
  rw [List.cons_append, readMultiBasic, if_neg (by decide), if_pos rfl, lineBreak?_of_escape (h t),
    if_neg (by decide), h t]
  dsimp only
  rw [readMultiBasic_skip]

theorem readMultiBasic_writtenChar (hc : c ≠ '"') (t : Text) :
    readMultiBasic 0 (writtenChar true c ++ t) = (readMultiBasic 0 t).cons c := by
  rcases writtenChar_cases true c with ⟨hw, hb, hp⟩ | ⟨e, hw, he⟩
  · rw [hw, List.singleton_append, readMultiBasic, if_neg hc, if_neg hb]
    by_cases hn : c = '\n' ∨ c = '\r' ∧ t.head? = some '\n'
    · rw [if_pos hn]
    · rw [if_neg hn, if_neg]
      exact Bool.eq_false_iff.1 (hp.resolve_right fun h => hn (.inl h.1))
  · rw [hw, readMultiBasic_escape he]

theorem readMultiBasic_close (hn : n ≤ 2) (hrest : rest.head? ≠ some '"') :
    readMultiBasic 0 (List.replicate n '"' ++ (closing '"' ++ rest)) = .ok (List.replicate n '"', rest) := by
  rw [replicate_closing, readMultiBasic, if_pos rfl, quoteRun_replicate hrest, if_neg (by omega)]
  exact closeRun_replicate hn rest

theorem readMultiLiteral_close (hn : n ≤ 2) (hrest : rest.head? ≠ some '\'') :
    readMultiLiteral (List.replicate n '\'' ++ (closing '\'' ++ rest)) = .ok (List.replicate n '\'', rest) := by
  rw [replicate_closing, readMultiLiteral, if_pos rfl, quoteRun_replicate hrest, if_neg (by omega)]
  exact closeRun_replicate hn rest

theorem writtenChar_head (multi : Bool) (hc : c ≠ '"') :
    ∃ d u, writtenChar multi c = d :: u ∧ d ≠ '"' ∧ (d = '\n' → c = '\n') ∧ d ≠ '\r' := by
  rcases writtenChar_cases multi c with ⟨hw, -, hp⟩ | ⟨e, hw, -⟩
  · refine ⟨c, [], hw, hc, id, ?_⟩
    rintro rfl
    exact hp.elim (fun h => nomatch h) fun h => nomatch h.1
  · exact ⟨'\\', e, hw, by decide, (nomatch ·), by decide⟩

theorem quoteRun_writeBasic (hk : k ≤ 2) (t : Text) : quoteRun '"' (writeBasic true k t) + k ≤ 2 := by
  fun_induction writeBasic true k t with
  | case1 k => simpa [quoteRun] using hk
  | case2 k t hk' ih =>
      have hrun := ih (Nat.lt_iff_add_one_le.1 (of_decide_eq_true hk'))
      rw [quoteRun_cons, if_pos rfl]
      omega
  | case3 k t hk' ih => simpa [quoteRun_cons] using hk
  | case4 k c t hc ih =>
      obtain ⟨d, u, hw, hd, -⟩ := writtenChar_head true hc
      rw [hw, List.cons_append, quoteRun_cons, if_neg hd]
      omega

theorem writeBasic_quotes (h : ∀ c ∈ writeBasic true k t, c = '"') : writeBasic true k t = t := by
  fun_induction writeBasic true k t with
  | case1 k => rfl
  | case2 k t hk ih => exact congrArg _ (ih fun c hc => h c (List.mem_cons_of_mem _ hc))
  | case3 k t hk ih => exact absurd (h '\\' List.mem_cons_self) (by decide)
  | case4 k c t hc ih =>
      obtain ⟨d, u, hw, hd, -⟩ := writtenChar_head true hc
      exact absurd (h d (by simp [hw])) hd

theorem readMultiBasic_writeBasic (hk : k ≤ 2) (t : Text) (hrest : rest.head? ≠ some '"') :
    readMultiBasic 0 (writeBasic true k t ++ (closing '"' ++ rest)) = .ok (t, rest) := by
  have hrun := quoteRun_writeBasic hk t
  fun_induction writeBasic true k t with
  | case1 k => exact readMultiBasic_close (n := 0) (by decide) hrest
  | case2 k t hk' ih =>
      -- the reader looks ahead from each quote, and takes the last ones together with those that close the string
      rcases quoteRun_append '"' ('"' :: writeBasic true (k + 1) t) (closing '"' ++ rest) with hall | hfront
      · have ht : writeBasic true (k + 1) t = t := writeBasic_quotes fun c hc =>
          List.eq_of_mem_replicate (hall ▸ List.mem_cons_of_mem _ hc)
        rw [ht] at hall hrun ⊢
        rw [hall]
        exact readMultiBasic_close (by omega) hrest
      · have hk' : k + 1 ≤ 2 := Nat.lt_iff_add_one_le.1 (of_decide_eq_true hk')
        rw [← hfront, List.cons_append, quoteRun_cons, if_pos rfl] at hrun
        rw [List.cons_append, readMultiBasic, if_pos rfl, if_pos (by omega), ih hk' (quoteRun_writeBasic hk' t)]
        rfl
  | case3 k t hk' ih =>
      refine (readMultiBasic_escape escapes_quote _).trans ?_
      exact congrArg (Scanned.cons '"') (ih (by decide) (quoteRun_writeBasic (by decide) t))
  | case4 k c t hc ih =>
      rw [List.append_assoc, readMultiBasic_writtenChar hc, ih (by decide) (quoteRun_writeBasic (by decide) t)]
      rfl

theorem readMultiLiteral_append (ht : ∀ c ∈ t, isControl c = true → c = '\n') (hq : longestRun '\'' t ≤ 2)
    (hrest : rest.head? ≠ some '\'') : readMultiLiteral (t ++ (closing '\'' ++ rest)) = .ok (t, rest) := by
  induction t with
  | nil => exact readMultiLiteral_close (n := 0) (by decide) hrest
  | cons c t ih =>
      obtain ⟨hrun, hq⟩ := Nat.max_le.1 hq
      have ih := ih (fun c hc => ht c (List.mem_cons_of_mem _ hc)) hq
      by_cases hc : c = '\''
      · subst hc
        rcases quoteRun_append '\'' ('\'' :: t) (closing '\'' ++ rest) with hall | hfront
        · rw [hall]
          exact readMultiLiteral_close hrun hrest
        · rw [← hfront, List.cons_append, quoteRun_cons, if_pos rfl] at hrun
          rw [List.cons_append, readMultiLiteral, if_pos rfl, if_pos (by omega), ih]
          rfl
      · rw [List.cons_append, readMultiLiteral, if_neg hc]
        split
        · rw [ih]
          rfl
        · rename_i hbreak
          rw [if_neg fun hx => hbreak (.inl (ht c List.mem_cons_self hx)), ih]
          rfl

/-! The form chosen -/

theorem not_needsEscape (h : needsEscape t = false) (hc : c ∈ t) (hx : isControl c = true) : c = '\n' := by
  have hn := List.any_eq_false.1 h c hc
  simpa [hx] using hn

/-- What a form asks of a text. With escapes every text can be written. -/
def Form.Holds (t : Text) : Form → Prop
  | .basic => True
  | .literal => needsEscape t = false ∧ '\n' ∉ t ∧ '\'' ∉ t
  | .multiBasic => True
  | .multiLiteral => needsEscape t = false ∧ longestRun '\'' t ≤ 2

theorem formOf_holds (t : Text) : (formOf t).Holds t := by
  simp only [formOf]
  split
  · trivial
  split
  · rename_i hform
    simpa [Form.Holds, and_assoc] using hform
  split
  · trivial
  split
  · rename_i hform
    simpa [Form.Holds] using hform
  · split <;> trivial

theorem writeBasic_head (multi : Bool) (k : Nat) (c : Char) (t : Text) :
    ∃ d u, writeBasic multi k (c :: t) = d :: u ∧ (d = '"' → multi = true) ∧ (d = '\n' → c = '\n') ∧ d ≠ '\r' := by
  rw [writeBasic]
  split
  · split
    · exact ⟨_, _, rfl, fun _ => (Bool.and_eq_true_iff.1 ‹_›).1, (nomatch ·), by decide⟩
    · exact ⟨_, _, rfl, (nomatch ·), (nomatch ·), by decide⟩
  · obtain ⟨d, u, hw, hd, hrest⟩ := writtenChar_head multi ‹_›
    exact ⟨d, u ++ _, by rw [hw]; rfl, fun h => absurd h hd, hrest⟩

theorem lineBreak?_cons (hn : c ≠ '\n') (hr : c ≠ '\r') (t : Text) : lineBreak? (c :: t) = none := by
  unfold lineBreak?
  split
  · exact absurd (List.cons.inj ‹_›).1 hn
  · exact absurd (List.cons.inj ‹_›).1 hr
  · rfl

theorem dropLineBreak_opening (h : '\n' ∉ t → lineBreak? u = none) : dropLineBreak (opening t ++ u) = u := by
  rw [opening]
  split
  · rfl
  · rename_i hn
    rw [List.nil_append, dropLineBreak, h (by simpa using hn)]
    rfl

theorem readString?_basic (t : Text) (hrest : rest.head? ≠ some '"') :
    readString? ('"' :: (writeBasic false 0 t ++ '"' :: rest)) = some (.ok (t, rest)) := by
  rw [readString?, readBasic_writeBasic]
  intro v hv
  cases t with
  | nil => exact hrest (congrArg List.head? (List.cons.inj hv).2)
  | cons c t =>
      obtain ⟨d, u, hu, hd, -⟩ := writeBasic_head false 0 c t
      rw [hu] at hv
      exact nomatch hd (List.cons.inj hv).1

theorem readString?_literal (hform : Form.literal.Holds t) (hrest : rest.head? ≠ some '\'') :
    readString? ('\'' :: (t ++ '\'' :: rest)) = some (.ok (t, rest)) := by
  obtain ⟨hplain, hline, hquote⟩ := hform
  rw [readString?, readLiteral_append]
  · intro c hc
    refine ⟨fun h => hquote (h ▸ hc), Bool.eq_false_iff.2 fun hx => hline ?_⟩
    exact not_needsEscape hplain hc hx ▸ hc
  · intro v hv
    cases t with
    | nil => exact hrest (congrArg List.head? (List.cons.inj hv).2)
    | cons c t => exact hquote ((List.cons.inj hv).1 ▸ List.mem_cons_self)

theorem readString?_multiBasic (t : Text) (hrest : rest.head? ≠ some '"') :
    readString? ('"' :: '"' :: '"' :: (opening t ++ (writeBasic true 0 t ++ (closing '"' ++ rest)))) =
      some (.ok (t, rest)) := by
  rw [readString?, dropLineBreak_opening, readMultiBasic_writeBasic (by decide) t hrest]
  intro hline
  cases t with
  | nil => rfl
  | cons c t =>
      obtain ⟨d, u, hu, -, hn, hr⟩ := writeBasic_head true 0 c t
      rw [hu]
      exact lineBreak?_cons (fun h => hline (hn h ▸ List.mem_cons_self)) hr _

theorem readString?_multiLiteral (hform : Form.multiLiteral.Holds t) (hrest : rest.head? ≠ some '\'') :
    readString? ('\'' :: '\'' :: '\'' :: (opening t ++ (t ++ (closing '\'' ++ rest)))) = some (.ok (t, rest)) := by
  obtain ⟨hplain, hrun⟩ := hform
  have hcontrol : ∀ c ∈ t, isControl c = true → c = '\n' := fun c hc hx => not_needsEscape hplain hc hx
  rw [readString?, dropLineBreak_opening, readMultiLiteral_append hcontrol hrun hrest]
  intro hline
  cases t with
  | nil => rfl
  | cons c t =>
      refine lineBreak?_cons (fun h => hline (h ▸ List.mem_cons_self)) (fun h => ?_) _
      subst h
      exact nomatch hcontrol '\r' List.mem_cons_self rfl

/-- Each string is read back from the form that was chosen for it, up to where it ends. -/
theorem readString?_writeString (t : Text) (hb : rest.head? ≠ some '"') (hl : rest.head? ≠ some '\'') :
    readString? (writeString t ++ rest) = some (.ok (t, rest)) := by
  have hform := formOf_holds t
  unfold writeString
  split
  · simpa using readString?_basic t hb
  · rename_i hf
    simpa using readString?_literal (hf ▸ hform) hl
  · simpa [closing] using readString?_multiBasic t hb
  · rename_i hf
    simpa [closing] using readString?_multiLiteral (hf ▸ hform) hl

example : readString? (writeString "'''\t\n\"\"\"".toList) = some (.ok ("'''\t\n\"\"\"".toList, [])) := rfl

end TrackedText.Toml
