import TrackedText.Proofs.ScriptLines

namespace TrackedText

namespace Text

/-- `t` with carriage returns put in: `counts 0` of them before its first newline, `counts 1` before its second and
so on, and those of the last number at its very end. -/
def withReturns (counts : Nat → Nat) : Text → Text
  | [] => List.replicate (counts 0) '\r'
  | c :: t =>
    if c = '\n' then List.replicate (counts 0) '\r' ++ '\n' :: withReturns (fun i => counts (i + 1)) t
    else c :: withReturns counts t

def withPairedBreaks (t : Text) : Text := t.flatMap fun c => if c = '\n' then ['\r', '\n'] else [c]

theorem newline_not_mem_returns (n : Nat) : '\n' ∉ List.replicate n '\r' := by
  intro h
  exact absurd (List.eq_of_mem_replicate h) (by decide)

theorem gainsReturns_splitOn (counts : Nat → Nat) (t : Text) :
    List.Forall₂ GainsReturns (t.splitOn '\n') ((t.withReturns counts).splitOn '\n') := by
  induction t generalizing counts with
  | nil =>
      rw [withReturns, List.splitOn_eq_singleton (newline_not_mem_returns _)]
      exact .cons ⟨counts 0, rfl⟩ .nil
  | cons c t ih =>
      by_cases hc : c = '\n'
      · rw [withReturns, if_pos hc, hc, splitOn_newline_break, List.splitOn_append_cons_self,
          List.splitOn_eq_singleton (newline_not_mem_returns _)]
        exact .cons ⟨counts 0, rfl⟩ (ih _)
      · rw [withReturns, if_neg hc, splitOn_newline_cons hc, splitOn_newline_cons hc]
        have hpieces := ih counts
        generalize t.splitOn '\n' = ls, (withReturns counts t).splitOn '\n' = ks at hpieces ⊢
        cases hpieces with
        | nil => exact .nil
        | cons h hs => exact .cons (h.cons c) hs

theorem withPairedBreaks_eq (t : Text) :
    t.withPairedBreaks = t.withReturns fun i => if i < t.count '\n' then 1 else 0 := by
  induction t with
  | nil => rfl
  | cons c t ih =>
      rw [withPairedBreaks, List.flatMap_cons, ← withPairedBreaks, ih]
      by_cases hc : c = '\n'
      · simp [withReturns, hc]
      · simp [withReturns, hc]

end Text

namespace Script

open Text

/-- Whatever carriage returns are put in before the newlines of a script and at its end, it reads the same: the
same steps with the same line numbers, or the same error. So does a script in which every newline is made a
pair. Nor does it matter that such a pair ends a line as a newline does: told apart by newlines alone, the lines keep
more carriage returns, which are taken off them later. -/
theorem returns_do_not_matter (t : Text) :
    (∀ counts : Nat → Nat, parse (t.withReturns counts) = parse t) ∧
    parse t.withPairedBreaks = parse t ∧
    parseLines 1 (t.splitOn '\n') = parse t := by
  have hreturns : ∀ counts : Nat → Nat, parse (t.withReturns counts) = parse t := by
    intro counts
    rw [parse_eq, parse_eq t, parseLines_gainsReturns (gainsReturns_splitOn counts t)]
  refine ⟨hreturns, ?_, (parse_eq t).symm⟩
  rw [withPairedBreaks_eq, hreturns]

end Script

end TrackedText
