import TrackedText.Proofs.ReportedEdits

namespace TrackedText

def Text.edit (t u : Text) : Mutation → Text
  | .insert offset _ => u.take offset ++ t ++ u.drop offset
  | .delete start stop => u.take start ++ u.drop stop

namespace StoryEdit

def mutation : StoryEdit → Mutation
  | insert offset t => .insert offset t.length
  | delete start stop => .delete start stop

def FitsIn (length : Nat) : StoryEdit → Prop
  | insert offset _ => offset < length
  | delete start stop => start ≤ stop ∧ stop < length

def lengthAfter (length : Nat) : StoryEdit → Nat
  | insert _ t => length + t.length
  | delete start stop => length - (stop - start)

def Inserts (t : Text) : StoryEdit → Prop
  | insert _ u => u = t
  | delete _ _ => True

/-- Each edit of a run keeps off the terminator, as the story stands when its turn comes. -/
def AllFit (length : Nat) : List StoryEdit → Prop
  | [] => True
  | e :: es => e.FitsIn length ∧ AllFit (e.lengthAfter length) es

end StoryEdit

namespace Story

variable {s : Story} {e : StoryEdit} {es : List StoryEdit} {t : Text}

theorem edit_mutation (h : e.FitsIn s.length) : (s.edit e).1 = e.mutation := by
  cases e with
  | insert offset t =>
      have ho : min offset (s.length - 1) = offset := Nat.min_eq_left (Nat.le_sub_one_of_lt h)
      exact congrArg (Mutation.insert · t.length) ho
  | delete start stop =>
      obtain ⟨hs, hl⟩ := h
      have hstop : min stop (s.length - 1) = stop := Nat.min_eq_left (Nat.le_sub_one_of_lt hl)
      change Mutation.delete (min start (min stop (s.length - 1))) (min stop (s.length - 1)) = .delete start stop
      rw [hstop, Nat.min_eq_left hs]

namespace Sound

theorem edit (h : s.Sound) (e : StoryEdit) : (s.edit e).2.Sound := by
  cases e with
  | insert offset t => exact h.replaced (h.insert offset t)
  | delete start stop => exact h.replaced (h.delete start stop)

theorem length_edit (h : s.Sound) (hf : e.FitsIn s.length) : (s.edit e).2.length = e.lengthAfter s.length := by
  cases e with
  | insert offset t =>
      refine (h.insert offset t).length.trans ?_
      rw [Nat.sub_self, Nat.sub_zero]
      rfl
  | delete start stop =>
      have hl : (s.edit (.delete start stop)).2.length = _ := (h.delete start stop).length
      rw [hl, StoryEdit.lengthAfter]
      simp only [StoryEdit.FitsIn] at hf
      rw [List.length_nil]
      omega

theorem editAll_mutations (h : s.Sound) (hf : StoryEdit.AllFit s.length es) :
    (s.editAll es).1 = es.map StoryEdit.mutation := by
  induction es generalizing s with
  | nil => rfl
  | cons e es ih =>
      obtain ⟨hfit, hall⟩ := hf
      rw [← h.length_edit hfit] at hall
      rw [editAll_cons, edit_mutation hfit, ih (h.edit e) hall, List.map_cons]

theorem text_edit (h : s.Sound) (ht : e.Inserts t) : (s.edit e).2.text = Text.edit t s.text (s.edit e).1 := by
  cases e with
  | insert offset u =>
      obtain rfl : u = t := ht
      exact (h.insert offset u).text_eq h
  | delete start stop =>
      refine ((h.delete start stop).text_eq h).trans ?_
      rw [Text.replace, List.append_nil]
      rfl

theorem text_editAll (h : s.Sound) (ht : ∀ e ∈ es, e.Inserts t) :
    (s.editAll es).2.text = (s.editAll es).1.foldl (Text.edit t) s.text := by
  induction es generalizing s with
  | nil => rfl
  | cons e es ih =>
      rw [editAll_cons, List.foldl_cons, ← h.text_edit (ht e List.mem_cons_self)]
      exact ih (h.edit e) fun e he => ht e (List.mem_cons_of_mem _ he)

end Sound

end Story

namespace Command

variable {s : Story} {c : Command} {e : StoryEdit}

theorem edits_eq (s : Story) (c : Command) :
    c.edits s =
      (if (c.interval s.length).1 < (c.interval s.length).2 then
        [.delete (c.interval s.length).1 (c.interval s.length).2] else []) ++
      if c.text.isEmpty then [] else [.insert (c.interval s.length).1 c.text] := by
  have hdeletion : ∀ first second, deletion s first second =
      if min (min first second) (s.length - 1) < min (max first second) (s.length - 1) then
        [.delete (min (min first second) (s.length - 1)) (min (max first second) (s.length - 1))] else [] := by
    intro first second
    have hs : min (min first second) (min (max first second) (s.length - 1)) = min (min first second) (s.length - 1) := by
      omega
    simp only [deletion, hs]
  cases c with
  | insertText offset t => simp [edits, insertion, interval, text]
  | deleteRange first second => simp [edits, hdeletion, interval, text]
  | replaceRange first second t =>
      rw [edits, hdeletion]
      rfl

theorem interval_fits (hs : 0 < s.length) (c : Command) :
    (c.interval s.length).1 ≤ (c.interval s.length).2 ∧ (c.interval s.length).2 < s.length := by
  cases c <;> simp only [interval] <;> omega

theorem edits_fit (hs : 0 < s.length) (c : Command) : StoryEdit.AllFit s.length (c.edits s) := by
  have hi := interval_fits hs c
  rw [edits_eq]
  split <;> split <;> simp only [List.nil_append, List.cons_append, StoryEdit.AllFit, StoryEdit.FitsIn,
    StoryEdit.lengthAfter, and_true] <;> omega

theorem edits_insert (he : e ∈ c.edits s) : e.Inserts c.text := by
  rw [edits_eq, List.mem_append] at he
  rcases he with he | he
  · split at he
    · obtain rfl := List.mem_singleton.1 he
      trivial
    · cases he
  · split at he
    · cases he
    · obtain rfl := List.mem_singleton.1 he
      rfl

theorem isNoop_edits (he : e ∈ c.edits s) : e.mutation.isNoop = false := by
  rw [edits_eq, List.mem_append] at he
  rcases he with he | he
  · split at he
    · rename_i hlt
      obtain rfl := List.mem_singleton.1 he
      exact beq_false_of_ne (Nat.ne_of_lt hlt)
    · cases he
  · split at he
    · cases he
    · rename_i ht
      obtain rfl := List.mem_singleton.1 he
      refine beq_false_of_ne fun hl => ht ?_
      rw [List.eq_nil_of_length_eq_zero hl, List.isEmpty_nil]

theorem edits_sublist (s : Story) (c : Command) :
    ((c.edits s).map StoryEdit.mutation).Sublist
      [.delete (c.interval s.length).1 (c.interval s.length).2, .insert (c.interval s.length).1 c.text.length] := by
  rw [edits_eq]
  split <;> split <;> simp [StoryEdit.mutation]

end Command

namespace Mutation

variable {m : Mutation} {ms : List Mutation}

/-- As long as lengths stay in the lower half of the words, nothing wraps around. -/
theorem delta_eq (hw : m.IsWellFormed) (hi : m.inserted < 2 ^ 63) (hr : m.removed < 2 ^ 63) :
    m.delta = m.inserted - m.removed := by
  have hwords : wordCount = 18446744073709551616 := rfl
  cases m with
  | insert offset n =>
      simp only [inserted] at hi
      simp only [delta, inserted, removed]
      rw [Int.bmod_eq_of_le (by omega) (by omega)]
      omega
  | delete start stop =>
      simp only [removed] at hr
      simp only [IsWellFormed] at hw
      simp only [delta, inserted, removed]
      rw [Int.bmod_eq_of_le (by omega) (by omega)]
      omega

theorem sum_delta (h : ∀ m ∈ ms, m.IsWellFormed ∧ m.inserted < 2 ^ 63 ∧ m.removed < 2 ^ 63) :
    (ms.map delta).sum = ((ms.map inserted).sum : Int) - (ms.map removed).sum := by
  induction ms with
  | nil => rfl
  | cons m ms ih =>
      obtain ⟨hw, hi, hr⟩ := h m List.mem_cons_self
      have ih := ih fun m hm => h m (List.mem_cons_of_mem _ hm)
      simp only [List.map_cons, List.sum_cons, delta_eq hw hi hr]
      omega

end Mutation

namespace Document

variable {d d' : Document} {c : Command} {q : Patch}

/-- The patch `q` tells truly what the command `c` made of `d`. -/
structure Account (c : Command) (d d' : Document) (q : Patch) : Prop where
  effective : ∀ m ∈ q.mutations, m.isNoop = false
  ordered : ∃ start stop offset n, q.mutations.Sublist [.delete start stop, .insert offset n]
  requested : q.mutations = (c.edits d.story).map StoryEdit.mutation
  performed : d.story.editAll (c.edits d.story) = (q.mutations, d'.story)
  text : d'.story.text = q.mutations.foldl (Text.edit c.text) d.story.text
  inserted : ∀ offset n, .insert offset n ∈ q.mutations → n = c.text.length
  spans : ∀ id, d'.registry.span? id = (d.registry.span? id).map fun s =>
    if d.registry.isTracked id then q.mutations.foldl (fun s m => s.adjust m) s else s
  selection : d'.registry.selection = q.mutations.foldl (fun s m => s.adjust m) d.registry.selection
  selected : q.selection = d'.registry.selection.span
  storyLength : q.storyLength = d'.story.length
  registryLength : q.storyLength = d'.registry.extent.length
  total : q.storyLength + (q.mutations.map Mutation.removed).sum =
    d.story.length + (q.mutations.map Mutation.inserted).sum
  deltas : d.story.length < 2 ^ 63 → c.text.length < 2 ^ 63 →
    (q.storyLength : Int) = d.story.length + (q.mutations.map Mutation.delta).sum
  version : q.version = d.version + 1
  counted : d'.version = q.version

theorem Sound.apply_account (h : d.Sound) (c : Command) : ∃ q d', d.apply c = .ok (q, d') ∧ Account c d d' q := by
  obtain ⟨d', hp, hr⟩ := h.apply_reported c
  have hm := h.story.editAll_mutations (Command.edits_fit h.story.pos c)
  have hsublist := Command.edits_sublist d.story c
  have hi := Command.interval_fits h.story.pos c
  refine ⟨_, _, hp, ?_⟩
  exact {
    effective := by
      rw [hm]
      intro m hm
      obtain ⟨e, he, rfl⟩ := List.mem_map.1 hm
      exact Command.isNoop_edits he
    ordered := by
      rw [hm]
      exact ⟨_, _, _, _, hsublist⟩
    requested := hm
    performed := by
      change _ = (_, d'.story)
      rw [hr.story]
    text := by
      change d'.story.text = _
      rw [hr.story]
      exact h.story.text_editAll fun e he => Command.edits_insert he
    inserted := by
      rw [hm]
      intro offset n hn
      have hn := hsublist.subset hn
      simp only [List.mem_cons, reduceCtorEq, Mutation.insert.injEq, List.not_mem_nil, or_false, false_or] at hn
      exact hn.2
    spans := hr.span?
    selection := hr.selection
    selected := rfl
    storyLength := rfl
    registryLength := hr.sound.inStep
    total := hr.total
    deltas := by
      intro hl ht
      have hbound : ∀ m ∈ (d.story.editAll (c.edits d.story)).1,
          m.IsWellFormed ∧ m.inserted < 2 ^ 63 ∧ m.removed < 2 ^ 63 := by
        rw [hm]
        intro m hm
        have hm := hsublist.subset hm
        simp only [List.mem_cons, List.not_mem_nil, or_false] at hm
        rcases hm with rfl | rfl
        · refine ⟨hi.1, Nat.two_pow_pos 63, ?_⟩
          simp only [Mutation.removed]
          omega
        · exact ⟨trivial, ht, Nat.two_pow_pos 63⟩
      have htotal := hr.total
      have hsum := Mutation.sum_delta hbound
      simp only
      omega
    version := rfl
    counted := by
      change d'.version + 1 = _
      rw [hr.version] }

end Document

namespace World

/-- Whatever command is applied to a document that can be reached, it is carried out, and its patch tells what
happened: the edits that the story made, none of them empty and the deletion first, by which the text, the tracked
ranges and the selection came to be as they are now. -/
theorem patch_tells_the_edits (cs : List Call) (name : String) (o : OpenDocument) (c : Command)
    (ho : (after cs).documents.get? name = some o) :
    ∃ q d', (after cs).perform (.document name (.apply c)) = (.ok (.patch q), (after cs).setDocument o.id d') ∧
      o.document.Account c d' q := by
  have h : o.document.Sound := (sound_after cs).documents _ (Named.mem_of_get? ho)
  obtain ⟨q, d', hq, ha⟩ := h.apply_account c
  exact ⟨q, d', perform_apply ho hq, ha⟩

theorem patch_tells_the_edits_editedRun :
    ∃ q d', (after editedRun).perform (.document "d" (.apply (.replaceRange 9 3 ['a', 'b']))) =
        (.ok (.patch q), (after editedRun).setDocument 0 d') ∧
      q.mutations = [.delete 3 4, .insert 3 2] ∧ d'.story.text = ['n', 'x', 'y', 'a', 'b'] ∧
      (q.storyLength : Int) = 5 + (q.mutations.map Mutation.delta).sum := by
  have hrun : ((after editedRun).documents.get? "d").map (fun o =>
      (o.id, o.document.story.length, o.document.story.text)) = some (0, 5, ['n', 'x', 'y', 'é']) := by decide +kernel
  obtain ⟨o, ho, heq⟩ := Option.map_eq_some_iff.1 hrun
  simp only [Prod.mk.injEq] at heq
  obtain ⟨hid, hlength, htext⟩ := heq
  obtain ⟨q, d', hp, ha⟩ := patch_tells_the_edits editedRun "d" o (.replaceRange 9 3 ['a', 'b']) ho
  have hm : q.mutations = [.delete 3 4, .insert 3 2] := by
    rw [ha.requested, Command.edits_eq, hlength]
    rfl
  refine ⟨q, d', hid ▸ hp, hm, ?_, ?_⟩
  · rw [ha.text, hm, htext]
    rfl
  · have hd := ha.deltas (by rw [hlength]; decide) (by decide)
    rw [hd, hlength]
    rfl

end World

end TrackedText
