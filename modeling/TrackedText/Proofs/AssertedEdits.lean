import TrackedText.Proofs.WordArithmetic
import TrackedText.Proofs.WorldRuns

namespace TrackedText

open Registry

/-- A calculation that watches itself: there is nothing left of it once an assertion fails or a number
leaves the 64-bit words, and otherwise it ends with an answer or a refusal. -/
abbrev Checked := ExceptT RangeError Option

def asserted (p : Prop) [Decidable p] : Option Unit := if p then some () else none

theorem asserted_of {p : Prop} [Decidable p] (h : p) : asserted p = some () := if_pos h

namespace Checked

variable {x : Extent} {r : Registry} {s : Story} {d : Document} {m : Mutation} {start stop : Nat}

theorem lift_some {α : Type} (a : α) : (liftM (some a) : Checked α) = pure a := rfl

/-! The edits of a document with what their calculations take for granted: that a reported interval is
not reversed, that the ends of a range keep their order, that a deletion stops before the terminator, and
that story and registry count the same length afterwards. -/

def adjust (m : Mutation) (s : Span) : Option Span := do
  asserted m.IsWellFormed
  let moved ← Word.adjust m s
  asserted (moved.start ≤ moved.stop)
  return moved

def shrink (x : Extent) (start stop : Nat) : Option Extent := do
  asserted (start ≤ stop ∧ stop < x.length)
  Word.shrink x start stop

def broadcast (r : Registry) (m : Mutation) : Option Registry := do
  let reached ← r.purge.tracked.foldlM (fun r id => Word.update r id (adjust m)) r.purge
  return { reached with selection := { r.selection with span := ← adjust m r.selection.span } }

def notifyInsert (r : Registry) (offset n : Nat) : Checked (Mutation × Registry) := do
  if r.detached then throw .detached
  let m := .insert (r.extent.narrow offset) n
  if n = 0 then return (m, r)
  return (m, ← broadcast { r with extent := ← Word.grow r.extent n } m)

def notifyDelete (r : Registry) (start stop : Nat) : Checked (Mutation × Registry) := do
  if r.detached then throw .detached
  asserted (start ≤ stop)
  let (start, stop) ← Word.narrowDeletion r.extent start stop
  let m := .delete start stop
  if start = stop then return (m, r)
  return (m, ← broadcast { r with extent := ← shrink r.extent start stop } m)

def storyInsert (s : Story) (offset : Nat) (t : Text) : Option ((Nat × Nat) × Story) := do
  let offset := min offset (← Word.sub s.length 1)
  if t.isEmpty then return ((offset, 0), s)
  let byte := s.byteOffset offset
  return ((offset, t.length),
    { s with buffer := s.buffer.splice byte byte t, length := ← Word.add s.length t.length })

def storyDelete (s : Story) (start stop : Nat) : Option (Span × Story) := do
  let stop := min stop (← Word.sub s.length 1)
  let start := min start stop
  if start = stop then return (⟨start, stop⟩, s)
  return (⟨start, stop⟩,
    { s with
      buffer := s.buffer.splice (s.byteOffset start) (s.byteOffset stop) []
      length := ← Word.sub s.length (← Word.sub stop start) })

def perform (d : Document) : StoryEdit → Checked (Mutation × Document)
  | .insert offset t => do
    if d.registry.detached then throw .detached
    let ((offset, n), story) ← storyInsert d.story offset t
    let (m, registry) ← notifyInsert d.registry offset n
    asserted (story.length = registry.extent.length)
    return (m, { d with story, registry })
  | .delete start stop => do
    if d.registry.detached then throw .detached
    let (removed, story) ← storyDelete d.story start stop
    let (m, registry) ← notifyDelete d.registry removed.start removed.stop
    asserted (story.length = registry.extent.length)
    return (m, { d with story, registry })

def insertion (s : Story) (offset : Nat) (t : Text) : Option (List StoryEdit) := do
  if t.isEmpty then return []
  return [.insert (min offset (← Word.sub s.length 1)) t]

def deletion (s : Story) (first second : Nat) : Option (List StoryEdit) := do
  let stop := min (max first second) (← Word.sub s.length 1)
  let start := min (min first second) stop
  return if start < stop then [.delete start stop] else []

def edits (s : Story) : Command → Option (List StoryEdit)
  | .insertText offset t => insertion s offset t
  | .deleteRange first second => deletion s first second
  | .replaceRange first second t => do return (← deletion s first second) ++ (← insertion s (min first second) t)

def performAll (d : Document) : List StoryEdit → Checked (List Mutation × Document)
  | [] => return ([], d)
  | e :: es => do
    let (m, d) ← perform d e
    let (ms, d) ← performAll d es
    return (m :: ms, d)

def apply (d : Document) (c : Command) : Checked (Patch × Document) := do
  let (mutations, d) ← performAll d (← edits d.story c)
  let d := d.bump
  return (⟨mutations, d.registry.selection.span, d.story.length, d.version⟩, d)

def setText (d : Document) (id : RangeId) (t : Text) : Checked Document := do
  let s := d.bounds id
  let (_, d) ← perform d (.delete s.start s.stop)
  let (m, d) ← perform d (.insert s.start t)
  let spanned ← match m with
    | .insert offset n => do
      let stop ← Word.add offset n
      asserted (offset ≤ stop)
      pure ⟨offset, stop⟩
    | .delete _ _ => pure s
  return { d.bump with registry := d.registry.setSpan id spanned }

/-- The change in length as a signed word. Half of all the words reads as the least of them, which has no
opposite. -/
def delta : Mutation → Option Int
  | .insert _ n => some (Int.bmod n wordCount)
  | .delete start stop => do
    let n ← Word.sub stop start
    asserted (2 * n ≠ wordCount)
    return -Int.bmod n wordCount

def deleteText (d : Document) (id : RangeId) : Checked (Nat × Document) := do
  let s := d.bounds id
  let tracked := d.registry.isTracked id
  let (m, d) ← perform d (.delete s.start s.stop)
  let d := d.bump
  if tracked then return ((← delta m).natAbs, d)
  let registry := d.registry.setSpan id (← adjust m s)
  return ((← delta m).natAbs, { d with registry })

theorem adjust_eq {s : Span} (hs : s.InStory x) (hm : m.FitsIn x) (hw : Word.HasRoom x m) :
    adjust m s = some (s.adjust m) := by
  simp [adjust, asserted_of hm.isWellFormed, Word.adjust_eq hs hm hw, asserted_of (Span.ordered_adjust hs.ordered m)]

theorem shrink_eq (h : (Mutation.delete start stop).FitsIn x) : shrink x start stop = some (x.shrink start stop) := by
  simp only [shrink, Word.shrink_eq h, asserted_of (show start ≤ stop ∧ stop < x.length from h)]
  rfl

theorem broadcast_eq (hr : r.Sound) (hm : m.FitsIn r.extent) (hw : Word.HasRoom r.extent m) (x : Extent) :
    broadcast { r with extent := x } m = some ({ r with extent := x }.broadcast m) := by
  have hf := Word.foldlM_update_eq (f := adjust m) (g := (·.adjust m)) { r with extent := x }.purge.tracked
    hr.purge.distinct { r with extent := x }.purge
    fun l hl ht => adjust_eq (hr.inStory hl (purge_sublist.subset ht)) hm hw
  simp only [broadcast, Registry.broadcast, hf, adjust_eq hr.selected hm hw]
  rfl

theorem notifyInsert_eq {offset n : Nat} {p : Mutation × Registry} (hr : r.Sound)
    (hw : r.extent.length + n < wordCount) (hp : r.notifyInsert offset n = .ok p) :
    notifyInsert r offset n = pure p := by
  have hb := broadcast_eq (m := .insert (r.extent.narrow offset) n) hr (Extent.narrow_le offset) hw (r.extent.grow n)
  have hroom : Word.HasRoom r.extent (.insert offset n) := hw
  have hg : Word.grow r.extent n = some (r.extent.grow n) := Word.grow_eq hroom
  cases hd : r.detached with
  | true => simp [Registry.notifyInsert, hd] at hp
  | false =>
      simp only [Registry.notifyInsert, hd, Bool.false_eq_true, if_false, Except.ok.injEq] at hp
      simp only [hd] at hb
      rw [← hp]
      by_cases hn : n = 0 <;> simp [notifyInsert, hd, hn, hg, hb, lift_some]

theorem notifyDelete_eq {p : Mutation × Registry} (hr : r.Sound) (ho : start ≤ stop)
    (hp : r.notifyDelete start stop = .ok p) : notifyDelete r start stop = pure p := by
  have hf := Extent.narrowDeletion_fits hr.positive start stop
  have hb := broadcast_eq hr hf trivial
    (r.extent.shrink (r.extent.narrowDeletion start stop).1 (r.extent.narrowDeletion start stop).2)
  cases hd : r.detached with
  | true => simp [Registry.notifyDelete, hd] at hp
  | false =>
      simp only [Registry.notifyDelete, hd, Nat.not_lt.2 ho, Bool.false_eq_true, if_false, Except.ok.injEq] at hp
      simp only [hd] at hb
      rw [← hp]
      by_cases he : (r.extent.narrowDeletion start stop).1 = (r.extent.narrowDeletion start stop).2 <;>
        simp [notifyDelete, hd, asserted_of ho, Word.narrowDeletion_eq hr.positive, he, lift_some, shrink_eq hf, hb]

theorem storyInsert_eq (hs : 0 < s.length) {t : Text} (hw : s.length + t.length < wordCount) (offset : Nat) :
    storyInsert s offset t = some (s.insert offset t) := by
  have hsub : Word.sub s.length 1 = some (s.length - 1) := Word.sub_of_le hs
  cases ht : t.isEmpty with
  | true => simp [storyInsert, Story.insert, hsub, List.isEmpty_iff.1 ht]
  | false => simp [storyInsert, Story.insert, hsub, ht, Word.add_of_lt hw]

theorem storyDelete_eq (hs : 0 < s.length) (start stop : Nat) :
    storyDelete s start stop = some (s.delete start stop) := by
  simp only [storyDelete, Story.delete, Word.sub_of_le (Nat.succ_le_of_lt hs), Option.bind_eq_bind, Option.bind_some]
  have hstop : min stop (s.length - 1) ≤ s.length := Nat.le_trans (Nat.min_le_right _ _) (Nat.sub_le _ _)
  generalize min stop (s.length - 1) = stop at hstop ⊢
  have hstart : min start stop ≤ stop := Nat.min_le_right _ _
  generalize min start stop = start at hstart ⊢
  have hcut : stop - start ≤ s.length := Nat.le_trans (Nat.sub_le _ _) hstop
  by_cases he : start = stop
  · simp [he]
  · simp [he, Word.sub_of_le hstart, Word.sub_of_le hcut]

def room : StoryEdit → Nat
  | .insert _ t => t.length
  | .delete _ _ => 0

def roomAll : List StoryEdit → Nat
  | [] => 0
  | e :: es => room e + roomAll es

theorem perform_eq {e : StoryEdit} {p : Mutation × Document} (h : d.Sound) (hw : d.story.length + room e < wordCount)
    (hp : d.perform e = .ok p) (hs : p.2.Sound) : perform d e = pure p := by
  have hpos := h.story.pos
  cases e with
  | insert offset t =>
      simp only [Document.perform, h.attached] at hp
      cases hn : d.registry.notifyInsert (d.story.insert offset t).1.1 (d.story.insert offset t).1.2 with
      | error e => simp [hn, bind, Except.bind] at hp
      | ok q =>
          obtain rfl : p = (q.1, { d with story := (d.story.insert offset t).2, registry := q.2 }) := by
            simpa [hn, bind, Except.bind, pure, Except.pure, eq_comm] using hp
          have hin : (d.story.insert offset t).2.length = q.2.extent.length := hs.inStep
          have hq := notifyInsert_eq h.registry (h.inStep ▸ hw) hn
          simp [perform, h.attached, storyInsert_eq hpos hw, lift_some, hq, asserted_of hin]
  | delete start stop =>
      have ho : (d.story.delete start stop).1.start ≤ (d.story.delete start stop).1.stop := Nat.min_le_right _ _
      simp only [Document.perform, h.attached] at hp
      cases hn : d.registry.notifyDelete (d.story.delete start stop).1.start (d.story.delete start stop).1.stop with
      | error e => simp [hn, bind, Except.bind] at hp
      | ok q =>
          obtain rfl : p = (q.1, { d with story := (d.story.delete start stop).2, registry := q.2 }) := by
            simpa [hn, bind, Except.bind, pure, Except.pure, eq_comm] using hp
          have hin : (d.story.delete start stop).2.length = q.2.extent.length := hs.inStep
          have hq := notifyDelete_eq h.registry ho hn
          simp [perform, h.attached, storyDelete_eq hpos, lift_some, hq, asserted_of hin]

/-- An edit is carried out, and every check agrees. -/
theorem perform_done (h : d.Sound) (e : StoryEdit) (hw : d.story.length + room e < wordCount) :
    ∃ p, d.perform e = .ok p ∧ perform d e = pure p ∧ p.2.Sound ∧ p.2.story.length ≤ d.story.length + room e := by
  cases e with
  | insert offset t =>
      obtain ⟨d', hp, hr⟩ := h.perform_insert offset t
      refine ⟨_, hp, perform_eq h hw hp hr.sound, hr.sound, ?_⟩
      simp [hr.story.length, room]
  | delete start stop =>
      obtain ⟨d', hp, hr⟩ := h.perform_delete start stop
      refine ⟨_, hp, perform_eq h hw hp hr.sound, hr.sound, ?_⟩
      simp [hr.story.length, room]

theorem performAll_done (h : d.Sound) (es : List StoryEdit) (hw : d.story.length + roomAll es < wordCount) :
    ∃ p, d.performAll es = .ok p ∧ performAll d es = pure p := by
  induction es generalizing d with
  | nil => exact ⟨([], d), rfl, rfl⟩
  | cons e es ih =>
      rw [roomAll] at hw
      obtain ⟨p, hp, hc, hs, hl⟩ := perform_done h e (by omega)
      obtain ⟨q, hq, hcs⟩ := ih hs (by omega)
      refine ⟨(p.1 :: q.1, q.2), ?_, ?_⟩
      · simp [Document.performAll, hp, hq, bind, Except.bind, pure, Except.pure]
      · simp [performAll, hc, hcs]

theorem insertion_eq (hs : 0 < s.length) (offset : Nat) (t : Text) :
    insertion s offset t = some (Command.insertion s offset t) := by
  cases ht : t.isEmpty <;> simp [insertion, Command.insertion, ht, Word.sub_of_le (Nat.succ_le_of_lt hs)]

theorem deletion_eq (hs : 0 < s.length) (first second : Nat) :
    deletion s first second = some (Command.deletion s first second) := by
  simp only [deletion, Command.deletion, Word.sub_of_le (Nat.succ_le_of_lt hs), Option.bind_eq_bind, Option.bind_some]
  rfl

theorem edits_eq (hs : 0 < s.length) (c : Command) : edits s c = some (c.edits s) := by
  cases c with
  | insertText offset t => exact insertion_eq hs offset t
  | deleteRange first second => exact deletion_eq hs first second
  | replaceRange first second t => simp [edits, Command.edits, insertion_eq hs, deletion_eq hs]

theorem roomAll_edits (s : Story) (c : Command) : roomAll (c.edits s) ≤ c.text.length := by
  have hi : ∀ offset t, roomAll (Command.insertion s offset t) ≤ t.length := fun offset t => by
    rw [Command.insertion]
    split <;> simp [roomAll, room]
  cases c with
  | insertText offset t => exact hi offset t
  | deleteRange first second =>
      simp only [Command.edits, Command.deletion]
      split <;> simp [roomAll, room]
  | replaceRange first second t =>
      simp only [Command.edits, Command.deletion]
      split
      · rw [List.singleton_append, roomAll, room, Nat.zero_add]
        exact hi _ t
      · exact hi _ t

theorem apply_done (h : d.Sound) (c : Command) (hw : d.story.length + c.text.length < wordCount) :
    ∃ p, d.apply c = .ok p ∧ apply d c = pure p := by
  have hr := roomAll_edits d.story c
  obtain ⟨q, hq, hc⟩ := performAll_done h (c.edits d.story) (by omega)
  refine ⟨(⟨q.1, q.2.registry.selection.span, q.2.story.length, q.2.version + 1⟩, q.2.bump), ?_, ?_⟩
  · simp [Document.apply, hq, bind, Except.bind, pure, Except.pure, Document.bump]
  · simp [apply, edits_eq h.story.pos, lift_some, hc, Document.bump]

theorem setText_done (h : d.Sound) (id : RangeId) (t : Text) (hw : d.story.length + t.length < wordCount) :
    ∃ d', d.setText id t = .ok d' ∧ setText d id t = pure d' := by
  obtain ⟨d₁, hp, hr⟩ := h.perform_delete (d.bounds id).start (d.bounds id).stop
  have hl := hr.story.length
  rw [List.length_nil] at hl
  have hc := perform_eq h (by simp only [room]; omega) hp hr.sound
  obtain ⟨d₂, hp', hr'⟩ := hr.sound.perform_insert (d.bounds id).start t
  have hc' := perform_eq hr.sound (by simp only [room]; omega) hp' hr'.sound
  have ho := hr'.story.bounded
  generalize min (d.bounds id).start (d₁.story.length - 1) = o at hp' hc' ho
  have hadd : Word.add o t.length = some (o + t.length) := Word.add_of_lt (by omega)
  refine ⟨{ d₂.bump with registry := d₂.registry.setSpan id ⟨o, o + t.length⟩ }, ?_, ?_⟩
  · simp only [Document.setText, hp, hp', bind, Except.bind, pure, Except.pure]
  · simp [setText, hc, hc', hadd, lift_some, asserted, Document.bump]

theorem neg_bmod {w : Nat} (ho : start ≤ stop) (hw : 2 * stop < w) :
    -Int.bmod (stop - start : Nat) w = Int.bmod (start - stop) w := by
  have hn : Int.bmod (stop - start : Nat) w = (stop - start : Nat) := Int.bmod_eq_of_le (by omega) (by omega)
  have hm : (start - stop : Int) = -(stop - start : Nat) := by omega
  rw [hn, hm]
  exact (Int.bmod_eq_of_le (by omega) (by omega)).symm

theorem delta_eq (ho : start ≤ stop) (hw : 2 * stop < wordCount) :
    delta (.delete start stop) = some (Mutation.delete start stop).delta := by
  have hne : 2 * (stop - start) ≠ wordCount := Nat.ne_of_lt (by omega)
  rw [delta, Word.sub_of_le ho, Option.bind_eq_bind, Option.bind_some, asserted_of hne, Mutation.delta,
    ← neg_bmod ho hw]
  rfl

theorem deleteText_done (h : d.Sound) (id : RangeId) (hw : 2 * d.story.length < wordCount) :
    ∃ p, d.deleteText id = .ok p ∧ deleteText d id = pure p := by
  obtain ⟨d₁, hp, hr⟩ := h.perform_delete (d.bounds id).start (d.bounds id).stop
  have hc := perform_eq h (by simp only [room]; omega) hp hr.sound
  have ho := hr.story.ordered
  have hb := hr.story.bounded
  generalize min (d.bounds id).start (min (d.bounds id).stop (d.story.length - 1)) = start at hp hc ho
  generalize min (d.bounds id).stop (d.story.length - 1) = stop at hp hc ho hb
  have hd := delta_eq ho (by omega)
  have hm : (Mutation.delete start stop).FitsIn d.registry.extent := ⟨ho, h.inStep ▸ hb⟩
  have ha : adjust (.delete start stop) (d.bounds id) = some ((d.bounds id).adjust (.delete start stop)) :=
    adjust_eq (Span.inStory_narrow _) hm trivial
  cases ht : d.registry.isTracked id with
  | true =>
      refine ⟨((Mutation.delete start stop).delta.natAbs, d₁.bump), ?_, ?_⟩
      · simp [Document.deleteText, hp, ht, bind, Except.bind, pure, Except.pure]
      · simp [deleteText, hc, ht, hd, lift_some]
  | false =>
      refine ⟨((Mutation.delete start stop).delta.natAbs,
        { d₁.bump with registry := d₁.registry.setSpan id ((d.bounds id).adjust (.delete start stop)) }), ?_, ?_⟩
      · simp [Document.deleteText, hp, ht, bind, Except.bind, pure, Except.pure, Document.bump]
      · simp [deleteText, hc, ht, hd, lift_some, ha, Document.bump]

end Checked

namespace World

theorem perform_setText {w : World} {name : String} {g : Handle} {d d' : Document} {t : Text}
    (hg : w.handles.get? name = some g) (hl : w.live g.document = .ok d) (hd : d.setText g.range t = .ok d') :
    w.perform (.handle name (.setText t)) = (.ok .nothing, w.setDocument g.document d') := by
  simp [perform_handle hg, runHandle, hl, hd]

theorem perform_deleteText {w : World} {name : String} {g : Handle} {d : Document} {p : Nat × Document}
    (hg : w.handles.get? name = some g) (hl : w.live g.document = .ok d) (hd : d.deleteText g.range = .ok p) :
    w.perform (.handle name .deleteText) = (.ok (.number p.1), w.setDocument g.document p.2) := by
  simp [perform_handle hg, runHandle, hl, hd]

/-- As long as lengths are less than half of the words, every command on an open document and every
replacement or removal through a handle on it is carried out, with no assertion failing on the way and no
number leaving the words. -/
theorem edits_trip_no_assertion (cs : List Call) :
    (∀ name o c, (after cs).documents.get? name = some o → o.document.story.length < Nat.pow 2 63 →
      c.text.length < Nat.pow 2 63 → ∃ p d', Checked.apply o.document c = some (.ok (p, d')) ∧
        (after cs).perform (.document name (.apply c)) = (.ok (.patch p), (after cs).setDocument o.id d')) ∧
    ∀ name g d, (after cs).handles.get? name = some g → (after cs).document? g.document = some d →
      d.story.length < Nat.pow 2 63 →
      (∀ t : Text, t.length < Nat.pow 2 63 → ∃ d', Checked.setText d g.range t = some (.ok d') ∧
        (after cs).perform (.handle name (.setText t)) = (.ok .nothing, (after cs).setDocument g.document d')) ∧
      ∃ n d', Checked.deleteText d g.range = some (.ok (n, d')) ∧
        (after cs).perform (.handle name .deleteText) = (.ok (.number n), (after cs).setDocument g.document d') := by
  have h := sound_after cs
  have hw : wordCount = Nat.pow 2 63 + Nat.pow 2 63 := rfl
  constructor
  · intro name o c ho hl ht
    have hd : o.document.Sound := h.documents _ (Named.mem_of_get? ho)
    obtain ⟨p, hp, hc⟩ := Checked.apply_done hd c (by rw [hw]; exact Nat.add_lt_add hl ht)
    exact ⟨p.1, p.2, hc, perform_apply ho hp⟩
  · intro name g d hg hd hl
    obtain ⟨p, hp, he, rfl⟩ := mem_of_document? hd
    have hs := h.documents p hp
    have hlive : (after cs).live g.document = .ok p.2.document := he ▸ h.live hp
    constructor
    · intro t ht
      obtain ⟨d', hd', hc⟩ := Checked.setText_done hs g.range t (by rw [hw]; exact Nat.add_lt_add hl ht)
      exact ⟨d', hc, perform_setText hg hlive hd'⟩
    · obtain ⟨q, hq, hc⟩ := Checked.deleteText_done hs g.range (by rw [hw, Nat.two_mul]; exact Nat.add_lt_add hl hl)
      exact ⟨q.1, q.2, hc, perform_deleteText hg hlive hq⟩

def staleRun : List Call :=
  [.openText "d" "abcdefghij".toList '\r', .document "d" (.createRange false "r" 4 99),
    .document "d" (.createRange true "s" 2 4), .document "d" (.apply (.deleteRange 9 1))]

theorem edits_trip_no_assertion_staleRun :
    ∃ o d, (after staleRun).documents.get? "d" = some o ∧ (after staleRun).document? 0 = some d ∧
      d.story.length = 3 ∧ d.registry.span? 0 = some ⟨4, 11⟩ ∧
      (∃ p d', Checked.apply o.document (.replaceRange 77 1 ['x']) = some (.ok (p, d'))) ∧
      (∃ d', Checked.setText d 0 ['x', 'y'] = some (.ok d')) ∧
      ∃ n d', Checked.deleteText d 0 = some (.ok (n, d')) := by
  obtain ⟨hcommands, hhandles⟩ := edits_trip_no_assertion staleRun
  obtain ⟨o, ho, hl⟩ : ∃ o, (after staleRun).documents.get? "d" = some o ∧
      o.document.story.length < Nat.pow 2 63 := ⟨_, rfl, by decide +kernel⟩
  obtain ⟨d, hd, hl', hlength, hspan⟩ : ∃ d, (after staleRun).document? 0 = some d ∧ d.story.length < Nat.pow 2 63 ∧
      d.story.length = 3 ∧ d.registry.span? 0 = some ⟨4, 11⟩ :=
    ⟨_, rfl, by decide +kernel, by decide +kernel, by decide +kernel⟩
  obtain ⟨p, d₁, hp, -⟩ := hcommands "d" o (.replaceRange 77 1 ['x']) ho hl (by decide +kernel)
  obtain ⟨hset, n, d₂, hdelete, -⟩ := hhandles "r" ⟨0, 0⟩ d rfl hd hl'
  obtain ⟨d₃, hset, -⟩ := hset ['x', 'y'] (by decide +kernel)
  exact ⟨o, d, ho, hd, hlength, hspan, ⟨p, d₁, hp⟩, ⟨d₃, hset⟩, n, d₂, hdelete⟩

end World

end TrackedText
