import Mathlib.Order.Interval.Finset.Nat
import TrackedText.Proofs.AssertedEdits
import TrackedText.Proofs.PatchAccount
import TrackedText.Proofs.WorldEffects

namespace TrackedText

open Registry

variable {d d' : Document} {e e' : StoryEdit} {m : Mutation} {s : Span} {t : Text} {id : RangeId}
  {start stop length : Nat}

theorem Text.slice_replaced {u : Text} (hs : start ≤ stop) (hu : stop ≤ u.length) (t : Text) :
    slice start (start + t.length) (replace start stop t u) = t := by
  have h := slice_replace_across (t := t) hs hu (Nat.le_refl start) (Nat.le_refl stop)
  rw [Nat.sub_sub_self hs] at h
  rw [h, slice_of_le (Nat.le_refl start), slice_of_le (Nat.le_refl stop), List.nil_append, List.append_nil]

theorem Span.adjust_own (ho : s.start ≤ s.stop) (hb : s.stop ≤ length)
    (hstart : start = min s.start (length - 1)) (hstop : stop = min s.stop (length - 1)) :
    s.adjust (.delete start stop) = ⟨s.start, if s.stop = length ∧ s.start < length then s.start + 1 else s.start⟩ := by
  have hle : start ≤ stop := by omega
  have hfirst : Mutation.cutPoint start stop s.start = s.start := by
    rcases Nat.le_total s.start stop with h | h
    · rw [Mutation.cutPoint_inside h]
      omega
    · rw [Mutation.cutPoint_behind hle h]
      omega
  have hlast : Mutation.cutPoint start stop s.stop =
      if s.stop = length ∧ s.start < length then s.start + 1 else s.start := by
    split
    · rw [Mutation.cutPoint_behind hle (by omega)]
      omega
    · rcases Nat.lt_or_ge s.stop length with h | h
      · rw [Mutation.cutPoint_inside (by omega)]
        omega
      · rw [Mutation.cutPoint_behind hle (by omega)]
        omega
  rw [adjust, hfirst, hlast]

theorem Span.card_erase_last (hb : s.stop ≤ length) (hl : 0 < length) :
    ((Finset.Ico s.start s.stop).erase (length - 1)).card = min s.stop (length - 1) - min s.start (length - 1) := by
  by_cases hmem : length - 1 ∈ Finset.Ico s.start s.stop
  · rw [Finset.card_erase_of_mem hmem, Nat.card_Ico]
    rw [Finset.mem_Ico] at hmem
    omega
  · rw [Finset.erase_eq_of_notMem hmem, Nat.card_Ico]
    rw [Finset.mem_Ico] at hmem
    omega

namespace Story

variable {s : Story}

theorem edit_noop (hn : (s.edit e).1.isNoop = true) : (s.edit e).2 = s := by
  cases e with
  | insert offset t =>
      have ht : t.isEmpty = true := List.isEmpty_iff_length_eq_zero.2 (eq_of_beq hn)
      exact if_pos ht
  | delete start stop => exact if_pos (eq_of_beq hn)

theorem edit_delete_min (s : Story) (start stop : Nat) :
    s.edit (.delete (min start (s.length - 1)) (min stop (s.length - 1))) = s.edit (.delete start stop) := by
  have hstop : min (min stop (s.length - 1)) (s.length - 1) = min stop (s.length - 1) := by omega
  have hstart : min (min start (s.length - 1)) (min stop (s.length - 1)) = min start (min stop (s.length - 1)) := by
    omega
  simp only [edit, delete, hstop, hstart]

theorem edit_insert_congr {offset offset' : Nat} (ho : min offset (s.length - 1) = min offset' (s.length - 1)) :
    s.edit (.insert offset t) = s.edit (.insert offset' t) := by
  simp only [edit, insert, ho]

end Story

namespace Document

/-- Nothing tells the two documents apart but where the one range stands. -/
structure AlikeBut (id : RangeId) (d d' : Document) : Prop where
  story : d.story = d'.story
  version : d.version = d'.version
  extent : d.registry.extent = d'.registry.extent
  span? : ∀ other, other ≠ id → d.registry.span? other = d'.registry.span? other
  nextId : d.registry.nextId = d'.registry.nextId
  tracked : d.registry.tracked = d'.registry.tracked
  selection : d.registry.selection = d'.registry.selection
  detached : d.registry.detached = d'.registry.detached

def respan (d : Document) (id : RangeId) (s : Span) : Document := { d with registry := d.registry.setSpan id s }

theorem AlikeBut.refl (id : RangeId) (d : Document) : AlikeBut id d d :=
  ⟨rfl, rfl, rfl, fun _ _ => rfl, rfl, rfl, rfl, rfl⟩

theorem AlikeBut.respan (id : RangeId) (s : Span) (d : Document) : AlikeBut id (d.respan id s) d := by
  refine ⟨rfl, rfl, rfl, fun other hne => ?_, rfl, rfl, rfl, rfl⟩
  refine (span?_update _).trans ?_
  simp only [hne, if_false, Option.map_id']

theorem bounds_respan (hl : d.registry.isLive id = true) (hs : s.InStory d.registry.extent) :
    (d.respan id s).bounds id = s := by
  obtain ⟨s₀, hs₀⟩ := Option.isSome_iff_exists.1 hl
  have hspan : (d.respan id s).registry.span? id = some s := by
    refine (span?_update _).trans ?_
    rw [hs₀, Option.map_some, if_pos rfl]
  rw [bounds, span_eq hspan]
  exact Span.narrow_of_inStory hs

theorem perform_congr (he : d.story.edit e = d.story.edit e') : d.perform e = d.perform e' := by
  rw [perform_eq, perform_eq, he]

theorem Sound.textIn_terminator (h : d.Sound) :
    d.textIn ⟨d.story.length - 1, d.story.length⟩ = [d.story.terminator] := by
  rw [h.textIn_eq (Nat.sub_le _ _) (Nat.le_refl _), h.story.content_eq, h.story.length_eq, Text.slice,
    List.take_of_length_le (by simp), Nat.add_sub_cancel, List.drop_left' rfl]

theorem Sound.textIn_collapsed (h : d.Sound) {o : Nat} (ho : o ≤ d.story.length) : d.textIn ⟨o, o⟩ = [] := by
  rw [h.textIn_eq (Nat.le_refl o) ho, Text.slice_of_le (Nat.le_refl o)]

theorem Sound.perform_noop (h : d.Sound) (hp : d.perform e = .ok (m, d')) (hm : m.isNoop = true) : d' = d := by
  obtain ⟨r, hr, rfl⟩ := perform_ok hp
  obtain ⟨d₁, hp₁, -⟩ := h.perform_reported e
  obtain ⟨rfl, -⟩ := Prod.mk.inj (Except.ok.inj (hp.symm.trans hp₁))
  obtain ⟨-, -, -, rfl⟩ := notify_ok hr
  rw [Story.edit_noop hm, react, if_pos hm]

section

variable {first last : Nat} (h : d.Sound) (hstart : start = min first (d.story.length - 1))
  (hstop : stop = min last (d.story.length - 1))

include h hstart hstop

/-- A command comes to a deletion and an insertion, though empty ones are left out of its edits, and these may as well
be asked for where its interval was taken from. -/
theorem Sound.apply_eq {c : Command} (hc : c.interval d.story.length = (start, stop)) :
    ∃ q d₁ d₂, d.apply c = .ok (q, d₂.bump) ∧
      d.perform (.delete first last) = .ok (.delete start stop, d₁) ∧
      d₁.perform (.insert first c.text) = .ok (.insert start c.text.length, d₂) ∧
      Replaced start stop [] d d₁ ∧ Replaced start start c.text d₁ d₂ := by
  obtain ⟨ho, hb⟩ : start ≤ stop ∧ stop < d.story.length := by
    have hfits := Command.interval_fits h.story.pos c
    rwa [hc] at hfits
  have hlast : min stop (d.story.length - 1) = stop := by omega
  obtain ⟨d₁, hp₁, hr₁⟩ := h.perform_delete start stop
  rw [hlast, Nat.min_eq_left ho] at hp₁ hr₁
  have hl := hr₁.story.length
  rw [List.length_nil] at hl
  have hfirst : min start (d₁.story.length - 1) = start := by omega
  obtain ⟨d₂, hp₂, hr₂⟩ := hr₁.sound.perform_insert start c.text
  rw [hfirst] at hp₂ hr₂
  have hdeletion : ∃ ms, d.performAll (if start < stop then [.delete start stop] else []) = .ok (ms, d₁) := by
    split
    · exact ⟨_, performAll_singleton hp₁⟩
    · exact ⟨[], by rw [h.perform_noop hp₁ (beq_iff_eq.2 (by omega))]; rfl⟩
  have hinsertion : ∃ ms, d₁.performAll (if c.text.isEmpty then [] else [.insert start c.text]) = .ok (ms, d₂) := by
    split
    · rename_i ht
      exact ⟨[], by rw [hr₁.sound.perform_noop hp₂ (beq_iff_eq.2 (List.isEmpty_iff_length_eq_zero.1 ht))]; rfl⟩
    · exact ⟨_, performAll_singleton hp₂⟩
  obtain ⟨ms, hms⟩ := hdeletion
  obtain ⟨ms', hms'⟩ := hinsertion
  have hq : d.apply c =
      .ok (⟨ms ++ ms', d₂.registry.selection.span, d₂.story.length, d₂.version + 1⟩, d₂.bump) := by
    simp only [Document.apply, Command.edits_eq, hc, performAll_append, hms, hms', bind, Except.bind, pure,
      Except.pure, bump]
  have hp₁' : d.perform (.delete first last) = .ok (.delete start stop, d₁) := by
    rw [← hp₁, hstart, hstop]
    exact perform_congr (Story.edit_delete_min ..).symm
  -- only what lies behind the terminator starts past the place where the text goes in
  have hp₂' : d₁.perform (.insert first c.text) = .ok (.insert start c.text.length, d₂) :=
    (perform_congr (Story.edit_insert_congr (by omega))).trans hp₂
  exact ⟨_, d₁, d₂, hq, hp₁', hp₂', hr₁, hr₂⟩

end

section

variable (h : d.Sound) (hs : d.bounds id = s) (hstart : start = min s.start (d.story.length - 1))
  (hstop : stop = min s.stop (d.story.length - 1))

include h hs hstart hstop

/-- The text of a range is replaced as a command would replace what the range shows, and the range is then put over
the new text. -/
theorem Sound.setText_eq (t : Text) :
    ∃ q d', d.apply (.replaceRange s.start s.stop t) = .ok (q, d') ∧ Replaced start stop t d d' ∧
      d.setText id t = .ok (d'.respan id ⟨start, start + t.length⟩) := by
  obtain ⟨ho, -⟩ := hs ▸ h.bounds_inStory id
  have hc : (Command.replaceRange s.start s.stop t).interval d.story.length = (start, stop) := by
    rw [Command.interval, Nat.min_eq_left ho, Nat.max_eq_right ho, hstart, hstop]
  obtain ⟨q, d₁, d₂, hq, hp₁, hp₂, hr₁, hr₂⟩ := h.apply_eq hstart hstop hc
  refine ⟨q, d₂.bump, hq, (hr₁.trans h hr₂).bump, ?_⟩
  simp only [Command.text] at hp₂
  simp only [Document.setText, hs, hp₁, hp₂, bind, Except.bind, pure, Except.pure]
  rfl

theorem Sound.deleteText_eq :
    ∃ q d', d.apply (.deleteRange s.start s.stop) = .ok (q, d') ∧ Replaced start stop [] d d' ∧
      d.deleteText id = .ok ((Mutation.delete start stop).delta.natAbs,
        if d.registry.isTracked id then d' else d'.respan id (s.adjust (.delete start stop))) := by
  obtain ⟨ho, -⟩ := hs ▸ h.bounds_inStory id
  have hc : (Command.deleteRange s.start s.stop).interval d.story.length = (start, stop) := by
    rw [Command.interval, Nat.min_eq_left ho, Nat.max_eq_right ho, hstart, hstop]
  obtain ⟨q, d₁, d₂, hq, hp₁, hp₂, hr₁, -⟩ := h.apply_eq hstart hstop hc
  obtain rfl : d₂ = d₁ := hr₁.sound.perform_noop hp₂ rfl
  refine ⟨q, d₂.bump, hq, hr₁.bump, ?_⟩
  simp only [Document.deleteText, hs, hp₁, bind, Except.bind, pure, Except.pure]
  rfl

end

theorem Sound.setText_respans (h : d.Sound) (hl : d.registry.isLive id = true) (hs : d.bounds id = s) (t : Text) :
    ∃ q d₁ d₂, d.apply (.replaceRange s.start s.stop t) = .ok (q, d₁) ∧ d.setText id t = .ok d₂ ∧ d.Keeps d₂ ∧
      AlikeBut id d₂ d₁ ∧ d₂.registry.isTracked id = d.registry.isTracked id ∧
      d₂.bounds id = ⟨min s.start (d.story.length - 1), min s.start (d.story.length - 1) + t.length⟩ ∧
      d₂.rangeText id = t := by
  obtain ⟨q, d₁, hq, hr, hd⟩ := h.setText_eq hs rfl rfl t
  obtain ⟨d₂, hd₂, hk⟩ := h.setText id t
  obtain rfl := Except.ok.inj (hd₂.symm.trans hd)
  have ho := hr.story.ordered
  have hb := hr.story.bounded
  have hlength := hr.story.length
  have hcounted := h.story.counted
  generalize min s.start (d.story.length - 1) = start at *
  generalize min s.stop (d.story.length - 1) = stop at *
  have hin : Span.InStory d₁.registry.extent ⟨start, start + t.length⟩ := by
    refine ⟨Nat.le_add_right start t.length, ?_⟩
    rw [← hr.sound.inStep, hlength]
    change start + t.length ≤ _
    omega
  have hbounds := bounds_respan (hr.isLive.trans hl) hin
  refine ⟨q, d₁, _, hq, hd₂, hk, .respan id _ d₁, hr.tracked id hl, hbounds, ?_⟩
  rw [rangeText, hbounds, hk.sound.textIn_eq hin.ordered (hk.sound.inStep ▸ hin.bounded)]
  exact (congrArg _ hr.story.content).trans (Text.slice_replaced ho (by omega) t)

theorem Replaced.bounds_own (h : d.Sound) (hr : Replaced start stop [] d d') (hl : d.registry.isLive id = true) :
    (if d.registry.isTracked id then d' else d'.respan id ((d.bounds id).adjust (.delete start stop))).bounds id =
      (d.bounds id).adjust (.delete start stop) := by
  cases ht : d.registry.isTracked id with
  | true =>
      obtain ⟨s, hs⟩ := Option.isSome_iff_exists.1 hl
      have hs' : d'.registry.span? id = some (s.replace start stop 0) := by
        simp only [hr.span?, hs, ht, Option.map_some, if_true, List.length_nil]
      rw [if_pos rfl, hr.sound.bounds_eq hs' ((hr.tracked id hl).trans ht), h.bounds_eq hs ht, Span.replace_delete]
  | false =>
      have hm : (Mutation.delete start stop).FitsIn d.registry.extent := ⟨hr.story.ordered, h.inStep ▸ hr.story.bounded⟩
      have hin := Span.inStory_adjust (Span.inStory_narrow (d.registry.span id)) hm
      refine bounds_respan (hr.isLive.trans hl) ⟨hin.ordered, ?_⟩
      rw [← hr.sound.inStep, hr.story.length, h.inStep]
      exact hin.bounded

theorem Sound.deleteText_shrinks (h : d.Sound) (hl : d.registry.isLive id = true) (hs : d.bounds id = s) :
    ∃ q n d₁ d₂, d.apply (.deleteRange s.start s.stop) = .ok (q, d₁) ∧ d.deleteText id = .ok (n, d₂) ∧ d.Keeps d₂ ∧
      AlikeBut id d₂ d₁ ∧ d₂.registry.isTracked id = d.registry.isTracked id ∧
      (d.story.length ≤ 2 ^ 63 → n = ((Finset.Ico s.start s.stop).erase (d.story.length - 1)).card) ∧
      d₂.bounds id =
        ⟨s.start, if s.stop = d.story.length ∧ s.start < d.story.length then s.start + 1 else s.start⟩ ∧
      d₂.rangeText id =
        if s.stop = d.story.length ∧ s.start < d.story.length then [d.story.terminator] else [] := by
  obtain ⟨hso, hsb⟩ := hs ▸ h.bounds_inStory id
  have hpos := h.story.pos
  obtain ⟨q, d₁, hq, hr, hd⟩ := h.deleteText_eq hs rfl rfl
  obtain ⟨n, d₂, hd₂, hk⟩ := h.deleteText id
  obtain ⟨hn, hd₂'⟩ := Prod.mk.inj (Except.ok.inj (hd₂.symm.trans hd))
  have hbounds := hr.bounds_own h hl
  rw [hs, ← hd₂', Span.adjust_own hso hsb rfl rfl] at hbounds
  have hlike : AlikeBut id d₂ d₁ := by
    rw [hd₂']
    split
    · exact .refl id d₁
    · exact .respan id _ d₁
  have htracked : d₂.registry.isTracked id = d.registry.isTracked id := by
    rw [Registry.isTracked, hlike.tracked]
    exact hr.tracked id hl
  refine ⟨q, n, d₁, d₂, hq, hd₂, hk, hlike, htracked, fun hw => ?_, hbounds, ?_⟩
  · have hwell : (Mutation.delete (min s.start (d.story.length - 1)) (min s.stop (d.story.length - 1))).IsWellFormed :=
      hr.story.ordered
    rw [Span.card_erase_last hsb hpos, hn, Mutation.delta_eq hwell (Nat.two_pow_pos 63)]
    · simp only [Mutation.inserted, Mutation.removed]
      omega
    · simp only [Mutation.removed]
      omega
  · have hlength := hlike.story ▸ hr.story.length
    rw [List.length_nil] at hlength
    rw [rangeText, hbounds]
    split
    · have hlast : s.start + 1 = d₂.story.length := by omega
      rw [hlast, ← hk.terminator, ← hk.sound.textIn_terminator, ← hlast, Nat.add_sub_cancel]
    · exact hk.sound.textIn_collapsed (by omega)

end Document

namespace World

variable {w : World} {ts : List Char} {name : String} {o : OpenDocument} {g : Handle}

theorem Sound.reads_setDocument (h : Sound ts w) (ho : w.documents.get? name = some o) (hk : o.document.Keeps d')
    (hi : g.document = o.id) {handle : String} (hg : w.handles.get? handle = some g) :
    (w.setDocument o.id d').perform (.handle handle .bounds) =
        (.ok (.span (d'.bounds g.range)), w.setDocument o.id d') ∧
      (w.setDocument o.id d').perform (.handle handle .text) =
        (.ok (.text (d'.rangeText g.range)), w.setDocument o.id d') := by
  have hm := Named.mem_of_get? ho
  have h' : Sound ts (w.setDocument o.id d') := h.setDocument hm hk
  have hm' : (name, ⟨o.id, d'⟩) ∈ (w.setDocument o.id d').documents := List.mem_map.2 ⟨_, hm, by simp⟩
  have hl : (w.setDocument o.id d').live g.document = .ok d' := by
    rw [hi]
    exact h'.live hm'
  exact ⟨perform_bounds hg hl, perform_text hg hl⟩

/-- To give a range a text of its own comes to the command that replaces what the range shows, be the range tracked
or not, and leaves the range, for all handles on it, over exactly the new text. -/
theorem range_text_is_replaced (cs : List Call) (name handle : String) (o : OpenDocument) (g : Handle) (s : Span)
    (t : Text) (ho : (after cs).documents.get? name = some o) (hg : (after cs).handles.get? handle = some g)
    (hi : g.document = o.id) (hs : o.document.bounds g.range = s) :
    ∃ q d₁ d₂,
      (after cs).perform (.document name (.apply (.replaceRange s.start s.stop t))) =
        (.ok (.patch q), (after cs).setDocument o.id d₁) ∧
      (after cs).perform (.handle handle (.setText t)) = (.ok .nothing, (after cs).setDocument o.id d₂) ∧
      d₂.AlikeBut g.range d₁ ∧ d₂.registry.isTracked g.range = o.document.registry.isTracked g.range ∧
      ∀ clone, (after cs).handles.get? clone = some g →
        ((after cs).setDocument o.id d₂).perform (.handle clone .bounds) =
          (.ok (.span ⟨min s.start (o.document.story.length - 1),
            min s.start (o.document.story.length - 1) + t.length⟩), (after cs).setDocument o.id d₂) ∧
        ((after cs).setDocument o.id d₂).perform (.handle clone .text) =
          (.ok (.text t), (after cs).setDocument o.id d₂) := by
  have h := sound_after cs
  have hm := Named.mem_of_get? ho
  have hl := handlesLive_after cs _ (Named.mem_of_get? hg) _ hm hi.symm
  obtain ⟨q, d₁, d₂, hq, hd, hk, hlike, htracked, hbounds, htext⟩ := (h.documents _ hm).setText_respans hl hs t
  have hlive : (after cs).live g.document = .ok o.document := hi ▸ h.live hm
  refine ⟨q, d₁, d₂, perform_apply ho hq, hi ▸ perform_setText hg hlive hd, hlike, htracked, fun clone hc => ?_⟩
  rw [← hbounds, ← htext]
  exact h.reads_setDocument ho hk hi hc

theorem range_text_is_replaced_staleRun :
    ∃ q d₁ d₂, (after staleRun).perform (.document "d" (.apply (.replaceRange 3 3 ['x', 'y']))) =
        (.ok (.patch q), (after staleRun).setDocument 0 d₁) ∧
      (after staleRun).perform (.handle "r" (.setText ['x', 'y'])) =
        (.ok .nothing, (after staleRun).setDocument 0 d₂) ∧
      d₂.AlikeBut 0 d₁ ∧
      ((after staleRun).setDocument 0 d₂).perform (.handle "r" .bounds) =
        (.ok (.span ⟨2, 4⟩), (after staleRun).setDocument 0 d₂) ∧
      ((after staleRun).setDocument 0 d₂).perform (.handle "r" .text) =
        (.ok (.text ['x', 'y']), (after staleRun).setDocument 0 d₂) := by
  have hopen : ((after staleRun).documents.get? "d").map
      (fun o => (o.id, o.document.story.length, o.document.bounds 0)) = some (0, 3, ⟨3, 3⟩) := by decide +kernel
  obtain ⟨o, ho, heq⟩ := Option.map_eq_some_iff.1 hopen
  obtain ⟨hid, heq⟩ := Prod.mk.inj heq
  obtain ⟨hlength, hbounds⟩ := Prod.mk.inj heq
  have hg : (after staleRun).handles.get? "r" = some ⟨0, 0⟩ := by decide +kernel
  obtain ⟨q, d₁, d₂, hq, hd, hlike, -, hreads⟩ :=
    range_text_is_replaced staleRun "d" "r" o ⟨0, 0⟩ ⟨3, 3⟩ ['x', 'y'] ho hg hid.symm hbounds
  have hread := hreads "r" hg
  rw [hlength] at hread
  rw [hid] at hq hd hread
  exact ⟨q, d₁, d₂, hq, hd, hlike, hread⟩

/-- To take out the text of a range comes to the command that deletes what the range shows, and is answered by the
number of characters that went: all that it showed but the terminator. The range is left where they were, over
the terminator if it showed that, whether or not it is tracked. -/
theorem range_text_is_deleted (cs : List Call) (name handle : String) (o : OpenDocument) (g : Handle) (s : Span)
    (ho : (after cs).documents.get? name = some o) (hg : (after cs).handles.get? handle = some g)
    (hi : g.document = o.id) (hs : o.document.bounds g.range = s) :
    ∃ q n d₁ d₂,
      (after cs).perform (.document name (.apply (.deleteRange s.start s.stop))) =
        (.ok (.patch q), (after cs).setDocument o.id d₁) ∧
      (after cs).perform (.handle handle .deleteText) = (.ok (.number n), (after cs).setDocument o.id d₂) ∧
      (o.document.story.length ≤ 2 ^ 63 →
        n = ((Finset.Ico s.start s.stop).erase (o.document.story.length - 1)).card) ∧
      d₂.AlikeBut g.range d₁ ∧ d₂.registry.isTracked g.range = o.document.registry.isTracked g.range ∧
      ∀ clone, (after cs).handles.get? clone = some g →
        ((after cs).setDocument o.id d₂).perform (.handle clone .bounds) =
          (.ok (.span ⟨s.start, if s.stop = o.document.story.length ∧ s.start < o.document.story.length then
            s.start + 1 else s.start⟩), (after cs).setDocument o.id d₂) ∧
        ((after cs).setDocument o.id d₂).perform (.handle clone .text) =
          (.ok (.text (if s.stop = o.document.story.length ∧ s.start < o.document.story.length then
            [o.document.story.terminator] else [])), (after cs).setDocument o.id d₂) := by
  have h := sound_after cs
  have hm := Named.mem_of_get? ho
  have hl := handlesLive_after cs _ (Named.mem_of_get? hg) _ hm hi.symm
  obtain ⟨q, n, d₁, d₂, hq, hd, hk, hlike, htracked, hn, hbounds, htext⟩ :=
    (h.documents _ hm).deleteText_shrinks hl hs
  have hlive : (after cs).live g.document = .ok o.document := hi ▸ h.live hm
  refine ⟨q, n, d₁, d₂, perform_apply ho hq, hi ▸ perform_deleteText hg hlive hd, hn, hlike, htracked,
    fun clone hc => ?_⟩
  rw [← hbounds, ← htext]
  exact h.reads_setDocument ho hk hi hc

def looseRun : List Call :=
  [.openText "d" "abcdefgh".toList '\n', .document "d" (.createRange false "loose" 3 99),
    .document "d" (.createRange true "kept" 1 4), .document "d" (.apply (.deleteRange 5 8))]

theorem range_text_is_deleted_looseRun :
    ∃ q d₁ d₂, (after looseRun).perform (.document "d" (.apply (.deleteRange 3 6))) =
        (.ok (.patch q), (after looseRun).setDocument 0 d₁) ∧
      (after looseRun).perform (.handle "loose" .deleteText) =
        (.ok (.number 2), (after looseRun).setDocument 0 d₂) ∧
      d₂.AlikeBut 0 d₁ ∧
      ((after looseRun).setDocument 0 d₂).perform (.handle "loose" .bounds) =
        (.ok (.span ⟨3, 4⟩), (after looseRun).setDocument 0 d₂) ∧
      ((after looseRun).setDocument 0 d₂).perform (.handle "loose" .text) =
        (.ok (.text ['\n']), (after looseRun).setDocument 0 d₂) := by
  have hopen : ((after looseRun).documents.get? "d").map
      (fun o => (o.id, o.document.story.length, o.document.story.terminator, o.document.bounds 0)) =
      some (0, 6, '\n', ⟨3, 6⟩) := by decide +kernel
  obtain ⟨o, ho, heq⟩ := Option.map_eq_some_iff.1 hopen
  simp only [Prod.mk.injEq] at heq
  obtain ⟨hid, hlength, hterminator, hbounds⟩ := heq
  have hg : (after looseRun).handles.get? "loose" = some ⟨0, 0⟩ := by decide +kernel
  obtain ⟨q, n, d₁, d₂, hq, hd, hn, hlike, -, hreads⟩ :=
    range_text_is_deleted looseRun "d" "loose" o ⟨0, 0⟩ ⟨3, 6⟩ ho hg hid.symm hbounds
  have hread := hreads "loose" hg
  rw [hlength] at hn hread
  rw [hterminator] at hread
  rw [hid] at hq hd hread
  obtain rfl : n = 2 := hn (by decide)
  exact ⟨q, d₁, d₂, hq, hd, hlike, hread⟩

end World

end TrackedText
