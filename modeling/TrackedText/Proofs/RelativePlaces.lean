import TrackedText.Proofs.RangeHistory
import TrackedText.Proofs.SpanOrder
import TrackedText.Proofs.WorldEffects

namespace TrackedText

variable {r r' : Registry} {s t u v : Span} {m : Mutation}

namespace Registry

/-- What follows the edits: the selection, and each live range that is tracked. -/
def followed? (r : Registry) : Option RangeId → Option Span
  | none => some r.selection.span
  | some id => if r.isTracked id then r.span? id else none

variable {a b : Option RangeId}

theorem Notified.followed? (h : Notified m r r') (hs : r.followed? a = some s) : r'.followed? a = some (s.adjust m) := by
  cases a with
  | none =>
      obtain rfl := Option.some.inj hs
      exact congrArg (fun t : Selection => some t.span) h.selection
  | some id =>
      simp only [Registry.followed?] at hs ⊢
      split at hs
      · rename_i ht
        rw [h.isTracked (by simp [hs]), if_pos ht, h.span?, hs, Option.map_some, if_pos (isTracked_iff.1 ht)]
      · cases hs

theorem Sound.ordered_followed? (h : r.Sound) (hs : r.followed? a = some s) : s.start ≤ s.stop := by
  cases a with
  | none => exact Option.some.inj hs ▸ h.selected.ordered
  | some id =>
      simp only [Registry.followed?] at hs
      split at hs
      · exact h.ordered_span? hs
      · cases hs

end Registry

namespace Session

open Registry

variable {a b : Option RangeId}

theorem places_notify {q : Session} (h : q.Sound) (hs : q.registry.followed? a = some s)
    (ht : q.registry.followed? b = some t) (m : Mutation) :
    ∃ s' t', (q.perform (.notify m)).2.registry.followed? a = some s' ∧
      (q.perform (.notify m)).2.registry.followed? b = some t' ∧ Span.PlacesKept s t s' t' := by
  generalize hp : q.perform (.notify m) = p
  have ho : Outcome q (.notify m) p := hp ▸ outcome q _
  cases ho with
  | unknown hq => cases hq
  | refused => exact ⟨s, t, hs, ht, .refl s t⟩
  | notified hm =>
      have hn := h.registry.notify hm
      exact ⟨_, _, hn.followed? hs, hn.followed? ht,
        .adjust (h.registry.ordered_followed? hs) (h.registry.ordered_followed? ht) _⟩

theorem places_after (n : Nat) (qs : List Request) (ms : List Mutation)
    (hs : (after n qs).registry.followed? a = some s) (ht : (after n qs).registry.followed? b = some t) :
    ∃ s' t', (after n (qs ++ ms.map .notify)).registry.followed? a = some s' ∧
      (after n (qs ++ ms.map .notify)).registry.followed? b = some t' ∧ Span.PlacesKept s t s' t' := by
  induction ms using List.reverseRecOn with
  | nil => exact ⟨s, t, by simpa using hs, by simpa using ht, .refl s t⟩
  | append_singleton ms m ih =>
      obtain ⟨s₁, t₁, hs₁, ht₁, hk₁⟩ := ih
      obtain ⟨s₂, t₂, hs₂, ht₂, hk₂⟩ := places_notify (sound_after n _) hs₁ ht₁ m
      rw [List.map_append, List.map_singleton, ← List.append_assoc, after_append]
      exact ⟨s₂, t₂, hs₂, ht₂, hk₁.trans hk₂⟩

end Session

namespace Document

variable {d d' : Document} {i j : RangeId} {placed : RangeId → Prop} {start stop : Nat} {c : Text}

/-- Both ranges are tracked, and they keep the places to one another that `s` and `t` had. -/
structure Beside (d : Document) (i j : RangeId) (s t : Span) : Prop where
  left : d.registry.isTracked i = true
  right : d.registry.isTracked j = true
  spans : ∃ s' t', d.registry.span? i = some s' ∧ d.registry.span? j = some t' ∧ Span.PlacesKept s t s' t'

theorem Beside.carried (h : d.Sound) (hb : d.Beside i j s t) (hc : Carried placed start stop c d d')
    (hi : ¬ placed i) (hj : ¬ placed j) (hi' : d'.registry.isLive i = true) (hj' : d'.registry.isLive j = true) :
    d'.Beside i j s t := by
  obtain ⟨u, v, hu, hv, hk⟩ := hb.spans
  obtain ⟨hti, u₁, hu₁, hu'⟩ := hc.span?_eq h hi hb.left hi'
  obtain ⟨htj, v₁, hv₁, hv'⟩ := hc.span?_eq h hj hb.right hj'
  obtain rfl := Option.some.inj (hu.symm.trans hu₁)
  obtain rfl := Option.some.inj (hv.symm.trans hv₁)
  exact ⟨hti, htj, _, _, hu', hv', hk.trans (.replace (h.registry.ordered_span? hu) (h.registry.ordered_span? hv) ..)⟩

end Document

namespace World

variable {cs cs' : List Call} {g h : Handle} {p p' : String × OpenDocument} {name other : String}

theorem untouched_append (hs : List Handle) (w : World) (cs : List Call) (c : Call) :
    untouched hs w (cs ++ [c]) =
      (untouched hs w cs && hs.all fun h => !c.places (cs.foldl (fun w c => (w.perform c).2) w) h) := by
  induction cs generalizing w with
  | nil => simp [untouched]
  | cons c cs ih => simp [untouched, ih, Bool.and_assoc]

theorem after_append_append (cs cs' : List Call) :
    cs'.foldl (fun w c => (w.perform c).2) (after cs) = after (cs ++ cs') := by
  rw [after, after, List.foldl_append]

theorem nextId_after (cs cs' : List Call) : (after cs).nextId ≤ (after (cs ++ cs')).nextId := by
  rw [(sound_after cs).count, (sound_after (cs ++ cs')).count, opened, opened, List.filterMap_append,
    List.length_append]
  exact Nat.le_add_right _ _

theorem beside_after (hu : untouched [g, h] (after cs) cs' = true) (hp : p ∈ (after cs).documents)
    (hg : g.document = p.2.id) (hh : h.document = p.2.id)
    (hb : p.2.document.Beside g.range h.range s t) (hp' : p' ∈ (after (cs ++ cs')).documents) (hi : p'.2.id = p.2.id) :
    p.2.document.registry.nextId ≤ p'.2.document.registry.nextId ∧
      (p'.2.document.registry.isLive g.range = true → p'.2.document.registry.isLive h.range = true →
        p'.2.document.Beside g.range h.range s t) := by
  induction cs' using List.reverseRecOn generalizing p' with
  | nil =>
      rw [List.append_nil] at hp'
      obtain rfl := List.inj_on_of_nodup_map (sound_after cs).distinct hp' hp hi
      exact ⟨Nat.le_refl _, fun _ _ => hb⟩
  | append_singleton cs' c ih =>
      have hs := sound_after (cs ++ cs')
      rw [untouched_append, after_append_append, Bool.and_eq_true] at hu
      rw [← List.append_assoc, after_append] at hp'
      have hid : p'.2.id < (after (cs ++ cs')).nextId :=
        hi ▸ Nat.lt_of_lt_of_le ((sound_after cs).id_lt hp) (nextId_after cs cs')
      obtain ⟨p₁, hp₁, hi₁, start, stop, t', hc⟩ := (effect _ c).carried hs hp' hid
      obtain ⟨hn₁, hb₁⟩ := ih hu.1 hp₁ (hi₁.trans hi)
      refine ⟨Nat.le_trans hn₁ hc.nextId, fun hl hl' => ?_⟩
      -- no range is created under an old number, so what is alive after the call was alive before it
      have alive : ∀ id, p.2.document.registry.isTracked id = true → p'.2.document.registry.isLive id = true →
          p₁.2.document.registry.isLive id = true := by
        intro id ht hl
        have hn := ((sound_after cs).documents p hp).registry.trackedOld id (Registry.isTracked_iff.1 ht)
        obtain ⟨s', hs'⟩ := Option.isSome_iff_exists.1 hl
        obtain ⟨s, hs, -⟩ := hc.follows id s' (Nat.lt_of_lt_of_le hn hn₁) hs'
        exact Option.isSome_iff_exists.2 ⟨s, hs⟩
      have free : c.places (after (cs ++ cs')) g = false ∧ c.places (after (cs ++ cs')) h = false := by
        simpa using hu.2
      refine (hb₁ (alive _ hb.left hl) (alive _ hb.right hl')).carried (hs.documents p₁ hp₁) hc ?_ ?_ hl hl'
      · simpa [hi, ← hg] using free.1
      · simpa [hi, ← hh] using free.2

theorem perform_inRange {w : World} {d : Document} (hg : w.handles.get? name = some g)
    (hh : w.handles.get? other = some h) (hl : w.live g.document = .ok d) :
    w.perform (.handle name (.inRange other)) =
      (.ok (.flag (h.document == g.document && (d.bounds g.range).isWithin (d.bounds h.range))), w) := by
  simp [perform_handle hg, runHandle, hl, resolve_eq hh]

theorem inRange_iff (hp : p ∈ (after cs).documents) (hi : p.2.id = g.document)
    (hg : (after cs).handles.get? name = some g) (hh : (after cs).handles.get? other = some h)
    (htg : p.2.document.registry.isTracked g.range = true) (hth : p.2.document.registry.isTracked h.range = true) :
    ((after cs).perform (.handle name (.inRange other))).1 = .ok (.flag true) ↔
      h.document = g.document ∧ ∃ s t, p.2.document.registry.span? g.range = some s ∧
        p.2.document.registry.span? h.range = some t ∧ s.isWithin t = true := by
  have hw := sound_after cs
  have hd := hw.documents p hp
  rw [perform_inRange hg hh (hi ▸ hw.live hp)]
  simp only [Except.ok.injEq, Answer.flag.injEq, Bool.and_eq_true, beq_iff_eq]
  refine and_congr_right fun hsame => ?_
  obtain ⟨s, hs⟩ := Option.isSome_iff_exists.1 (handlesLive_after cs _ (Named.mem_of_get? hg) p hp hi)
  obtain ⟨t, ht⟩ := Option.isSome_iff_exists.1
    (handlesLive_after cs _ (Named.mem_of_get? hh) p hp (hi.trans hsame.symm))
  rw [hd.bounds_eq hs htg, hd.bounds_eq ht hth]
  simp [hs, ht]

/-- Whatever notifications come, a tracked range or the selection keeps lying within another one, and keeps
ending before another one begins. So of two tracked ranges of a document, one that is in the other stays in it
through any calls that neither place one of them nor stop it from following edits; edits take away neither the
names nor the document. -/
theorem edits_keep_places (n : Nat) (qs : List Session.Request) (ms : List Mutation) (cs cs' : List Call) :
    (∀ a b s t, (Session.after n qs).registry.followed? a = some s → (Session.after n qs).registry.followed? b = some t →
      ∃ s' t', (Session.after n (qs ++ ms.map .notify)).registry.followed? a = some s' ∧
        (Session.after n (qs ++ ms.map .notify)).registry.followed? b = some t' ∧
        (s.isWithin t = true → s'.isWithin t' = true) ∧ (s.stop ≤ t.start → s'.stop ≤ t'.start)) ∧
    (∀ a b a' b' g h d d', (after cs).handles.get? a = some g → (after cs).handles.get? b = some h →
      (after cs).document? g.document = some d →
      d.registry.isTracked g.range = true → d.registry.isTracked h.range = true →
      ((after cs).perform (.handle a (.inRange b))).1 = .ok (.flag true) → untouched [g, h] (after cs) cs' = true →
      (after (cs ++ cs')).handles.get? a' = some g → (after (cs ++ cs')).handles.get? b' = some h →
      (after (cs ++ cs')).document? g.document = some d' →
      ((after (cs ++ cs')).perform (.handle a' (.inRange b'))).1 = .ok (.flag true)) ∧
    ((∀ c ∈ cs', c.edits = true) → ∀ id d, (after cs).document? id = some d →
      (after (cs ++ cs')).handles = (after cs).handles ∧ ∃ d', (after (cs ++ cs')).document? id = some d') := by
  refine ⟨fun a b s t hs ht => ?_, ?_, fun he id d hd => ?_⟩
  · obtain ⟨s', t', hs', ht', hk⟩ := Session.places_after n qs ms hs ht
    exact ⟨s', t', hs', ht', hk.within, hk.before⟩
  · intro a b a' b' g h d d' hg hh hd htg hth hin hu hg' hh' hd'
    obtain ⟨p, hp, hi, rfl⟩ := mem_of_document? hd
    obtain ⟨p', hp', hi', rfl⟩ := mem_of_document? hd'
    obtain ⟨hsame, s, t, hs, ht, hwithin⟩ := (inRange_iff hp hi hg hh htg hth).1 hin
    have hb : p.2.document.Beside g.range h.range s t := ⟨htg, hth, s, t, hs, ht, .refl s t⟩
    obtain ⟨-, hb'⟩ := beside_after hu hp hi.symm (hsame.trans hi.symm) hb hp' (hi'.trans hi.symm)
    have hb' := hb' (handlesLive_after _ _ (Named.mem_of_get? hg') p' hp' hi')
      (handlesLive_after _ _ (Named.mem_of_get? hh') p' hp' (hi'.trans hsame.symm))
    obtain ⟨s', t', hs', ht', hk⟩ := hb'.spans
    exact (inRange_iff hp' hi' hg' hh' hb'.left hb'.right).2 ⟨hsame, s', t', hs', ht', hk.within hwithin⟩
  · obtain ⟨hh, d', hd', -⟩ := edits_keep (P := fun _ => True) he (fun _ _ _ _ _ _ _ _ => trivial) hd trivial
    exact ⟨hh, d', hd'⟩

def nestedRun : List Call :=
  [.openText "d" ['n', 'a', 'ï', 'v', 'e', 't', 'é'] '\n', .document "d" (.createRange true "outer" 1 5),
    .document "d" (.createRange true "inner" 3 5)]

def nestedEdits : List Call :=
  [.document "d" (.apply (.insertText 5 ['!'])), .handle "inner" .deleteText, .cloneHandle "inner" "copy",
    .document "d" (.apply (.replaceRange 4 0 ['x', 'y'])), .dropHandle "inner"]

theorem edits_keep_places_nestedRun :
    (∃ s' t', (Session.after 9 [.create true "a" 2 4, .notify (.insert 4 1), .notify (.delete 3 9)]).registry.followed?
        (some 0) = some s' ∧
      (Session.after 9 [.create true "a" 2 4, .notify (.insert 4 1), .notify (.delete 3 9)]).registry.followed?
        none = some t' ∧ t'.stop ≤ s'.start) ∧
    ((after (nestedRun ++ nestedEdits)).perform (.handle "copy" (.inRange "outer"))).1 = .ok (.flag true) ∧
    ∃ d', (after (nestedRun ++ nestedEdits.take 1)).document? 0 = some d' := by
  obtain ⟨hplaces, hranges, -⟩ := edits_keep_places 9 [.create true "a" 2 4] [.insert 4 1, .delete 3 9] nestedRun
    nestedEdits
  obtain ⟨-, -, hedits⟩ := edits_keep_places 9 [] [] nestedRun (nestedEdits.take 1)
  obtain ⟨d, hd⟩ : ∃ d, (after nestedRun).document? 0 = some d := ⟨_, rfl⟩
  obtain ⟨d', hd'⟩ : ∃ d', (after (nestedRun ++ nestedEdits)).document? 0 = some d' := ⟨_, rfl⟩
  have htracked : ((after nestedRun).document? 0).map (fun d => (d.registry.isTracked 0, d.registry.isTracked 1)) =
      some (true, true) := by decide +kernel
  rw [hd, Option.map_some, Option.some.injEq, Prod.mk.injEq] at htracked
  refine ⟨?_, ?_, ?_⟩
  · obtain ⟨t', s', ht', hs', -, hk⟩ := hplaces none (some 0) ⟨0, 0⟩ ⟨2, 4⟩ (by decide +kernel) (by decide +kernel)
    exact ⟨s', t', hs', ht', hk (by decide)⟩
  · exact hranges "inner" "outer" "copy" "outer" ⟨0, 1⟩ ⟨0, 0⟩ d d' (by decide +kernel) (by decide +kernel) hd
      htracked.2 htracked.1 rfl (by decide +kernel) (by decide +kernel) (by decide +kernel) hd'
  · exact (hedits (by decide) 0 d hd).2

end World

end TrackedText
