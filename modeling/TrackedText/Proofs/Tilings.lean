import TrackedText.Proofs.SpanOrder
import TrackedText.Proofs.WorldEffects

namespace TrackedText

namespace Document

variable {d d' : Document} {ids : List RangeId} {id : RangeId} {placed : RangeId → Prop} {start stop : Nat} {t : Text}

/-- Tracked ranges that somebody holds, and that follow one another through the whole story. -/
structure Tiled (d : Document) (ids : List RangeId) : Prop where
  live : ∀ id ∈ ids, d.registry.isLive id = true
  tracked : ∀ id ∈ ids, d.registry.isTracked id = true
  tiles : Span.Tiles d.story.length (ids.map d.bounds)

theorem Carried.bounds_eq (h : d.Sound) (h' : d'.Sound) (hc : Carried placed start stop t d d') (hp : ¬ placed id)
    (ht : d.registry.isTracked id = true) (hl : d'.registry.isLive id = true) :
    d'.registry.isTracked id = true ∧ d'.bounds id = (d.bounds id).replace start stop t.length := by
  obtain ⟨ht', s, hs, hs'⟩ := hc.span?_eq h hp ht hl
  exact ⟨ht', by rw [h'.bounds_eq hs' ht', h.bounds_eq hs ht]⟩

namespace Tiled

theorem ordered (h : d.Sound) {s : Span} (hs : s ∈ ids.map d.bounds) : s.start ≤ s.stop := by
  obtain ⟨id, -, rfl⟩ := List.mem_map.1 hs
  exact (h.bounds_inStory id).1

theorem change (ht : d.Tiled ids) (h : d.Sound) (h' : d'.Sound) (hc : d.Change placed d')
    (hp : ∀ id ∈ ids, ¬ placed id) : d'.Tiled ids := by
  obtain ⟨start, stop, t, hk⟩ := hc.carried h
  have live : ∀ id ∈ ids, d'.registry.isLive id = true := fun id hid => hc.isLive h (ht.live id hid)
  have spans := fun id hid => hk.bounds_eq h h' (hp id hid) (ht.tracked id hid) (live id hid)
  refine ⟨live, fun id hid => (spans id hid).1, ?_⟩
  have hmap : ids.map d'.bounds = (ids.map d.bounds).map (·.replace start stop t.length) := by
    rw [List.map_map]
    exact List.map_congr_left fun id hid => (spans id hid).2
  rw [hmap, hk.story.length]
  exact ht.tiles.replace (fun s => ordered h) hk.story.ordered hk.story.bounded t.length

theorem covers_once (ht : d.Tiled ids) (h : d.Sound) {o : Nat} (ho : o < d.story.length) :
    ∃! i : Nat, ∃ id, ids[i]? = some id ∧ (d.bounds id).Covers o := by
  refine (existsUnique_congr fun i => ?_).1 (ht.tiles.existsUnique (fun s => ordered h) ho)
  simp [List.getElem?_map]

end Tiled

end Document

namespace World

/-- Ranges that follow one another through the whole story of a document do so after any edits, through
commands or through handles on other ranges: every character belongs to exactly one of them. -/
theorem tilings_stay_tilings (cs cs' : List Call) (id : DocumentId) (d : Document) (ids : List RangeId)
    (hd : (after cs).document? id = some d) (ht : d.Tiled ids)
    (hc : ∀ c ∈ cs', c.edits = true ∧ ∀ r ∈ ids, c.places (after cs) ⟨id, r⟩ = false) :
    ∃ d', (after (cs ++ cs')).document? id = some d' ∧ d'.Tiled ids ∧
      ∀ o < d'.story.length, ∃! i : Nat, ∃ r, ids[i]? = some r ∧ (d'.bounds r).Covers o := by
  obtain ⟨-, d', hd', ht'⟩ := edits_keep (P := (·.Tiled ids)) (fun c hm => (hc c hm).1)
    (fun c hm d d' h h' hk ht => ht.change h h' hk fun r hr => by simp [(hc c hm).2 r hr]) hd ht
  obtain ⟨p, hp, -, rfl⟩ := mem_of_document? hd'
  have h' := (sound_after (cs ++ cs')).documents p hp
  exact ⟨_, hd', ht', fun o ho => ht'.covers_once h' ho⟩

def tiledRun : List Call :=
  [.openText "d" ['a', 'b', 'c', 'd', 'e'] '\n', .document "d" (.createRange true "left" 0 2),
    .document "d" (.createRange true "middle" 2 2), .document "d" (.createRange true "right" 2 6),
    .document "d" (.createRange true "across" 1 4)]

def tiledEdits : List Call :=
  [.handle "across" (.setText ['x', 'y']), .document "d" (.apply (.insertText 9 ['!'])),
    .document "d" (.apply (.insertText 1 ['z'])), .handle "across" .deleteText]

theorem tilings_stay_tilings_tiledRun :
    ∃ d d', (after tiledRun).document? 0 = some d ∧ d.Tiled [0, 1, 2] ∧
      (after (tiledRun ++ tiledEdits)).document? 0 = some d' ∧ d'.Tiled [0, 1, 2] ∧
      ∀ o < d'.story.length, ∃! i : Nat, ∃ r, [0, 1, 2][i]? = some r ∧ (d'.bounds r).Covers o := by
  obtain ⟨d, hd⟩ : ∃ d, (after tiledRun).document? 0 = some d := ⟨_, rfl⟩
  have hspans : ((after tiledRun).document? 0).map (fun d =>
      (d.story.length, [0, 1, 2].map d.bounds, [0, 1, 2].all d.registry.isLive, [0, 1, 2].all d.registry.isTracked)) =
      some (6, [⟨0, 2⟩, ⟨2, 2⟩, ⟨2, 6⟩], true, true) := by decide +kernel
  simp only [hd, Option.map_some, Option.some.injEq, Prod.mk.injEq] at hspans
  obtain ⟨hlength, hbounds, hlive, htracked⟩ := hspans
  have ht : d.Tiled [0, 1, 2] := by
    refine ⟨List.all_eq_true.1 hlive, List.all_eq_true.1 htracked, ?_⟩
    rw [hlength, hbounds]
    exact ⟨rfl, by simp, rfl⟩
  obtain ⟨d', hd'⟩ := tilings_stay_tilings tiledRun tiledEdits 0 d [0, 1, 2] hd ht (by decide +kernel)
  exact ⟨d, d', hd, ht, hd'⟩

end World

end TrackedText
