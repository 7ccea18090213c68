import TrackedText.Proofs.SharedRanges

namespace TrackedText.SharedWorld

open World

variable {w : World} {about : Option DocumentId} {s : SharedWorld} {x : List LiveRange × List DocumentId}
  {id : RangeId} {maker : DocumentId} {ranges : List LiveRange} {n : RangeId} {name : String} {o : OpenDocument}

theorem get?_share (ho : w.documents.get? name = some o) : (w.share ranges n).documents.get? name =
    some { o with document := { o.document with registry := { o.document.registry with ranges, nextId := n } } } := by
  have hm := Named.get?_map w.documents name fun o : OpenDocument =>
    { o with document := { o.document with registry := { o.document.registry with ranges, nextId := n } } }
  rw [ho] at hm
  exact hm

theorem Taken.span?_eq (hx : Taken s about w x) (hm : s.makers[id]? = some maker) (ha : about ≠ some maker)
    (hh : holds w.handles id = true) :
    ((x.1.filter fun l => holds w.handles l.id).find? (·.id == id)).map (·.span) = s.span? id := by
  have hf := hx.frame (· == id) fun i hi => ⟨maker, beq_iff_eq.1 hi ▸ hm, ha⟩
  have hg : (x.1.filter fun l => holds w.handles l.id).filter (·.id == id) = x.1.filter (·.id == id) := by
    rw [List.filter_filter]
    refine List.filter_congr fun l _ => ?_
    by_cases hl : l.id = id
    · simp [hl, hh]
    · simp [hl]
  simp only [SharedWorld.span?, ← List.head?_filter, hg, hf]

/-- A call touches no document but the one that it is about, and no range that another one made. This is
so even though documents and handles share one store of ranges, which shows nowhere: a document tracks
ranges of its own making only, and handles do not stand for others either. -/
theorem documents_are_isolated (cs : List Call) (c : Call) :
    (∀ name o, (World.after cs).documents.get? name = some o → c.subject (World.after cs) ≠ some o.id →
      ∃ o', ((World.after cs).perform c).2.documents.get? name = some o' ∧
        Untouched ((World.after cs).perform c).2.handles o o' ∧
        ∀ q ∈ ((World.after cs).perform c).2.handles, q.2.document = o.id →
          o'.document.registry.span? q.2.range = o.document.registry.span? q.2.range) ∧
    World.after cs = (after cs).world.renumber (after cs).makers ∧
    ((World.after cs).perform c).1 = ((after cs).perform c).1 ∧
    Made (after cs).makers (after cs).world ∧
    (∀ name o, (after cs).world.documents.get? name = some o → c.subject (after cs).world ≠ some o.id →
      ((after cs).perform c).2.world.documents.get? name = some { o with document := { o.document with
        registry := { o.document.registry with
          ranges := ((after cs).perform c).2.ranges
          nextId := ((after cs).perform c).2.makers.length } } }) ∧
    ∀ id maker, (after cs).makers[id]? = some maker → c.subject (after cs).world ≠ some maker →
      ((after cs).perform c).2.makers[id]? = some maker ∧
      (holds ((after cs).perform c).2.world.handles id = true →
        ((after cs).perform c).2.span? id = (after cs).span? id) := by
  have h := mirrors_after cs
  have hx := h.taken c
  refine ⟨fun name o ho ha => ?_, h.world, (h.perform c).1, h.owned.made, fun name o ho ha => ?_,
    fun id maker hm ha => ⟨hx.makes hm, hx.span?_eq hm ha⟩⟩
  · obtain ⟨o', ho', hu⟩ := (course (World.after cs) c).untouched (sound_after cs).distinct ho ha
    exact ⟨o', ho', hu, fun q hq hi => hu.span? ⟨q, hq, by rw [← hi]⟩⟩
  · obtain ⟨o', ho', hu⟩ := (course (after cs).world c).untouched h.ids ho ha
    have hd : o'.document = { o.document with registry := { o.document.registry with
        ranges := o'.document.registry.ranges } } :=
      congr (congr (congrArg Document.mk hu.story) hu.registry) hu.version
    refine (get?_share ho').trans ?_
    rw [hd, hu.id]
    rfl

def neighbours : List Call :=
  [.openText "d" ['a', 'b', 'c'] '\r', .openText "e" ['x', 'y'] '\r', .document "e" (.createRange true "r" 0 2),
    .document "d" (.createRange true "q" 1 3), .document "e" (.createRange false "p" 1 2), .cloneHandle "r" "s",
    .document "d" (.attach "r"), .handle "q" (.isEqual "s")]

theorem documents_are_isolated_neighbours :
    ((World.after neighbours).perform (.document "d" (.attach "r"))).1 = .error (.range .foreignDocument) ∧
      ((after neighbours).perform (.handle "q" .deleteText)).2.span? 0 = some ⟨0, 2⟩ ∧
      (((after neighbours).perform (.handle "q" .deleteText)).2.world.documents.get? "e").map (fun o =>
        (o.document.story.text, o.document.version, o.document.registry.tracked)) = some (['x', 'y'], 0, [0]) := by
  have hmakers : (after neighbours).makers = [1, 0, 1] := by decide +kernel
  have hspan : (after neighbours).span? 0 = some ⟨0, 2⟩ := by decide +kernel
  have hsubject : Call.subject (after neighbours).world (.handle "q" .deleteText) = some 0 := by decide +kernel
  have hheld : holds ((after neighbours).perform (.handle "q" .deleteText)).2.world.handles 0 = true := by
    decide +kernel
  have hopen : ((after neighbours).world.documents.get? "e").map (fun o => (o.id, o.document.story.text,
      o.document.version, o.document.registry.tracked)) = some (1, ['x', 'y'], 0, [0]) := by decide +kernel
  obtain ⟨o, ho, he⟩ := Option.map_eq_some_iff.1 hopen
  simp only [Prod.mk.injEq] at he
  obtain ⟨hid, he⟩ := he
  obtain ⟨-, -, hanswer, -⟩ := documents_are_isolated neighbours (.document "d" (.attach "r"))
  obtain ⟨-, -, -, -, hdocuments, hranges⟩ := documents_are_isolated neighbours (.handle "q" .deleteText)
  refine ⟨hanswer.trans rfl, ?_, ?_⟩
  · exact ((hranges 0 1 (by rw [hmakers]; rfl) (by rw [hsubject]; decide)).2 hheld).trans hspan
  · rw [hdocuments "e" o ho (by rw [hsubject, hid]; decide), Option.map_some]
    simp only [he]

end TrackedText.SharedWorld
