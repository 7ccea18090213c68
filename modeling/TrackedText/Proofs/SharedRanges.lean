import TrackedText.Proofs.RenumberedWorlds
import TrackedText.Proofs.UntouchedDocuments

namespace TrackedText

open Registry

/-- Every document works on the same ranges. -/
def World.share (w : World) (ranges : List LiveRange) (nextId : RangeId) : World :=
  { w with documents := w.documents.map fun (name, o) =>
      (name, { o with document := { o.document with registry := { o.document.registry with ranges, nextId } } }) }

/-- A world whose ranges lie in one store, numbered across all documents, with the document that made
each. Nothing but the lists of tracked ranges tells a document which of them it is to move. -/
structure SharedWorld where
  world : World
  ranges : List LiveRange
  makers : List DocumentId

namespace SharedWorld

def empty : SharedWorld := ⟨.empty, [], []⟩

variable (s : SharedWorld)

def span? (id : RangeId) : Option Span := (s.ranges.find? (·.id == id)).map (·.span)

def taken (about : Option DocumentId) (w : World) : List LiveRange × List DocumentId :=
  match about.bind w.document? with
  | some d =>
    (d.registry.ranges, if d.registry.nextId = s.makers.length then s.makers else s.makers ++ about.toList)
  | none => (s.ranges, s.makers)

def holds (hs : Named Handle) (id : RangeId) : Bool := hs.any (·.2.range == id)

/-- The documents carry out a call as ever, only on shared ranges; one that no handle stands for any more
is gone, whoever made it. -/
def perform (c : World.Call) : Except World.Fault World.Answer × SharedWorld :=
  let (answer, w) := s.world.perform c
  let (ranges, makers) := s.taken (c.subject s.world) w
  let ranges := ranges.filter fun l => holds w.handles l.id
  (answer, ⟨w.share ranges makers.length, ranges, makers⟩)

def after (cs : List World.Call) : SharedWorld := cs.foldl (fun s c => (s.perform c).2) empty

end SharedWorld

namespace World

variable {makers : List DocumentId} {maker : DocumentId} {id : RangeId} {w : World} {r : Registry}

theorem made_append (h : makers[id]? = some maker) (more : List DocumentId) : (makers ++ more)[id]? = some maker :=
  (List.getElem?_append_left (List.getElem?_eq_some_iff.1 h).1).trans h

theorem Made.append (hw : Made makers w) (more : List DocumentId) : Made (makers ++ more) w :=
  ⟨fun p hp id hid => made_append (hw.tracked p hp id hid) more, fun q hq => made_append (hw.handles q hq) more⟩

theorem Made.of_handle (hw : Made makers w) (h : ∃ q ∈ w.handles, q.2 = ⟨maker, id⟩) : makers[id]? = some maker := by
  obtain ⟨q, hq, he⟩ := h
  have hm := hw.handles q hq
  rwa [he] at hm

theorem renumber_registry_append (ht : ∀ id ∈ r.tracked, makers[id]? = some maker) (hn : r.nextId ≤ makers.length)
    (hl : ∀ l ∈ r.ranges, l.id < makers.length) (more : List DocumentId) :
    r.renumber (makers ++ more) maker = r.renumber makers maker := by
  have hranges : r.ranges.filter (fun l => (makers ++ more)[l.id]? = some maker) =
      r.ranges.filter fun l => makers[l.id]? = some maker :=
    List.filter_congr fun l hm => by rw [List.getElem?_append_left (hl l hm)]
  simp only [Registry.renumber, hranges, number_append hn]
  congr 1
  · refine List.map_congr_left fun l hm => ?_
    rw [number_append (Nat.le_of_lt (hl l (List.mem_filter.1 hm).1))]
  · refine List.map_congr_left fun id hid => number_append (Nat.le_of_lt ?_) more
    exact (List.getElem?_eq_some_iff.1 (ht id hid)).1

theorem renumber_append (hw : Made makers w) (hn : ∀ p ∈ w.documents, p.2.document.registry.nextId ≤ makers.length ∧
    ∀ l ∈ p.2.document.registry.ranges, l.id < makers.length) (more : List DocumentId) :
    w.renumber (makers ++ more) = w.renumber makers := by
  simp only [World.renumber]
  congr 1
  · refine List.map_congr_left fun p hp => ?_
    simp only [OpenDocument.renumber, Document.renumber,
      renumber_registry_append (hw.tracked p hp) (hn p hp).1 (hn p hp).2]
  · refine List.map_congr_left fun q hq => ?_
    simp only [Handle.renumber, number_append (Nat.le_of_lt (List.getElem?_eq_some_iff.1 (hw.handles q hq)).1)]

end World

namespace SharedWorld

open World

variable {w : World} {about : Option DocumentId} {s : SharedWorld} {x : List LiveRange × List DocumentId}
  {makers : List DocumentId} {maker : DocumentId} {id : RangeId} {c : Call} {p : String × OpenDocument}
  {cs : List Call}

/-- The documents agree about the ranges and have these all made by the ones that track them or gave out
handles on them. -/
structure Owned (s : SharedWorld) : Prop where
  ranges : ∀ p ∈ s.world.documents, p.2.document.registry.ranges = s.ranges
  nextId : ∀ p ∈ s.world.documents, p.2.document.registry.nextId = s.makers.length
  stored : ∀ l ∈ s.ranges, l.id < s.makers.length
  made : Made s.makers s.world
  old : ∀ maker ∈ s.makers, maker < s.world.nextId

structure Taken (s : SharedWorld) (about : Option DocumentId) (w : World) (x : List LiveRange × List DocumentId) :
    Prop where
  makers : x.2 = s.makers ∨ x.2 = s.makers ++ about.toList ∧ ∃ p ∈ s.world.documents, about = some p.2.id
  stored : ∀ l ∈ x.1, l.id < x.2.length
  frame : ∀ keep : RangeId → Bool, (∀ id, keep id = true → ∃ maker, s.makers[id]? = some maker ∧ about ≠ some maker) →
    x.1.filter (keep ·.id) = s.ranges.filter (keep ·.id)
  subject : ∀ p ∈ w.documents, about = some p.2.id → p.2.document.registry.ranges = x.1 ∧
    p.2.document.registry.nextId = x.2.length ∧ ∀ id ∈ p.2.document.registry.tracked, x.2[id]? = some p.2.id

theorem Owned.reaches (h : Owned s) (hp : p ∈ s.world.documents)
    (hr : s.world.Reaches p.2.id p.2.document id) : s.makers[id]? = some p.2.id := by
  rcases hr with hr | hr
  · exact h.made.tracked p hp id hr
  · exact h.made.of_handle hr

theorem Owned.taken_subject (h : Owned s) (hd : (w.documents.map (·.2.id)).Nodup) {p₀ : String × OpenDocument}
    (hp : p ∈ w.documents) (hp₀ : p₀ ∈ s.world.documents) (hi : p₀.2.id = p.2.id)
    (hg : Grown (s.world.Reaches p₀.2.id p₀.2.document) p₀.2.document.registry p.2.document.registry)
    (hm : p.2.document.registry.nextId = s.makers.length ∧ makers = s.makers ∨
      p.2.document.registry.nextId = s.makers.length + 1 ∧ makers = s.makers ++ [p.2.id]) :
    Taken s (some p.2.id) w (p.2.document.registry.ranges, makers) := by
  have hn := h.nextId p₀ hp₀
  have hr := h.ranges p₀ hp₀
  have hreach : ∀ {id}, s.world.Reaches p₀.2.id p₀.2.document id → s.makers[id]? = some p.2.id :=
    fun hr => hi ▸ h.reaches hp₀ hr
  have hlen : makers.length = p.2.document.registry.nextId := by
    rcases hm with ⟨he, rfl⟩ | ⟨he, rfl⟩ <;> simp [he]
  refine ⟨?_, fun l hl => ?_, fun keep hk => ?_, fun p' hp' ha => ?_⟩
  · rcases hm with ⟨-, rfl⟩ | ⟨-, rfl⟩
    · exact .inl rfl
    · exact .inr ⟨rfl, p₀, hp₀, congrArg some hi.symm⟩
  · rw [hlen]
    rcases hg.ids l hl with hl | ⟨-, hl⟩
    · obtain ⟨k, hk, he⟩ := List.mem_map.1 hl
      exact he ▸ Nat.lt_of_lt_of_le (h.stored k (hr ▸ hk)) (hn ▸ hg.older)
    · exact hl
  · rw [← hr]
    refine hg.frame keep fun id hid => ?_
    obtain ⟨maker, hmaker, hne⟩ := hk id hid
    exact ⟨hn ▸ (List.getElem?_eq_some_iff.1 hmaker).1, fun hr => hne (hmaker ▸ hreach hr).symm⟩
  · obtain rfl := List.inj_on_of_nodup_map hd hp hp' (Option.some.inj ha)
    refine ⟨rfl, hlen.symm, fun id hid => ?_⟩
    rcases hg.tracked id hid with hr | ⟨hle, hlt⟩
    · rcases hm with ⟨-, rfl⟩ | ⟨-, rfl⟩
      · exact hreach hr
      · exact made_append (hreach hr) _
    · rcases hm with ⟨he, rfl⟩ | ⟨he, rfl⟩
      · exact absurd hlt (Nat.not_lt.2 (he ▸ hn ▸ hle))
      · rw [he] at hlt
        have hid : id = s.makers.length := Nat.le_antisymm (Nat.le_of_lt_succ hlt) (hn ▸ hle)
        rw [hid, List.getElem?_concat_length]

theorem Owned.taken (h : Owned s) (hold : ∀ p ∈ s.world.documents, p.2.id < s.world.nextId)
    (hd : (w.documents.map (·.2.id)).Nodup) (hc : Course s.world about w) : Taken s about w (s.taken about w) := by
  cases hf : about.bind w.document? with
  | none =>
      rw [SharedWorld.taken, hf]
      refine ⟨.inl rfl, h.stored, fun _ _ => rfl, fun p hp ha => ?_⟩
      rw [ha, Option.bind_some, document?_of_distinct hd hp] at hf
      cases hf
  | some d =>
      obtain ⟨id, rfl, hf'⟩ := Option.bind_eq_some_iff.1 hf
      obtain ⟨p, hp, rfl, rfl⟩ := mem_of_document? hf'
      obtain ⟨p₀, hp₀, hi, hg⟩ := hc.grown hold hp rfl
      have hn := h.nextId p₀ hp₀
      rw [SharedWorld.taken, hf]
      refine h.taken_subject hd hp hp₀ hi hg ?_
      rcases Nat.eq_or_lt_of_le hg.older with he | hlt
      · have he := he.symm.trans hn
        exact .inl ⟨he, if_pos he⟩
      · have he := (Nat.le_antisymm hg.newer hlt).trans (congrArg Nat.succ hn)
        exact .inr ⟨he, if_neg (by rw [he]; exact Nat.succ_ne_self _)⟩

theorem Taken.makes (hx : Taken s about w x) (h : s.makers[id]? = some maker) :
    x.2[id]? = some maker := by
  rcases hx.makers with he | ⟨he, -⟩ <;> rw [he]
  · exact h
  · exact made_append h _

theorem Taken.made (h : Owned s) (hx : Taken s about w x) (hc : Course s.world about w) : Made x.2 w := by
  refine ⟨fun p hp id hid => ?_, fun q hq => ?_⟩
  · by_cases ha : about = some p.2.id
    · exact (hx.subject p hp ha).2.2 id hid
    · rcases hc.inherited hp ha with ⟨t, terminator, he⟩ | ⟨p₀, hp₀, hu⟩
      · rw [he] at hid
        cases hid
      · rw [hu.id]
        exact hx.makes (h.made.tracked p₀ hp₀ id (hu.tracked ▸ hid))
  · rcases hc.handles hq with ⟨q₀, hq₀, he⟩ | ⟨p₀, hp₀, p, hp, ha, hi, hn, he⟩
    · exact he ▸ hx.makes (h.made.handles q₀ hq₀)
    · -- the handle came with a new range, so the list of makers has grown
      have hlen := (hx.subject p hp (hi ▸ ha)).2.1
      rw [hn, h.nextId p₀ hp₀] at hlen
      rw [he, h.nextId p₀ hp₀]
      rcases hx.makers with hm | ⟨hm, -⟩
      · exact absurd (hm ▸ hlen) (Nat.succ_ne_self _)
      · rw [hm, ha]
        exact List.getElem?_concat_length

theorem Taken.made_before (hx : Taken s about w x) (ha : about ≠ some maker)
    (h : x.2[id]? = some maker) : s.makers[id]? = some maker := by
  rcases hx.makers with he | ⟨he, -⟩ <;> rw [he] at h
  · exact h
  · refine (List.getElem?_append_left ?_).symm.trans h
    rcases Nat.lt_or_ge id s.makers.length with hlt | hge
    · exact hlt
    · rw [List.getElem?_append_right hge] at h
      exact absurd (Option.mem_toList.1 (List.mem_of_getElem? h)) ha

theorem Taken.count (hx : Taken s about w x) (ha : about ≠ some maker) :
    number x.2 maker x.2.length = number x.2 maker s.makers.length := by
  rcases hx.makers with he | ⟨he, -⟩ <;> rw [he]
  cases about with
  | none => simp
  | some id =>
      have hne : id ≠ maker := fun hi => ha (congrArg some hi)
      rw [Option.toList_some, List.length_append, List.length_singleton,
        number_succ List.getElem?_concat_length, if_neg hne, Nat.add_zero]

theorem Taken.copies (h : Owned s) (hx : Taken s about w x) (hc : Course s.world about w) (hm : Made x.2 w)
    (hp : p ∈ w.documents) {keep : RangeId → Bool} (hk : ∀ id, keep id = true → ∃ q ∈ w.handles, q.2 = ⟨p.2.id, id⟩) :
    x.1.filter (keep ·.id) = p.2.document.registry.ranges.filter (keep ·.id) := by
  by_cases ha : about = some p.2.id
  · rw [(hx.subject p hp ha).1]
  · have hmade : ∀ id, keep id = true → s.makers[id]? = some p.2.id :=
      fun id hid => hx.made_before ha (hm.of_handle (hk id hid))
    rw [hx.frame keep fun id hid => ⟨_, hmade id hid, ha⟩]
    rcases hc.inherited hp ha with ⟨t, terminator, he⟩ | ⟨p₀, hp₀, hu⟩
    · rw [he]
      refine List.filter_eq_nil_iff.2 fun l _ hl => ?_
      have hlt := h.old _ (List.mem_of_getElem? (hmade l.id hl))
      rw [he] at hlt
      exact Nat.lt_irrefl _ hlt
    · rw [← h.ranges p₀ hp₀, hu.ranges keep (hu.id ▸ hk)]

theorem held_iff (hm : Made makers w) : makers[id]? = some maker ∧ holds w.handles id = true ↔
    ∃ q ∈ w.handles, q.2 = ⟨maker, id⟩ := by
  constructor
  · rintro ⟨hmaker, hheld⟩
    obtain ⟨q, hq, he⟩ := List.any_eq_true.1 hheld
    have he := beq_iff_eq.1 he
    have hi := hm.handles q hq
    rw [he, hmaker] at hi
    exact ⟨q, hq, by rw [← he, Option.some.inj hi]⟩
  · intro h
    refine ⟨hm.of_handle h, ?_⟩
    obtain ⟨q, hq, he⟩ := h
    exact List.any_eq_true.2 ⟨q, hq, by simp [he]⟩

theorem exists_handle (hm : Made makers w) (hh : Held (w.renumber makers)) (hp : p ∈ w.documents) {l : LiveRange}
    (hl : l ∈ p.2.document.registry.ranges) (hmaker : makers[l.id]? = some p.2.id) :
    ∃ q ∈ w.handles, q.2 = ⟨p.2.id, l.id⟩ := by
  obtain ⟨q', hq', he⟩ := hh.ranges (p.1, p.2.renumber makers) (List.mem_map.2 ⟨p, hp, rfl⟩)
    ⟨number makers p.2.id l.id, l.span⟩ (List.mem_map.2 ⟨l, List.mem_filter.2 ⟨hl, decide_eq_true hmaker⟩, rfl⟩)
  obtain ⟨q, hq, rfl⟩ := List.mem_map.1 hq'
  exact ⟨q, hq, (Handle.renumber_inj (hm.handles q hq) hmaker).1 he⟩

theorem Taken.counted (h : Owned s) (hx : Taken s about w x) (hc : Course s.world about w) (hp : p ∈ w.documents) :
    number x.2 p.2.id x.2.length = number x.2 p.2.id p.2.document.registry.nextId := by
  by_cases ha : about = some p.2.id
  · rw [(hx.subject p hp ha).2.1]
  · rw [hx.count ha]
    rcases hc.inherited hp ha with ⟨t, terminator, he⟩ | ⟨p₀, hp₀, hu⟩
    · have hnone : p.2.id ∉ s.makers := by
        intro hmem
        have hlt := h.old _ hmem
        rw [he] at hlt
        exact Nat.lt_irrefl _ hlt
      have htake : x.2.take s.makers.length = s.makers := by
        rcases hx.makers with hx | ⟨hx, -⟩ <;> simp [hx]
      rw [number, htake, List.count_eq_zero.2 hnone, he]
      rfl
    · rw [hu.nextId, h.nextId p₀ hp₀]

/-- A document that a call is not about has a copy of the ranges from before it, as good as the new ones for
those of them that it made. -/
theorem Taken.registry_renumber (h : Owned s) (hx : Taken s about w x) (hc : Course s.world about w) (hm : Made x.2 w)
    (hh : Held (w.renumber x.2)) (hp : p ∈ w.documents) :
    ({ p.2.document.registry with
        ranges := x.1.filter fun l => holds w.handles l.id
        nextId := x.2.length } : Registry).renumber x.2 p.2.id = p.2.document.registry.renumber x.2 p.2.id := by
  let keep (id : RangeId) : Bool := w.handles.any (·.2 == ⟨p.2.id, id⟩)
  have hk : ∀ id, keep id = true ↔ ∃ q ∈ w.handles, q.2 = ⟨p.2.id, id⟩ := by
    intro id
    simp only [keep, List.any_eq_true, beq_iff_eq]
  have hnew : (x.1.filter fun l => holds w.handles l.id).filter (fun l => x.2[l.id]? = some p.2.id) =
      x.1.filter (keep ·.id) := by
    rw [List.filter_filter]
    refine List.filter_congr fun l _ => ?_
    rw [Bool.eq_iff_iff, Bool.and_eq_true, decide_eq_true_iff, hk]
    exact held_iff hm
  have hold : p.2.document.registry.ranges.filter (fun l => x.2[l.id]? = some p.2.id) =
      p.2.document.registry.ranges.filter (keep ·.id) := by
    refine List.filter_congr fun l hl => ?_
    rw [Bool.eq_iff_iff, decide_eq_true_iff, hk]
    exact ⟨exists_handle hm hh hp hl, hm.of_handle⟩
  simp only [Registry.renumber, hnew, hold, hx.copies h hc hm hp fun id => (hk id).1, hx.counted h hc hp]

theorem Taken.within (h : Owned s) (hx : Taken s about w x) (hc : Course s.world about w) (hp : p ∈ w.documents) :
    p.2.document.registry.nextId ≤ x.2.length ∧ ∀ l ∈ p.2.document.registry.ranges, l.id < x.2.length := by
  have hle : s.makers.length ≤ x.2.length := by
    rcases hx.makers with he | ⟨he, -⟩ <;> simp [he]
  by_cases ha : about = some p.2.id
  · obtain ⟨hr, hn, -⟩ := hx.subject p hp ha
    exact ⟨Nat.le_of_eq hn, fun l hl => hx.stored l (hr ▸ hl)⟩
  · rcases hc.inherited hp ha with ⟨t, terminator, he⟩ | ⟨p₀, hp₀, hu⟩
    · rw [he]
      exact ⟨Nat.zero_le _, fun l hl => absurd hl List.not_mem_nil⟩
    · refine ⟨hu.nextId ▸ h.nextId p₀ hp₀ ▸ hle, fun l hl => Nat.lt_of_lt_of_le (h.stored l ?_) hle⟩
      exact h.ranges p₀ hp₀ ▸ hu.ids l hl

theorem Taken.world_renumber (h : Owned s) (hx : Taken s about w x) (hc : Course s.world about w)
    (hh : Held (w.renumber (s.makers ++ about.toList))) :
    (w.share (x.1.filter fun l => holds w.handles l.id) x.2.length).renumber x.2 =
      w.renumber (s.makers ++ about.toList) := by
  have hm := hx.made h hc
  have hw : w.renumber (s.makers ++ about.toList) = w.renumber x.2 := by
    rcases hx.makers with he | ⟨he, -⟩
    · rw [← he]
      exact renumber_append hm (fun p hp => hx.within h hc hp) _
    · rw [he]
  rw [hw] at hh ⊢
  simp only [World.renumber, World.share, List.map_map]
  congr 1
  refine List.map_congr_left fun p hp => ?_
  exact congrArg (fun r => (p.1, (⟨p.2.id, { p.2.document with registry := r }⟩ : OpenDocument)))
    (hx.registry_renumber h hc hm hh hp)

theorem Taken.owned (h : Owned s) (hold : ∀ p ∈ s.world.documents, p.2.id < s.world.nextId)
    (hx : Taken s about w x) (hc : Course s.world about w) {ranges : List LiveRange} (hr : ∀ l ∈ ranges, l ∈ x.1) :
    Owned ⟨w.share ranges x.2.length, ranges, x.2⟩ := by
  have hm := hx.made h hc
  have hshare : ∀ p ∈ (w.share ranges x.2.length).documents, ∃ p₀ ∈ w.documents, p₀.2.id = p.2.id ∧
      p₀.2.document.registry.tracked = p.2.document.registry.tracked ∧
      p.2.document.registry.ranges = ranges ∧ p.2.document.registry.nextId = x.2.length := by
    intro p hp
    obtain ⟨p₀, hp₀, rfl⟩ := List.mem_map.1 hp
    exact ⟨p₀, hp₀, rfl, rfl, rfl, rfl⟩
  refine ⟨fun p hp => ?_, fun p hp => ?_, fun l hl => hx.stored l (hr l hl), ⟨fun p hp id hid => ?_, hm.handles⟩,
    fun maker hmaker => Nat.lt_of_lt_of_le ?_ hc.nextId⟩
  · obtain ⟨-, -, -, -, he, -⟩ := hshare p hp
    exact he
  · obtain ⟨-, -, -, -, -, he⟩ := hshare p hp
    exact he
  · obtain ⟨p₀, hp₀, hi, ht, -⟩ := hshare p hp
    exact hi ▸ hm.tracked p₀ hp₀ id (ht ▸ hid)
  · rcases hx.makers with he | ⟨he, p, hp, ha⟩
    · exact h.old maker (he ▸ hmaker)
    · rcases List.mem_append.1 (he ▸ hmaker) with hmaker | hmaker
      · exact h.old maker hmaker
      · exact Option.some.inj (ha.symm.trans (Option.mem_toList.1 hmaker)) ▸ hold p hp

/-- A run on shared ranges is where it would be if each document had its own. -/
structure Mirrors (s : SharedWorld) (cs : List Call) : Prop where
  world : World.after cs = s.world.renumber s.makers
  owned : Owned s

namespace Mirrors

theorem ids (h : Mirrors s cs) : (s.world.documents.map (·.2.id)).Nodup := by
  rw [← ids_renumber s.makers, ← h.world]
  exact (sound_after cs).distinct

theorem id_lt (h : Mirrors s cs) (hp : p ∈ s.world.documents) : p.2.id < s.world.nextId := by
  have hs := sound_after cs
  rw [h.world] at hs
  exact hs.id_lt (p := (p.1, p.2.renumber s.makers)) (List.mem_map.2 ⟨p, hp, rfl⟩)

theorem perform_eq (h : Mirrors s cs) (c : Call) : (World.after cs).perform c =
    ((s.world.perform c).1, (s.world.perform c).2.renumber (s.makers ++ (c.subject s.world).toList)) := by
  have hw := renumber_append h.owned.made (fun p hp => ⟨Nat.le_of_eq (h.owned.nextId p hp),
    fun l hl => h.owned.stored l (h.owned.ranges p hp ▸ hl)⟩) (c.subject s.world).toList
  rw [h.world, ← hw]
  refine perform_renumber (h.owned.made.append _) fun p hp ha => ?_
  rw [h.owned.nextId p hp, ha]
  exact List.getElem?_concat_length

theorem taken (h : Mirrors s cs) (c : Call) : Taken s (c.subject s.world) (s.world.perform c).2
    (s.taken (c.subject s.world) (s.world.perform c).2) := by
  refine h.owned.taken (fun p => h.id_lt) ?_ (course s.world c)
  have hs := sound_after (cs ++ [c])
  rw [World.after_append, h.perform_eq] at hs
  exact ids_renumber _ _ ▸ hs.distinct

theorem perform (h : Mirrors s cs) (c : Call) : ((World.after cs).perform c).1 = (s.perform c).1 ∧
    Mirrors (s.perform c).2 (cs ++ [c]) := by
  have hh := held_after (cs ++ [c])
  rw [World.after_append, h.perform_eq] at hh
  refine ⟨by rw [h.perform_eq]; rfl, ?_, ?_⟩
  · rw [World.after_append, h.perform_eq]
    exact ((h.taken c).world_renumber h.owned (course s.world c) hh).symm
  · exact (h.taken c).owned h.owned (fun p => h.id_lt) (course s.world c) fun l hl => (List.mem_filter.1 hl).1

end Mirrors

theorem after_append (cs : List Call) (c : Call) : after (cs ++ [c]) = ((after cs).perform c).2 := by simp [after]

theorem mirrors_after (cs : List Call) : Mirrors (after cs) cs := by
  induction cs using List.reverseRecOn with
  | nil =>
      refine ⟨rfl, fun p hp => ?_, fun p hp => ?_, fun l hl => ?_, ⟨fun p hp => ?_, fun q hq => ?_⟩,
        fun maker hm => ?_⟩
      all_goals exact absurd (by assumption) List.not_mem_nil
  | append_singleton cs c ih =>
      rw [after_append]
      exact (ih.perform c).2

end SharedWorld

end TrackedText
