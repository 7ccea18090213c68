import TrackedText.Proofs.ReadingCalls
import TrackedText.Proofs.StoredOffsets

namespace TrackedText

open Registry

theorem Extent.clamp_ofOffset {o : Nat} (x : Extent) (h : o < 2 ^ 63) : x.clamp (.ofOffset o) = x.narrow o := by
  have hw : (wordCount : Int) = 2 ^ 64 := rfl
  have ho : Position.ofOffset o = o := Int.bmod_eq_of_le (by omega) (by omega)
  rw [ho, clamp, Int.toNat_natCast, narrow]

theorem Registry.renew_eq {r : Registry} {s : Span} (ho : s.start ≤ s.stop) (hs : s.stop < 2 ^ 63) :
    r.renew s = s.narrow r.extent := by
  rw [renew, Span.ofPositions, Extent.clamp_ofOffset _ hs, Extent.clamp_ofOffset _ (Nat.lt_of_le_of_lt ho hs),
    Span.narrow]

/-- An offset that reads as a negative position goes to the other end of the story. -/
example : (Registry.ofLength 3).renew ⟨2 ^ 63, 2 ^ 63⟩ = ⟨0, 0⟩ ∧
    Span.narrow (Registry.ofLength 3).extent ⟨2 ^ 63, 2 ^ 63⟩ = ⟨3, 3⟩ := by decide

namespace Document

variable {d : Document} {id : RangeId}

/-- What is brought back into the story when a range is attached could only be seen there before. -/
theorem Sound.attach_alike (h : d.Sound) (hs : ∀ s, d.registry.span? id = some s → s.stop < 2 ^ 63) :
    d.ReadsAlike (fun _ => True) (fun other => d.registry.isLive other = true ∧ other ≠ id) (d.attach id).2 where
  story := rfl
  version := rfl
  selection := selection_attach
  bounds := by
    intro other _
    have hspan : (d.attach id).2.registry.span? other = _ := span?_attach
    have hx : (d.attach id).2.registry.extent = d.registry.extent := extent_attach
    cases ho : d.registry.span? other with
    | none =>
        rw [ho, Option.map_none] at hspan
        rw [bounds_dead hspan, bounds_dead ho]
    | some s =>
        rw [ho, Option.map_some] at hspan
        rw [bounds, bounds, span_eq hspan, span_eq ho, hx]
        split
        · rename_i hrenewed
          obtain ⟨rfl, -⟩ := hrenewed
          rw [renew_eq (h.registry.ordered_span? ho) (hs s ho), Span.narrow_of_inStory (Span.inStory_narrow s)]
        · rfl
  tracked := by
    rintro other ⟨hl, hne⟩
    refine (isTracked_attach hl).trans ?_
    rw [beq_eq_false_iff_ne.2 hne, Bool.or_false]

theorem detach_alike (d : Document) (id : RangeId) : d.ReadsAlike (fun _ => True) (· ≠ id) (d.detach id).2 :=
  ⟨rfl, rfl, rfl, fun _ _ => rfl, fun other hne => isTracked_detach.trans (by simp [hne])⟩

theorem createRange_alike (d : Document) (tracked : Bool) (first last : Position) :
    d.ReadsAlike (· ≠ d.registry.nextId)
      (fun other => d.registry.isLive other = true ∧ other ≠ d.registry.nextId)
      (d.createRange tracked first last).2 where
  story := rfl
  version := rfl
  selection := selection_create tracked first last
  bounds := by
    intro other hne
    have hspan : (d.createRange tracked first last).2.registry.span? other = d.registry.span? other :=
      (span?_create tracked first last).trans (if_neg hne)
    have hx : (d.createRange tracked first last).2.registry.extent = d.registry.extent :=
      extent_create tracked first last
    simp only [bounds, Registry.span, hspan, hx]
  tracked := fun other ho => isTracked_create ho.1 ho.2 tracked first last

theorem createRange_bounds (d : Document) (tracked : Bool) (first last : Position) :
    (d.createRange tracked first last).2.bounds d.registry.nextId = .ofPositions d.registry.extent first last := by
  have hspan : (d.createRange tracked first last).2.registry.span? d.registry.nextId = _ :=
    (span?_create tracked first last).trans (if_pos rfl)
  have hx : (d.createRange tracked first last).2.registry.extent = d.registry.extent :=
    extent_create tracked first last
  rw [bounds, span_eq hspan, hx, Span.narrow_of_inStory (Span.inStory_ofPositions first last)]

theorem Sound.renew_bounds (h : d.Sound) (hw : d.story.length < 2 ^ 63) (id : RangeId) :
    d.registry.renew (d.bounds id) = d.bounds id := by
  obtain ⟨ho, hb⟩ := h.bounds_inStory id
  rw [renew_eq ho (Nat.lt_of_le_of_lt hb hw)]
  exact Span.narrow_of_inStory (Span.inStory_narrow _)

end Document

namespace World

variable {w : World} {ts : List Char} {o : OpenDocument} {g : Handle} {d' : Document} {name handle copy : String}
  {c : Call}

theorem get?_put_self {α : Type} (xs : Named α) (name : String) (a : α) : (xs.put name a).get? name = some a := by
  simp [Named.put, Named.get?]

theorem get?_put_ne {α : Type} {xs : Named α} {other : String} (hn : name ≠ other) (a : α) :
    (xs.put other a).get? name = xs.get? name := by
  rw [Named.put, Named.get?, List.lookup_cons, beq_eq_false_iff_ne.2 hn]
  exact get?_erase_ne hn

theorem perform_attach (ho : w.documents.get? name = some o) (hg : w.handles.get? handle = some g)
    (hi : g.document = o.id) : w.perform (.document name (.attach handle)) =
      (.ok (.flag (o.document.attach g.range).1), w.setDocument o.id (o.document.attach g.range).2) := by
  simp [perform_document ho, runDocument, resolve_eq hg, ensureOwned, hi]

theorem perform_detach (ho : w.documents.get? name = some o) (hg : w.handles.get? handle = some g)
    (hi : g.document = o.id) : w.perform (.document name (.detach handle)) =
      (.ok (.flag (o.document.detach g.range).1), w.setDocument o.id (o.document.detach g.range).2) := by
  simp [perform_document ho, runDocument, resolve_eq hg, ensureOwned, hi]

def Knows (w : World) (g : Handle) : Prop := ∃ q ∈ w.handles, q.2 = g

theorem knows_of_get? (hg : w.handles.get? name = some g) : w.Knows g := ⟨_, Named.mem_of_get? hg, rfl⟩

/-- The call settles whether the range of the handle is tracked. Apart from that, for all handles on the range, it
leaves the document and whatever can be read as they are. -/
def Retracks (w : World) (o : OpenDocument) (g : Handle) (tracked : Bool) (c : Call) : Prop :=
  ∃ b d', w.perform c = (.ok (.flag b), w.setDocument o.id d') ∧
    d'.story = o.document.story ∧ d'.version = o.document.version ∧
    d'.registry.selection = o.document.registry.selection ∧ d'.registry.isTracked g.range = tracked ∧
    ∀ c : Call, c.reads = true → (∀ other, c = .handle other .isAttached → w.handles.get? other ≠ some g) →
      ((w.setDocument o.id d').perform c).1 = (w.perform c).1

theorem Sound.retracks (h : Sound ts w) (hl : HandlesLive w.handles w) (ho : w.documents.get? name = some o)
    (hi : g.document = o.id) {b tracked : Bool} (hp : w.perform c = (.ok (.flag b), w.setDocument o.id d'))
    (hk : o.document.Keeps d')
    (ha : o.document.ReadsAlike (fun _ => True) (fun r => o.document.registry.isLive r = true ∧ r ≠ g.range) d')
    (ht : d'.registry.isTracked g.range = tracked) : w.Retracks o g tracked c := by
  have hm := Named.mem_of_get? ho
  refine ⟨b, d', hp, ha.story, ha.version, ha.selection, ht, fun c hc hf => ?_⟩
  have halike : ReadsAlike (fun _ => True) (fun h => w.Knows h ∧ h ≠ g) w (w.setDocument o.id d') := by
    refine .setDocument (h.document?_eq hm) (ha.mono (fun _ => id) ?_)
    rintro r ⟨⟨q, hq, he⟩, hne⟩
    constructor
    · have hlive := hl q hq _ hm (by rw [he])
      rwa [he] at hlive
    · rintro rfl
      exact hne (by rw [← hi])
  refine halike.perform h (h.setDocument hm hk) hc (fun _ _ => rfl) (fun _ _ _ _ => trivial) fun other g' he hg' => ?_
  refine ⟨knows_of_get? hg', ?_⟩
  rintro rfl
  exact hf other he hg'

/-- The world with a range more. The name it is held under lets go of what it stood for. -/
def withRange (w : World) (o : OpenDocument) (tracked : Bool) (first last : Position) (copy : String) : World :=
  (w.setDocument o.id (o.document.createRange tracked first last).2).hold copy ⟨o.id, o.document.registry.nextId⟩

section

variable {p : String × OpenDocument} (tracked : Bool) (first last : Position) (copy : String)

theorem handles_withRange (w : World) (o : OpenDocument) :
    (w.withRange o tracked first last copy).handles = w.handles.put copy ⟨o.id, o.document.registry.nextId⟩ :=
  handles_hold _ copy _

theorem alike_withRange (w : World) (o : OpenDocument) :
    ReadsAlike (w.withRange o tracked first last copy).Knows (w.withRange o tracked first last copy).Knows
      (w.setDocument o.id (o.document.createRange tracked first last).2) (w.withRange o tracked first last copy) := by
  refine .hold _ copy _ fun g hg => ?_
  rwa [Knows, handles_withRange] at hg

variable (h : Sound ts w) (hp : p ∈ w.documents)

include h hp

theorem Sound.document?_withRange : ∃ d', (w.withRange p.2 tracked first last copy).document? p.2.id = some d' ∧
    (p.2.document.createRange tracked first last).2.ReadsAlike
      (fun r => (w.withRange p.2 tracked first last copy).Knows ⟨p.2.id, r⟩)
      (fun r => (w.withRange p.2 tracked first last copy).Knows ⟨p.2.id, r⟩) d' := by
  refine (alike_withRange tracked first last copy w p.2).document p.2.id _ ?_
  rw [document?_setDocument, h.document?_eq hp, Option.map_some, if_pos rfl]

theorem Sound.reads_withRange (hl : HandlesLive w.handles w) (hc : c.reads = true) (hn : copy ∉ c.operands) :
    ((w.withRange p.2 tracked first last copy).perform c).1 = (w.perform c).1 := by
  have hold (r : RangeId) (hr : w.Knows ⟨p.2.id, r⟩) :
      r ≠ p.2.document.registry.nextId ∧ p.2.document.registry.isLive r = true := by
    obtain ⟨q, hq, he⟩ := hr
    have hlt := h.ranges q hq p hp (by rw [he])
    have hlive := hl q hq p hp (by rw [he])
    rw [he] at hlt hlive
    exact ⟨Nat.ne_of_lt hlt, hlive⟩
  -- first the range comes into its document, then its name lets go of another one
  have hcreated : ReadsAlike w.Knows w.Knows w
      (w.setDocument p.2.id (p.2.document.createRange tracked first last).2) := by
    refine .setDocument (h.document?_eq hp) ((p.2.document.createRange_alike tracked first last).mono ?_ ?_)
    · exact fun r hr => (hold r hr).1
    · exact fun r hr => (hold r hr).symm
  have hsame (other : String) (ho : other ∈ c.operands) :
      (w.withRange p.2 tracked first last copy).handles.get? other = w.handles.get? other := by
    have hne : other ≠ copy := fun he => hn (he ▸ ho)
    rw [handles_withRange, get?_put_ne hne]
  have hknown (other : String) (ho : other ∈ c.operands) (g : Handle) (hg : w.handles.get? other = some g) :
      (w.withRange p.2 tracked first last copy).Knows g := knows_of_get? ((hsame other ho).trans hg)
  have hset := h.setDocument hp ((h.documents p hp).keeps_createRange tracked first last)
  calc ((w.withRange p.2 tracked first last copy).perform c).1
      = ((w.setDocument p.2.id (p.2.document.createRange tracked first last).2).perform c).1 := by
        refine (alike_withRange tracked first last copy w p.2).perform hset (h.newRange hp tracked first last copy) hc
          hsame hknown ?_
        rintro other g rfl hg
        exact hknown other List.mem_cons_self g hg
    _ = (w.perform c).1 :=
        hcreated.perform h hset hc (fun _ _ => rfl) (fun _ _ _ => knows_of_get?) fun _ _ _ => knows_of_get?

end

theorem perform_isAttached {d : Document} (hg : w.handles.get? name = some g) (hl : w.live g.document = .ok d) :
    w.perform (.handle name .isAttached) = (.ok (.flag (d.registry.isTracked g.range)), w) := by
  simp [perform_handle hg, runHandle, hl]

theorem Sound.reads_copy (h : Sound ts w) {p : String × OpenDocument} (hp : p ∈ w.documents) (tracked : Bool)
    (first last : Position) (copy : String) :
    ∃ d', (w.withRange p.2 tracked first last copy).document? p.2.id = some d' ∧
      d'.story = p.2.document.story ∧ d'.version = p.2.document.version ∧
      d'.registry.selection = p.2.document.registry.selection ∧
      ((w.withRange p.2 tracked first last copy).perform (.handle copy .isAttached)).1 = .ok (.flag tracked) ∧
      ((w.withRange p.2 tracked first last copy).perform (.handle copy .bounds)).1 =
        .ok (.span (.ofPositions p.2.document.registry.extent first last)) ∧
      ((w.withRange p.2 tracked first last copy).perform (.handle copy .text)).1 =
        .ok (.text (p.2.document.textIn (.ofPositions p.2.document.registry.extent first last))) := by
  have hd := h.documents p hp
  obtain ⟨d', hd', hk⟩ := h.document?_withRange tracked first last copy hp
  have hcopy : (w.withRange p.2 tracked first last copy).handles.get? copy =
      some ⟨p.2.id, p.2.document.registry.nextId⟩ := by rw [handles_withRange, get?_put_self]
  have hw' : Sound ts (w.withRange p.2 tracked first last copy) := h.newRange hp tracked first last copy
  have hl := hw'.live_document? hd'
  have hbounds := (hk.bounds _ (knows_of_get? hcopy)).trans (p.2.document.createRange_bounds tracked first last)
  have htracked := (hk.tracked _ (knows_of_get? hcopy)).trans
    (isTracked_create_nextId hd.registry.nextId_not_mem tracked first last)
  have hstory : d'.story = p.2.document.story := hk.story
  refine ⟨d', hd', hstory, hk.version, hk.selection.trans (selection_create tracked first last), ?_, ?_, ?_⟩
  · rw [perform_isAttached hcopy hl, htracked]
  · rw [perform_bounds hcopy hl, hbounds]
  · rw [perform_text hcopy hl, Document.rangeText, hbounds, Document.textIn, hstory, Document.textIn]

theorem Sound.perform_duplicate (h : Sound ts w) (ho : w.documents.get? name = some o)
    (hg : w.handles.get? handle = some g) (hi : g.document = o.id) (copy : String) :
    w.perform (.handle handle (.duplicate copy)) = (.ok .nothing, w.withRange o true
      (.ofOffset (o.document.bounds g.range).start) (.ofOffset (o.document.bounds g.range).stop) copy) := by
  have hl : w.live o.id = .ok o.document := h.live (Named.mem_of_get? ho)
  simp only [perform_handle hg, World.runHandle, hi, hl, orUnchanged_bind, refuse_ok, orUnchanged_pure]
  rfl

/-- To attach a handle, to detach it and to duplicate it leave the story, the version and the selection as they
are, and whatever is read by way of any handle, whether its range lies inside the story or has been left behind
by it. Only whether the range follows the edits is another matter, for all handles on it. The duplicate is
tracked and reads as the handle did. Whoever attaches a range reads its stored offsets as positions, of which half of
the words are negative. These offsets come from the story as it is or as it was, so they are told from negative ones
if that has always had fewer characters than half of the words. No run of a machine is left out by this: each
character takes a byte at least, and no memory has room for `2 ^ 63` of them. -/
theorem tracking_calls_keep_readings (cs : List Call) (name handle : String) (o : OpenDocument) (g : Handle)
    (ho : (after cs).documents.get? name = some o) (hg : (after cs).handles.get? handle = some g)
    (hi : g.document = o.id) (hw : o.document.story.length < 2 ^ 63) :
    ∃ s t, ((after cs).perform (.handle handle .bounds)).1 = .ok (.span s) ∧
      ((after cs).perform (.handle handle .text)).1 = .ok (.text t) ∧
      (StaysBelow (2 ^ 63) o.id cs → (after cs).Retracks o g true (.document name (.attach handle))) ∧
      (after cs).Retracks o g false (.document name (.detach handle)) ∧
      ∀ copy, ∃ w' d',
        (after cs).perform (.handle handle (.duplicate copy)) = (.ok .nothing, w') ∧ w'.document? o.id = some d' ∧
        d'.story = o.document.story ∧ d'.version = o.document.version ∧
        d'.registry.selection = o.document.registry.selection ∧
        (w'.perform (.handle copy .isAttached)).1 = .ok (.flag true) ∧
        (w'.perform (.handle copy .bounds)).1 = .ok (.span s) ∧ (w'.perform (.handle copy .text)).1 = .ok (.text t) ∧
        ∀ c : Call, c.reads = true → copy ∉ c.operands → (w'.perform c).1 = ((after cs).perform c).1 := by
  have h := sound_after cs
  have hl := handlesLive_after cs
  have hm := Named.mem_of_get? ho
  have hd : o.document.Sound := h.documents _ hm
  have hopen : (after cs).live g.document = .ok o.document := hi ▸ h.live hm
  have hlive : (o.document.registry.span? g.range).isSome := hl _ (Named.mem_of_get? hg) _ hm hi.symm
  refine ⟨o.document.bounds g.range, o.document.rangeText g.range, by rw [perform_bounds hg hopen],
    by rw [perform_text hg hopen], fun hb => ?_, ?_, fun copy => ?_⟩
  · have hstored (s : Span) (hs : o.document.registry.span? g.range = some s) : s.stop < 2 ^ 63 :=
      stored_below hb (h.document?_eq hm) hs
    refine h.retracks hl ho hi (perform_attach ho hg hi) ?_ (hd.attach_alike hstored) ?_
    · exact hd.keeps_attach (h.ranges _ (Named.mem_of_get? hg) _ hm hi.symm)
    · exact (isTracked_attach hlive).trans (by simp)
  · refine h.retracks hl ho hi (perform_detach ho hg hi) (hd.keeps_detach g.range) ?_ ?_
    · exact (o.document.detach_alike g.range).mono (fun _ => id) fun _ => And.right
    · exact isTracked_detach.trans (by simp)
  · have hrenewed := hd.renew_bounds hw g.range
    obtain ⟨d', hd', hstory, hversion, hselection, hattached, hbounds, htext⟩ := h.reads_copy hm true
      (.ofOffset (o.document.bounds g.range).start) (.ofOffset (o.document.bounds g.range).stop) copy
    rw [renew] at hrenewed
    rw [hrenewed] at hbounds htext
    refine ⟨_, d', h.perform_duplicate ho hg hi copy, hd', hstory, hversion, hselection, hattached, hbounds, htext,
      fun c hc hn => ?_⟩
    exact h.reads_withRange (p := (name, o)) true _ _ copy hm hl hc hn

def strandedRun : List Call :=
  [.openText "d" ['n', 'a', 'ï', 'v', 'e'] '\n', .document "d" (.createRange false "r" 4 9),
    .document "d" (.createRange true "s" 0 2), .document "d" (.apply (.deleteRange 4 1))]

theorem tracking_calls_keep_readings_strandedRun :
    (∃ b d', (after strandedRun).perform (.document "d" (.attach "r")) =
        (.ok (.flag b), (after strandedRun).setDocument 0 d') ∧ d'.registry.isTracked 0 = true ∧
      (((after strandedRun).setDocument 0 d').perform (.handle "r" .bounds)).1 = .ok (.span ⟨3, 3⟩)) ∧
    ∃ w', (after strandedRun).perform (.handle "r" (.duplicate "s")) = (.ok .nothing, w') ∧
      (w'.perform (.handle "s" .isAttached)).1 = .ok (.flag true) ∧
      (w'.perform (.handle "s" .bounds)).1 = .ok (.span ⟨3, 3⟩) ∧
      (w'.perform (.handle "r" .isAttached)).1 = .ok (.flag false) := by
  have hopen : ((after strandedRun).documents.get? "d").map (fun o => (o.id, o.document.story.length)) =
      some (0, 3) := by decide +kernel
  obtain ⟨o, ho, heq⟩ := Option.map_eq_some_iff.1 hopen
  obtain ⟨hid, hlength⟩ := Prod.mk.inj heq
  have hg : (after strandedRun).handles.get? "r" = some ⟨0, 0⟩ := by decide +kernel
  have hread : ((after strandedRun).perform (.handle "r" .bounds)).1 = .ok (.span ⟨3, 3⟩) := by rfl
  have hloose : ((after strandedRun).perform (.handle "r" .isAttached)).1 = .ok (.flag false) := by rfl
  obtain ⟨s, t, hs, -, hattach, -, hduplicate⟩ := tracking_calls_keep_readings strandedRun "d" "r" o ⟨0, 0⟩ ho hg
    hid.symm (by rw [hlength]; decide)
  rw [hid] at hattach
  obtain ⟨b, d', hp, -, -, -, htracked, hsame⟩ := hattach (by decide +kernel)
  rw [hid] at hp hsame
  obtain ⟨w', -, hq, -, -, -, -, hattached, hbounds, -, hothers⟩ := hduplicate "s"
  refine ⟨⟨b, d', hp, htracked, ?_⟩, w', hq, hattached, (hbounds.trans hs.symm).trans hread, ?_⟩
  · exact (hsame _ rfl fun _ he => by cases he).trans hread
  · exact (hothers _ rfl (by decide)).trans hloose

end World

end TrackedText
