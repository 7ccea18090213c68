import TrackedText.Proofs.ReportedEdits

namespace TrackedText

/-- The characters from `start` up to `stop` are to give way to `text`. -/
structure Replacement where
  start : Nat
  stop : Nat
  text : Text

def Text.replaceAll (u : Text) (rs : List Replacement) : Text :=
  rs.foldl (fun u r => replace r.start r.stop r.text u) u

def Span.replaceAll (s : Span) (rs : List Replacement) : Span :=
  rs.foldl (fun s r => s.replace r.start r.stop r.text.length) s

namespace Command

def replacement (length : Nat) (c : Command) : Replacement :=
  ⟨(c.interval length).1, (c.interval length).2, c.text⟩

/-- What a run of commands replaces in a story of the given length. Each command is measured against the length
that those before it have left. -/
def replacements (length : Nat) : List Command → List Replacement
  | [] => []
  | c :: cs =>
    let r := c.replacement length
    r :: replacements (length - (r.stop - r.start) + r.text.length) cs

variable {length first second offset : Nat} {c c' : Command} {r r' : Replacement}

theorem replacement_insertText (h : offset < length) (t : Text) :
    (insertText offset t).replacement length = ⟨offset, offset, t⟩ := by
  have ho : min offset (length - 1) = offset := by omega
  simp only [replacement, interval, text, ho]

theorem replacement_deleteRange_min (h : first ≤ second) (length : Nat) :
    (deleteRange first second).replacement length = ⟨min first (length - 1), min second (length - 1), []⟩ := by
  simp only [replacement, interval, text, Nat.min_eq_left h, Nat.max_eq_right h]

theorem replacement_deleteRange (h : first ≤ second) (hs : second < length) :
    (deleteRange first second).replacement length = ⟨first, second, []⟩ := by
  have hfirst : min first (length - 1) = first := by omega
  have hsecond : min second (length - 1) = second := by omega
  rw [replacement_deleteRange_min h, hfirst, hsecond]

theorem replacements_pair (h : c.replacement length = r)
    (h' : c'.replacement (length - (r.stop - r.start) + r.text.length) = r') : replacements length [c, c'] = [r, r'] := by
  simp only [replacements, h, h']

end Command

namespace Document

variable {d d₁ d₂ d₃ d' : Document} {c : Command} {cs cs' cs'' : List Command} {r : Replacement}
  {rs rs' : List Replacement}

def applyAll (d : Document) : List Command → Except RangeError Document
  | [] => .ok d
  | c :: cs => do
    let (_, d) ← d.apply c
    applyAll d cs

structure ReplacedAll (rs : List Replacement) (d d' : Document) : Prop where
  sound : d'.Sound
  content : d'.story.content = d.story.content.replaceAll rs
  terminator : d'.story.terminator = d.story.terminator
  span? : ∀ id, d'.registry.span? id = (d.registry.span? id).map fun s =>
    if d.registry.isTracked id then s.replaceAll rs else s
  tracked : ∀ id, (d.registry.span? id).isSome → d'.registry.isTracked id = d.registry.isTracked id
  selection : d'.registry.selection =
    { d.registry.selection with span := d.registry.selection.span.replaceAll rs }

namespace ReplacedAll

theorem nil (h : d.Sound) : ReplacedAll [] d d where
  sound := h
  content := rfl
  terminator := rfl
  span? := fun id => by simp [Span.replaceAll]
  tracked := fun _ _ => rfl
  selection := rfl

theorem cons (hr : Replaced r.start r.stop r.text d d₁) (hk : KeepsCaret d d₁) (hs : ReplacedAll rs d₁ d') :
    ReplacedAll (r :: rs) d d' where
  sound := hs.sound
  content := by
    rw [hs.content, hr.story.content]
    rfl
  terminator := hs.terminator.trans hr.story.terminator
  span? := by
    intro id
    rw [hs.span?, hr.span?]
    cases hd : d.registry.span? id with
    | none => rfl
    | some s =>
        simp only [Option.map_some, hr.tracked id (by simp [hd])]
        cases d.registry.isTracked id with
        | true => rfl
        | false => rfl
  tracked := by
    intro id hl
    have hl₁ : (d₁.registry.span? id).isSome := by simpa only [hr.span?, Option.isSome_map] using hl
    exact (hs.tracked id hl₁).trans (hr.tracked id hl)
  selection := by
    rw [hs.selection, hk, hr.selection]
    rfl

end ReplacedAll

/-- Nothing tells the two documents apart but the number of edits that they have seen. -/
structure Alike (d d' : Document) : Prop where
  text : d.story.text = d'.story.text
  terminator : d.story.terminator = d'.story.terminator
  length : d.story.length = d'.story.length
  extent : d.registry.extent = d'.registry.extent
  span? : ∀ id, d.registry.span? id = d'.registry.span? id
  tracked : ∀ id, d.registry.isLive id = true → d.registry.isTracked id = d'.registry.isTracked id
  selection : d.registry.selection = d'.registry.selection

theorem Alike.trans (h : d₁.Alike d₂) (h' : d₂.Alike d₃) : d₁.Alike d₃ where
  text := h.text.trans h'.text
  terminator := h.terminator.trans h'.terminator
  length := h.length.trans h'.length
  extent := h.extent.trans h'.extent
  span? := fun id => (h.span? id).trans (h'.span? id)
  tracked := by
    intro id hl
    refine (h.tracked id hl).trans (h'.tracked id ?_)
    rwa [Registry.isLive, ← h.span? id]
  selection := h.selection.trans h'.selection

theorem ReplacedAll.alike (h : d.Sound) (h₁ : ReplacedAll rs d d₁) (h₂ : ReplacedAll rs' d d₂)
    (htext : d.story.content.replaceAll rs = d.story.content.replaceAll rs')
    (hspan : ∀ s : Span, s.start ≤ s.stop → s.replaceAll rs = s.replaceAll rs') : d₁.Alike d₂ := by
  have hcontent : d₁.story.content = d₂.story.content := by rw [h₁.content, h₂.content, htext]
  have hterminator : d₁.story.terminator = d₂.story.terminator := h₁.terminator.trans h₂.terminator.symm
  have hlength : d₁.story.length = d₂.story.length := by
    rw [h₁.sound.story.counted, h₂.sound.story.counted, hcontent]
  exact {
    text := h₂.sound.story.text_eq h₁.sound.story hcontent hterminator
    terminator := hterminator
    length := hlength
    extent := by
      have hl : d₁.registry.extent.length = d₂.registry.extent.length := by
        rw [← h₁.sound.inStep, ← h₂.sound.inStep, hlength]
      exact congrArg Extent.mk hl
    span? := by
      intro id
      rw [h₁.span?, h₂.span?]
      cases hs : d.registry.span? id with
      | none => rfl
      | some s => rw [Option.map_some, Option.map_some, hspan s (h.registry.ordered_span? hs)]
    tracked := by
      intro id hl
      have hl : (d.registry.span? id).isSome := by
        simpa only [Registry.isLive, h₁.span?, Option.isSome_map] using hl
      rw [h₁.tracked id hl, h₂.tracked id hl]
    selection := by rw [h₁.selection, h₂.selection, hspan _ h.registry.selected.ordered] }

theorem version_apply (h : d.Sound) {p : Patch × Document} (hp : d.apply c = .ok p) : p.2.version = d.version + 1 := by
  obtain ⟨d', hp', hr⟩ := h.apply_reported c
  obtain rfl := Except.ok.inj (hp.symm.trans hp')
  exact congrArg (· + 1) hr.version

theorem Sound.applyAll (h : d.Sound) (cs : List Command) :
    ∃ d', d.applyAll cs = .ok d' ∧ d'.version = d.version + cs.length ∧
      ReplacedAll (Command.replacements d.story.length cs) d d' := by
  induction cs generalizing d with
  | nil => exact ⟨d, rfl, rfl, .nil h⟩
  | cons c cs ih =>
      obtain ⟨p, d₁, hp, hr⟩ := h.apply c
      obtain ⟨d', hps, hv, hs⟩ := ih hr.sound
      refine ⟨d', ?_, ?_, ?_⟩
      · simp only [Document.applyAll, hp, hps, bind, Except.bind]
      · rw [hv, version_apply h hp, List.length_cons, Nat.add_assoc, Nat.add_comm 1]
      · rw [hr.story.length] at hs
        exact .cons hr (h.keepsCaret_apply hp) hs

/-- Both runs are carried out, and lead to the same but for the number of edits. -/
def SameOutcome (d : Document) (cs cs' : List Command) : Prop :=
  ∃ d₁ d₂, d.applyAll cs = .ok d₁ ∧ d.applyAll cs' = .ok d₂ ∧ d₁.Alike d₂ ∧
    d₁.version = d.version + cs.length ∧ d₂.version = d.version + cs'.length

theorem Sound.sameOutcome (h : d.Sound) (hr : Command.replacements d.story.length cs = rs)
    (hr' : Command.replacements d.story.length cs' = rs')
    (htext : d.story.content.replaceAll rs = d.story.content.replaceAll rs')
    (hspan : ∀ s : Span, s.start ≤ s.stop → s.replaceAll rs = s.replaceAll rs') : d.SameOutcome cs cs' := by
  obtain ⟨d₁, hd₁, hv₁, h₁⟩ := h.applyAll cs
  obtain ⟨d₂, hd₂, hv₂, h₂⟩ := h.applyAll cs'
  exact ⟨d₁, d₂, hd₁, hd₂, ReplacedAll.alike h (hr ▸ h₁) (hr' ▸ h₂) htext hspan, hv₁, hv₂⟩

namespace SameOutcome

theorem trans (h : d.SameOutcome cs cs') (h' : d.SameOutcome cs' cs'') : d.SameOutcome cs cs'' := by
  obtain ⟨d₁, d₂, hd₁, hd₂, ha, hv₁, -⟩ := h
  obtain ⟨e₂, d₃, he₂, hd₃, ha', -, hv₃⟩ := h'
  obtain rfl := Except.ok.inj (hd₂.symm.trans he₂)
  exact ⟨d₁, d₃, hd₁, hd₃, ha.trans ha', hv₁, hv₃⟩

theorem cons {p : Patch × Document} (h : d.Sound) (hp : d.apply c = .ok p) (hs : p.2.SameOutcome cs cs') :
    d.SameOutcome (c :: cs) (c :: cs') := by
  have hall : ∀ cs, d.applyAll (c :: cs) = p.2.applyAll cs := by
    intro cs
    simp only [Document.applyAll, hp, bind, Except.bind]
  obtain ⟨d₁, d₂, hd₁, hd₂, ha, hv₁, hv₂⟩ := hs
  have hv := version_apply h hp
  refine ⟨d₁, d₂, (hall cs).trans hd₁, (hall cs').trans hd₂, ha, ?_, ?_⟩
  · rw [hv₁, hv, List.length_cons, Nat.add_assoc, Nat.add_comm 1]
  · rw [hv₂, hv, List.length_cons, Nat.add_assoc, Nat.add_comm 1]

end SameOutcome

end Document

end TrackedText
