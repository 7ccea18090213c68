import TrackedText.Proofs.CommandRuns
import TrackedText.Proofs.RelativePlaces

namespace TrackedText

namespace Document

variable {d d' : Document} {placed : RangeId → Prop} {e : StoryEdit} {m : Mutation}

theorem version_perform (h : d.perform e = .ok (m, d')) : d'.version = d.version := by
  obtain ⟨r, -, rfl⟩ := perform_ok h
  rfl

theorem Edit.version (h : d.Sound) (he : d.Edit placed d') : d'.version = d.version + 1 := by
  cases he with
  | apply hp => exact version_apply h hp
  | setText hp hd =>
      obtain ⟨⟨m, d₁⟩, h₁, hd⟩ := World.of_bind hd
      obtain ⟨⟨m', d₂⟩, h₂, hd⟩ := World.of_bind hd
      cases hd
      exact congrArg (· + 1) ((version_perform h₂).trans (version_perform h₁))
  | deleteText hd =>
      obtain ⟨⟨m, d₁⟩, h₁, hd⟩ := World.of_bind hd
      cases hd
      have hv := congrArg (· + 1) (version_perform h₁)
      dsimp only
      split <;> exact hv

theorem Rearranged.story (h : d.Rearranged placed d') : d'.story = d.story := by cases h <;> rfl

theorem Rearranged.version (h : d.Rearranged placed d') : d'.version = d.version := by cases h <;> rfl

end Document

namespace World

/-- The call edits the document, and is not refused. -/
def Call.Counts (w : World) (id : DocumentId) (c : Call) : Prop :=
  c.edits = true ∧ c.subject w = some id ∧ ∃ a, (w.perform c).1 = .ok a

variable {w w₁ w' : World} {ts : List Char} {d d' : Document} {p : String × OpenDocument} {id : DocumentId}
  {a : Answer} {c : Call} {cs cs' : List Call}

/-- What was written in the documents, and how often they were edited, is as it was. -/
def SamePages (w w' : World) : Prop :=
  ∀ p' ∈ w'.documents, p'.2.id < w.nextId → ∃ p ∈ w.documents, p.2.id = p'.2.id ∧
    p'.2.document.story = p.2.document.story ∧ p'.2.document.version = p.2.document.version

namespace SamePages

theorem refl (w : World) : SamePages w w := fun p hp _ => ⟨p, hp, rfl, rfl, rfl⟩

theorem lets (h : SamePages w w₁) (hl : Lets w₁ w') : SamePages w w' := by
  intro p' hp' hid
  obtain ⟨p₁, hp₁, hi, he⟩ := hl p' hp'
  obtain ⟨p, hp, hi', hs, hv⟩ := h p₁ hp₁ (hi ▸ hid)
  refine ⟨p, hp, hi'.trans hi, ?_⟩
  rcases he with he | ⟨id, he, -⟩ <;> exact he ▸ ⟨hs, hv⟩

theorem setDocument (hp : p ∈ w.documents) (hs : d'.story = p.2.document.story)
    (hv : d'.version = p.2.document.version) : SamePages w (w.setDocument p.2.id d') := by
  intro p' hp' _
  rcases mem_setDocument hp' with ⟨hm, -⟩ | ⟨hi, rfl⟩
  · exact ⟨p', hm, rfl, rfl, rfl⟩
  · exact ⟨p, hp, hi.symm, hs, hv⟩

theorem newRange (hp : p ∈ w.documents) (tracked : Bool) (first last : Position) (name : String) :
    SamePages w ((w.setDocument p.2.id (p.2.document.createRange tracked first last).2).hold name
      ⟨p.2.id, (p.2.document.createRange tracked first last).1⟩) := by
  have hd : SamePages w (w.setDocument p.2.id (p.2.document.createRange tracked first last).2) :=
    setDocument hp rfl rfl
  exact hd.lets (lets_hold _ name _)

theorem openDocument (w : World) (name : String) (d : Document) : SamePages w (w.openDocument name d) := by
  intro p' hp' hid
  rcases Named.mem_put.1 hp' with rfl | ⟨hp', -⟩
  · exact absurd hid (Nat.lt_irrefl _)
  · exact ⟨p', hp', rfl, rfl, rfl⟩

end SamePages

theorem Rearranged.samePages (h : Rearranged w c w') : SamePages w w' := by
  cases h with
  | nothing => exact .refl w
  | opened name t terminator => exact .openDocument w name _
  | closed name => exact fun p hp _ => ⟨p, (Named.mem_erase.1 hp).1, rfl, rfl, rfl⟩
  | changed hp hc => exact .setDocument hp hc.story hc.version
  | created hp tracked first last name => exact .newRange hp tracked first last name
  | shared hq name => exact (SamePages.refl w).lets (lets_hold w name _)
  | letGo name => exact (SamePages.refl w).lets (lets_dropHandle w name)
  | selection name id => exact .refl w

/-- Where a call leaves the story and the version of a document: a counted edit raises the version, any other call
leaves both alone. -/
theorem Sound.perform_counted (h : Sound ts w) (hid : id < w.nextId) (hd' : (w.perform c).2.document? id = some d') :
    ∃ d, w.document? id = some d ∧ (c.Counts w id → d'.version = d.version + 1) ∧
      (¬ c.Counts w id → d'.story = d.story ∧ d'.version = d.version) := by
  cases hr : w.run c with
  | error f =>
      have hp : w.perform c = (.error f, w) := by rw [World.perform, hr]
      have hc : ¬ c.Counts w id := by
        rintro ⟨-, -, a, ha⟩
        rw [hp] at ha
        cases ha
      rw [hp] at hd'
      exact ⟨d', hd', fun hc' => absurd hc' hc, fun _ => ⟨rfl, rfl⟩⟩
  | ok q =>
      obtain ⟨a, w'⟩ := q
      have hp : w.perform c = (.ok a, w') := by rw [World.perform, hr]
      rw [hp] at hd'
      cases hc : c.edits with
      | true =>
          obtain ⟨p, hm, hsub, d₁, he, rfl⟩ := run_edit hc hr
          by_cases hi : id = p.2.id
          · subst hi
            have hd := h.document?_eq hm
            rw [document?_setDocument, hd, Option.map_some, if_pos rfl] at hd'
            obtain rfl := Option.some.inj hd'
            refine ⟨_, hd, fun _ => he.version (h.documents p hm), fun hn => ?_⟩
            exact absurd ⟨hc, hsub, a, congrArg Prod.fst hp⟩ hn
          · rw [document?_setDocument] at hd'
            obtain ⟨d, hd, hd'⟩ := Option.map_eq_some_iff.1 hd'
            rw [if_neg hi] at hd'
            refine ⟨d, hd, fun hc' => ?_, fun _ => hd' ▸ ⟨rfl, rfl⟩⟩
            exact absurd (Option.some.inj (hc'.2.1.symm.trans hsub)) hi
      | false =>
          obtain ⟨p', hp', hi', rfl⟩ := mem_of_document? hd'
          obtain ⟨p, hm, hi, hs, hv⟩ := (run_rearranged hc hr).samePages p' hp' (hi' ▸ hid)
          refine ⟨p.2.document, hi' ▸ hi ▸ h.document?_eq hm, fun hc' => ?_, fun _ => ⟨hs, hv⟩⟩
          exact absurd (hc.symm.trans hc'.1) Bool.false_ne_true

theorem version_after (hd : (after cs).document? id = some d) (hd' : (after (cs ++ cs')).document? id = some d') :
    d.version ≤ d'.version ∧ (d'.version = d.version → d'.story = d.story) := by
  have hid := (sound_after cs).document?_lt hd
  induction cs' using List.reverseRecOn generalizing d' with
  | nil =>
      rw [List.append_nil] at hd'
      obtain rfl := Option.some.inj (hd.symm.trans hd')
      exact ⟨Nat.le_refl _, fun _ => rfl⟩
  | append_singleton cs' c ih =>
      rw [← List.append_assoc, after_append] at hd'
      have hid' := Nat.lt_of_lt_of_le hid (nextId_after cs cs')
      obtain ⟨d₁, hd₁, hcounts, hother⟩ := (sound_after (cs ++ cs')).perform_counted hid' hd'
      obtain ⟨hle, hsame⟩ := ih hd₁
      by_cases hc : c.Counts (after (cs ++ cs')) id
      · have hv := hcounts hc
        exact ⟨by omega, fun he => by omega⟩
      · obtain ⟨hs, hv⟩ := hother hc
        exact ⟨hv ▸ hle, fun he => hs.trans (hsame (hv ▸ he))⟩

/-- The version of a document rises by one with each edit of it that is carried out, and stays, as the text does,
with any other call. So it never falls, and the text that goes with a version is always the same. -/
theorem versions_tell_texts (cs cs' : List Call) (c : Call) (id : DocumentId) (d : Document)
    (hd : (after cs).document? id = some d) :
    (c.Counts (after cs) id → ∃ d', (after (cs ++ [c])).document? id = some d' ∧ d'.version = d.version + 1) ∧
    (¬ c.Counts (after cs) id → ∀ d', (after (cs ++ [c])).document? id = some d' →
      d'.version = d.version ∧ d'.story.text = d.story.text ∧ d'.story.length = d.story.length) ∧
    ∀ d', (after (cs ++ cs')).document? id = some d' →
      d.version ≤ d'.version ∧ (d'.version = d.version →
        d'.story.text = d.story.text ∧ d'.story.length = d.story.length) := by
  have hs := sound_after cs
  have hid := hs.document?_lt hd
  rw [after_append]
  refine ⟨fun hc => ?_, fun hc d' hd' => ?_, fun d' hd' => ?_⟩
  · obtain ⟨-, d', hd', -⟩ := perform_edit hs hc.1 hd
    obtain ⟨d₁, hd₁, hcounts, -⟩ := hs.perform_counted hid hd'
    obtain rfl := Option.some.inj (hd.symm.trans hd₁)
    exact ⟨d', hd', hcounts hc⟩
  · obtain ⟨d₁, hd₁, -, hother⟩ := hs.perform_counted hid hd'
    obtain rfl := Option.some.inj (hd.symm.trans hd₁)
    obtain ⟨hstory, hversion⟩ := hother hc
    exact ⟨hversion, by rw [hstory], by rw [hstory]⟩
  · obtain ⟨hle, hsame⟩ := version_after hd hd'
    exact ⟨hle, fun he => by rw [hsame he]; exact ⟨rfl, rfl⟩⟩

def countedRun : List Call :=
  [.openText "d" ['a', 'b'] '\n', .document "d" (.createRange true "r" 0 1), .handle "r" (.setText ['a'])]

def uncountedCalls : List Call :=
  [.handle "r" .text, .document "d" (.createRange true "q" 1 2), .handle "q" .select, .dropHandle "q",
    .handle "q" .deleteText]

theorem versions_tell_texts_countedRun :
    (∃ d', (after (countedRun ++ [.document "d" (.apply (.deleteRange 3 3))])).document? 0 = some d' ∧
      d'.version = 2) ∧
    ∃ d', (after (countedRun ++ uncountedCalls)).document? 0 = some d' ∧ d'.story.text = ['a', 'b'] := by
  obtain ⟨d, hd⟩ : ∃ d, (after countedRun).document? 0 = some d := ⟨_, rfl⟩
  have hrun : ((after countedRun).document? 0).map (fun d => (d.version, d.story.text)) =
      some (1, ['a', 'b']) := by decide +kernel
  simp only [hd, Option.map_some, Option.some.injEq, Prod.mk.injEq] at hrun
  obtain ⟨hversion, htext⟩ := hrun
  obtain ⟨hcounts, -, hsame⟩ :=
    versions_tell_texts countedRun uncountedCalls (.document "d" (.apply (.deleteRange 3 3))) 0 d hd
  constructor
  · obtain ⟨d', hd', hv⟩ := hcounts ⟨rfl, by decide +kernel, _, rfl⟩
    exact ⟨d', hd', by rw [hv, hversion]⟩
  · obtain ⟨d', hd'⟩ : ∃ d', (after (countedRun ++ uncountedCalls)).document? 0 = some d' := ⟨_, rfl⟩
    have hrun' : ((after (countedRun ++ uncountedCalls)).document? 0).map (·.version) = some 1 := by decide +kernel
    simp only [hd', Option.map_some, Option.some.injEq] at hrun'
    exact ⟨d', hd', ((hsame d' hd').2 (hrun'.trans hversion.symm)).1.trans htext⟩

end World

end TrackedText
