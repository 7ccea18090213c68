namespace TrackedText

/-- Values under names, each name at most once. -/
abbrev Named (α : Type) := List (String × α)

namespace Named

variable {α : Type} (xs : Named α)

def get? (name : String) : Option α := xs.lookup name

def erase (name : String) : Named α := xs.filter (·.1 ≠ name)

def put (name : String) (a : α) : Named α := (name, a) :: erase xs name

variable {xs} {name : String} {a : α} {p : String × α}

theorem mem_of_get? (h : xs.get? name = some a) : (name, a) ∈ xs := by
  obtain ⟨before, after, rfl, -⟩ := List.lookup_eq_some_iff.1 h
  simp

theorem mem_erase : p ∈ xs.erase name ↔ p ∈ xs ∧ p.1 ≠ name := by simp [erase]

theorem mem_put : p ∈ xs.put name a ↔ p = (name, a) ∨ p ∈ xs ∧ p.1 ≠ name := by
  rw [put, List.mem_cons, mem_erase]

def Distinct (xs : Named α) : Prop := (xs.map (·.1)).Nodup

theorem distinct_nil : Distinct ([] : Named α) := List.nodup_nil

theorem Distinct.erase (h : xs.Distinct) (name : String) : (xs.erase name).Distinct :=
  (List.filter_sublist.map _).nodup h

theorem Distinct.put (h : xs.Distinct) (name : String) (a : α) : (xs.put name a).Distinct := by
  refine List.nodup_cons.2 ⟨fun hm => ?_, h.erase name⟩
  obtain ⟨p, hp, he⟩ := List.mem_map.1 hm
  exact (mem_erase.1 hp).2 he

theorem Distinct.get?_of_mem (h : xs.Distinct) (hm : (name, a) ∈ xs) : xs.get? name = some a := by
  induction xs with
  | nil => cases hm
  | cons q xs ih =>
      obtain ⟨hq, hn⟩ := List.nodup_cons.1 h
      rcases List.mem_cons.1 hm with rfl | hm
      · simp [get?]
      · have hne : name ≠ q.1 := fun he => hq (List.mem_map.2 ⟨_, hm, he⟩)
        rw [get?, List.lookup_cons, beq_eq_false_iff_ne.2 hne]
        exact ih hn hm

end Named

end TrackedText
