import BuildOperator.Condition.Basic
/-!
# Laws of recording

What a recorded finding does to a list of conditions: the first condition of its type shows the
finding, every other type is as before, and the types stay without repetition if they were so.
-/
namespace BuildOperator

/-- A condition shows a finding if nothing but its time could tell it from a fresh record of it. -/
structure Condition.Shows (c : Condition) (f : Finding) : Prop where
  status : c.status = f.status
  reason : c.reason = f.reason.name
  message : c.message = f.message
  generation : c.observedGeneration = f.generation

namespace Condition
variable {c : Condition} {f : Finding}

theorem shows_toCondition (f : Finding) (now : Timestamp) : (f.toCondition now).Shows f :=
  ⟨rfl, rfl, rfl, rfl⟩

theorem shows_revise (c : Condition) (f : Finding) (now : Timestamp) : (c.revise f now).Shows f :=
  ⟨rfl, rfl, rfl, rfl⟩

theorem Shows.revise_eq (h : c.Shows f) (now : Timestamp) : c.revise f now = c := by
  obtain ⟨hs, hr, hm, hg⟩ := h
  cases c
  simp_all [Condition.revise]

end Condition

namespace Conditions
variable {cs : Conditions} {c : Condition} {t : ConditionType}

@[simp] theorem find?_nil (t : ConditionType) : find? [] t = none := rfl

theorem find?_cons (c : Condition) (cs : Conditions) (t : ConditionType) :
    find? (c :: cs) t = if c.type = t.name then some c else find? cs t := by
  by_cases h : c.type = t.name <;> simp [find?, h]

theorem mem_of_find? (h : find? cs t = some c) : c ∈ cs := List.mem_of_find?_eq_some h

theorem record_cons (c : Condition) (cs : Conditions) (f : Finding) (now : Timestamp) :
    (record (c :: cs) f now).1 =
      if c.type = f.type.name then c.revise f now :: cs else c :: (record cs f now).1 := by
  by_cases h : c.type = f.type.name <;> simp [record, h]

/-- The first condition of a recorded type is the old one revised, or else a new one. -/
theorem find?_record_self (cs : Conditions) (f : Finding) (now : Timestamp) :
    find? (record cs f now).1 f.type =
      some (((find? cs f.type).map fun c => c.revise f now).getD (f.toCondition now)) := by
  induction cs with
  | nil => simp [record, find?_cons, Finding.toCondition]
  | cons c cs ih =>
    rw [record_cons]
    by_cases h : c.type = f.type.name
    · have hr : (c.revise f now).type = f.type.name := h
      simp [find?_cons, h, hr]
    · simp [find?_cons, h, ih]

theorem exists_shows_record (cs : Conditions) (f : Finding) (now : Timestamp) :
    ∃ c, find? (record cs f now).1 f.type = some c ∧ c.Shows f := by
  refine ⟨_, find?_record_self cs f now, ?_⟩
  cases find? cs f.type with
  | none => exact Condition.shows_toCondition f now
  | some c => exact Condition.shows_revise c f now

theorem find?_record_of_ne (cs : Conditions) {f : Finding} (now : Timestamp) (h : t ≠ f.type) :
    find? (record cs f now).1 t = find? cs t := by
  have hn : f.type.name ≠ t.name := fun he => h (ConditionType.name_injective he).symm
  induction cs with
  | nil => simp [record, find?_cons, Finding.toCondition, hn]
  | cons c cs ih =>
    rw [record_cons]
    by_cases hc : c.type = f.type.name
    · have hr : (c.revise f now).type = f.type.name := hc
      simp [find?_cons, hc, hr, hn]
    · simp [find?_cons, hc, ih]

theorem record_of_shows {f : Finding} (hc : find? cs f.type = some c) (h : c.Shows f)
    (now : Timestamp) : (record cs f now).1 = cs := by
  induction cs with
  | nil => simp at hc
  | cons d cs ih =>
    rw [find?_cons] at hc
    rw [record_cons]
    by_cases hd : d.type = f.type.name
    · have he : d = c := by simpa [hd] using hc
      rw [if_pos hd, he, h.revise_eq]
    · rw [if_neg hd, ih (by simpa [hd] using hc)]

/-- Conditions of other types stay, in their order, also those of types outside the vocabulary. -/
theorem filter_record (cs : Conditions) (f : Finding) (now : Timestamp) {p : String → Bool}
    (h : p f.type.name = false) :
    (record cs f now).1.filter (fun c => p c.type) = cs.filter fun c => p c.type := by
  induction cs with
  | nil => simp [record, Finding.toCondition, h]
  | cons c cs ih =>
    rw [record_cons]
    by_cases hc : c.type = f.type.name
    · have hr : (c.revise f now).type = f.type.name := hc
      simp [hc, hr, h]
    · simp only [if_neg hc, List.filter_cons, ih]

theorem eraseP_record (cs : Conditions) (f : Finding) (now : Timestamp) :
    (record cs f now).1.eraseP (fun c => c.type = f.type.name) =
      cs.eraseP fun c => c.type = f.type.name := by
  induction cs with
  | nil => simp [record, Finding.toCondition]
  | cons c cs ih =>
    rw [record_cons]
    by_cases hc : c.type = f.type.name
    · have hr : (c.revise f now).type = f.type.name := hc
      simp [hc, hr]
    · simp [hc, ih]

theorem types_record (cs : Conditions) (f : Finding) (now : Timestamp) :
    (record cs f now).1.map Condition.type =
      if f.type.name ∈ cs.map Condition.type then cs.map Condition.type
      else cs.map Condition.type ++ [f.type.name] := by
  induction cs with
  | nil => simp [record, Finding.toCondition]
  | cons c cs ih =>
    rw [record_cons]
    by_cases hc : c.type = f.type.name
    · have hr : (c.revise f now).type = f.type.name := hc
      simp [hc, hr]
    · have hn : f.type.name ≠ c.type := Ne.symm hc
      simp only [if_neg hc, List.map_cons, ih, List.mem_cons, hn, false_or]
      split <;> simp

theorem nodup_types_record (f : Finding) (now : Timestamp)
    (h : (cs.map Condition.type).Nodup) : ((record cs f now).1.map Condition.type).Nodup := by
  rw [types_record]
  split
  · exact h
  · next hn =>
    refine List.nodup_append.mpr ⟨h, by simp, ?_⟩
    intro a ha b hb he
    have hb' : b = f.type.name := by simpa using hb
    exact hn (hb' ▸ he ▸ ha)

theorem mem_record {f : Finding} {now : Timestamp} (h : c ∈ (record cs f now).1) :
    c ∈ cs ∨ c.observedGeneration = f.generation := by
  induction cs with
  | nil =>
    have hc : c = f.toCondition now := by simpa [record] using h
    exact Or.inr (hc ▸ rfl)
  | cons d cs ih =>
    rw [record_cons] at h
    split at h <;> rcases List.mem_cons.mp h with hd | hm
    · exact Or.inr (hd ▸ rfl)
    · exact Or.inl (List.mem_cons_of_mem _ hm)
    · exact Or.inl (hd ▸ List.mem_cons_self)
    · exact (ih hm).imp_left (List.mem_cons_of_mem _)

end Conditions
end BuildOperator
