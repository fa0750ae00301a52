import BuildOperator.Proofs.Ending
/-!
# Courses of attempts

A course is one way in which an attempt can go: its exchanges, and what fails in it. An attempt
whose endings are those of a family of courses is known completely, and a sequence of such attempts
is one too.
-/
namespace BuildOperator

/-- What fails stands in order, and the value is what comes of the attempt if nothing does. -/
structure Course (Q : Type) (A : Q → Type) (α : Type) where
  exchanges : List (Exchange Q A) := []
  failures : List Failure := []
  value : α

namespace Course
variable {Q : Type} {A : Q → Type} {α β : Type} {c : Course Q A α}

/-- The first failure counts. -/
def result (c : Course Q A α) : Except Failure α :=
  match c.failures with
  | [] => .ok c.value
  | f :: _ => .error f

/-- One course and then another, which makes no exchanges after a failure. -/
def andThen (c : Course Q A α) (d : Course Q A β) : Course Q A β where
  exchanges := c.exchanges ++ if c.failures = [] then d.exchanges else []
  failures := c.failures ++ d.failures
  value := d.value

theorem result_eq_ok_iff {v : α} : c.result = .ok v ↔ c.failures = [] ∧ c.value = v := by
  unfold result
  cases c.failures <;> simp

theorem result_eq_error_iff {f : Failure} : c.result = .error f ↔ c.failures.head? = some f := by
  unfold result
  cases c.failures <;> simp

theorem result_andThen_of_nil (h : c.failures = []) (d : Course Q A β) :
    (c.andThen d).result = d.result := by
  simp [andThen, result, h]

theorem result_andThen_of_head {f : Failure} (h : c.failures.head? = some f) (d : Course Q A β) :
    (c.andThen d).result = .error f := by
  rw [result_eq_error_iff]
  simp [andThen, h]

theorem exchanges_andThen_of_nil (h : c.failures = []) (d : Course Q A β) :
    (c.andThen d).exchanges = c.exchanges ++ d.exchanges := by
  simp [andThen, h]

theorem exchanges_andThen_of_head {f : Failure} (h : c.failures.head? = some f)
    (d : Course Q A β) : (c.andThen d).exchanges = c.exchanges := by
  have hne : c.failures ≠ [] := by
    intro he
    simp [he] at h
  simp [andThen, hne]

end Course

/-- The failure of a result, if it is one. -/
def failure? {β : Type} : Except Failure β → Option Failure
  | .error f => some f
  | .ok _ => none

theorem failure?_eq_none_iff {β : Type} {result : Except Failure β} :
    failure? result = none ↔ ∃ v, result = .ok v := by
  cases result <;> simp [failure?]

section
variable {Q : Type} {A : Q → Type} {β : Type}

/-- The result of a call that raced the token, by its reply; without one it was not made. -/
def raced (operation : String) (reply? : Option (Reply β)) : Except Failure β :=
  reply?.elim (.error (.cancelled operation)) (Reply.resultOf operation)

theorem raced_eq_ok_iff {operation : String} {reply? : Option (Reply β)} {v : β} :
    raced operation reply? = .ok v ↔ reply? = some (.settled (.ok v)) := by
  cases reply? with
  | none => simp [raced]
  | some reply => simp [raced, Reply.resultOf_eq_ok_iff]

/-- The exchange of that call, if it was made. -/
def exchanged (q : Q) (reply? : Option (Reply (A q))) : List (Exchange Q A) :=
  (reply?.map (Exchange.mk q)).toList

theorem Task.ends_race_ask_iff_raced {operation : String} {q : Q} {xs : List (Exchange Q A)}
    {r : Except Failure (A q)} : ((Task.ask q id).race operation).Ends xs r ↔
      ∃ reply?, xs = exchanged q reply? ∧ r = raced operation reply? := by
  rw [Task.ends_race_ask_iff, Option.exists]
  rfl

/-- The course of such a call. -/
def Course.race (operation : String) (q : Q) [Inhabited (A q)] (reply? : Option (Reply (A q))) :
    Course Q A (A q) where
  exchanges := exchanged q reply?
  failures := (failure? (raced operation reply?)).toList
  value := (raced operation reply?).toOption.getD default

end

/-- The attempt goes in each of these ways, and in no other. -/
def Attempt.Goes {Q : Type} {A : Q → Type} {α ι : Type} (a : Attempt Q A α)
    (courses : ι → Course Q A α) : Prop :=
  ∀ xs r, a.Ends xs r ↔ ∃ i, xs = (courses i).exchanges ∧ r = (courses i).result

namespace Attempt
variable {Q : Type} {A : Q → Type} {α β ι κ : Type} {a : Attempt Q A α} {c : ι → Course Q A α}

theorem goes_pure [Nonempty ι] (v : α) :
    Goes (pure v : Attempt Q A α) fun _ : ι => { value := v } := by
  intro xs r
  simp [ends_pure_iff, Course.result]

theorem goes_race_ask (operation : String) (q : Q) [Inhabited (A q)] :
    Goes ((Task.ask q id).race operation : Attempt Q A (A q)) (Course.race operation q) := by
  have hresult (reply? : Option (Reply (A q))) :
      (Course.race operation q reply?).result = raced operation reply? := by
    unfold Course.race Course.result
    cases raced operation reply? <;> rfl
  intro xs r
  simp only [Task.ends_race_ask_iff_raced, hresult]
  rfl

theorem Goes.rename (ha : a.Goes c) {e : κ → ι} (he : Function.Surjective e) :
    a.Goes (c ∘ e) := by
  intro xs r
  rw [ha]
  constructor
  · rintro ⟨i, h⟩
    obtain ⟨k, rfl⟩ := he i
    exact ⟨k, h⟩
  · rintro ⟨k, h⟩
    exact ⟨e k, h⟩

theorem Goes.bind [Nonempty κ] {f : α → Attempt Q A β} {d : ι → κ → Course Q A β} (ha : a.Goes c)
    (hf : ∀ i, (f (c i).value).Goes (d i)) :
    (a >>= f).Goes fun p : ι × κ => (c p.1).andThen (d p.1 p.2) := by
  intro xs r
  rw [ends_bind_iff]
  constructor
  · rintro (⟨e, he, rfl⟩ | ⟨ys, v, zs, hv, hz, rfl⟩)
    · obtain ⟨i, rfl, hr⟩ := (ha _ _).mp he
      have hhead := Course.result_eq_error_iff.mp hr.symm
      obtain ⟨k⟩ := ‹Nonempty κ›
      exact ⟨(i, k), (Course.exchanges_andThen_of_head hhead _).symm,
        (Course.result_andThen_of_head hhead _).symm⟩
    · obtain ⟨i, rfl, hr⟩ := (ha _ _).mp hv
      obtain ⟨hnil, rfl⟩ := Course.result_eq_ok_iff.mp hr.symm
      obtain ⟨k, rfl, rfl⟩ := (hf i _ _).mp hz
      exact ⟨(i, k), (Course.exchanges_andThen_of_nil hnil _).symm,
        (Course.result_andThen_of_nil hnil _).symm⟩
  · rintro ⟨⟨i, k⟩, rfl, rfl⟩
    cases hfs : (c i).failures.head? with
    | none =>
      have hnil : (c i).failures = [] := List.head?_eq_none_iff.mp hfs
      have hok : (c i).result = .ok (c i).value := Course.result_eq_ok_iff.mpr ⟨hnil, rfl⟩
      exact Or.inr ⟨_, _, _, (ha _ _).mpr ⟨i, rfl, hok.symm⟩,
        (hf i _ _).mpr ⟨k, rfl, Course.result_andThen_of_nil hnil _⟩,
        Course.exchanges_andThen_of_nil hnil _⟩
    | some g =>
      have herror : (c i).result = .error g := Course.result_eq_error_iff.mpr hfs
      refine Or.inl ⟨g, (ha _ _).mpr ⟨i, ?_, herror.symm⟩, Course.result_andThen_of_head hfs _⟩
      exact Course.exchanges_andThen_of_head hfs _

theorem Goes.now_bind {f : Timestamp → Attempt Q A β} {d : Timestamp → κ → Course Q A β}
    (hf : ∀ now, (f now).Goes (d now)) :
    (now >>= f).Goes fun p : Timestamp × κ => d p.1 p.2 := by
  intro xs r
  simp only [ends_bind_iff, ends_now_iff, Prod.exists]
  constructor
  · rintro (⟨_, ⟨_, _, he⟩, _⟩ | ⟨_, v, _, ⟨rfl, _⟩, hz, rfl⟩)
    · cases he
    · obtain ⟨k, hx, hr⟩ := (hf v _ _).mp hz
      exact ⟨v, k, hx, hr⟩
  · rintro ⟨now, k, rfl, rfl⟩
    exact Or.inr ⟨[], now, _, ⟨rfl, now, rfl⟩, (hf now _ _).mpr ⟨k, rfl, rfl⟩, rfl⟩

theorem Goes.bind_pure (ha : a.Goes c) (v : β) :
    (a >>= fun _ => pure v).Goes fun i =>
      { exchanges := (c i).exchanges, failures := (c i).failures, value := v } := by
  have hresult (i : ι) :
      (Course.mk (c i).exchanges (c i).failures v).result = (c i).result.map fun _ => v := by
    unfold Course.result
    cases (c i).failures <;> rfl
  intro xs r
  simp only [ends_bind_pure_iff, ha xs, hresult]
  constructor
  · rintro ⟨_, ⟨i, hx, rfl⟩, hr⟩
    exact ⟨i, hx, hr⟩
  · rintro ⟨i, hx, hr⟩
    exact ⟨_, ⟨i, hx, rfl⟩, hr⟩

end Attempt
end BuildOperator
