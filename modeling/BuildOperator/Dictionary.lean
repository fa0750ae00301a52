/-!
# Dictionaries

A finite map from strings, kept as its entries in strictly increasing key order. Two dictionaries
with the same contents are therefore equal, and every listing of a dictionary is in key order.
-/
namespace BuildOperator

/-- A finite map from strings to `β`. -/
structure Dictionary (β : Type) where
  entries : List (String × β)
  sorted : entries.Pairwise fun a b => a.1 < b.1
  deriving DecidableEq

namespace Dictionary
variable {β γ : Type}

def empty : Dictionary β := ⟨[], .nil⟩

instance : Inhabited (Dictionary β) := ⟨empty⟩

instance : EmptyCollection (Dictionary β) := ⟨empty⟩

def get? (d : Dictionary β) (key : String) : Option β := d.entries.lookup key

/-- Put `(key, value)` into a list of entries, in the place of an entry with that key if there is
one. -/
def insertEntry (key : String) (value : β) : List (String × β) → List (String × β)
  | [] => [(key, value)]
  | e :: rest =>
    if key < e.1 then (key, value) :: e :: rest
    else if key = e.1 then (key, value) :: rest
    else e :: insertEntry key value rest

theorem mem_insertEntry {key : String} {value : β} {l : List (String × β)} {x : String × β}
    (h : x ∈ insertEntry key value l) : x = (key, value) ∨ x ∈ l := by
  induction l with
  | nil => simpa [insertEntry] using h
  | cons e rest ih =>
    unfold insertEntry at h
    split at h
    · simpa using h
    split at h
    · rcases List.mem_cons.mp h with h | h
      · exact .inl h
      · exact .inr (List.mem_cons_of_mem _ h)
    · rcases List.mem_cons.mp h with h | h
      · exact .inr (h ▸ List.mem_cons_self)
      · exact (ih h).imp id (List.mem_cons_of_mem _)

theorem insertEntry_sorted (key : String) (value : β) {l : List (String × β)}
    (hs : l.Pairwise fun a b => a.1 < b.1) :
    (insertEntry key value l).Pairwise fun a b => a.1 < b.1 := by
  induction l with
  | nil => simp [insertEntry]
  | cons e rest ih =>
    have hp := List.pairwise_cons.mp hs
    unfold insertEntry
    split
    next hlt =>
      refine List.pairwise_cons.mpr ⟨fun x hx => ?_, hs⟩
      rcases List.mem_cons.mp hx with rfl | hx
      · exact hlt
      · exact String.lt_trans hlt (hp.1 x hx)
    next hlt =>
      split
      next heq => exact List.pairwise_cons.mpr ⟨fun x hx => heq ▸ hp.1 x hx, hp.2⟩
      next hne =>
        refine List.pairwise_cons.mpr ⟨fun x hx => ?_, ih hp.2⟩
        rcases mem_insertEntry hx with rfl | hx
        · exact Decidable.byContradiction fun h =>
            hne (String.le_antisymm (String.not_lt.mp h) (String.not_lt.mp hlt))
        · exact hp.1 x hx

/-- The value of `key` becomes `value`. -/
def insert (d : Dictionary β) (key : String) (value : β) : Dictionary β :=
  ⟨insertEntry key value d.entries, insertEntry_sorted key value d.sorted⟩

/-- Of neighbours with the same key only the last stays. -/
def keepLast : List (String × β) → List (String × β)
  | [] => []
  | [e] => [e]
  | e :: f :: rest => if e.1 = f.1 then keepLast (f :: rest) else e :: keepLast (f :: rest)

theorem keepLast_sublist (l : List (String × β)) : (keepLast l).Sublist l := by
  fun_induction keepLast l with
  | case1 => exact .slnil
  | case2 => exact List.Sublist.refl _
  | case3 e f rest _ ih => exact ih.cons _
  | case4 e f rest _ ih => exact ih.cons_cons _

theorem keepLast_sorted {l : List (String × β)} (hs : l.Pairwise fun a b => a.1 ≤ b.1) :
    (keepLast l).Pairwise fun a b => a.1 < b.1 := by
  fun_induction keepLast l with
  | case1 => exact .nil
  | case2 => simp
  | case3 e f rest _ ih => exact ih (List.pairwise_cons.mp hs).2
  | case4 e f rest hne ih =>
    have hp := List.pairwise_cons.mp hs
    refine List.pairwise_cons.mpr ⟨fun x hx => ?_, ih hp.2⟩
    have hef : e.1 < f.1 := Decidable.byContradiction fun h =>
      hne (String.le_antisymm (hp.1 f List.mem_cons_self) (String.not_lt.mp h))
    rcases List.mem_cons.mp ((keepLast_sublist _).subset hx) with rfl | hx
    · exact hef
    · refine Decidable.byContradiction fun h => ?_
      have hfx := (List.pairwise_cons.mp hp.2).1 x hx
      exact hne (String.le_antisymm (hp.1 f List.mem_cons_self)
        (String.le_trans hfx (String.not_lt.mp h)))

/-- Whether an entry may stand before another in key order. -/
def inOrder (a b : String × β) : Bool := decide (a.1 ≤ b.1)

theorem mergeSort_sorted (l : List (String × β)) :
    (l.mergeSort inOrder).Pairwise fun a b => a.1 ≤ b.1 := by
  have h : (l.mergeSort inOrder).Pairwise fun a b => inOrder a b := by
    refine List.pairwise_mergeSort (fun a b c hab hbc => ?_) (fun a b => ?_) l
    · exact decide_eq_true (String.le_trans (of_decide_eq_true hab) (of_decide_eq_true hbc))
    · simpa [inOrder] using String.le_total a.1 b.1
  exact h.imp of_decide_eq_true

/-- The dictionary that a list of entries describes: of entries with one key the last counts. -/
def ofList (l : List (String × β)) : Dictionary β :=
  ⟨keepLast (l.mergeSort inOrder), keepLast_sorted (mergeSort_sorted l)⟩

/-- The entries whose key passes `p`. -/
def filterKeys (d : Dictionary β) (p : String → Bool) : Dictionary β :=
  ⟨d.entries.filter fun e => p e.1, d.sorted.filter _⟩

/-- Apply `f` to the values in key order; the first failure is the result. -/
def traverse {ε : Type} (f : β → Except ε γ) (d : Dictionary β) : Except ε (Dictionary γ) := do
  let entries ← d.entries.mapM fun e => do return (e.1, ← f e.2)
  return ofList entries

end Dictionary
end BuildOperator
