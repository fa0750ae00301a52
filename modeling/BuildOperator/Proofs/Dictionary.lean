import BuildOperator.Dictionary
import Mathlib.Data.List.Induction
import Mathlib.Data.List.Sort
/-!
# Laws of dictionaries

A dictionary is what its look-ups give: two that agree on every key are equal. Its own entries
describe it, so that a dictionary that is listed and made again from that list is the same.
-/
namespace BuildOperator.Dictionary
variable {β : Type} {d d' : Dictionary β} {key : String} {value : β}

theorem lookup_eq_some_iff_of_sorted {l : List (String × β)}
    (hs : l.Pairwise fun a b => a.1 < b.1) : l.lookup key = some value ↔ (key, value) ∈ l := by
  induction l with
  | nil => simp
  | cons e rest ih =>
    obtain ⟨hp, hrest⟩ := List.pairwise_cons.mp hs
    have htail := ih hrest
    obtain ⟨k, v⟩ := e
    by_cases hk : key = k
    · subst hk
      have hnot : (key, value) ∉ rest := fun hm => String.lt_irrefl key (hp _ hm)
      simp [hnot, eq_comm]
    · have hb : (key == k) = false := by simpa using hk
      rw [List.lookup_cons, hb, List.mem_cons]
      simp [htail, hk]

theorem get?_eq_some_iff : d.get? key = some value ↔ (key, value) ∈ d.entries :=
  lookup_eq_some_iff_of_sorted d.sorted

theorem ext_get? (h : ∀ key, d.get? key = d'.get? key) : d = d' := by
  have hentries : d.entries = d'.entries := by
    have : Std.Irrefl fun a b : String × β => a.1 < b.1 := ⟨fun a => String.lt_irrefl a.1⟩
    have : Std.Antisymm fun a b : String × β => a.1 < b.1 :=
      ⟨fun a b hab hba => absurd hba (String.lt_asymm hab)⟩
    refine List.Pairwise.eq_of_mem_iff d.sorted d'.sorted fun e => ?_
    rw [← get?_eq_some_iff, ← get?_eq_some_iff, h]
  cases d
  cases d'
  cases hentries
  rfl

theorem get?_filterKeys (d : Dictionary β) (p : String → Bool) (key : String) :
    (d.filterKeys p).get? key = if p key then d.get? key else none := by
  ext value
  rw [get?_eq_some_iff, filterKeys, List.mem_filter]
  cases hp : p key with
  | false => simp
  | true => simp [get?_eq_some_iff]

theorem get?_insert (d : Dictionary β) (key : String) (value : β) (other : String) :
    (d.insert key value).get? other = if other = key then some value else d.get? other := by
  have hlist (l : List (String × β)) : (insertEntry key value l).lookup other =
      if other = key then some value else l.lookup other := by
    induction l with
    | nil =>
      simp only [insertEntry, List.lookup_cons]
      grind
    | cons e rest ih =>
      unfold insertEntry
      split
      · grind
      · split <;> grind
  exact hlist d.entries

theorem keepLast_of_sorted {l : List (String × β)} (h : l.Pairwise fun a b => a.1 < b.1) :
    keepLast l = l := by
  fun_induction keepLast l with
  | case1 => rfl
  | case2 => rfl
  | case3 e f rest he _ =>
    have hlt : e.1 < f.1 := (List.pairwise_cons.mp h).1 f List.mem_cons_self
    exact absurd (he ▸ hlt) (String.lt_irrefl f.1)
  | case4 e f rest _ ih => rw [ih (List.pairwise_cons.mp h).2]

theorem ofList_of_sorted {l : List (String × β)} (h : l.Pairwise fun a b => a.1 < b.1) :
    ofList l = ⟨l, h⟩ := by
  have hsort : l.mergeSort inOrder = l :=
    List.mergeSort_of_pairwise
      (h.imp fun hlt => decide_eq_true (String.not_lt.mp (String.lt_asymm hlt)))
  simp only [ofList, hsort, keepLast_of_sorted h]

theorem get?_ofList_of_nodup {l : List (String × β)} (h : (l.map Prod.fst).Nodup) :
    (ofList l).get? key = some value ↔ (key, value) ∈ l := by
  have hperm : (l.mergeSort inOrder).Perm l := List.mergeSort_perm l inOrder
  have hne : (l.mergeSort inOrder).Pairwise fun a b => a.1 ≠ b.1 :=
    List.pairwise_map.mp ((hperm.map Prod.fst).nodup_iff.mpr h)
  have hsorted : (l.mergeSort inOrder).Pairwise fun a b => a.1 < b.1 := by
    refine ((mergeSort_sorted l).and hne).imp fun hle => ?_
    exact String.not_le.mp fun hge => hle.2 (String.le_antisymm hle.1 hge)
  rw [get?_eq_some_iff]
  simp only [ofList, keepLast_of_sorted hsorted]
  exact hperm.mem_iff

theorem mem_entries_ofList {l : List (String × β)} (h : (l.map Prod.fst).Nodup)
    (e : String × β) : e ∈ (ofList l).entries ↔ e ∈ l := by
  rw [← get?_ofList_of_nodup h, get?_eq_some_iff]

/-- Entries may be changed and left out before or after they are put in order, as long as they keep
their keys. -/
theorem entries_ofList_filterMap {γ : Type} {f : String × β → Option (String × γ)}
    (hf : ∀ e, ∀ e' ∈ f e, e'.1 = e.1) {l : List (String × β)} (h : (l.map Prod.fst).Nodup) :
    (ofList (l.filterMap f)).entries = (ofList l).entries.filterMap f := by
  have hnodup : ((l.filterMap f).map Prod.fst).Nodup := by
    refine List.pairwise_map.mpr (List.Pairwise.filterMap f ?_ (List.pairwise_map.mp h))
    intro a b hne a' ha b' hb
    rw [hf a a' ha, hf b b' hb]
    exact hne
  have hsorted : ((ofList l).entries.filterMap f).Pairwise fun a b => a.1 < b.1 := by
    refine List.Pairwise.filterMap f ?_ (ofList l).sorted
    intro a b hlt a' ha b' hb
    rw [hf a a' ha, hf b b' hb]
    exact hlt
  have heq : ofList (l.filterMap f) = ⟨_, hsorted⟩ := by
    refine ext_get? fun key => ?_
    ext value
    rw [get?_eq_some_iff, get?_eq_some_iff, mem_entries_ofList hnodup]
    simp only [List.mem_filterMap, mem_entries_ofList h]
  rw [heq]

@[simp] theorem ofList_entries (d : Dictionary β) : ofList d.entries = d :=
  ofList_of_sorted d.sorted

/-- The value of the last entry with a key. -/
def lastOf? (l : List (String × β)) (key : String) : Option β :=
  (l.filter fun e => e.1 = key).getLast?.map Prod.snd

@[simp] theorem lastOf?_nil (key : String) : lastOf? ([] : List (String × β)) key = none := rfl

theorem lastOf?_append (l l' : List (String × β)) (key : String) :
    lastOf? (l ++ l') key = (lastOf? l' key).or (lastOf? l key) := by
  simp [lastOf?, List.getLast?_append, Option.map_or]

theorem lastOf?_singleton (e : String × β) (key : String) :
    lastOf? [e] key = if e.1 = key then some e.2 else none := by
  by_cases h : e.1 = key <;> simp [lastOf?, h]

theorem lastOf?_cons (e : String × β) (l : List (String × β)) (key : String) :
    lastOf? (e :: l) key = (lastOf? l key).or (if e.1 = key then some e.2 else none) := by
  rw [← lastOf?_singleton]
  exact lastOf?_append [e] l key

theorem lastOf?_eq_none {l : List (String × β)} (h : ∀ e ∈ l, e.1 ≠ key) :
    lastOf? l key = none := by
  have hl : l.filter (fun e => e.1 = key) = [] := List.filter_eq_nil_iff.mpr (by simpa using h)
  rw [lastOf?, hl]
  rfl

theorem lastOf?_map {γ : Type} (f : β → γ) (l : List (String × β)) (key : String) :
    lastOf? (l.map fun e => (e.1, f e.2)) key = (lastOf? l key).map f := by
  simp [lastOf?, List.filter_map, Function.comp_def]

theorem lookup_keepLast {l : List (String × β)} (h : l.Pairwise fun a b => a.1 ≤ b.1)
    (key : String) : (keepLast l).lookup key = lastOf? l key := by
  fun_induction keepLast l with
  | case1 => rfl
  | case2 e =>
    rw [lastOf?_singleton, List.lookup_cons]
    by_cases hk : key = e.1
    · simp [hk]
    · have hb : (key == e.1) = false := by simpa using hk
      simp [hb, Ne.symm hk]
  | case3 e f rest he ih =>
    rw [ih (List.pairwise_cons.mp h).2, lastOf?_cons e, lastOf?_cons f, he]
    by_cases hk : f.1 = key
    · simp [hk]
    · simp [hk]
  | case4 e f rest hne ih =>
    obtain ⟨hfirst, hrest⟩ := List.pairwise_cons.mp h
    rw [List.lookup_cons, lastOf?_cons]
    by_cases hk : key = e.1
    · -- All that follow are after `f`, which is after `e`.
      have hnone : lastOf? (f :: rest) e.1 = none := by
        refine lastOf?_eq_none fun x hx he => ?_
        have hfx : f.1 ≤ x.1 := by
          rcases List.mem_cons.mp hx with rfl | hx
          · exact String.le_refl _
          · exact (List.pairwise_cons.mp hrest).1 x hx
        exact hne (String.le_antisymm (hfirst f List.mem_cons_self) (he ▸ hfx))
      simp [hk, hnone]
    · have hb : (key == e.1) = false := by simpa using hk
      simp [hb, Ne.symm hk, ih hrest]

theorem filter_mergeSort (l : List (String × β)) (key : String) :
    (l.mergeSort inOrder).filter (fun e => e.1 = key) = l.filter fun e => e.1 = key := by
  have hequal : (l.filter fun e => e.1 = key).Pairwise fun a b => inOrder a b := by
    refine List.pairwise_of_forall_mem_list fun a ha b hb => ?_
    have hab : a.1 = b.1 := by
      rw [of_decide_eq_true (List.mem_filter.mp ha).2, of_decide_eq_true (List.mem_filter.mp hb).2]
    exact decide_eq_true (hab ▸ String.le_refl _)
  have hsub : (l.filter fun e => e.1 = key).Sublist (l.mergeSort inOrder) := by
    refine List.sublist_mergeSort (fun a b c hab hbc => ?_) (fun a b => ?_) hequal
      List.filter_sublist
    · exact decide_eq_true (String.le_trans (of_decide_eq_true hab) (of_decide_eq_true hbc))
    · simpa [inOrder] using String.le_total a.1 b.1
  have hfilter := hsub.filter fun e => e.1 = key
  simp only [List.filter_filter, Bool.and_self] at hfilter
  exact (hfilter.eq_of_length ((List.mergeSort_perm l inOrder).filter _).length_eq.symm).symm

/-- Of entries with one key the last counts. -/
theorem get?_ofList (l : List (String × β)) (key : String) :
    (ofList l).get? key = lastOf? l key := by
  have hkeep := lookup_keepLast (mergeSort_sorted l) key
  rw [lastOf?, filter_mergeSort] at hkeep
  exact hkeep

theorem foldl_insert (l : List (String × β)) :
    l.foldl (fun d e => d.insert e.1 e.2) empty = ofList l := by
  refine ext_get? fun key => ?_
  rw [get?_ofList]
  induction l using List.reverseRecOn with
  | nil => rfl
  | append_singleton l e ih =>
    rw [List.foldl_append, List.foldl_cons, List.foldl_nil, get?_insert, ih, lastOf?_append,
      lastOf?_singleton]
    by_cases hk : key = e.1
    · simp [hk]
    · simp [hk, Ne.symm hk]

theorem ofList_map {γ : Type} (f : β → γ) (l : List (String × β)) :
    ofList (l.map fun e => (e.1, f e.2)) =
      ofList ((ofList l).entries.map fun e => (e.1, f e.2)) := by
  refine ext_get? fun key => ?_
  rw [get?_ofList, get?_ofList, lastOf?_map, lastOf?_map, ← get?_ofList, ← get?_ofList,
    ofList_entries]

end BuildOperator.Dictionary
