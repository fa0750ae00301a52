import BuildOperator.Json.Reader
import BuildOperator.Proofs.Dictionary
import BuildOperator.Proofs.JsonForm
import BuildOperator.Proofs.MergePatch
/-!
# Values of JSON texts

The form of a value stands for that value, and so its text is read as what was written. A reader
that asks for parts of a value gets them as they are.
-/
namespace BuildOperator.Json

theorem charsOfLetters?_map_letterOf (cs done : List Char) :
    charsOfLetters? (cs.map letterOf) done = some (done.reverse ++ cs) := by
  induction cs generalizing done with
  | nil => simp [charsOfLetters?]
  | cons c cs ih =>
    have hc := ih (c :: done)
    rw [List.reverse_cons, List.append_assoc, List.singleton_append] at hc
    rw [List.map_cons, ← hc]
    by_cases hl : letterOf c = .char c
    · rw [hl, charsOfLetters?]
    · have hcode : letterOf c = .code c.toNat ∧ c.toNat < 0x20 := by
        unfold letterOf at hl ⊢
        split at hl
        · next h => exact ⟨if_pos h, h.1⟩
        · contradiction
      -- A control character is no part of a surrogate pair, whatever comes after it.
      have hhigh : isHighSurrogate c.toNat = false := by
        simp [isHighSurrogate]
        omega
      have hlow : isLowSurrogate c.toNat = false := by
        simp [isLowSurrogate]
        omega
      rw [hcode.1]
      cases cs.map letterOf with
      | nil => simp [charsOfLetters?, hhigh, hlow]
      | cons l ls =>
        cases l with
        | char d => simp [charsOfLetters?, hhigh, hlow]
        | code u => rw [charsOfLetters?]; simp [hhigh, hlow]

theorem textOfLetters?_letters (s : String) : textOfLetters? (letters s) = some s := by
  simp [textOfLetters?, letters, charsOfLetters?_map_letterOf]

theorem natOfDigits_toDigits (n : Nat) : natOfDigits (Nat.toDigits 10 n) = n := by
  change Nat.ofDigitChars 10 (Nat.toDigits 10 n) 0 = n
  simp

theorem value?_numeral {n : Int} (hlow : -9223372036854775808 ≤ n)
    (hhigh : n < 18446744073709551616) : (numeral n).value? = some (.integer n) := by
  have hsize : UInt64.size = 18446744073709551616 := rfl
  have hinteger : (numeral n).integer? = some n := by
    unfold Numeral.integer?
    simp only [numeral, Numeral.isPlain, natOfDigits_toDigits, hsize]
    simp only [Option.isNone_none, Bool.and_self, Bool.not_true, Bool.false_eq_true, if_false,
      decide_eq_true_eq]
    by_cases hn : n < 0
    · have hrange : 0 < n.natAbs ∧ n.natAbs ≤ 18446744073709551616 / 2 := by omega
      have hvalue : -(n.natAbs : Int) = n := by omega
      rw [if_pos hn, if_pos hrange, hvalue]
    · have hrange : n.natAbs < 18446744073709551616 := by omega
      have hvalue : (n.natAbs : Int) = n := by omega
      rw [if_neg hn, if_pos hrange, hvalue]
  simp only [Numeral.value?, hinteger]

section
variable {order : String → String → Prop} {depth : Nat} {x : Json}

theorem itemValues?_formItems {items : List Json}
    (h : ∀ x ∈ items, x.form.value? depth = some x) :
    Form.itemValues? depth (formItems items) = some items := by
  induction items with
  | nil => rfl
  | cons x xs ih =>
    have hx := h x List.mem_cons_self
    have hxs := ih fun y hy => h y (List.mem_cons_of_mem _ hy)
    simp [formItems, Form.itemValues?, hx, hxs]

theorem memberValues?_formMembers {members : List (String × Json)}
    (h : ∀ m ∈ members, m.2.form.value? depth = some m.2) :
    Form.memberValues? depth (formMembers members) = some members := by
  induction members with
  | nil => rfl
  | cons m ms ih =>
    have hm := h m List.mem_cons_self
    have hms := ih fun y hy => h y (List.mem_cons_of_mem _ hy)
    simp [formMembers, Form.memberValues?, textOfLetters?_letters, hm, hms]

theorem Shaped.value?_form (h : Shaped order depth x) : x.form.value? depth = some x := by
  induction h with
  | null => simp [form, Form.value?]
  | bool b => simp [form, Form.value?]
  | integer hlow hhigh => simp [form, Form.value?, ofInt, value?_numeral hlow hhigh]
  | decimal hn hv => simp [form_decimal hn, Form.value?, hv]
  | string s => simp [form, Form.value?, textOfLetters?_letters]
  | array _ ih => simp [form, Form.value?, itemValues?_formItems ih]
  | object _ _ ih => simp [form, Form.value?, memberValues?_formMembers ih]

theorem Shaped.mono {deeper : Nat} (h : Shaped order depth x) (hd : depth ≤ deeper) :
    Shaped order deeper x := by
  induction h generalizing deeper with
  | null => exact .null
  | bool b => exact .bool b
  | integer hlow hhigh => exact .integer hlow hhigh
  | decimal hn hv => exact .decimal hn hv
  | string s => exact .string s
  | array _ ih =>
    obtain ⟨n, rfl⟩ : ∃ n, deeper = n + 1 := ⟨deeper - 1, by omega⟩
    exact .array fun x hx => ih x hx (by omega)
  | object hk _ ih =>
    obtain ⟨n, rfl⟩ : ∃ n, deeper = n + 1 := ⟨deeper - 1, by omega⟩
    exact .object hk fun m hm => ih m hm (by omega)

theorem Ordered.plain (h : Ordered depth x) : Plain depth x := by
  induction h with
  | null => exact .null
  | bool b => exact .bool b
  | integer hlow hhigh => exact .integer hlow hhigh
  | decimal hn hv => exact .decimal hn hv
  | string s => exact .string s
  | array _ ih => exact .array ih
  | object hk _ ih =>
    refine .object (hk.imp ?_) ih
    intro a b hlt he
    exact String.lt_irrefl b.1 (he ▸ hlt)

theorem canonicalItems_eq_map (items : List Json) : canonicalItems items = items.map canonical := by
  induction items with
  | nil => rfl
  | cons x xs ih => rw [canonicalItems, ih, List.map_cons]

theorem canonicalMembers_eq_map (members : List (String × Json)) :
    canonicalMembers members = members.map fun m => (m.1, m.2.canonical) := by
  induction members with
  | nil => rfl
  | cons m ms ih => rw [canonicalMembers, ih, List.map_cons]

theorem Ordered.canonical_eq (h : Ordered depth x) : x.canonical = x := by
  induction h with
  | null | bool | string => rfl
  | integer | decimal => rfl
  | @array _ items _ ih =>
    have hitems : items.map canonical = items :=
      (List.map_congr_left ih).trans (List.map_id' items)
    rw [canonical, canonicalItems_eq_map, hitems]
  | @object _ members hk _ ih =>
    have hmembers : (members.map fun m => (m.1, m.2.canonical)) = members := by
      refine (List.map_congr_left ?_).trans (List.map_id' members)
      intro m hm
      rw [ih m hm]
    rw [canonical, canonicalMembers_eq_map, hmembers, Dictionary.ofList_of_sorted hk]

end

mutual
/-- The part of a value that an outline asks for. -/
def part : Outline → Json → Json
  | .items each, .array items => .array (partItems each items)
  | .record _ known, .object members => .object (partMembers known members)
  | .record _ known, .array items => .array (partFields (known.map Prod.snd) items)
  | _, x => x

def partItems (each : Outline) : List Json → List Json
  | [] => []
  | x :: xs => part each x :: partItems each xs

def partMembers (known : List (String × Outline)) : List (String × Json) → List (String × Json)
  | [] => []
  | (name, x) :: xs =>
    match known.lookup name with
    | some outline => (name, part outline x) :: partMembers known xs
    | none => partMembers known xs

def partFields : List Outline → List Json → List Json
  | _, [] => []
  | outlines, x :: xs => part (outlines.head?.getD .whole) x :: partFields outlines.tail xs
end

@[simp] theorem part_whole (x : Json) : part .whole x = x := by
  cases x <;> rfl

section
variable {depth : Nat} {x : Json} {items : List Json} {members : List (String × Json)}
  {known : List (String × Outline)}

theorem partItems_eq_map (each : Outline) (items : List Json) :
    partItems each items = items.map (part each) := by
  induction items with
  | nil => rfl
  | cons x xs ih => rw [partItems, ih, List.map_cons]

/-- The part of a member, if the outline knows it. -/
def partMember? (known : List (String × Outline)) (m : String × Json) : Option (String × Json) :=
  (known.lookup m.1).map fun outline => (m.1, part outline m.2)

theorem partMembers_eq_filterMap (known : List (String × Outline))
    (members : List (String × Json)) :
    partMembers known members = members.filterMap (partMember? known) := by
  induction members with
  | nil => rfl
  | cons m ms ih =>
    rw [partMembers, List.filterMap_cons, partMember?, ih]
    cases known.lookup m.1 <;> rfl

theorem fst_of_mem_partMember? {m m' : String × Json} (h : m' ∈ partMember? known m) :
    m'.1 = m.1 := by
  obtain ⟨outline, -, rfl⟩ := Option.map_eq_some_iff.mp h
  rfl

theorem lookup_partMembers (known : List (String × Outline)) (members : List (String × Json))
    (name : String) : (partMembers known members).lookup name =
      (members.lookup name).bind fun x => (known.lookup name).map fun each => part each x := by
  induction members with
  | nil => rfl
  | cons m ms ih =>
    by_cases hm : name = m.1
    · subst hm
      rw [partMembers, List.lookup_cons]
      cases hk : known.lookup m.1 with
      | none => simp [ih, hk]
      | some outline => simp
    · have hb : (name == m.1) = false := by simpa using hm
      rw [partMembers, List.lookup_cons, hb]
      cases known.lookup m.1 with
      | none => exact ih
      | some outline => rw [← ih, List.lookup_cons, hb]

theorem itemExcerpts?_formItems {each : Outline}
    (h : ∀ x ∈ items, x.form.excerpt? each = some (part each x)) :
    Form.itemExcerpts? each (formItems items) = some (partItems each items) := by
  induction items with
  | nil => rfl
  | cons x xs ih =>
    have hx := h x List.mem_cons_self
    have hxs := ih fun y hy => h y (List.mem_cons_of_mem _ hy)
    simp [formItems, Form.itemExcerpts?, partItems, hx, hxs]

theorem fieldExcerpts?_formItems (outlines : List Outline)
    (h : ∀ x ∈ items, ∀ outline, x.form.excerpt? outline = some (part outline x)) :
    Form.fieldExcerpts? outlines (formItems items) = some (partFields outlines items) := by
  induction items generalizing outlines with
  | nil => rfl
  | cons x xs ih =>
    have hx := h x List.mem_cons_self (outlines.head?.getD .whole)
    have hxs := ih outlines.tail fun y hy => h y (List.mem_cons_of_mem _ hy)
    simp [formItems, Form.fieldExcerpts?, partFields, hx, hxs]

theorem memberExcerpts?_formMembers
    (h : ∀ m ∈ members, ∀ outline, m.2.form.excerpt? outline = some (part outline m.2)) :
    Form.memberExcerpts? known (formMembers members) = some (partMembers known members) := by
  induction members with
  | nil => rfl
  | cons m ms ih =>
    have hm := h m List.mem_cons_self
    have hms := ih fun y hy => h y (List.mem_cons_of_mem _ hy)
    simp only [formMembers, Form.memberExcerpts?, partMembers, textOfLetters?_letters, hms,
      Option.bind_eq_bind, Option.bind_some]
    cases known.lookup m.1 with
    | none => rfl
    | some outline => simp [hm]

/-- A reader of a text gets the part it asks for. -/
theorem Plain.excerpt?_form (h : Plain depth x) (hd : depth ≤ maxDepth) (outline : Outline) :
    x.form.excerpt? outline = some (part outline x) := by
  have hvalue := (h.mono hd).value?_form
  induction h generalizing outline with
  | null | bool | string => cases outline <;> exact hvalue
  | integer => cases outline <;> exact hvalue
  | decimal hn _ =>
    rw [form_decimal hn] at hvalue ⊢
    cases outline <;> exact hvalue
  | array hitems ih =>
    have hparts := fun x hx outline =>
      ih x hx (by omega) outline ((hitems x hx).mono (by omega)).value?_form
    cases outline with
    | whole => exact hvalue
    | items each =>
      have heach := itemExcerpts?_formItems fun x hx => hparts x hx each
      simp [form, Form.excerpt?, part, heach]
    | record unique known => simp [form, Form.excerpt?, part, fieldExcerpts?_formItems _ hparts]
  | @object _ members hk hmembers ih =>
    have hparts := fun m hm outline =>
      ih m hm (by omega) outline ((hmembers m hm).mono (by omega)).value?_form
    cases outline with
    | whole => exact hvalue
    | items each => exact hvalue
    | record unique known =>
      have hnodup : ((partMembers known members).map Prod.fst).Nodup := by
        rw [partMembers_eq_filterMap]
        refine List.pairwise_map.mpr (List.Pairwise.filterMap _ ?_ hk)
        intro a b hne a' ha b' hb
        rw [fst_of_mem_partMember? ha, fst_of_mem_partMember? hb]
        exact hne
      simp [form, Form.excerpt?, part, memberExcerpts?_formMembers hparts, hnodup]

theorem canonicalItems_partFields (outlines : List Outline)
    (h : ∀ x ∈ items, ∀ outline, (part outline x).canonical = part outline x.canonical) :
    canonicalItems (partFields outlines items) = partFields outlines (canonicalItems items) := by
  induction items generalizing outlines with
  | nil => rfl
  | cons x xs ih =>
    have hx := h x List.mem_cons_self (outlines.head?.getD .whole)
    have hxs := ih outlines.tail fun y hy => h y (List.mem_cons_of_mem _ hy)
    rw [partFields, canonicalItems, canonicalItems, partFields, hx, hxs]

theorem canonicalMembers_partMembers
    (h : ∀ m ∈ members, ∀ outline, (part outline m.2).canonical = part outline m.2.canonical) :
    canonicalMembers (partMembers known members) =
      partMembers known (canonicalMembers members) := by
  induction members with
  | nil => rfl
  | cons m ms ih =>
    have hm := h m List.mem_cons_self
    have hms := ih fun y hy => h y (List.mem_cons_of_mem _ hy)
    rw [partMembers, canonicalMembers, partMembers]
    cases known.lookup m.1 with
    | none => exact hms
    | some outline => rw [canonicalMembers, hm, hms]

theorem Plain.canonical_part (h : Plain depth x) (outline : Outline) :
    (part outline x).canonical = part outline x.canonical := by
  induction h generalizing outline with
  | null | bool | string => cases outline <;> rfl
  | integer | decimal => cases outline <;> rfl
  | @array _ items _ ih =>
    cases outline with
    | whole => rfl
    | items each =>
      have hitems : (items.map (part each)).map canonical =
          (items.map canonical).map (part each) := by
        simp only [List.map_map]
        exact List.map_congr_left fun x hx => ih x hx each
      simp only [part, canonical, partItems_eq_map, canonicalItems_eq_map, hitems]
    | record unique known =>
      simp only [part, canonical, canonicalItems_partFields _ ih]
  | @object _ members hk _ ih =>
    cases outline with
    | whole => rfl
    | items each => rfl
    | record unique known =>
      have hnames : ((canonicalMembers members).map Prod.fst).Nodup := by
        rw [canonicalMembers_eq_map, List.map_map]
        exact List.pairwise_map.mpr hk
      have hentries := Dictionary.entries_ofList_filterMap (f := partMember? known)
        (fun _ _ => fst_of_mem_partMember?) hnames
      simp only [part, canonical, canonicalMembers_partMembers ih]
      rw [partMembers_eq_filterMap, partMembers_eq_filterMap, hentries]

theorem lookup_wholes {names : List String} {name : String} (h : name ∈ names) :
    (Outline.wholes names).lookup name = some .whole := by
  induction names with
  | nil => cases h
  | cons n names ih =>
    rw [Outline.wholes, List.map_cons, List.lookup_cons]
    by_cases hn : name = n
    · simp [hn]
    · have hb : (name == n) = false := by simpa using hn
      rw [hb]
      exact ih (List.mem_of_ne_of_mem hn h)

theorem partMembers_wholes {names : List String} (h : ∀ m ∈ members, m.1 ∈ names) :
    partMembers (Outline.wholes names) members = members := by
  induction members with
  | nil => rfl
  | cons m ms ih =>
    have hm := lookup_wholes (h m List.mem_cons_self)
    have hms := ih fun y hy => h y (List.mem_cons_of_mem _ hy)
    simp only [partMembers, hm, hms, part_whole]

end

section
variable {α : Type} {depth : Nat} {names : List String} {fields : List (Option (String × Json))}

/-- The fields of a record stand under these names. -/
def Fields (depth : Nat) : List String → List (Option (String × Json)) → Prop :=
  List.Forall₂ fun name field => ∀ m ∈ field, m.1 = name ∧ Ordered depth m.2

theorem fields_nil (depth : Nat) : Fields depth [] [] := .nil

theorem Fields.field {x : Json} (name : String) (hx : Ordered depth x)
    (h : Fields depth names fields) :
    Fields depth (name :: names) (Json.field name x :: fields) := by
  refine .cons ?_ h
  intro m hm
  obtain rfl : (name, x) = m := Option.some.inj hm
  exact ⟨rfl, hx⟩

theorem Fields.field? {f : α → Json} (name : String) (value : Option α)
    (hx : ∀ a, Ordered depth (f a)) (h : Fields depth names fields) :
    Fields depth (name :: names) (Json.field? name f value :: fields) := by
  refine .cons ?_ h
  intro m hm
  obtain ⟨a, -, rfl⟩ := Option.map_eq_some_iff.mp hm
  exact ⟨rfl, hx a⟩

theorem Fields.mem (h : Fields depth names fields) {m : String × Json}
    (hm : m ∈ fields.filterMap id) : m.1 ∈ names ∧ Ordered depth m.2 := by
  induction h with
  | nil => simp at hm
  | @cons name field names fields hfield _ ih =>
    rcases List.mem_filterMap.mp hm with ⟨o, ho, he⟩
    rcases List.mem_cons.mp ho with rfl | ho
    · obtain ⟨hname, hvalue⟩ := hfield m he
      exact ⟨hname ▸ List.mem_cons_self, hvalue⟩
    · have hrest := ih (List.mem_filterMap.mpr ⟨o, ho, he⟩)
      exact ⟨List.mem_cons_of_mem _ hrest.1, hrest.2⟩

theorem Fields.ordered (h : Fields depth names fields) (hs : names.Pairwise (· < ·)) :
    Ordered (depth + 1) (record fields) := by
  refine .object ?_ fun _ hm => (h.mem hm).2
  induction h with
  | nil => exact .nil
  | @cons name field names fields hfield hrest ih =>
    obtain ⟨hlt, hs⟩ := List.pairwise_cons.mp hs
    cases field with
    | none => exact ih hs
    | some m =>
      refine List.pairwise_cons.mpr ⟨?_, ih hs⟩
      intro m' hm'
      have hname : m.1 = name := (hfield m rfl).1
      exact hname ▸ hlt m'.1 (Fields.mem hrest hm').1

/-- A value in key order, all of which an outline asks for. -/
structure Entire (depth : Nat) (outline : Outline) (x : Json) : Prop where
  ordered : Ordered depth x
  part_eq : part outline x = x

theorem Fields.entire {unique : Bool} {known : List String} (h : Fields depth names fields)
    (hs : names.Pairwise (· < ·)) (hsub : names ⊆ known) :
    Entire (depth + 1) (.flat unique known) (record fields) := by
  refine ⟨h.ordered hs, ?_⟩
  have hknown := partMembers_wholes fun m hm => hsub (h.mem hm).1
  exact congrArg Json.object hknown

@[simp] theorem lookup_record_nil (name : String) : (record []).members.lookup name = none := rfl

@[simp] theorem lookup_record_field (name n : String) (x : Json) :
    (record (field n x :: fields)).members.lookup name =
      if name = n then some x else (record fields).members.lookup name := by
  show ((n, x) :: (record fields).members).lookup name = _
  by_cases h : name = n
  · simp [h]
  · have hb : (name == n) = false := by simpa using h
    rw [List.lookup_cons, hb, if_neg h]

@[simp] theorem lookup_record_field? (name n : String) (f : α → Json) (value : Option α) :
    (record (field? n f value :: fields)).members.lookup name =
      if name = n then (value.map f).or ((record fields).members.lookup name)
      else (record fields).members.lookup name := by
  cases value with
  | none =>
    show (record fields).members.lookup name = _
    simp
  | some a =>
    show (record (field n (f a) :: fields)).members.lookup name = _
    simp

end

end BuildOperator.Json
