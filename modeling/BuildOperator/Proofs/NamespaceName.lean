import BuildOperator.Text.Bytes
import BuildOperator.Workflow.Context
import Mathlib.Data.List.DropRight
import Mathlib.Data.List.TakeWhile
/-!
# Namespace names

The name of the namespace of a project is cut where a character ends, and it is a label of RFC 1123
unless it is empty. It is empty if the first 63 characters are dashes: the cut comes before dashes
are dropped, so that what a project adds after that many of them is lost.
-/
namespace BuildOperator

namespace Text

/-- The characters before place `n`, or all of a text that is no longer. There is no such text if
the place is inside of a character. -/
def cut? : (n : Nat) → List Char → Option (List Char)
  | _, [] => some []
  | n, c :: cs =>
    if n = 0 then some []
    else if c.utf8Size ≤ n then (cut? (n - c.utf8Size) cs).map (c :: ·)
    else none

theorem cut?_of_ascii {cs : List Char} (h : ∀ c ∈ cs, c.utf8Size = 1) (n : Nat) :
    cut? n cs = some (cs.take n) := by
  induction cs generalizing n with
  | nil => simp [cut?]
  | cons c cs ih =>
    have hc : c.utf8Size = 1 := h c List.mem_cons_self
    have hcs := ih fun d hd => h d (List.mem_cons_of_mem _ hd)
    cases n with
    | zero => simp [cut?]
    | succ n => simp [cut?, hc, hcs]

end Text

namespace Workflow

/-- Small letters of the English alphabet, digits and the dash. -/
def isDnsChar (c : Char) : Bool := c.isLower || c.isDigit || c == '-'

theorem isLower_iff {c : Char} : c.isLower = true ↔ 97 ≤ c.toNat ∧ c.toNat ≤ 122 := by
  change (decide (97 ≤ c.val) && decide (c.val ≤ 122)) = true ↔ _
  simp [UInt32.le_iff_toNat_le]

theorem isUpper_iff {c : Char} : c.isUpper = true ↔ 65 ≤ c.toNat ∧ c.toNat ≤ 90 := by
  change decide (65 ≤ c.val ∧ c.val ≤ 90) = true ↔ _
  simp [UInt32.le_iff_toNat_le]

theorem isDnsChar_iff {c : Char} : isDnsChar c = true ↔
    (97 ≤ c.toNat ∧ c.toNat ≤ 122) ∨ (48 ≤ c.toNat ∧ c.toNat ≤ 57) ∨ c = '-' := by
  simp [isDnsChar, isLower_iff, Char.isDigit_iff_toNat, or_assoc]

theorem toNat_toLower (c : Char) :
    c.toLower.toNat = if 65 ≤ c.toNat ∧ c.toNat ≤ 90 then c.toNat + 32 else c.toNat := by
  have hadd : (c.val + 32).toNat = (c.toNat + 32) % 4294967296 := UInt32.toNat_add c.val 32
  have hrange : (c.val ≥ 'A'.val ∧ c.val ≤ 'Z'.val) = (65 ≤ c.toNat ∧ c.toNat ≤ 90) := by
    simp only [ge_iff_le, UInt32.le_iff_toNat_le]
    rfl
  unfold Char.toLower
  simp only [hrange]
  split
  · exact hadd.trans (Nat.mod_eq_of_lt (by omega))
  · rfl

theorem toLower_of_isDnsChar {c : Char} (h : isDnsChar c = true) : c.toLower = c := by
  apply Char.toNat_inj.mp
  rw [toNat_toLower, if_neg]
  rcases isDnsChar_iff.mp h with h | h | rfl
  · omega
  · omega
  · decide

theorem isDnsChar_toLower {c : Char} (h : c.isAlphanum = true) : isDnsChar c.toLower = true := by
  have hlower := toNat_toLower c
  rw [isDnsChar_iff]
  rcases (Bool.or_eq_true _ _).mp h with ha | hd
  · rcases (Bool.or_eq_true _ _).mp ha with hu | hl
    · have hrange := isUpper_iff.mp hu
      rw [if_pos hrange] at hlower
      omega
    · have hrange := isLower_iff.mp hl
      rw [if_neg (by omega)] at hlower
      omega
  · have hrange : 48 ≤ c.toNat ∧ c.toNat ≤ 57 := Char.isDigit_iff_toNat.mp hd
    rw [if_neg (by omega)] at hlower
    omega

theorem utf8Size_of_isDnsChar {c : Char} (h : isDnsChar c = true) : c.utf8Size = 1 := by
  rw [Char.utf8Size_eq_one_iff, UInt32.le_iff_toNat_le]
  rcases isDnsChar_iff.mp h with h | h | rfl
  · exact Nat.le_trans h.2 (by decide)
  · exact Nat.le_trans h.2 (by decide)
  · decide

/-- A label of RFC 1123: between 1 and 63 of these characters, and no dash at either end. -/
structure IsDnsLabel (name : String) : Prop where
  ne_nil : name.toList ≠ []
  length_le : name.toList.length ≤ maxNamespaceLength
  chars : name.toList.all isDnsChar = true
  head_ne : name.toList.head? ≠ some '-'
  last_ne : name.toList.getLast? ≠ some '-'

theorem isDnsLabel_iff {name : String} : IsDnsLabel name ↔
    name.toList ≠ [] ∧ name.toList.length ≤ maxNamespaceLength ∧
      name.toList.all isDnsChar = true ∧ name.toList.head? ≠ some '-' ∧
      name.toList.getLast? ≠ some '-' :=
  ⟨fun h => ⟨h.ne_nil, h.length_le, h.chars, h.head_ne, h.last_ne⟩,
    fun ⟨hn, hl, hc, hh, he⟩ => ⟨hn, hl, hc, hh, he⟩⟩

instance (name : String) : Decidable (IsDnsLabel name) := decidable_of_iff' _ isDnsLabel_iff

/-- A text in the characters of a label. -/
def spelled (raw : String) : List Char := raw.toList.flatMap namespaceChars

theorem spelled_append (a b : String) : spelled (a ++ b) = spelled a ++ spelled b := by
  simp [spelled]

theorem spelled_dash : spelled "-" = ['-'] := by decide

theorem isDnsChar_of_mem_namespaceChars {c d : Char} (h : d ∈ namespaceChars c) :
    isDnsChar d = true := by
  unfold namespaceChars at h
  split_ifs at h with hdotted hkelvin ha
  · rcases List.mem_pair.mp h with rfl | rfl <;> decide
  · obtain rfl := List.mem_singleton.mp h
    decide
  · obtain rfl := List.mem_singleton.mp h
    exact isDnsChar_toLower ha
  · obtain rfl := List.mem_singleton.mp h
    decide

theorem isDnsChar_of_mem_spelled {raw : String} {c : Char} (h : c ∈ spelled raw) :
    isDnsChar c = true := by
  obtain ⟨_, _, hc⟩ := List.mem_flatMap.mp h
  exact isDnsChar_of_mem_namespaceChars hc

/-- Each character of a spelled text is one byte, so that it can be cut anywhere. -/
theorem cut?_spelled (n : Nat) (raw : String) :
    Text.cut? n (spelled raw) = some ((spelled raw).take n) :=
  Text.cut?_of_ascii (fun _ hc => utf8Size_of_isDnsChar (isDnsChar_of_mem_spelled hc)) n

theorem trimDashes_eq (cs : List Char) :
    trimDashes cs = (cs.dropWhile (· == '-')).rdropWhile (· == '-') := rfl

theorem trimDashes_infix (cs : List Char) : trimDashes cs <:+: cs :=
  (List.rdropWhile_prefix _ _).isInfix.trans (List.dropWhile_suffix _).isInfix

theorem trimDashes_eq_nil_iff {cs : List Char} : trimDashes cs = [] ↔ ∀ c ∈ cs, c = '-' := by
  rw [trimDashes_eq, List.rdropWhile_eq_nil_iff]
  constructor
  · intro h c hc
    rw [← List.takeWhile_append_dropWhile (p := (· == '-')) (l := cs)] at hc
    rcases List.mem_append.mp hc with hc | hc
    · simpa using List.mem_takeWhile_imp hc
    · simpa using h c hc
  · intro h c hc
    simpa using h c ((List.dropWhile_suffix _).subset hc)

theorem head?_trimDashes (cs : List Char) : (trimDashes cs).head? ≠ some '-' := by
  intro h
  obtain ⟨dropped, hd⟩ : trimDashes cs <+: cs.dropWhile (· == '-') := List.rdropWhile_prefix _ _
  have hhead : (cs.dropWhile (· == '-')).head? = some '-' := by
    rw [← hd, List.head?_append, h, Option.some_or]
  have hnot := List.head?_dropWhile_not (· == '-') cs
  simp [hhead] at hnot

theorem getLast?_trimDashes (cs : List Char) : (trimDashes cs).getLast? ≠ some '-' := by
  intro h
  have hn : trimDashes cs ≠ [] := by
    intro he
    rw [he] at h
    cases h
  rw [List.getLast?_eq_some_getLast hn] at h
  exact List.rdropWhile_last_not _ _ hn (beq_iff_eq.mpr (Option.some.inj h))

theorem trimDashes_append {xs ys : List Char} (hn : ys ≠ []) (hh : ys.head? ≠ some '-')
    (hl : ys.getLast? ≠ some '-') :
    trimDashes (xs ++ ys) = xs.dropWhile (· == '-') ++ ys := by
  have hdrop : (xs ++ ys).dropWhile (· == '-') = xs.dropWhile (· == '-') ++ ys := by
    rw [List.dropWhile_append, List.dropWhile_beq_eq_self_of_head?_ne hh]
    split
    · next he => rw [List.isEmpty_iff.mp he, List.nil_append]
    · rfl
  rw [trimDashes_eq, hdrop, List.rdropWhile_eq_self_iff]
  intro hne
  rw [List.getLast_append_of_ne_nil hne hn, beq_iff_eq]
  intro he
  exact hl (by rw [List.getLast?_eq_some_getLast hn, he])

theorem toList_namespaceName (raw : String) :
    (namespaceName raw).toList = trimDashes ((spelled raw).take maxNamespaceLength) := by
  simp [namespaceName, spelled]

theorem isDnsLabel_namespaceName_iff {raw : String} :
    IsDnsLabel (namespaceName raw) ↔ ∃ c ∈ (spelled raw).take maxNamespaceLength, c ≠ '-' := by
  have hpart := trimDashes_infix ((spelled raw).take maxNamespaceLength)
  rw [isDnsLabel_iff, toList_namespaceName, Ne, trimDashes_eq_nil_iff]
  constructor
  · rintro ⟨hn, _⟩
    simpa using hn
  · rintro ⟨c, hc, hne⟩
    refine ⟨fun h => hne (h c hc), ?_, ?_, head?_trimDashes _, getLast?_trimDashes _⟩
    · exact hpart.length_le.trans (List.length_take_le _ _)
    · apply List.all_eq_true.mpr
      intro d hd
      exact isDnsChar_of_mem_spelled (List.mem_of_mem_take (hpart.subset hd))

theorem namespaceName_eq_empty_iff {raw : String} :
    namespaceName raw = "" ↔ ¬ IsDnsLabel (namespaceName raw) := by
  rw [isDnsLabel_namespaceName_iff, ← String.toList_eq_nil_iff, toList_namespaceName,
    trimDashes_eq_nil_iff]
  simp

end Workflow

namespace WorkflowContext

/-- What the name of the namespace is made of. -/
def namespaceText (c : WorkflowContext) : String :=
  c.settings.namespaceStem ++ "-" ++ c.build.spec.project

theorem spelled_namespaceText (c : WorkflowContext) : Workflow.spelled c.namespaceText =
    Workflow.spelled c.settings.namespaceStem ++ '-' :: Workflow.spelled c.build.spec.project := by
  simp [namespaceText, Workflow.spelled_append, Workflow.spelled_dash]

/-- The cut of a namespace's name never falls inside of a character. The name is empty or a label,
and a label exactly if one of the first 63 characters is no dash; a stem that has such a character
among its own first 63 gives every project a label. -/
theorem ciNamespace_isDnsLabel_iff (c : WorkflowContext) :
    (∃ kept,
      Text.cut? Workflow.maxNamespaceLength (Workflow.spelled c.namespaceText) = some kept ∧
      c.ciNamespace = .ofList (Workflow.trimDashes kept)) ∧
    (c.ciNamespace = "" ↔ ¬ Workflow.IsDnsLabel c.ciNamespace) ∧
    (Workflow.IsDnsLabel c.ciNamespace ↔
      ∃ x ∈ (Workflow.spelled c.namespaceText).take Workflow.maxNamespaceLength, x ≠ '-') ∧
    ((∃ x ∈ (Workflow.spelled c.settings.namespaceStem).take Workflow.maxNamespaceLength,
      x ≠ '-') → Workflow.IsDnsLabel c.ciNamespace) := by
  refine ⟨⟨_, Workflow.cut?_spelled _ _, rfl⟩, Workflow.namespaceName_eq_empty_iff,
    Workflow.isDnsLabel_namespaceName_iff, ?_⟩
  rintro ⟨x, hx, hne⟩
  refine Workflow.isDnsLabel_namespaceName_iff.mpr ⟨x, ?_, hne⟩
  change x ∈ (Workflow.spelled c.namespaceText).take _
  rw [spelled_namespaceText, List.take_append]
  exact List.mem_append_left _ hx

/-- A build of that project, where namespaces have that stem. -/
def ofProject (stem project : String) : WorkflowContext where
  build := { metadata := {}, spec := { project, component := "checkout" } }
  settings := { namespaceStem := stem }

theorem isDnsLabel_of_project : Workflow.IsDnsLabel (ofProject "keel-ci" "店舗").ciNamespace := by
  obtain ⟨_, _, _, hstem⟩ := ciNamespace_isDnsLabel_iff (ofProject "keel-ci" "店舗")
  exact hstem ⟨'k', by decide, by decide⟩

/-- The name is empty where neither the stem nor the project has a letter, and where the stem is of
so many dashes that the project is cut off. -/
theorem ciNamespace_of_dashes : (ofProject "" "店舗").ciNamespace = "" ∧
    (ofProject (.ofList (.replicate 63 '-')) "shop").ciNamespace = "" ∧
    ¬ ∀ c : WorkflowContext, Workflow.IsDnsLabel c.ciNamespace := by
  have hempty : (ofProject "" "店舗").ciNamespace = "" := by decide
  have hcut : (ofProject (.ofList (.replicate 63 '-')) "shop").ciNamespace = "" := by decide
  refine ⟨hempty, hcut, fun h => ?_⟩
  exact absurd (h (ofProject "" "店舗")) (by decide)

end WorkflowContext
end BuildOperator
