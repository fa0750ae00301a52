import BuildOperator.Proofs.NamespaceName
import BuildOperator.Proofs.ObjectCalls
/-!
# Separation of projects

Two projects whose names are labels have namespaces of different names, as long as stem, dash and
project fit into a name. Then a pass for a build of one never touches an object of the other.
-/
namespace BuildOperator

namespace Workflow

/-- How many characters the lower case of a text has. The dotted capital I is the only character
whose lower case has two. -/
def lowerLength (raw : String) : Nat := raw.length + raw.toList.count '\u0130'

theorem length_namespaceChars (c : Char) :
    (namespaceChars c).length = if c = '\u0130' then 2 else 1 := by
  unfold namespaceChars
  split_ifs <;> rfl

theorem length_spelled (raw : String) : (spelled raw).length = lowerLength raw := by
  have hlength (cs : List Char) :
      (cs.flatMap namespaceChars).length = cs.length + cs.count '\u0130' := by
    induction cs with
    | nil => rfl
    | cons c cs ih =>
      rw [List.flatMap_cons, List.length_append, ih, length_namespaceChars, List.length_cons,
        List.count_cons]
      by_cases hc : c = '\u0130'
      · simp [hc]
        omega
      · simp [hc]
        omega
  rw [spelled, hlength, lowerLength, String.length_toList]

theorem namespaceChars_of_isDnsChar {c : Char} (h : isDnsChar c = true) :
    namespaceChars c = [c] := by
  by_cases hdash : c = '-'
  · subst hdash
    decide
  · have halphanum : c.isAlphanum = true := by
      simp only [isDnsChar, Bool.or_eq_true, beq_iff_eq, hdash, or_false] at h
      change (c.isUpper || c.isLower || c.isDigit) = true
      rcases h with hl | hd
      · rw [hl, Bool.or_true, Bool.true_or]
      · rw [hd, Bool.or_true]
    have hdotted : c ≠ '\u0130' := by
      rintro rfl
      exact absurd h (by decide)
    have hkelvin : c ≠ '\u212a' := by
      rintro rfl
      exact absurd h (by decide)
    rw [namespaceChars, if_neg hdotted, if_neg hkelvin, if_pos halphanum, toLower_of_isDnsChar h]

theorem spelled_of_isDnsLabel {name : String} (h : IsDnsLabel name) :
    spelled name = name.toList := by
  have hchars : name.toList.flatMap namespaceChars = name.toList.flatMap fun c => [c] :=
    List.flatMap_congr fun c hc => namespaceChars_of_isDnsChar (List.all_eq_true.mp h.chars c hc)
  rw [spelled, hchars, List.flatMap_singleton']

/-- The project stands whole at the end of the name, after what of the stem and the dash does not
belong to leading dashes. -/
theorem namespaceName_of_fits {stem project : String} (h : IsDnsLabel project)
    (hfit : lowerLength stem + 1 + project.length ≤ maxNamespaceLength) :
    namespaceName (stem ++ "-" ++ project) =
      .ofList ((spelled stem ++ ['-']).dropWhile (· == '-') ++ project.toList) := by
  have hspelled : spelled (stem ++ "-" ++ project) = (spelled stem ++ ['-']) ++ project.toList := by
    rw [spelled_append, spelled_append, spelled_dash, spelled_of_isDnsLabel h]
  have hlength : (spelled (stem ++ "-" ++ project)).length ≤ maxNamespaceLength := by
    rw [hspelled, List.length_append, List.length_append, length_spelled, String.length_toList]
    exact hfit
  rw [← String.toList_inj, toList_namespaceName, List.take_of_length_le hlength, hspelled,
    trimDashes_append h.ne_nil h.head_ne h.last_ne, String.toList_ofList]

theorem namespaceName_injective {stem project project' : String} (h : IsDnsLabel project)
    (h' : IsDnsLabel project')
    (hfit : lowerLength stem + 1 + project.length ≤ maxNamespaceLength)
    (hfit' : lowerLength stem + 1 + project'.length ≤ maxNamespaceLength)
    (he : namespaceName (stem ++ "-" ++ project) = namespaceName (stem ++ "-" ++ project')) :
    project = project' := by
  rw [namespaceName_of_fits h hfit, namespaceName_of_fits h' hfit', String.ofList_inj] at he
  exact String.toList_inj.mp (List.append_cancel_left he)

end Workflow

theorem WorkflowContext.space_key (c : WorkflowContext) (kind : ObjectKind) :
    (c.key kind).space = c.ciNamespace := rfl

/-- Two builds of different projects, under one stem that leaves room for both. Their namespaces
differ, and whatever the pass for one comes to, every call of it is about an object in its own
namespace, which is none of the other's objects. -/
theorem reconcileResources_separate (settings : Settings) {b b' : Build}
    (hb : Workflow.IsDnsLabel b.spec.project) (hb' : Workflow.IsDnsLabel b'.spec.project)
    (hne : b.spec.project ≠ b'.spec.project)
    (hfit : Workflow.lowerLength settings.namespaceStem + 1 + b.spec.project.length ≤
      Workflow.maxNamespaceLength)
    (hfit' : Workflow.lowerLength settings.namespaceStem + 1 + b'.spec.project.length ≤
      Workflow.maxNamespaceLength) :
    WorkflowContext.ciNamespace ⟨b, settings⟩ ≠ WorkflowContext.ciNamespace ⟨b', settings⟩ ∧
    ∀ xs result, ((Operator.reconciler settings).reconcileResources b).Ends xs result →
      ∀ x ∈ xs, ∃ key, x.call.key? = some key ∧
        key.space = WorkflowContext.ciNamespace ⟨b, settings⟩ ∧
        ∀ kind, key ≠ WorkflowContext.key ⟨b', settings⟩ kind := by
  have hspace : WorkflowContext.ciNamespace ⟨b, settings⟩ ≠
      WorkflowContext.ciNamespace ⟨b', settings⟩ :=
    fun he => hne (Workflow.namespaceName_injective hb hb' hfit hfit' he)
  refine ⟨hspace, fun xs result h x hx => ?_⟩
  obtain ⟨kind, _, hk⟩ := Operator.makes_reconcileResources_key _ settings b xs result h x hx
  refine ⟨_, hk, WorkflowContext.space_key _ kind, fun kind' he => ?_⟩
  have hs := congrArg ObjectKey.space he
  rw [WorkflowContext.space_key, WorkflowContext.space_key] at hs
  exact hspace hs

/-- A shop and a bank, under a stem of which little is left. -/
theorem separate_of_shop_and_bank :
    (WorkflowContext.ofProject "-İ·" "shop").ciNamespace = "i---shop" ∧
    ∀ xs result, ((Operator.reconciler { namespaceStem := "-İ·" }).reconcileResources
      (WorkflowContext.ofProject "-İ·" "shop").build).Ends xs result →
      ∀ x ∈ xs, ∀ kind, x.call.key? ≠ some ((WorkflowContext.ofProject "-İ·" "bank").key kind) := by
  refine ⟨by decide, fun xs result h x hx kind he => ?_⟩
  have hshop : Workflow.IsDnsLabel
      (WorkflowContext.ofProject "-İ·" "shop").build.spec.project := by decide
  have hbank : Workflow.IsDnsLabel
      (WorkflowContext.ofProject "-İ·" "bank").build.spec.project := by decide
  obtain ⟨_, hcalls⟩ := reconcileResources_separate { namespaceStem := "-İ·" } hshop hbank
    (by decide) (by decide) (by decide)
  obtain ⟨key, hk, _, hother⟩ := hcalls xs result h x hx
  exact hother kind (Option.some.inj (hk.symm.trans he))

end BuildOperator
