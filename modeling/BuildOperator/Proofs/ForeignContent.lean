import BuildOperator.Proofs.ObjectCalls
import BuildOperator.Proofs.SharedObjects
/-!
# Content of others

What an object has that does not belong to the operator: labels that are not managed, annotations,
finalizers, and all that a service account holds. An object that has not drifted keeps it. One that
has drifted is replaced by the desired object, which has nothing of the kind, so that mending what
belongs to the operator removes what does not.
-/
namespace BuildOperator

/-- What an object has of others. A missing list counts as empty. -/
structure Foreign where
  labels : Dictionary String := .empty
  annotations : Dictionary String := .empty
  finalizers : List String := []
  automountToken : Option Bool := none
  imagePullSecrets : List String := []
  secrets : List ObjectReference := []
  deriving DecidableEq

/-- All of `f` is in `f'` as well. -/
structure Foreign.Within (f f' : Foreign) : Prop where
  labels : ∀ key value, f.labels.get? key = some value → f'.labels.get? key = some value
  annotations :
    ∀ key value, f.annotations.get? key = some value → f'.annotations.get? key = some value
  finalizers : f.finalizers ⊆ f'.finalizers
  automountToken : ∀ value, f.automountToken = some value → f'.automountToken = some value
  imagePullSecrets : f.imagePullSecrets ⊆ f'.imagePullSecrets
  secrets : f.secrets ⊆ f'.secrets

theorem Dictionary.eq_empty_of_get? {β : Type} {d : Dictionary β}
    (h : ∀ key value, d.get? key ≠ some value) : d = .empty :=
  Dictionary.ext_get? fun key => Option.eq_none_iff_forall_ne_some.mpr (h key)

theorem Foreign.within_empty_iff {f : Foreign} : f.Within {} ↔ f = {} := by
  constructor
  · intro h
    have hlabels : f.labels = .empty := by
      apply Dictionary.eq_empty_of_get?
      intro key value hv
      cases h.labels key value hv
    have hannotations : f.annotations = .empty := by
      apply Dictionary.eq_empty_of_get?
      intro key value hv
      cases h.annotations key value hv
    have htoken : f.automountToken = none := by
      apply Option.eq_none_iff_forall_ne_some.mpr
      intro value hv
      cases h.automountToken value hv
    have hfinalizers := List.subset_nil.mp h.finalizers
    have himages := List.subset_nil.mp h.imagePullSecrets
    have hsecrets := List.subset_nil.mp h.secrets
    cases f
    simp_all only
  · rintro rfl
    exact ⟨fun _ _ h => h, fun _ _ h => h, List.Subset.refl _, fun _ h => h, List.Subset.refl _,
      List.Subset.refl _⟩

def Metadata.foreign (m : Metadata) : Foreign where
  labels := (m.labels.getD .empty).filterKeys fun key => key ∉ managedLabelKeys
  annotations := m.annotations.getD .empty
  finalizers := m.finalizers.getD []

namespace ManagedObject

def foreign : ManagedObject → Foreign
  | .serviceAccount a => { a.metadata.foreign with
      automountToken := a.automountToken
      imagePullSecrets := a.imagePullSecrets.getD []
      secrets := a.secrets.getD [] }
  | .role r => r.metadata.foreign
  | .roleBinding b => b.metadata.foreign

@[simp] theorem foreign_withVersion (v : Option String) (o : ManagedObject) :
    (o.withVersion v).foreign = o.foreign := by
  cases o <;> rfl

end ManagedObject

namespace WorkflowContext
variable {c : WorkflowContext} {kind : ObjectKind}

theorem managed_of_label {key value : String} (h : c.labels.get? key = some value) :
    key ∈ managedLabelKeys := by
  have hm : (key, value) ∈ [(managedByLabel, operatorName),
      (projectLabel, c.build.spec.project), (componentLabel, c.build.spec.component)] := by
    refine (Dictionary.get?_ofList_of_nodup ?_).mp h
    simp [managedByLabel, projectLabel, componentLabel]
  simp only [List.mem_cons, Prod.mk.injEq, List.not_mem_nil, or_false] at hm
  rcases hm with ⟨rfl, _⟩ | ⟨rfl, _⟩ | ⟨rfl, _⟩ <;> decide

theorem foreign_metadata (c : WorkflowContext) (name : String) :
    (c.metadata name).foreign = {} := by
  have hlabels : c.labels.filterKeys (fun key => key ∉ managedLabelKeys) = .empty := by
    apply Dictionary.eq_empty_of_get?
    intro key value hv
    rw [Dictionary.get?_filterKeys] at hv
    split at hv
    · next hk => exact of_decide_eq_true hk (managed_of_label hv)
    · cases hv
  rw [Metadata.foreign, metadata, Option.getD_some, hlabels]
  rfl

theorem foreign_desired (c : WorkflowContext) (kind : ObjectKind) :
    (c.desired kind).foreign = {} := by
  cases kind with
  | serviceAccount =>
    rw [desired, serviceAccount, ManagedObject.foreign, foreign_metadata]
    rfl
  | role | roleBinding => exact foreign_metadata c _

@[simp] theorem kind_desired (c : WorkflowContext) (kind : ObjectKind) :
    (c.desired kind).kind = kind := by
  cases kind <;> rfl

theorem drifted?_desired_iff {current : ManagedObject} :
    current.drifted? (c.desired kind) = some true ↔
      current.kind = kind ∧ current.normal ≠ (c.desired kind).normal := by
  rw [ManagedObject.drifted?_eq_true_iff, kind_desired]

variable {s : Store (id : ObjectKey → ObjectKey)} {current : ManagedObject}

theorem get?_tended_of_same (hw : c.settings.workflowRbac = true)
    (hg : s.get? (c.key kind) = some current) (h : current.normal = (c.desired kind).normal) :
    (c.tended s kind).get? (c.key kind) = some current := by
  have hsettled : c.Settled s kind := by
    rw [settled_of_wanted hw, Store.Holds, c.key_desired]
    exact ⟨current, hg, ManagedObject.drifted?_eq_false_iff.mpr h⟩
  rw [hsettled.tended_eq, hg]

theorem get?_tended_of_drifted (hw : c.settings.workflowRbac = true)
    (hg : s.get? (c.key kind) = some current)
    (h : current.drifted? (c.desired kind) = some true) :
    ∃ version,
      (c.tended s kind).get? (c.key kind) = some ((c.desired kind).withVersion version) := by
  have hr : (s.repair? (c.desired kind)).isSome = true := by
    simp [Store.repair?, c.key_desired, hg, h]
  unfold tended Store.mended
  rw [if_pos hw, if_pos hr, ← c.key_desired]
  exact ⟨_, s.get?_put_self _⟩

theorem exists_get?_foldl_tended_eq (c : WorkflowContext) (s : Store (id : ObjectKey → ObjectKey))
    (kind : ObjectKind) :
    ∃ earlier : Store (id : ObjectKey → ObjectKey),
      earlier.get? (c.key kind) = s.get? (c.key kind) ∧
      (Workflow.handlerOrder.foldl c.tended s).get? (c.key kind) =
        (c.tended earlier kind).get? (c.key kind) := by
  have hmem : kind ∈ Workflow.handlerOrder := by cases kind <;> decide
  have hnodup : Workflow.handlerOrder.Nodup := by decide
  obtain ⟨before, after, horder⟩ := List.append_of_mem hmem
  rw [horder] at hnodup ⊢
  have hbefore (k : ObjectKind) (hk : k ∈ before) : c.key kind ≠ c.key k := by
    intro he
    obtain rfl := c.key_injective he
    exact (List.nodup_append.mp hnodup).2.2 _ hk _ List.mem_cons_self rfl
  have hafter (k : ObjectKind) (hk : k ∈ after) : c.key kind ≠ c.key k := by
    intro he
    obtain rfl := c.key_injective he
    exact (List.nodup_cons.mp (List.nodup_append.mp hnodup).2.1).1 hk
  refine ⟨before.foldl c.tended s, get?_foldl_tended hbefore, ?_⟩
  rw [List.foldl_append, List.foldl_cons]
  exact get?_foldl_tended hafter

end WorkflowContext

/-- A pass lets an object be that has not drifted. Of one that has drifted nothing is left that
belonged to others. -/
theorem foreign_of_rehearse (settings : Settings) (b : Build) (hw : settings.workflowRbac = true)
    {s : Rehearsal (id : ObjectKey → ObjectKey)} (hs : s.Calm) (hf : s.store.Filed)
    {kind : ObjectKind} {current : ManagedObject}
    (hg : s.store.get? (WorkflowContext.key ⟨b, settings⟩ kind) = some current) :
    let c : WorkflowContext := ⟨b, settings⟩
    ∃ stored, (Operator.rehearse settings b s).state.store.get? (c.key kind) = some stored ∧
      stored.normal = (c.desired kind).normal ∧
      (current.normal = (c.desired kind).normal → stored = current) ∧
      (current.normal ≠ (c.desired kind).normal → stored.foreign = {}) := by
  intro c
  obtain ⟨earlier, hearlier, hlater⟩ := c.exists_get?_foldl_tended_eq s.store kind
  rw [hg] at hearlier
  rw [Operator.state_rehearse settings b hs hf, hlater]
  by_cases hn : current.normal = (c.desired kind).normal
  · refine ⟨current, WorkflowContext.get?_tended_of_same hw hearlier hn, hn, fun _ => rfl, ?_⟩
    intro hne
    exact absurd hn hne
  · have hkind : current.kind = kind := congrArg ObjectKey.kind (hf _ _ hg)
    have hd := WorkflowContext.drifted?_desired_iff.mpr ⟨hkind, hn⟩
    obtain ⟨version, hstored⟩ := WorkflowContext.get?_tended_of_drifted hw hearlier hd
    refine ⟨_, hstored, ?_, fun he => absurd he hn, fun _ => ?_⟩
    · exact ManagedObject.drifted?_eq_false_iff.mp (ManagedObject.drifted?_withVersion _ _)
    · rw [ManagedObject.foreign_withVersion, c.foreign_desired]

/-- A handler that is to mend an object writes if it has drifted, and makes no other call. What it
sends has the key, the managed labels, the rules, the subjects and the role of the desired object
and the version of the one it was given, and nothing of what this one had of others: that is kept
exactly if there was none. -/
theorem update_drops_foreign (c : WorkflowContext) (kind : ObjectKind) (current : ManagedObject) :
    let sent := (c.desired kind).withVersion current.resourceVersion
    let task := (Operator.handler kind c).update current
    (current.kind = kind ∧ current.normal ≠ (c.desired kind).normal →
      task = .ask (.cluster (.update sent)) id) ∧
    (∀ operation, (task.race operation).Makes fun call =>
      call = .cluster (.update sent) ∧
        current.kind = kind ∧ current.normal ≠ (c.desired kind).normal) ∧
    sent.key = c.key kind ∧ sent.normal = (c.desired kind).normal ∧
    sent.resourceVersion = current.resourceVersion ∧
    sent.foreign = {} ∧ (current.foreign.Within sent.foreign ↔ current.foreign = {}) := by
  intro sent task
  have hforeign : sent.foreign = {} :=
    (ManagedObject.foreign_withVersion _ _).trans (c.foreign_desired kind)
  refine ⟨?_, ?_, c.key_replacement kind current, ?_, ManagedObject.resourceVersion_withVersion _ _,
    hforeign, ?_⟩
  · intro h
    exact Operator.update_of_drifted (WorkflowContext.drifted?_desired_iff.mpr h)
  · intro operation
    refine (Operator.makes_update current).imp fun call h => ⟨h.1, ?_⟩
    exact WorkflowContext.drifted?_desired_iff.mp h.2
  · exact ManagedObject.drifted?_eq_false_iff.mp (ManagedObject.drifted?_withVersion _ _)
  · rw [hforeign]
    exact Foreign.within_empty_iff

/-- The service account of the workflows as a build of another component left it, after others wrote
to it. -/
def busyAccount : ManagedObject := .serviceAccount {
  metadata := {
    name := some Workflow.serviceAccountName
    space := some checkoutContext.ciNamespace
    resourceVersion := some "7"
    labels := some ((checkoutContext.labels.insert componentLabel "cart").insert "team" "payments")
    annotations := some (Dictionary.empty.insert "reviewed" "yes")
    finalizers := some ["example.com/audit"] }
  automountToken := some false
  imagePullSecrets := some ["registry"]
  secrets := some [{ name := some "workflow-sa-token" }] }

theorem normal_busyAccount_ne :
    busyAccount.normal ≠ (checkoutContext.desired .serviceAccount).normal := by
  intro h
  have hm : busyAccount.metadata.normal =
      (checkoutContext.metadata Workflow.serviceAccountName).normal :=
    congrArg ManagedObject.metadata h
  have hl := Metadata.normal_eq_iff.mp hm componentLabel (by decide)
  rw [WorkflowContext.label?_component] at hl
  simp [Metadata.label?, busyAccount, ManagedObject.metadata, Dictionary.get?_insert,
    componentLabel, checkoutContext, Build.checkout] at hl

theorem update_of_busyAccount :
    (Operator.handler .serviceAccount checkoutContext).update busyAccount =
      .ask (.cluster (.update ((checkoutContext.desired .serviceAccount).withVersion (some "7"))))
        id := by
  obtain ⟨hwrites, _⟩ := update_drops_foreign checkoutContext .serviceAccount busyAccount
  exact hwrites ⟨rfl, normal_busyAccount_ne⟩

/-- The write that mends its component loses the rest of it. -/
theorem dropped_of_busyAccount : ∃ sent,
    (Operator.handler .serviceAccount checkoutContext).update busyAccount =
      .ask (.cluster (.update sent)) id ∧
    busyAccount.foreign ≠ {} ∧ sent.foreign = {} ∧ ¬ busyAccount.foreign.Within sent.foreign := by
  have hd := WorkflowContext.drifted?_desired_iff.mpr ⟨rfl, normal_busyAccount_ne⟩
  have hn : busyAccount.foreign ≠ {} := by
    intro h
    cases congrArg Foreign.finalizers h
  have hs : (checkoutContext.replacement .serviceAccount busyAccount).foreign = {} :=
    (ManagedObject.foreign_withVersion _ _).trans (checkoutContext.foreign_desired _)
  refine ⟨_, Operator.update_of_drifted hd, hn, hs, ?_⟩
  rw [hs, Foreign.within_empty_iff]
  exact hn

end BuildOperator
