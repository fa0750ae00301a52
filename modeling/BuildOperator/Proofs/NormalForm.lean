import BuildOperator.Managed.Drift
import BuildOperator.Proofs.Dictionary
/-!
# Normal forms of managed objects

The normal form of an object keeps what belongs to the operator and nothing else: the managed
labels, the rules of a role, the subjects and the role of a binding. A missing list is read as an
empty one, and an empty namespace or group of a subject as none. An object has drifted from another
of its kind exactly if their normal forms differ, so that to have not drifted is an equivalence.
-/
namespace BuildOperator

theorem pairwiseSame_iff {α β : Type} {same : α → α → Bool} {f : α → β}
    (h : ∀ a b, same a b = true ↔ f a = f b) (as bs : List α) :
    pairwiseSame same as bs = true ↔ as.map f = bs.map f := by
  induction as generalizing bs with
  | nil => cases bs <;> simp [pairwiseSame]
  | cons a as ih =>
    cases bs with
    | nil => simp [pairwiseSame]
    | cons b bs => simp [pairwiseSame, h, ih]

namespace Metadata
variable {m m' : Metadata}

def label? (m : Metadata) (key : String) : Option String := (m.labels.getD .empty).get? key

/-- The managed labels, without all that belongs to somebody else. -/
def normal (m : Metadata) : Metadata where
  labels := some (managedLabels m.labels)

theorem managedLabels_eq_iff : managedLabels m.labels = managedLabels m'.labels ↔
    ∀ key ∈ managedLabelKeys, m.label? key = m'.label? key := by
  constructor
  · intro h key hk
    have hget := congrArg (Dictionary.get? · key) h
    simpa [label?, managedLabels, Dictionary.get?_filterKeys, hk] using hget
  · intro h
    refine Dictionary.ext_get? fun key => ?_
    unfold managedLabels
    rw [Dictionary.get?_filterKeys, Dictionary.get?_filterKeys]
    split
    · next hk => exact h key (of_decide_eq_true hk)
    · rfl

theorem normal_eq_iff : m.normal = m'.normal ↔
    ∀ key ∈ managedLabelKeys, m.label? key = m'.label? key := by
  simp [normal, ← managedLabels_eq_iff]

theorem labelsDrifted_eq_false_iff : m.labelsDrifted m' = false ↔ m.normal = m'.normal := by
  simp [labelsDrifted, normal]

@[simp] theorem normal_normal (m : Metadata) : m.normal.normal = m.normal := by
  refine normal_eq_iff.mpr fun key hk => ?_
  simp [label?, normal, managedLabels, Dictionary.get?_filterKeys, hk]

end Metadata

namespace PolicyRule

/-- A rule in which every list is there. -/
def normal (r : PolicyRule) : PolicyRule where
  apiGroups := some (r.apiGroups.getD [])
  nonResourceURLs := some (r.nonResourceURLs.getD [])
  resourceNames := some (r.resourceNames.getD [])
  resources := some (r.resources.getD [])
  verbs := r.verbs

theorem same_iff (a b : PolicyRule) : a.same b = true ↔ a.normal = b.normal := by
  simp only [same, sameItems, Bool.and_eq_true, decide_eq_true_iff, normal, PolicyRule.mk.injEq,
    Option.some.injEq]
  tauto

@[simp] theorem normal_normal (r : PolicyRule) : r.normal.normal = r.normal := rfl

end PolicyRule

namespace Subject

/-- A subject in which no text is there that is empty. -/
def normal (s : Subject) : Subject :=
  { s with space := s.space.filter (· ≠ ""), apiGroup := s.apiGroup.filter (· ≠ "") }

theorem same_iff (a b : Subject) : a.same b = true ↔ a.normal = b.normal := by
  simp only [same, sameText, Bool.and_eq_true, decide_eq_true_iff, normal, Subject.mk.injEq]
  tauto

@[simp] theorem normal_normal (s : Subject) : s.normal.normal = s.normal := by
  simp [normal, Option.filter_filter]

end Subject

namespace ManagedObject
variable {a a' b : ManagedObject}

def normal : ManagedObject → ManagedObject
  | .serviceAccount a => .serviceAccount { metadata := a.metadata.normal }
  | .role r => .role {
      metadata := r.metadata.normal
      rules := some ((r.rules.getD []).map PolicyRule.normal) }
  | .roleBinding b => .roleBinding {
      metadata := b.metadata.normal
      roleRef := b.roleRef
      subjects := some ((b.subjects.getD []).map Subject.normal) }

@[simp] theorem kind_normal (o : ManagedObject) : o.normal.kind = o.kind := by
  cases o <;> rfl

theorem metadata_normal (o : ManagedObject) : o.normal.metadata = o.metadata.normal := by
  cases o <;> rfl

theorem kind_of_normal_eq (h : a.normal = b.normal) : a.kind = b.kind := by
  simpa using congrArg kind h

@[simp] theorem normal_normal (o : ManagedObject) : o.normal.normal = o.normal := by
  cases o with
  | serviceAccount o => simp [normal]
  | role o => simp [normal]
  | roleBinding o => simp [normal]

theorem drifted?_eq_none_iff : a.drifted? b = none ↔ a.kind ≠ b.kind := by
  cases a <;> cases b <;> simp [drifted?, kind]

theorem drifted?_of_kind (h : a.kind = b.kind) : ∃ drifted, a.drifted? b = some drifted :=
  Option.ne_none_iff_exists'.mp fun hn => drifted?_eq_none_iff.mp hn h

theorem drifted?_eq_false_iff : a.drifted? b = some false ↔ a.normal = b.normal := by
  cases a with
  | serviceAccount a =>
    cases b with
    | serviceAccount b =>
      simp [drifted?, normal, ServiceAccount.drifted, Metadata.labelsDrifted_eq_false_iff]
    | role | roleBinding => simp [drifted?, normal]
  | role a =>
    cases b with
    | role b =>
      simp [drifted?, normal, Role.drifted, Metadata.labelsDrifted_eq_false_iff,
        pairwiseSame_iff PolicyRule.same_iff]
    | serviceAccount | roleBinding => simp [drifted?, normal]
  | roleBinding a =>
    cases b with
    | roleBinding b =>
      simp [drifted?, normal, RoleBinding.drifted, Metadata.labelsDrifted_eq_false_iff,
        pairwiseSame_iff Subject.same_iff]
      tauto
    | serviceAccount | role => simp [drifted?, normal]

/-- Whether objects of one kind drift is decided by their normal forms. -/
theorem drifted?_eq (h : a.kind = b.kind) :
    a.drifted? b = some (decide (a.normal ≠ b.normal)) := by
  obtain ⟨drifted, hd⟩ := drifted?_of_kind h
  rw [hd]
  by_cases hn : a.normal = b.normal
  · rw [drifted?_eq_false_iff.mpr hn] at hd
    simp [hn, Option.some.inj hd.symm]
  · have hne : drifted ≠ false := fun he => hn (drifted?_eq_false_iff.mp (he ▸ hd))
    simp [hn, hne]

theorem drifted?_eq_true_iff :
    a.drifted? b = some true ↔ a.kind = b.kind ∧ a.normal ≠ b.normal := by
  by_cases hk : a.kind = b.kind
  · simp [drifted?_eq hk, hk]
  · simp [drifted?_eq_none_iff.mpr hk, hk]

/-- What has the same normal form gives the same answers, on either side of the comparison. -/
theorem drifted?_congr (h : a.normal = a'.normal) (b : ManagedObject) :
    a.drifted? b = a'.drifted? b ∧ b.drifted? a = b.drifted? a' := by
  have hkind := kind_of_normal_eq h
  by_cases hk : a.kind = b.kind
  · have hk' : a'.kind = b.kind := hkind ▸ hk
    rw [drifted?_eq hk, drifted?_eq hk', drifted?_eq hk.symm, drifted?_eq hk'.symm, h]
    exact ⟨rfl, rfl⟩
  · have hk' : ¬ a'.kind = b.kind := hkind ▸ hk
    rw [drifted?_eq_none_iff.mpr hk, drifted?_eq_none_iff.mpr hk',
      drifted?_eq_none_iff.mpr (Ne.symm hk), drifted?_eq_none_iff.mpr (Ne.symm hk')]
    exact ⟨rfl, rfl⟩

theorem normal_withMetadata_iff {m : Metadata} :
    (a.withMetadata m).normal = a.normal ↔
      ∀ key ∈ managedLabelKeys, m.label? key = a.metadata.label? key := by
  rw [← Metadata.normal_eq_iff]
  cases a <;> simp [normal, withMetadata, metadata]

theorem drifted?_withVersion (v : Option String) (o : ManagedObject) :
    (o.withVersion v).drifted? o = some false :=
  drifted?_eq_false_iff.mpr (normal_withMetadata_iff.mpr fun _ _ => rfl)

/-- An object has not drifted from another exactly if both have one normal form. Hence what has not
drifted is an equivalence, and what is not part of the normal form never changes an answer: of the
metadata all but the managed labels, of a service account everything else, and whether an empty list
is there. -/
theorem drift_of_normal_forms :
    (∀ a b : ManagedObject, a.drifted? b = some false ↔ a.normal = b.normal) ∧
    (∀ a b : ManagedObject, a.drifted? b = some true ↔ a.kind = b.kind ∧ a.normal ≠ b.normal) ∧
    (∀ o : ManagedObject, o.normal.kind = o.kind ∧ o.normal.normal = o.normal) ∧
    Equivalence (fun a b : ManagedObject => a.drifted? b = some false) ∧
    (∀ a a' b : ManagedObject, a.normal = a'.normal →
      a.drifted? b = a'.drifted? b ∧ b.drifted? a = b.drifted? a') ∧
    (∀ (o : ManagedObject) (m : Metadata), (o.withMetadata m).normal = o.normal ↔
      ∀ key ∈ managedLabelKeys, m.label? key = o.metadata.label? key) ∧
    (∀ a a' : ServiceAccount, a.metadata = a'.metadata →
      (serviceAccount a).normal = (serviceAccount a').normal) ∧
    (∀ m, (role ⟨m, none⟩).normal = (role ⟨m, some []⟩).normal) ∧
    (∀ m ref, (roleBinding ⟨m, ref, none⟩).normal = (roleBinding ⟨m, ref, some []⟩).normal) := by
  have hequivalence : Equivalence (fun a b : ManagedObject => a.drifted? b = some false) := by
    simp only [drifted?_eq_false_iff]
    exact ⟨fun _ => rfl, Eq.symm, Eq.trans⟩
  refine ⟨fun _ _ => drifted?_eq_false_iff, fun _ _ => drifted?_eq_true_iff,
    fun o => ⟨kind_normal o, normal_normal o⟩, hequivalence, fun _ _ b h => drifted?_congr h b,
    fun _ _ => normal_withMetadata_iff, fun a a' h => ?_, fun _ => rfl, fun _ _ => rfl⟩
  simp only [normal, h]

/-- A role of a project, and no rules. -/
def plainRole : Role where
  metadata := { labels := some (Dictionary.empty.insert projectLabel "shop") }

/-- The same role after somebody else wrote to it. -/
def touchedRole : Role where
  metadata := {
    labels := plainRole.metadata.labels.map (·.insert "team" "payments")
    annotations := some (Dictionary.empty.insert "reviewed" "yes")
    resourceVersion := some "7" }
  rules := some []

/-- The same role of another project. -/
def movedRole : Role := { plainRole with
  metadata := { labels := plainRole.metadata.labels.map (·.insert projectLabel "bank") } }

theorem drift_of_touchedRole : (role touchedRole).drifted? (role plainRole) = some false ∧
    (role movedRole).drifted? (role plainRole) = some true := by
  obtain ⟨hsame, hother, _, _, _, hlabels, _, hempty, _⟩ := drift_of_normal_forms
  constructor
  · have hn := (hlabels (role plainRole) touchedRole.metadata).mpr fun key hk => by
      have hteam : key ≠ "team" := by
        rintro rfl
        exact absurd hk (by decide)
      simp [Metadata.label?, touchedRole, plainRole, metadata, Dictionary.get?_insert, hteam]
    exact (hsame _ _).mpr ((hempty touchedRole.metadata).symm.trans hn)
  · refine (hother _ _).mpr ⟨rfl, fun hn => ?_⟩
    have hl := (hlabels (role plainRole) movedRole.metadata).mp hn projectLabel (by decide)
    simp [Metadata.label?, movedRole, plainRole, metadata, Dictionary.get?_insert] at hl

end ManagedObject
end BuildOperator
