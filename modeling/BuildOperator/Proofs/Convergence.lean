import BuildOperator.Proofs.Mark
import BuildOperator.Proofs.NormalForm
import BuildOperator.Proofs.Running
import BuildOperator.Proofs.StoreChange
/-!
# Convergence

A pass over a store in which nobody else writes succeeds, whatever the store holds. Where the
objects of the workflows are wanted they are there afterwards and need no further write, and each of
them was written at most once: created if it was absent, updated if it had drifted. Where they are
not wanted the role and the binding are gone. All other objects are as they were, and a further pass
changes nothing.
-/
namespace BuildOperator

namespace Store
variable {s : Store (id : ObjectKey → ObjectKey)} {desired : ManagedObject}

/-- The write that an object needs to be as desired, if it needs one. -/
def repair? (s : Store (id : ObjectKey → ObjectKey)) (desired : ManagedObject) :
    Option ClusterCall :=
  match s.get? desired.key with
  | none => some (.create desired)
  | some current =>
    if current.drifted? desired = some true then
      some (.update (desired.withVersion current.resourceVersion))
    else none

/-- The store after that write. -/
def mended (s : Store (id : ObjectKey → ObjectKey)) (desired : ManagedObject) :
    Store (id : ObjectKey → ObjectKey) :=
  if (s.repair? desired).isSome then s.put desired else s

/-- The object is there, and it needs no write. -/
def Holds (s : Store (id : ObjectKey → ObjectKey)) (desired : ManagedObject) : Prop :=
  ∃ stored, s.get? desired.key = some stored ∧ stored.drifted? desired = some false

theorem repair?_of_holds (h : s.Holds desired) : s.repair? desired = none := by
  obtain ⟨stored, hg, hd⟩ := h
  simp [repair?, hg, hd]

theorem holds_of_repair? (hs : s.Filed) (h : s.repair? desired = none) : s.Holds desired := by
  cases hg : s.get? desired.key with
  | none => simp [repair?, hg] at h
  | some current =>
    have hk : current.kind = desired.kind := congrArg ObjectKey.kind (hs _ _ hg)
    obtain ⟨drifted, hd⟩ := ManagedObject.drifted?_of_kind hk
    cases drifted with
    | false => exact ⟨current, hg, hd⟩
    | true => simp [repair?, hg, hd] at h

theorem holds_mended (hs : s.Filed) : (s.mended desired).Holds desired := by
  cases hr : s.repair? desired with
  | none =>
    simp only [mended, hr, Option.isSome_none, Bool.false_eq_true, if_false]
    exact holds_of_repair? hs hr
  | some write =>
    simp only [mended, hr, Option.isSome_some, if_true]
    exact ⟨_, s.get?_put_self desired, ManagedObject.drifted?_withVersion _ desired⟩

end Store

namespace WorkflowContext
variable {c : WorkflowContext} {kind : ObjectKind} {s : Store (id : ObjectKey → ObjectKey)}

/-- The calls of the handler of that kind, where the store is this one. -/
def upkeepCalls (c : WorkflowContext) (s : Store (id : ObjectKey → ObjectKey)) (kind : ObjectKind) :
    List Call :=
  if c.settings.workflowRbac then
    .cluster (.get (c.key kind)) :: ((s.repair? (c.desired kind)).map Call.cluster).toList
  else
    match kind with
    | .serviceAccount => []
    | .role | .roleBinding => [.cluster (.delete (c.key kind))]

/-- The store after those calls. -/
def tended (c : WorkflowContext) (s : Store (id : ObjectKey → ObjectKey)) (kind : ObjectKind) :
    Store (id : ObjectKey → ObjectKey) :=
  if c.settings.workflowRbac then s.mended (c.desired kind)
  else
    match kind with
    | .serviceAccount => s
    | .role | .roleBinding => s.erase (c.key kind)

/-- What is wanted of the object of that kind is so. -/
def Settled (c : WorkflowContext) (s : Store (id : ObjectKey → ObjectKey)) (kind : ObjectKind) :
    Prop :=
  if c.settings.workflowRbac then s.Holds (c.desired kind)
  else kind = .serviceAccount ∨ s.get? (c.key kind) = none

theorem settled_of_wanted (h : c.settings.workflowRbac = true) :
    c.Settled s kind ↔ s.Holds (c.desired kind) := by
  rw [Settled, if_pos h]

theorem settled_of_unwanted (h : ¬ c.settings.workflowRbac = true) :
    c.Settled s kind ↔ kind = .serviceAccount ∨ s.get? (c.key kind) = none := by
  rw [Settled, if_neg h]

theorem key_injective (c : WorkflowContext) : Function.Injective c.key :=
  fun _ _ h => congrArg ObjectKey.kind h

theorem tended_eq_after (c : WorkflowContext) (s : Store (id : ObjectKey → ObjectKey))
    (kind : ObjectKind) :
    c.tended s kind = s ∨ ∃ change, change.key = c.key kind ∧ c.tended s kind = s.after change := by
  unfold tended
  split
  · unfold Store.mended
    split
    · exact Or.inr ⟨.put (c.desired kind), c.key_desired kind, rfl⟩
    · exact Or.inl rfl
  · cases kind with
    | serviceAccount => exact Or.inl rfl
    | role | roleBinding => exact Or.inr ⟨.erase _, rfl, rfl⟩

theorem get?_tended_of_ne {key : ObjectKey} (h : key ≠ c.key kind) :
    (c.tended s kind).get? key = s.get? key := by
  rcases c.tended_eq_after s kind with he | ⟨change, hk, he⟩
  · rw [he]
  · rw [he, Store.get?_after_of_ne (hk ▸ h)]

theorem filed_tended (hs : s.Filed) : (c.tended s kind).Filed := by
  rcases c.tended_eq_after s kind with he | ⟨change, _, he⟩
  · rwa [he]
  · rw [he]
    exact hs.after change

theorem settled_tended (hs : s.Filed) : c.Settled (c.tended s kind) kind := by
  unfold Settled tended
  split
  · exact Store.holds_mended hs
  · cases kind with
    | serviceAccount => exact Or.inl rfl
    | role | roleBinding => exact Or.inr (Store.get?_erase_self s _)

theorem Settled.tended_eq (h : c.Settled s kind) : c.tended s kind = s := by
  unfold Settled at h
  unfold tended
  split at h
  · rw [if_pos ‹_›, Store.mended, Store.repair?_of_holds h]
    rfl
  · rw [if_neg ‹_›]
    cases kind with
    | serviceAccount => rfl
    | role | roleBinding =>
      rcases h with h | h
      · cases h
      · exact Store.erase_of_absent h

theorem upkeepCalls_congr {s' : Store (id : ObjectKey → ObjectKey)}
    (h : s.get? (c.key kind) = s'.get? (c.key kind)) :
    c.upkeepCalls s kind = c.upkeepCalls s' kind := by
  simp only [upkeepCalls, Store.repair?, c.key_desired, h]

theorem settled_congr {s' : Store (id : ObjectKey → ObjectKey)}
    (h : s.get? (c.key kind) = s'.get? (c.key kind)) : c.Settled s kind ↔ c.Settled s' kind := by
  simp only [Settled, Store.Holds, c.key_desired, h]

theorem get?_foldl_tended {key : ObjectKey} {kinds : List ObjectKind}
    (h : ∀ kind ∈ kinds, key ≠ c.key kind) : (kinds.foldl c.tended s).get? key = s.get? key := by
  induction kinds generalizing s with
  | nil => rfl
  | cons kind rest ih =>
    rw [List.foldl_cons, ih fun k hk => h k (List.mem_cons_of_mem _ hk)]
    exact get?_tended_of_ne (h kind List.mem_cons_self)

theorem filed_foldl_tended {kinds : List ObjectKind} (hs : s.Filed) :
    (kinds.foldl c.tended s).Filed := by
  induction kinds generalizing s with
  | nil => exact hs
  | cons kind rest ih => exact ih (filed_tended hs)

/-- What one handler settles, those of other kinds leave so. -/
theorem settled_foldl_tended {kinds : List ObjectKind} (hs : s.Filed) (hn : kinds.Nodup) :
    ∀ kind ∈ kinds, c.Settled (kinds.foldl c.tended s) kind := by
  induction kinds generalizing s with
  | nil => simp
  | cons kind rest ih =>
    obtain ⟨hk, hrest⟩ := List.nodup_cons.mp hn
    intro k hmem
    rw [List.foldl_cons]
    rcases List.mem_cons.mp hmem with rfl | hmem
    · have hsame : (rest.foldl c.tended (c.tended s k)).get? (c.key k) =
          (c.tended s k).get? (c.key k) := by
        refine get?_foldl_tended fun k' hk' he => ?_
        obtain rfl := c.key_injective he
        exact hk hk'
      exact (settled_congr hsame).mpr (settled_tended hs)
    · exact ih (filed_tended hs) hrest k hmem

theorem get?_serviceAccount_of_unwanted (h : ¬ c.settings.workflowRbac = true) :
    (Workflow.handlerOrder.foldl c.tended s).get? (c.key .serviceAccount) =
      s.get? (c.key .serviceAccount) := by
  have hkept : c.tended s .serviceAccount = s := by rw [tended, if_neg h]
  rw [Workflow.handlerOrder, List.foldl_cons, hkept]
  refine get?_foldl_tended fun kind hk he => ?_
  obtain rfl := c.key_injective he
  exact absurd hk (by decide)

theorem flatMap_upkeepCalls_of_wanted (h : c.settings.workflowRbac = true)
    {kinds : List ObjectKind} :
    kinds.flatMap (c.upkeepCalls s) = kinds.flatMap fun kind =>
      .cluster (.get (c.key kind)) :: ((s.repair? (c.desired kind)).map Call.cluster).toList :=
  congrArg (List.flatMap · kinds) (funext fun _ => if_pos h)

theorem foldl_tended_of_settled {kinds : List ObjectKind} (h : ∀ kind ∈ kinds, c.Settled s kind) :
    kinds.foldl c.tended s = s := by
  induction kinds with
  | nil => rfl
  | cons kind rest ih =>
    rw [List.foldl_cons, (h kind List.mem_cons_self).tended_eq]
    exact ih fun k hk => h k (List.mem_cons_of_mem _ hk)

end WorkflowContext

namespace Operator
variable {c : WorkflowContext} {kind : ObjectKind} {s : Rehearsal (id : ObjectKey → ObjectKey)}

theorem reaches_get (hs : s.Calm) {operation : String} {key : ObjectKey} :
    Attempt.Reaches Rehearsal.surroundings ((client.get key).race operation) s
      (s.store.get? key) [.cluster (.get key)] s :=
  hs.reaches_ask rfl

theorem reaches_create (hs : s.Calm) {operation : String} {o : ManagedObject}
    (hg : s.store.get? o.key = none) :
    Attempt.Reaches Rehearsal.surroundings ((client.create o).race operation) s ()
      [.cluster (.create o)] { s with store := s.store.put o } := by
  refine hs.reaches_ask ?_
  simp [Rehearsal.perform, Store.create, hg, Rehearsal.ofStore]

theorem reaches_update (hs : s.Calm) {operation : String} {o : ManagedObject}
    (hv : s.store.versionOf? o.key = o.resourceVersion) :
    Attempt.Reaches Rehearsal.surroundings ((client.update o).race operation) s ()
      [.cluster (.update o)] { s with store := s.store.put o } := by
  refine hs.reaches_ask ?_
  simp [Rehearsal.perform, Store.update, hv, Rehearsal.ofStore]

theorem reaches_converge (hs : s.Calm) {operation name : String} {current desired : ManagedObject}
    (hf : s.store.Filed) (hg : s.store.get? desired.key = some current) :
    Attempt.Reaches Rehearsal.surroundings ((client.converge name current desired).race operation)
      s () ((s.store.repair? desired).map Call.cluster).toList
      { s with store := s.store.mended desired } := by
  have hk : current.kind = desired.kind := congrArg ObjectKey.kind (hf _ _ hg)
  obtain ⟨drifted, hd⟩ := ManagedObject.drifted?_of_kind hk
  cases drifted with
  | false =>
    have hr : s.store.repair? desired = none := Store.repair?_of_holds ⟨current, hg, hd⟩
    simp only [Client.converge, hd, Store.mended, hr]
    exact Attempt.reaches_settle () hs.cancelled
  | true =>
    have hr : s.store.repair? desired =
        some (.update (desired.withVersion current.resourceVersion)) := by
      simp [Store.repair?, hg, hd]
    simp only [Client.converge, hd, Store.mended, hr]
    rw [← Store.put_withVersion current.resourceVersion desired]
    refine reaches_update hs ?_
    simp [Store.versionOf?, hg]

/-- What one handler does in a rehearsal in which nothing goes wrong. -/
theorem reaches_apply (c : WorkflowContext) (kind : ObjectKind) (hs : s.Calm)
    (hf : s.store.Filed) :
    ∃ applied, Attempt.Reaches Rehearsal.surroundings (handler kind c).apply s applied
      (c.upkeepCalls s.store kind) { s with store := c.tended s.store kind } := by
  by_cases hr : c.settings.workflowRbac = true
  · simp only [Handler.apply, handler, Workflow.handler, hr, if_true, WorkflowContext.upkeepCalls,
      WorkflowContext.tended]
    cases hg : s.store.get? (c.key kind) with
    | none =>
      refine ⟨.created, (hg ▸ reaches_get hs).bind ?_⟩
      have hk : s.store.get? (c.desired kind).key = none := by rw [c.key_desired, hg]
      have hm : s.store.repair? (c.desired kind) = some (.create (c.desired kind)) := by
        simp only [Store.repair?, hk]
      simp only [Store.mended, hm]
      exact (reaches_create hs hk).bind_pure _
    | some current =>
      refine ⟨.converged, (hg ▸ reaches_get hs).bind ?_⟩
      have hk : s.store.get? (c.desired kind).key = some current := by rw [c.key_desired, hg]
      exact (reaches_converge hs hf hk).bind_pure _
  · simp only [Handler.apply, handler, Workflow.handler, hr, WorkflowContext.upkeepCalls,
      WorkflowContext.tended]
    refine ⟨.removed, ?_⟩
    cases kind with
    | serviceAccount => exact (Attempt.reaches_settle () hs.cancelled).bind_pure _
    | role | roleBinding => exact (hs.reaches_ask rfl).bind_pure _

/-- The handlers of different kinds do not see the changes of each other. -/
theorem reaches_applyAll {kinds : List ObjectKind} (hs : s.Calm) (hf : s.store.Filed)
    (hn : kinds.Nodup) :
    ∃ applied, Attempt.Reaches Rehearsal.surroundings
      (Handler.applyAll (kinds.map fun kind => handler kind c)) s applied
      (kinds.flatMap (c.upkeepCalls s.store))
      { s with store := kinds.foldl c.tended s.store } := by
  induction kinds generalizing s with
  | nil => exact ⟨[], Attempt.reaches_pure _⟩
  | cons kind rest ih =>
    obtain ⟨hk, hrest⟩ := List.nodup_cons.mp hn
    obtain ⟨applied, ha⟩ := reaches_apply c kind hs hf
    obtain ⟨later, hl⟩ :=
      ih (hs.withStore (c.tended s.store kind)) (WorkflowContext.filed_tended hf) hrest
    have hcalls : rest.flatMap (c.upkeepCalls (c.tended s.store kind)) =
        rest.flatMap (c.upkeepCalls s.store) := by
      rw [List.flatMap_def, List.flatMap_def]
      refine congrArg List.flatten (List.map_congr_left fun k hmem => ?_)
      refine WorkflowContext.upkeepCalls_congr ?_
      refine WorkflowContext.get?_tended_of_ne fun he => ?_
      obtain rfl := c.key_injective he
      exact hk hmem
    rw [hcalls] at hl
    exact ⟨applied :: later, ha.bind (hl.bind_pure _)⟩

/-- A pass over the objects of the workflows of a build, in a rehearsal. -/
def rehearse (settings : Settings) (b : Build) (s : Rehearsal (id : ObjectKey → ObjectKey)) :
    Outcome (Rehearsal (id : ObjectKey → ObjectKey)) Call Call.Answer
      (Except Failure (List Applied)) :=
  ((reconciler settings).reconcileResources b).run.run Rehearsal.surroundings s

section
variable (settings : Settings) (b : Build)

theorem reaches_rehearse (hs : s.Calm) (hf : s.store.Filed) :
    ∃ applied, Attempt.Reaches Rehearsal.surroundings ((reconciler settings).reconcileResources b)
      s applied
      (Workflow.handlerOrder.flatMap (WorkflowContext.upkeepCalls ⟨b, settings⟩ s.store))
      { s with
        store := Workflow.handlerOrder.foldl (WorkflowContext.tended ⟨b, settings⟩) s.store } :=
  reaches_applyAll hs hf (by decide)

theorem calls_rehearse (hs : s.Calm) (hf : s.store.Filed) :
    (rehearse settings b s).calls =
      Workflow.handlerOrder.flatMap (WorkflowContext.upkeepCalls ⟨b, settings⟩ s.store) := by
  obtain ⟨_, h⟩ := reaches_rehearse settings b hs hf
  exact h.calls

theorem state_rehearse (hs : s.Calm) (hf : s.store.Filed) :
    (rehearse settings b s).state =
      { s with
        store := Workflow.handlerOrder.foldl (WorkflowContext.tended ⟨b, settings⟩) s.store } := by
  obtain ⟨_, h⟩ := reaches_rehearse settings b hs hf
  exact h.state

theorem calm_rehearse (hs : s.Calm) (hf : s.store.Filed) : (rehearse settings b s).state.Calm := by
  rw [state_rehearse settings b hs hf]
  exact hs.withStore _

theorem filed_rehearse (hs : s.Calm) (hf : s.store.Filed) :
    (rehearse settings b s).state.store.Filed := by
  rw [state_rehearse settings b hs hf]
  exact WorkflowContext.filed_foldl_tended hf

theorem settled_rehearse (hs : s.Calm) (hf : s.store.Filed) (kind : ObjectKind) :
    WorkflowContext.Settled ⟨b, settings⟩ (rehearse settings b s).state.store kind := by
  have hmem : kind ∈ Workflow.handlerOrder := by cases kind <;> decide
  rw [state_rehearse settings b hs hf]
  exact WorkflowContext.settled_foldl_tended hf (by decide) kind hmem

theorem state_rehearse_again (hs : s.Calm) (hf : s.store.Filed) :
    (rehearse settings b (rehearse settings b s).state).state = (rehearse settings b s).state := by
  rw [state_rehearse settings b (calm_rehearse settings b hs hf) (filed_rehearse settings b hs hf),
    WorkflowContext.foldl_tended_of_settled fun kind _ => settled_rehearse settings b hs hf kind]

end
end Operator

/-- In a rehearsal in which nothing goes wrong a pass succeeds. Where the objects of the workflows
are wanted each of them is there afterwards and has not drifted, by the one write that it needed, if
any; otherwise the role and the binding are gone and the service account is as it was. So are all
other objects, and a second pass changes nothing. -/
theorem converges_of_rehearse (settings : Settings) (b : Build)
    {s : Rehearsal (id : ObjectKey → ObjectKey)} (hs : s.Calm) (hf : s.store.Filed) :
    let c : WorkflowContext := ⟨b, settings⟩
    let pass := Operator.rehearse settings b s
    let again := Operator.rehearse settings b pass.state
    (∃ applied, pass.result = .ok applied) ∧
    (settings.workflowRbac = true →
      (∀ kind, ∃ stored, pass.state.store.get? (c.key kind) = some stored ∧
        stored.drifted? (c.desired kind) = some false) ∧
      pass.calls = Workflow.handlerOrder.flatMap fun kind =>
        .cluster (.get (c.key kind)) ::
          ((s.store.repair? (c.desired kind)).map Call.cluster).toList) ∧
    (settings.workflowRbac = false →
      pass.state.store.get? (c.key .role) = none ∧
      pass.state.store.get? (c.key .roleBinding) = none ∧
      pass.state.store.get? (c.key .serviceAccount) = s.store.get? (c.key .serviceAccount) ∧
      pass.calls = [.cluster (.delete (c.key .role)), .cluster (.delete (c.key .roleBinding))]) ∧
    (∀ key, (∀ kind, key ≠ c.key kind) → pass.state.store.get? key = s.store.get? key) ∧
    again.state = pass.state ∧
    (settings.workflowRbac = true →
      again.calls = Workflow.handlerOrder.map fun kind => .cluster (.get (c.key kind))) := by
  intro c pass again
  have hstate := Operator.state_rehearse settings b hs hf
  have hcalls := Operator.calls_rehearse settings b hs hf
  have hsettled := Operator.settled_rehearse settings b hs hf
  refine ⟨?_, fun hr => ⟨fun kind => ?_, ?_⟩, fun hr => ?_, fun key hk => ?_,
    Operator.state_rehearse_again settings b hs hf, fun hr => ?_⟩
  · obtain ⟨applied, hp⟩ := Operator.reaches_rehearse settings b hs hf
    exact ⟨applied, hp.result⟩
  · have hk := (WorkflowContext.settled_of_wanted hr).mp (hsettled kind)
    rwa [Store.Holds, c.key_desired] at hk
  · exact hcalls.trans (WorkflowContext.flatMap_upkeepCalls_of_wanted hr)
  · have hoff : ¬ c.settings.workflowRbac = true := ne_true_of_eq_false hr
    have hgone (kind : ObjectKind) (hk : kind ≠ .serviceAccount) :
        pass.state.store.get? (c.key kind) = none :=
      ((WorkflowContext.settled_of_unwanted hoff).mp (hsettled kind)).resolve_left hk
    refine ⟨hgone .role (by decide), hgone .roleBinding (by decide), ?_, ?_⟩
    · rw [hstate]
      exact WorkflowContext.get?_serviceAccount_of_unwanted hoff
    · rw [hcalls]
      simp [Workflow.handlerOrder, WorkflowContext.upkeepCalls, hr, c]
  · rw [hstate]
    exact WorkflowContext.get?_foldl_tended fun kind _ => hk kind
  · have hcalm := Operator.calm_rehearse settings b hs hf
    have hfiled := Operator.filed_rehearse settings b hs hf
    refine (Operator.calls_rehearse settings b hcalm hfiled).trans ?_
    rw [WorkflowContext.flatMap_upkeepCalls_of_wanted hr, List.map_eq_flatMap]
    refine congrArg (List.flatMap · Workflow.handlerOrder) (funext fun kind => ?_)
    have hk := (WorkflowContext.settled_of_wanted hr).mp (hsettled kind)
    rw [Store.repair?_of_holds hk]
    rfl

def checkoutContext : WorkflowContext := ⟨Build.checkout, {}⟩

/-- The role of the workflows, but it allows nothing. -/
def bareRole : ManagedObject := .role { checkoutContext.role with rules := none }

/-- A cluster with that role and nothing else. -/
def bareCluster : Rehearsal (id : ObjectKey → ObjectKey) where
  store := Store.put {} bareRole
  now := .epoch

theorem drifted?_bareRole (v : Option String) :
    (bareRole.withVersion v).drifted? (checkoutContext.desired .role) = some true := by
  simp [bareRole, ManagedObject.withVersion, ManagedObject.withMetadata, ManagedObject.drifted?,
    WorkflowContext.desired, Role.drifted, WorkflowContext.role, pairwiseSame]

theorem repair?_bareCluster (kind : ObjectKind) :
    bareCluster.store.repair? (checkoutContext.desired kind) =
      if kind = .role then
        some (.update ((checkoutContext.desired .role).withVersion (some "1")))
      else some (.create (checkoutContext.desired kind)) := by
  by_cases hk : kind = .role
  · subst hk
    have hg : bareCluster.store.get? (checkoutContext.desired .role).key =
        some (bareRole.withVersion (some "1")) := Store.get?_put_self {} bareRole
    rw [if_pos rfl, Store.repair?, hg]
    simp only [drifted?_bareRole, if_true, ManagedObject.resourceVersion_withVersion]
  · have hg : bareCluster.store.get? (checkoutContext.desired kind).key = none := by
      refine (Store.get?_put_of_ne {} fun he => hk ?_).trans rfl
      rw [checkoutContext.key_desired] at he
      exact congrArg ObjectKey.kind he
    rw [if_neg hk, Store.repair?, hg]

theorem converges_of_bareCluster : bareCluster.Calm ∧ bareCluster.store.Filed ∧
    (Operator.rehearse {} Build.checkout bareCluster).calls = [
      .cluster (.get (checkoutContext.key .serviceAccount)),
      .cluster (.create (checkoutContext.desired .serviceAccount)),
      .cluster (.get (checkoutContext.key .role)),
      .cluster (.update ((checkoutContext.desired .role).withVersion (some "1"))),
      .cluster (.get (checkoutContext.key .roleBinding)),
      .cluster (.create (checkoutContext.desired .roleBinding))] ∧
    ∀ kind, ∃ stored,
      (Operator.rehearse {} Build.checkout bareCluster).state.store.get?
        (checkoutContext.key kind) = some stored ∧
      stored.drifted? (checkoutContext.desired kind) = some false := by
  have hcalm : bareCluster.Calm := ⟨rfl, rfl⟩
  have hfiled : bareCluster.store.Filed := Store.filed_empty.after (.put bareRole)
  obtain ⟨_, hwanted, _⟩ := converges_of_rehearse {} Build.checkout hcalm hfiled
  obtain ⟨hholds, hcalls⟩ := hwanted rfl
  refine ⟨hcalm, hfiled, hcalls.trans ?_, hholds⟩
  simp only [Workflow.handlerOrder, List.flatMap_cons, List.flatMap_nil]
  rw [show (⟨Build.checkout, {}⟩ : WorkflowContext) = checkoutContext from rfl]
  simp [repair?_bareCluster]

end BuildOperator
