import BuildOperator.Proofs.Convergence
import BuildOperator.Proofs.NormalForm
/-!
# Objects that builds share

The builds of a project have the objects of its workflows in common, and each build wants them to
carry its own component. A pass therefore finds them as the last pass before it left them if both
are for one component, and otherwise it updates all three, whatever passes there were before.
-/
namespace BuildOperator

namespace WorkflowContext
variable {b b' : Build}

theorem label?_component (c : WorkflowContext) (name : String) :
    (c.metadata name).label? componentLabel = some c.build.spec.component := by
  refine (Dictionary.get?_ofList_of_nodup ?_).mpr ?_
  · simp [managedByLabel, projectLabel, componentLabel]
  · simp

section
variable (settings : Settings) (hp : b.spec.project = b'.spec.project)
include hp

theorem ciNamespace_congr : ciNamespace ⟨b, settings⟩ = ciNamespace ⟨b', settings⟩ := by
  simp only [ciNamespace, hp]

theorem key_congr (kind : ObjectKind) : key ⟨b, settings⟩ kind = key ⟨b', settings⟩ kind := by
  simp only [key, ciNamespace_congr settings hp]

theorem desired_congr (hc : b.spec.component = b'.spec.component) (kind : ObjectKind) :
    desired ⟨b, settings⟩ kind = desired ⟨b', settings⟩ kind := by
  have hm (name : String) : metadata ⟨b, settings⟩ name = metadata ⟨b', settings⟩ name := by
    simp only [metadata, labels, Build.labels, ciNamespace_congr settings hp, hp, hc]
  cases kind with
  | serviceAccount => simp only [desired, serviceAccount, hm]
  | role => simp only [desired, role, hm]
  | roleBinding => simp only [desired, roleBinding, hm, ciNamespace_congr settings hp]

theorem normal_desired_iff (kind : ObjectKind) :
    (desired ⟨b, settings⟩ kind).normal = (desired ⟨b', settings⟩ kind).normal ↔
      b.spec.component = b'.spec.component := by
  refine ⟨fun h => ?_, fun hc => by rw [desired_congr settings hp hc]⟩
  obtain ⟨name, hm⟩ : ∃ name, ∀ c : WorkflowContext,
      (c.desired kind).metadata = c.metadata name := by
    cases kind with
    | serviceAccount | role | roleBinding => exact ⟨_, fun _ => rfl⟩
  have hn : (metadata ⟨b, settings⟩ name).normal = (metadata ⟨b', settings⟩ name).normal := by
    rw [← hm, ← hm, ← ManagedObject.metadata_normal, ← ManagedObject.metadata_normal, h]
  have hl := Metadata.normal_eq_iff.mp hn componentLabel (by decide)
  simpa [label?_component] using hl

end
end WorkflowContext

/-- What holds as one object is desired is written again exactly if the other differs. -/
theorem Store.Holds.repair?_eq {s : Store (id : ObjectKey → ObjectKey)}
    {desired desired' : ManagedObject} (h : s.Holds desired) (hk : desired'.key = desired.key) :
    s.repair? desired' =
      if desired.normal = desired'.normal then none
      else some (.update (desired'.withVersion (s.versionOf? desired'.key))) := by
  obtain ⟨stored, hg, hd⟩ := h
  have hn : stored.normal = desired.normal := ManagedObject.drifted?_eq_false_iff.mp hd
  have hkind : desired.kind = desired'.kind := (congrArg ObjectKey.kind hk).symm
  rw [repair?, versionOf?, hk, hg]
  simp only [(ManagedObject.drifted?_congr hn desired').1, ManagedObject.drifted?_eq hkind]
  by_cases he : desired.normal = desired'.normal
  · simp [he]
  · simp [he]

namespace Operator

/-- Passes for builds, one after the other. -/
def rehearseAll (settings : Settings) (builds : List Build)
    (s : Rehearsal (id : ObjectKey → ObjectKey)) : Rehearsal (id : ObjectKey → ObjectKey) :=
  builds.foldl (fun s b => (rehearse settings b s).state) s

/-- The calls of these passes. -/
def callsOfAll (settings : Settings) :
    List Build → Rehearsal (id : ObjectKey → ObjectKey) → List Call
  | [], _ => []
  | b :: rest, s =>
    (rehearse settings b s).calls ++ callsOfAll settings rest (rehearse settings b s).state

/-- The calls of a pass for a build where the last pass was for another one of the project. -/
def takeover (settings : Settings) (last next : Build)
    (store : Store (id : ObjectKey → ObjectKey)) : List Call :=
  let c : WorkflowContext := ⟨next, settings⟩
  Workflow.handlerOrder.flatMap fun kind =>
    .cluster (.get (c.key kind)) ::
      if last.spec.component = next.spec.component then []
      else [.cluster (.update ((c.desired kind).withVersion (store.versionOf? (c.key kind))))]

section
variable (settings : Settings) {s : Rehearsal (id : ObjectKey → ObjectKey)}

theorem rehearseAll_append (builds more : List Build) :
    rehearseAll settings (builds ++ more) s =
      rehearseAll settings more (rehearseAll settings builds s) :=
  List.foldl_append

theorem mem_callsOfAll {call : Call} {builds : List Build} :
    call ∈ callsOfAll settings builds s ↔ ∃ earlier b rest, builds = earlier ++ b :: rest ∧
      call ∈ (rehearse settings b (rehearseAll settings earlier s)).calls := by
  induction builds generalizing s with
  | nil => simp [callsOfAll]
  | cons b rest ih =>
    rw [callsOfAll, List.mem_append, ih]
    constructor
    · rintro (hc | ⟨earlier, b', rest', rfl, hc⟩)
      · exact ⟨[], b, rest, rfl, hc⟩
      · exact ⟨b :: earlier, b', rest', rfl, hc⟩
    · rintro ⟨earlier, b', rest', he, hc⟩
      cases earlier with
      | nil =>
        obtain ⟨rfl, rfl⟩ := List.cons.inj he
        exact Or.inl hc
      | cons x earlier =>
        obtain ⟨rfl, rfl⟩ := List.cons.inj he
        exact Or.inr ⟨earlier, b', rest', rfl, hc⟩

theorem ready_rehearseAll (hs : s.Calm) (hf : s.store.Filed) (builds : List Build) :
    (rehearseAll settings builds s).Calm ∧ (rehearseAll settings builds s).store.Filed := by
  induction builds generalizing s with
  | nil => exact ⟨hs, hf⟩
  | cons b rest ih => exact ih (calm_rehearse settings b hs hf) (filed_rehearse settings b hs hf)

theorem calls_rehearse_after (hw : settings.workflowRbac = true) (hs : s.Calm)
    (hf : s.store.Filed) (earlier : List Build) {last next : Build}
    (hp : last.spec.project = next.spec.project) :
    (rehearse settings next (rehearseAll settings (earlier ++ [last]) s)).calls =
      takeover settings last next (rehearseAll settings (earlier ++ [last]) s).store := by
  obtain ⟨hcalm, hfiled⟩ := ready_rehearseAll settings hs hf (earlier ++ [last])
  have hholds (kind : ObjectKind) : (rehearseAll settings (earlier ++ [last]) s).store.Holds
      (WorkflowContext.desired ⟨last, settings⟩ kind) := by
    obtain ⟨hc, hfe⟩ := ready_rehearseAll settings hs hf earlier
    rw [rehearseAll_append]
    exact (WorkflowContext.settled_of_wanted hw).mp (settled_rehearse settings last hc hfe kind)
  rw [calls_rehearse settings next hcalm hfiled, takeover,
    WorkflowContext.flatMap_upkeepCalls_of_wanted hw]
  refine congrArg (List.flatMap · _) (funext fun kind => congrArg (List.cons _) ?_)
  have hkey : (WorkflowContext.desired ⟨next, settings⟩ kind).key =
      (WorkflowContext.desired ⟨last, settings⟩ kind).key := by
    rw [WorkflowContext.key_desired, WorkflowContext.key_desired,
      WorkflowContext.key_congr settings hp]
  rw [(hholds kind).repair?_eq hkey, WorkflowContext.key_desired]
  simp only [WorkflowContext.normal_desired_iff settings hp]
  split <;> rfl

theorem name_of_mem_takeover {last next : Build} {store : Store (id : ObjectKey → ObjectKey)}
    {call : Call} (h : call ∈ takeover settings last next store) :
    call.name ≠ .create ∧ (last.spec.component = next.spec.component → call.name ≠ .update) := by
  obtain ⟨kind, _, hc⟩ := List.mem_flatMap.mp h
  rcases List.mem_cons.mp hc with rfl | hc
  · simp [Call.name]
  · split at hc
    · cases hc
    · next hne =>
      obtain rfl := List.mem_singleton.mp hc
      exact ⟨by simp [Call.name], fun he => absurd he hne⟩

theorem exists_update_of_takeover {last next : Build}
    (h : last.spec.component ≠ next.spec.component) (store : Store (id : ObjectKey → ObjectKey)) :
    ∃ call ∈ takeover settings last next store, call.name = .update := by
  refine ⟨.cluster (.update ((WorkflowContext.desired ⟨next, settings⟩ .role).withVersion
    (store.versionOf? (WorkflowContext.key ⟨next, settings⟩ .role)))), ?_, rfl⟩
  refine List.mem_flatMap.mpr ⟨.role, by decide, List.mem_cons_of_mem _ ?_⟩
  rw [if_neg h]
  exact List.mem_singleton_self _

theorem takeover_of_mem_callsOfAll (hw : settings.workflowRbac = true) {project : String}
    {history : List Build} (hp : ∀ b ∈ history, b.spec.project = project) (hs : s.Calm)
    (hf : s.store.Filed) {later : List Build} (hsub : later ⊆ history) {call : Call}
    (hc : call ∈ callsOfAll settings later (rehearseAll settings history s)) :
    ∃ last ∈ history, ∃ next ∈ history, ∃ store, call ∈ takeover settings last next store := by
  obtain ⟨earlier, next, rest, rfl, hcall⟩ := (mem_callsOfAll settings).mp hc
  have hn : next ∈ history := hsub (by simp)
  obtain ⟨passes, last, he⟩ : ∃ passes last, history ++ earlier = passes ++ [last] := by
    refine (List.eq_nil_or_concat' _).resolve_left fun he => ?_
    rw [(List.append_eq_nil_iff.mp he).1] at hn
    cases hn
  have hl : last ∈ history := by
    have hmem : last ∈ history ++ earlier := by simp [he]
    rcases List.mem_append.mp hmem with hm | hm
    · exact hm
    · exact hsub (List.mem_append_left _ hm)
  have hproject : last.spec.project = next.spec.project := (hp last hl).trans (hp next hn).symm
  rw [← rehearseAll_append, he, calls_rehearse_after settings hw hs hf passes hproject] at hcall
  exact ⟨last, hl, next, hn, _, hcall⟩

end
end Operator

/-- Passes for builds of one project never fail, and once there was one none creates anything. Each
updates all three objects if the one before it was for another component, and makes no write
otherwise. So the builds leave the objects alone for good, in whatever order their passes come,
exactly if all of them are for one component. -/
theorem quiet_iff_one_component (settings : Settings) (hw : settings.workflowRbac = true)
    {project : String} {history : List Build} (hp : ∀ b ∈ history, b.spec.project = project)
    {s : Rehearsal (id : ObjectKey → ObjectKey)} (hs : s.Calm) (hf : s.store.Filed) :
    (∀ earlier next, ∃ applied,
      (Operator.rehearse settings next (Operator.rehearseAll settings earlier s)).result =
        .ok applied) ∧
    (∀ earlier, ∀ last ∈ history, ∀ next ∈ history,
      (Operator.rehearse settings next
        (Operator.rehearseAll settings (earlier ++ [last]) s)).calls =
      Operator.takeover settings last next
        (Operator.rehearseAll settings (earlier ++ [last]) s).store) ∧
    (∀ later ⊆ history, ∀ call ∈ Operator.callsOfAll settings later
      (Operator.rehearseAll settings history s), call.name ≠ .create) ∧
    ((∀ later ⊆ history, ∀ call ∈ Operator.callsOfAll settings later
      (Operator.rehearseAll settings history s), call.name ≠ .update) ↔
      ∀ b ∈ history, ∀ b' ∈ history, b.spec.component = b'.spec.component) := by
  have hcalls (earlier : List Build) (last : Build) (hl : last ∈ history) (next : Build)
      (hn : next ∈ history) := Operator.calls_rehearse_after settings hw hs hf earlier
        ((hp last hl).trans (hp next hn).symm)
  refine ⟨fun earlier next => ?_, hcalls, fun later hsub call hc => ?_, ⟨fun h b hb b' hb' => ?_,
    fun h later hsub call hc => ?_⟩⟩
  · obtain ⟨hcalm, hfiled⟩ := Operator.ready_rehearseAll settings hs hf earlier
    obtain ⟨applied, hr⟩ := Operator.reaches_rehearse settings next hcalm hfiled
    exact ⟨applied, hr.result⟩
  · obtain ⟨_, _, _, _, _, hm⟩ :=
      Operator.takeover_of_mem_callsOfAll settings hw hp hs hf hsub hc
    exact (Operator.name_of_mem_takeover settings hm).1
  · -- One further pass for each of the two builds shows whether they differ.
    by_contra hne
    obtain ⟨call, hm, hu⟩ := Operator.exists_update_of_takeover settings hne
      (Operator.rehearseAll settings (history ++ [b]) s).store
    rw [← hcalls history b hb b' hb', Operator.rehearseAll_append] at hm
    refine h [b, b'] (by simp [hb, hb']) call ?_ hu
    exact (Operator.mem_callsOfAll settings).mpr ⟨[b], b', [], rfl, hm⟩
  · obtain ⟨last, hl, next, hn, _, hm⟩ :=
      Operator.takeover_of_mem_callsOfAll settings hw hp hs hf hsub hc
    exact (Operator.name_of_mem_takeover settings hm).2 (h last hl next hn)

/-- A later build of the same component. -/
def Build.checkoutAgain : Build := { Build.checkout with
  metadata := { name := some "checkout-build-4", space := some "shop", generation := some 1 } }

/-- A build of another component of the same project. -/
def Build.cart : Build where
  metadata := { name := some "cart-build-1", space := some "shop", generation := some 1 }
  spec := { project := "shop", component := "cart" }

theorem calm_bareCluster : bareCluster.Calm := ⟨rfl, rfl⟩

theorem filed_bareCluster : bareCluster.store.Filed := Store.filed_empty.after (.put bareRole)

theorem quiet_of_checkouts : bareCluster.Calm ∧ bareCluster.store.Filed ∧
    ∀ later ⊆ [Build.checkout, Build.checkoutAgain], ∀ call ∈ Operator.callsOfAll {} later
      (Operator.rehearseAll {} [Build.checkout, Build.checkoutAgain] bareCluster),
      call.name ≠ .create ∧ call.name ≠ .update := by
  have hp : ∀ b ∈ [Build.checkout, Build.checkoutAgain], b.spec.project = "shop" := by decide
  obtain ⟨_, _, hcreate, hupdate⟩ :=
    quiet_iff_one_component {} rfl hp calm_bareCluster filed_bareCluster
  refine ⟨calm_bareCluster, filed_bareCluster, ?_⟩
  intro later hsub call hc
  exact ⟨hcreate later hsub call hc, hupdate.mpr (by decide) later hsub call hc⟩

/-- After a pass for each of two builds, the next pass for the first writes everything again. -/
theorem contested_of_checkout_and_cart : Build.checkout.spec.project = Build.cart.spec.project ∧
    ((Operator.rehearse {} Build.checkout
      (Operator.rehearseAll {} [Build.checkout, Build.cart] bareCluster)).calls.map Call.name) =
      [.get, .update, .get, .update, .get, .update] ∧
    ¬ ∀ later ⊆ [Build.checkout, Build.cart], ∀ call ∈ Operator.callsOfAll {} later
      (Operator.rehearseAll {} [Build.checkout, Build.cart] bareCluster),
      call.name ≠ .create ∧ call.name ≠ .update := by
  have hproject : Build.cart.spec.project = Build.checkout.spec.project := rfl
  have hcalls := Operator.calls_rehearse_after {} rfl calm_bareCluster filed_bareCluster
    [Build.checkout] hproject
  have hnames : (Operator.rehearse {} Build.checkout
      (Operator.rehearseAll {} [Build.checkout, Build.cart] bareCluster)).calls.map Call.name =
      [.get, .update, .get, .update, .get, .update] := congrArg (List.map Call.name) hcalls
  refine ⟨rfl, hnames, fun h => ?_⟩
  have hm : CallName.update ∈ (Operator.rehearse {} Build.checkout
      (Operator.rehearseAll {} [Build.checkout, Build.cart] bareCluster)).calls.map Call.name := by
    rw [hnames]
    decide
  obtain ⟨call, hc, hu⟩ := List.mem_map.mp hm
  refine (h [Build.checkout] (by simp) call ?_).2 hu
  exact (Operator.mem_callsOfAll {}).mpr ⟨[], Build.checkout, [], rfl, hc⟩

end BuildOperator
