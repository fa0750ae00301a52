import BuildOperator.Proofs.Careful
import BuildOperator.Proofs.Convergence
import Mathlib.Logic.Function.Basic
import Std.Data.String.ToNat
/-!
# Interleaving

Any number of passes work on one cluster, call by call and in any order, and others change its
objects at any time. An update that the cluster takes from a pass replaces what that pass read just
before, and nobody changed it in between; a creation that it takes fills an empty place. Every other
write of a pass changes nothing, and the pass ends with a conflict.
-/
namespace BuildOperator

/-- A cluster and the passes that are under way on it. -/
structure Scene (ι : Type) where
  cluster : Rehearsal (id : ObjectKey → ObjectKey)
  passes : ι → Pass Call Call.Answer (Except Failure (List Applied))

/-- What happens on a cluster: a call of one of the passes, or a change that others make. -/
inductive Happening (ι : Type) where
  | call (i : ι) (exchange : Exchange Call Call.Answer)
  | other (change : Change)

namespace Happening
variable {ι : Type}

def change? : Happening ι → Option Change
  | call _ exchange => exchange.change?
  | other change => some change

/-- The object with that key was written or deleted. -/
def Alters (h : Happening ι) (key : ObjectKey) : Prop := ∃ c, h.change? = some c ∧ c.key = key

def IsBy (h : Happening ι) (i : ι) : Prop := ∃ exchange, h = .call i exchange

end Happening

namespace Scene
variable {ι : Type} [DecidableEq ι] {s s' : Scene ι} {log news : List (Happening ι)} {i : ι}

def goOn (s : Scene ι) (i : ι) (p : Pass Call Call.Answer (Except Failure (List Applied))) :
    Scene ι :=
  { s with passes := Function.update s.passes i p }

@[simp] theorem passes_goOn_self
    {p : Pass Call Call.Answer (Except Failure (List Applied))} : (s.goOn i p).passes i = p := by
  simp only [goOn, Function.update_self]

theorem passes_goOn_of_ne {p : Pass Call Call.Answer (Except Failure (List Applied))} {j : ι}
    (h : j ≠ i) : (s.goOn i p).passes j = s.passes j := by
  simp only [goOn, Function.update_of_ne h]

/-- A pass reads the clock or the token, a pass makes a call, or others change an object. -/
inductive Step : Scene ι → List (Happening ι) → Scene ι → Prop where
  | clock {s : Scene ι} {i : ι}
      {resume : Timestamp → Pass Call Call.Answer (Except Failure (List Applied))}
      (h : s.passes i = .clock resume) (now : Timestamp) : Step s [] (s.goOn i (resume now))
  | token {s : Scene ι} {i : ι}
      {resume : Bool → Pass Call Call.Answer (Except Failure (List Applied))}
      (h : s.passes i = .token resume) (cancelled : Bool) :
      Step s [] (s.goOn i (resume cancelled))
  | call {s : Scene ι} {i : ι} {q : Call}
      {resume : Reply q.Answer → Pass Call Call.Answer (Except Failure (List Applied))}
      (h : s.passes i = .call q resume) :
      Step s [.call i ⟨q, .settled (Rehearsal.perform q s.cluster).1⟩]
        { s.goOn i (resume (.settled (Rehearsal.perform q s.cluster).1)) with
          cluster := (Rehearsal.perform q s.cluster).2 }
  | other {s : Scene ι} (c : Change) :
      Step s [.other c] { s with cluster := { s.cluster with store := s.cluster.store.after c } }

/-- What may have happened from a start on, and the scene after it. -/
inductive Runs (start : Scene ι) : List (Happening ι) → Scene ι → Prop where
  | start : Runs start [] start
  | step {log news : List (Happening ι)} {s s' : Scene ι} (h : Runs start log s)
      (hs : s.Step news s') : Runs start (log ++ news) s'

end Scene

/-- The last call of pass `i` found `current`, with the `n`-th version; `between` happened since. As
long as nobody alters the object it is stored as it was read, and afterwards only with newer
versions. -/
structure LastRead {ι : Type} (log : List (Happening ι)) (s : Store (id : ObjectKey → ObjectKey))
    (i : ι) (current : ManagedObject) (between : List (Happening ι)) (n : Nat) : Prop where
  read : ∃ before, log = before ++ .call i (.reading current) :: between
  idle : ∀ h ∈ between, ¬ h.IsBy i
  version : current.resourceVersion = some (toString n)
  given : n ≤ s.writes
  kept : (∀ h ∈ between, ¬ h.Alters current.key) → s.get? current.key = some current
  newer : (∃ h ∈ between, h.Alters current.key) → ∀ o, s.get? current.key = some o →
    ∃ m, n < m ∧ o.resourceVersion = some (toString m)

namespace LastRead
variable {ι : Type} {log between : List (Happening ι)} {s : Store (id : ObjectKey → ObjectKey)}
  {i : ι} {current : ManagedObject} {n : Nat}

theorem next (h : LastRead log s i current between n) {x : Happening ι} (hx : ¬ x.IsBy i) :
    LastRead (log ++ [x]) (s.afterAny x.change?) i current (between ++ [x]) n where
  read := by
    obtain ⟨before, hl⟩ := h.read
    exact ⟨before, by rw [hl, List.append_assoc, List.cons_append]⟩
  idle := by
    intro y hy
    rcases List.mem_append.mp hy with hy | hy
    · exact h.idle y hy
    · rwa [List.mem_singleton.mp hy]
  version := h.version
  given := by
    cases hc : x.change? with
    | none => exact h.given
    | some c => exact Nat.le_trans h.given (s.writes_le_after c)
  kept := by
    intro hall
    have hkeep : s.get? current.key = some current :=
      h.kept fun y hy => hall y (List.mem_append_left _ hy)
    cases hc : x.change? with
    | none => exact hkeep
    | some c =>
      have hne : current.key ≠ c.key := fun he =>
        hall x (List.mem_append_right _ List.mem_cons_self) ⟨c, hc, he.symm⟩
      exact (Store.get?_after_of_ne hne).trans hkeep
  newer := by
    rintro ⟨y, hy, ha⟩ o ho
    by_cases hxa : x.Alters current.key
    · obtain ⟨c, hc, hk⟩ := hxa
      rw [hc, ← hk] at ho
      exact ⟨s.writes + 1, Nat.lt_succ_of_le h.given, (Store.of_get?_after_key ho).2.2⟩
    · have hybetween : y ∈ between := by
        rcases List.mem_append.mp hy with hy | hy
        · exact hy
        · obtain rfl := List.mem_singleton.mp hy
          exact absurd ha hxa
      refine h.newer ⟨y, hybetween, ha⟩ o ?_
      cases hc : x.change? with
      | none => rwa [hc] at ho
      | some c =>
        rw [hc] at ho
        have hne : current.key ≠ c.key := fun he => hxa ⟨c, hc, he.symm⟩
        exact (Store.get?_after_of_ne hne).symm.trans ho

/-- The stored version is the one that was read as long as nobody altered the object. -/
theorem versionOf?_eq_iff (h : LastRead log s i current between n) :
    s.versionOf? current.key = current.resourceVersion ↔
      ∀ h ∈ between, ¬ h.Alters current.key := by
  constructor
  · intro he y hy ha
    cases hg : s.get? current.key with
    | none => simp [Store.versionOf?, hg, h.version] at he
    | some o =>
      obtain ⟨m, hm, hv⟩ := h.newer ⟨y, hy, ha⟩ o hg
      simp only [Store.versionOf?, hg, Option.bind_some, hv, h.version, Option.some.injEq] at he
      exact Nat.lt_irrefl n (Nat.repr_injective he ▸ hm)
  · intro hall
    simp [Store.versionOf?, h.kept hall]

/-- What a pass reads is in the store, with a version that the store gave it. -/
theorem of_reading (hs : s.Versioned) (hg : s.get? current.key = some current) :
    ∃ n, LastRead (log ++ [.call i (.reading current)]) s i current [] n := by
  obtain ⟨_, n, hn, hv⟩ := hs _ _ hg
  refine ⟨n, ⟨log, rfl⟩, by simp, hv, hn, fun _ => hg, ?_⟩
  rintro ⟨_, hmem, _⟩
  cases hmem

end LastRead

/-- Pass `i` stands at `p` and is careful with what it read last. -/
def Minds {ι : Type} (log : List (Happening ι)) (s : Store (id : ObjectKey → ObjectKey)) (i : ι)
    (p : Pass Call Call.Answer (Except Failure (List Applied))) : Prop :=
  ∃ seen, Careful (fun _ _ => True) p seen ∧
    ∀ current, seen = some current → ∃ between n, LastRead log s i current between n

namespace Minds
variable {ι : Type} {log : List (Happening ι)} {i : ι}
  {p : Pass Call Call.Answer (Except Failure (List Applied))}

theorem next {s : Store (id : ObjectKey → ObjectKey)} (h : Minds log s i p) {x : Happening ι}
    (hx : ¬ x.IsBy i) : Minds (log ++ [x]) (s.afterAny x.change?) i p := by
  obtain ⟨seen, hc, hr⟩ := h
  refine ⟨seen, hc, fun current he => ?_⟩
  obtain ⟨between, n, hl⟩ := hr current he
  exact ⟨between ++ [x], n, hl.next hx⟩

theorem answered {s : Rehearsal (id : ObjectKey → ObjectKey)} {q : Call}
    {resume : Reply q.Answer → Pass Call Call.Answer (Except Failure (List Applied))}
    (h : Minds log s.store i (.call q resume)) (hs : s.store.Versioned) :
    Minds (log ++ [.call i ⟨q, .settled (Rehearsal.perform q s).1⟩])
      (Rehearsal.perform q s).2.store i (resume (.settled (Rehearsal.perform q s).1)) := by
  obtain ⟨seen, hc, _⟩ := h
  obtain ⟨found, hf, hread⟩ := hc.answered hs.filed
  refine ⟨found, hf, fun current he => ?_⟩
  obtain ⟨hg, hx⟩ := hread current he
  have hsame : (Rehearsal.perform q s).2.store = s.store := by
    rw [s.store_perform q, hx]
    rfl
  rw [hx, hsame]
  exact ⟨[], LastRead.of_reading hs hg⟩

theorem of_done {s : Store (id : ObjectKey → ObjectKey)} {f : Failure}
    (h : Minds log s i (.done (.error f))) (handler : String) (expected found : ObjectKind) :
    f ≠ .kindMismatch handler expected found := by
  obtain ⟨_, hc, _⟩ := h
  exact hc handler expected found

end Minds

/-- The objects have versions, and every pass is careful with what it read last. -/
structure Scene.Sound {ι : Type} (log : List (Happening ι)) (s : Scene ι) : Prop where
  versioned : s.cluster.store.Versioned
  minds : ∀ i, Minds log s.cluster.store i (s.passes i)

namespace Scene
variable {ι : Type} [DecidableEq ι] {s s' : Scene ι} {log news : List (Happening ι)} {i : ι}

theorem Sound.goOn (h : Sound log s) {p : Pass Call Call.Answer (Except Failure (List Applied))}
    (hp : ∀ seen, Careful (fun _ _ => True) (s.passes i) seen → Careful (fun _ _ => True) p seen) :
    Sound log (s.goOn i p) := by
  refine ⟨h.versioned, fun j => ?_⟩
  by_cases hj : j = i
  · subst hj
    obtain ⟨seen, hc, hr⟩ := h.minds j
    rw [passes_goOn_self]
    exact ⟨seen, hp seen hc, hr⟩
  · rw [passes_goOn_of_ne hj]
    exact h.minds j

/-- The pass that makes a call reads what it finds; for all others it is something else that
happens. -/
theorem Sound.call (h : Sound log s) {q : Call}
    {resume : Reply q.Answer → Pass Call Call.Answer (Except Failure (List Applied))}
    (hp : s.passes i = .call q resume) :
    Sound (log ++ [.call i ⟨q, .settled (Rehearsal.perform q s.cluster).1⟩])
      { s.goOn i (resume (.settled (Rehearsal.perform q s.cluster).1)) with
        cluster := (Rehearsal.perform q s.cluster).2 } := by
  have hstore := s.cluster.store_perform q
  refine ⟨hstore ▸ h.versioned.afterAny _, fun j => ?_⟩
  change Minds _ (Rehearsal.perform q s.cluster).2.store j ((s.goOn i _).passes j)
  by_cases hj : j = i
  · subst hj
    rw [passes_goOn_self]
    exact (hp ▸ h.minds j).answered h.versioned
  · have hother : ¬ (Happening.call i
        ⟨q, .settled (Rehearsal.perform q s.cluster).1⟩).IsBy j := by
      rintro ⟨_, he⟩
      injection he with he
      exact hj he.symm
    rw [passes_goOn_of_ne hj, hstore]
    exact (h.minds j).next hother

theorem Sound.step (h : Sound log s) (hs : s.Step news s') : Sound (log ++ news) s' := by
  cases hs with
  | clock hp now =>
    rw [List.append_nil]
    refine h.goOn fun seen hc => ?_
    rw [hp] at hc
    exact hc now
  | token hp cancelled =>
    rw [List.append_nil]
    refine h.goOn fun seen hc => ?_
    rw [hp] at hc
    exact hc cancelled
  | call hp => exact h.call hp
  | other c =>
    have hother (j : ι) : ¬ (Happening.other c).IsBy j := fun ⟨_, he⟩ => nomatch he
    exact ⟨h.versioned.after c, fun j => (h.minds j).next (hother j)⟩

theorem Runs.sound {start : Scene ι} (h : Runs start log s) (hs : start.Sound []) :
    Sound log s := by
  induction h with
  | start => exact hs
  | step _ hstep ih => exact ih.step hstep

theorem Step.of_call {x : Exchange Call Call.Answer} (h : s.Step [.call i x] s') :
    ∃ resume, s.passes i = .call x.call resume ∧
      x.reply = .settled (Rehearsal.perform x.call s.cluster).1 ∧
      s'.passes i = resume x.reply ∧ s'.cluster = (Rehearsal.perform x.call s.cluster).2 := by
  cases h with
  | call hp => exact ⟨_, hp, rfl, passes_goOn_self, rfl⟩

theorem Step.ask {q : Call} {operation : String}
    {f : q.Answer → Attempt Call Call.Answer (List Applied)}
    (hp : s.passes i =
      ((Task.ask q id : Task Call Call.Answer q.Answer).race operation >>= f).run) :
    ∃ s₁ resume, Step s [] s₁ ∧ s₁.cluster = s.cluster ∧ s₁.passes i = .call q resume ∧
      ∀ v, resume (.settled (.ok v)) = (f v).run :=
  ⟨_, _, .token hp false, rfl, passes_goOn_self, fun _ => rfl⟩

theorem Step.answered {q : Call} {r : Except Failure q.Answer}
    {resume : Reply q.Answer → Pass Call Call.Answer (Except Failure (List Applied))}
    (hp : s.passes i = .call q resume) (hq : Rehearsal.perform q s.cluster = (r, s.cluster)) :
    ∃ s₁, Step s [.call i ⟨q, .settled r⟩] s₁ ∧ s₁.cluster = s.cluster ∧
      s₁.passes i = resume (.settled r) := by
  have hs := Step.call hp
  rw [hq] at hs
  exact ⟨_, hs, rfl, passes_goOn_self⟩

/-- An update comes after a reading of the object. It is taken if nobody altered the object since,
and refused otherwise. -/
theorem Sound.update (h : Sound log s) {o : ManagedObject} {r : Except Failure Unit}
    (hs : s.Step [.call i ⟨.cluster (.update o), .settled r⟩] s') :
    ∃ before current between, log = before ++ .call i (.reading current) :: between ∧
      current.key = o.key ∧ (∀ x ∈ between, ¬ x.IsBy i) ∧
      ((r = .ok () ∧ (∀ x ∈ between, ¬ x.Alters o.key) ∧
          s.cluster.store.get? o.key = some current ∧
          s'.cluster.store = s.cluster.store.put o) ∨
        ((∃ x ∈ between, x.Alters o.key) ∧ s'.cluster = s.cluster ∧
          ∃ message, r = .error (.conflict o.key message) ∧
            s'.passes i = .done (.error (.conflict o.key message)))) := by
  obtain ⟨resume, hp, hr, hp', hc'⟩ := hs.of_call
  obtain ⟨seen, hc, hread⟩ := h.minds i
  rw [hp] at hc
  obtain ⟨⟨current, rfl, hk, hv⟩, hgives, _⟩ := hc
  obtain ⟨between, n, hl⟩ := hread current rfl
  obtain ⟨before, hlog⟩ := hl.read
  refine ⟨before, current, between, hlog, hk, hl.idle, ?_⟩
  have hiff := hl.versionOf?_eq_iff
  rw [hk, hv] at hiff
  rcases s.cluster.perform_update o with ⟨he, hperform⟩ | ⟨hne, message, hperform⟩
  · rw [hperform] at hr hc'
    have hall := hiff.mp he
    refine Or.inl ⟨by simpa using hr, hall, hk ▸ hl.kept (hk ▸ hall), ?_⟩
    rw [hc']
  · rw [hperform] at hr hc'
    obtain rfl : r = .error (.conflict o.key message) := by simpa using hr
    refine Or.inr ⟨?_, hc', message, rfl, hp'.trans (hgives message)⟩
    by_contra hnone
    exact hne (hiff.mpr fun x hx ha => hnone ⟨x, hx, ha⟩)

/-- A creation is taken where there is no such object, and refused otherwise. -/
theorem Sound.create (h : Sound log s) {o : ManagedObject} {r : Except Failure Unit}
    (hs : s.Step [.call i ⟨.cluster (.create o), .settled r⟩] s') :
    (r = .ok () ∧ s.cluster.store.get? o.key = none ∧
        s'.cluster.store = s.cluster.store.put o) ∨
      (s.cluster.store.get? o.key ≠ none ∧ s'.cluster = s.cluster ∧
        ∃ message, r = .error (.conflict o.key message) ∧
          s'.passes i = .done (.error (.conflict o.key message))) := by
  obtain ⟨resume, hp, hr, hp', hc'⟩ := hs.of_call
  obtain ⟨seen, hc, _⟩ := h.minds i
  rw [hp] at hc
  obtain ⟨hgives, _⟩ := hc
  rcases s.cluster.perform_create o with ⟨hg, hperform⟩ | ⟨found, message, hg, hperform⟩
  · rw [hperform] at hr hc'
    exact Or.inl ⟨by simpa using hr, hg, by rw [hc']⟩
  · rw [hperform] at hr hc'
    obtain rfl : r = .error (.conflict o.key message) := by simpa using hr
    exact Or.inr ⟨by simp [hg], hc', message, rfl, hp'.trans (hgives message)⟩

end Scene

/-- Whatever passes of the operator and others do on one cluster, an update that a pass makes comes
after its own reading of the object. It is taken just if nobody altered the object in between, and
then it replaces what was read; a creation is taken just where there is no such object. What is
refused changes nothing, and the pass ends with a conflict on the key. No pass ever finds an object
of a kind that it does not manage. -/
theorem guarded_of_runs {ι : Type} [DecidableEq ι] (kinds : ι → List ObjectKind)
    (c : ι → WorkflowContext) {start s : Scene ι} {log : List (Happening ι)}
    (hv : start.cluster.store.Versioned)
    (hp : ∀ i, start.passes i =
      (Handler.applyAll ((kinds i).map fun kind => Operator.handler kind (c i))).run)
    (h : Scene.Runs start log s) :
    (∀ i o r s', s.Step [.call i ⟨.cluster (.update o), .settled r⟩] s' →
      ∃ before current between, log = before ++ .call i (.reading current) :: between ∧
        current.key = o.key ∧ (∀ x ∈ between, ¬ x.IsBy i) ∧
        ((r = .ok () ∧ (∀ x ∈ between, ¬ x.Alters o.key) ∧
            s.cluster.store.get? o.key = some current ∧
            s'.cluster.store = s.cluster.store.put o) ∨
          ((∃ x ∈ between, x.Alters o.key) ∧ s'.cluster = s.cluster ∧
            ∃ message, r = .error (.conflict o.key message) ∧
              s'.passes i = .done (.error (.conflict o.key message))))) ∧
    (∀ i o r s', s.Step [.call i ⟨.cluster (.create o), .settled r⟩] s' →
      (r = .ok () ∧ s.cluster.store.get? o.key = none ∧
          s'.cluster.store = s.cluster.store.put o) ∨
        (s.cluster.store.get? o.key ≠ none ∧ s'.cluster = s.cluster ∧
          ∃ message, r = .error (.conflict o.key message) ∧
            s'.passes i = .done (.error (.conflict o.key message)))) ∧
    ∀ i handler expected found,
      s.passes i ≠ .done (.error (.kindMismatch handler expected found)) := by
  have hstart : start.Sound [] := by
    refine ⟨hv, fun i => ⟨none, ?_, fun _ he => nomatch he⟩⟩
    rw [hp i]
    exact Operator.careful_applyAll (kinds i) (c i) none
  have hs : s.Sound log := h.sound hstart
  refine ⟨fun i o r s' hstep => hs.update hstep, fun i o r s' hstep => hs.create hstep, ?_⟩
  intro i handler expected found hd
  exact (hd ▸ hs.minds i).of_done handler expected found rfl

/-- A pass is about to mend the role that allows nothing. -/
def mending : Scene Unit where
  cluster := bareCluster
  passes := fun _ =>
    (Handler.applyAll ([ObjectKind.role].map fun kind => Operator.handler kind checkoutContext)).run

theorem mending_reads : ∃ f, mending.passes () =
      ((Operator.client.get (checkoutContext.key .role)).race
        ("get " ++ Workflow.handlerName .role) >>= f).run ∧
    f (some (bareRole.withVersion (some "1"))) =
      (Operator.client.update ((checkoutContext.desired .role).withVersion (some "1"))).race
        ("update " ++ Workflow.handlerName .role) >>= fun _ => pure [Applied.converged] := by
  have hrequired : (Operator.handler .role checkoutContext).required = true := rfl
  apply Exists.intro
  constructor
  · refine congrArg ExceptT.run ?_
    change (Operator.handler .role checkoutContext).apply >>= (fun applied => pure [applied]) = _
    rw [Handler.apply, if_pos hrequired, bind_assoc]
    rfl
  · simp only [Operator.handler, Workflow.handler, Client.converge, drifted?_bareRole,
      ManagedObject.resourceVersion_withVersion, bind_assoc, pure_bind]

/-- While a pass mends the role somebody else writes it, and the update of the pass is refused. -/
theorem guarded_of_mending :
    mending.cluster.store.Versioned ∧
    (∀ i, mending.passes i = (Handler.applyAll
      ([ObjectKind.role].map fun kind => Operator.handler kind checkoutContext)).run) ∧
    ∃ s s' message,
      Scene.Runs mending [.call () (.reading (bareRole.withVersion (some "1"))),
        .other (.put bareRole)] s ∧
      s.Step [.call () ⟨.cluster (.update ((checkoutContext.desired .role).withVersion (some "1"))),
        .settled (.error (.conflict (checkoutContext.key .role) message))⟩] s' ∧
      s'.cluster = s.cluster ∧
      s'.passes () = .done (.error (.conflict (checkoutContext.key .role) message)) := by
  have hversioned : mending.cluster.store.Versioned := Store.versioned_empty.after (.put bareRole)
  have hpasses (i : Unit) : mending.passes i = (Handler.applyAll
      ([ObjectKind.role].map fun kind => Operator.handler kind checkoutContext)).run := rfl
  have hread : Rehearsal.perform (.cluster (.get (checkoutContext.key .role))) bareCluster =
      (.ok (some (bareRole.withVersion (some "1"))), bareCluster) := by
    have hg : bareCluster.store.get? (checkoutContext.key .role) =
        some (bareRole.withVersion (some "1")) := Store.get?_put_self {} bareRole
    simp only [Rehearsal.perform, hg]
  obtain ⟨f, hf, hsome⟩ := mending_reads
  obtain ⟨s₁, _, hlook, hc₁, hp₁, hresume⟩ := Scene.Step.ask hf
  obtain ⟨s₂, hget, _, hp₂⟩ := Scene.Step.answered hp₁ (by rw [hc₁]; exact hread)
  rw [hresume, hsome] at hp₂
  obtain ⟨s₄, _, hlook', _, hp₄, _⟩ := Scene.Step.ask
    (s := { s₂ with cluster := { s₂.cluster with store := s₂.cluster.store.put bareRole } }) hp₂
  obtain ⟨s₅, hupdate⟩ : ∃ s₅, s₄.Step _ s₅ := ⟨_, .call hp₄⟩
  have hruns : Scene.Runs mending [.call () (.reading (bareRole.withVersion (some "1"))),
      .other (.put bareRole)] s₄ :=
    (((Scene.Runs.start.step hlook).step hget).step (.other (.put bareRole))).step hlook'
  obtain ⟨hguarded, _⟩ :=
    guarded_of_runs (fun _ => [.role]) (fun _ => checkoutContext) hversioned hpasses hruns
  obtain ⟨before, current, between, hlog, hk, _, ⟨_, hall, _⟩ | ⟨_, hsame, message, hr, hdone⟩⟩ :=
    hguarded _ _ _ s₅ hupdate
  · -- The rival has altered the role since it was read.
    exfalso
    obtain rfl : between = [.other (.put bareRole)] := by
      rcases before with _ | ⟨_, _ | ⟨_, rest⟩⟩
      · simpa using (List.cons.inj hlog).2.symm
      · simp at hlog
      · simp at hlog
    exact hall _ List.mem_cons_self ⟨.put bareRole, rfl, rfl⟩
  · rw [hr] at hupdate
    exact ⟨hversioned, hpasses, s₄, s₅, message, hruns, hupdate, hsame, hdone⟩

end BuildOperator
