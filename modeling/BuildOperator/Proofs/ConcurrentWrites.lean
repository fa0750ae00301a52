import BuildOperator.Proofs.Orders
import Mathlib.Logic.Function.Basic
/-!
# Concurrent writes of one status

Calls of the operator run at the same time on one stored build, each on the copy that it read when
it started, and each writes the whole status. No write carries a version of what it rests on, so
that the cluster takes it whatever was written since: of two calls that read the same build the
later write drops what the earlier one recorded. Nothing is lost where no other write falls between
the reading of a call and its write.
-/
namespace BuildOperator

/-- Where a call is: it did not read the build yet, or it goes on with the copy that it read. -/
inductive Stage where
  | waiting
  | running (copy : Build) (rest : Pass Call Call.Answer (Except Failure Unit))

/-- A stored build, by the members of its document, and the calls on it. -/
structure Shared (ι : Type) where
  document : List (String × Json)
  stages : ι → Stage

inductive Access (ι : Type) where
  | read (i : ι)
  | write (i : ι) (status : BuildStatus)

namespace Shared
variable {ι : Type} [DecidableEq ι]

def put (s : Shared ι) (i : ι) (copy : Build)
    (rest : Pass Call Call.Answer (Except Failure Unit)) : Shared ι :=
  { s with stages := Function.update s.stages i (.running copy rest) }

/-- One of the calls goes on, or somebody else edits the build without its status. The replies are
arbitrary, but a write of the status that succeeds was made; one that was made may be reported as
failed. -/
inductive Step (r : Reconciler Call Call.Answer) (orders : ι → Order) (s : Shared ι) :
    List (Access ι) → Shared ι → Prop where
  | read {i : ι} {copy : Build} (hi : s.stages i = .waiting)
      (hd : Build.ofJson (.object s.document) = .ok copy) :
      Step r orders s [.read i] (s.put i copy ((orders i).pass r copy))
  | clock {i : ι} {copy : Build} {resume : Timestamp → Pass Call Call.Answer (Except Failure Unit)}
      (hi : s.stages i = .running copy (.clock resume)) (now : Timestamp) :
      Step r orders s [] (s.put i copy (resume now))
  | token {i : ι} {copy : Build} {resume : Bool → Pass Call Call.Answer (Except Failure Unit)}
      (hi : s.stages i = .running copy (.token resume)) (cancelled : Bool) :
      Step r orders s [] (s.put i copy (resume cancelled))
  | call {i : ι} {copy : Build} {q : Call}
      {resume : Reply q.Answer → Pass Call Call.Answer (Except Failure Unit)}
      (hi : s.stages i = .running copy (.call q resume)) (reply : Reply q.Answer)
      (hq : writtenStatus? ⟨q, reply⟩ = none) : Step r orders s [] (s.put i copy (resume reply))
  | write {i : ι} {copy : Build} {space name : String} {status : BuildStatus}
      {resume : Reply Unit → Pass Call Call.Answer (Except Failure Unit)}
      (hi : s.stages i = .running copy (.call (.cluster (.patchStatus space name status)) resume))
      (reply : Reply Unit) : Step r orders s [.write i status]
        { s.put i copy (resume reply) with document := patchedBy s.document status }
  | edit {document : List (String × Json)} {b : Build}
      (hs : document.lookup "status" = s.document.lookup "status")
      (hd : Build.ofJson (.object document) = .ok b) : Step r orders s [] { s with document }

/-- The calls and others work on the build in any order; what was read and written, in order. -/
inductive Runs (r : Reconciler Call Call.Answer) (orders : ι → Order) (start : Shared ι) :
    List (Access ι) → Shared ι → Prop where
  | start : Runs r orders start [] start
  | step {log news : List (Access ι)} {s s' : Shared ι} (h : Runs r orders start log s)
      (hs : Step r orders s news s') : Runs r orders start (log ++ news) s'

end Shared

namespace Access
variable {ι : Type} {log : List (Access ι)} {i j : ι} {status : BuildStatus}

/-- What call `i` read was not written since. -/
def Current (log : List (Access ι)) (i : ι) : Prop :=
  ∃ before between, log = before ++ .read i :: between ∧ ∀ j status, .write j status ∉ between

/-- No call writes what rests on an outdated reading. -/
def Fresh (log : List (Access ι)) : Prop :=
  ∀ pre i status post, log = pre ++ .write i status :: post → Current pre i

theorem Current.of_read (h : Current (log ++ [.read i]) j) (hj : j ≠ i) : Current log j := by
  obtain ⟨before, between, hl, hw⟩ := h
  obtain ⟨ws, hlog, rfl⟩ | ⟨_, hlast, _⟩ := concat_eq_append_cons_iff.mp hl
  · exact ⟨before, ws, hlog, fun k status hm => hw k status (List.mem_append_left _ hm)⟩
  · injection hlast with he
    exact absurd he.symm hj

theorem not_current_write : ¬ Current (log ++ [.write i status]) j := by
  rintro ⟨before, between, hl, hw⟩
  obtain ⟨ws, _, rfl⟩ | ⟨_, hlast, _⟩ := concat_eq_append_cons_iff.mp hl
  · exact hw i status (by simp)
  · cases hlast

theorem write_of_append {pre post news : List (Access ι)}
    (hl : log ++ news = pre ++ .write i status :: post) (hn : ∀ i status, .write i status ∉ news) :
    ∃ rest, log = pre ++ .write i status :: rest ∧ post = rest ++ news := by
  obtain h | ⟨ws, _, hnews⟩ := append_eq_append_cons_iff.mp hl
  · exact h
  · exact absurd (by simp [hnews]) (hn i status)

theorem read_of_current {pre post : List (Access ι)} (h : Current log i)
    (hl : log = pre ++ .write j status :: post) : .read i ∈ post := by
  obtain ⟨before, between, hlog, hw⟩ := h
  rw [hlog] at hl
  obtain ⟨ws, _, rfl⟩ | ⟨ws, _, hlater⟩ := append_eq_append_cons_iff.mp hl
  · simp
  · cases ws with
    | nil => cases (List.cons.inj hlater).1
    | cons w ws =>
      obtain ⟨_, rfl⟩ := List.cons.inj hlater
      exact absurd (by simp) (hw j status)

theorem Fresh.of_append {news : List (Access ι)} (h : Fresh (log ++ news)) : Fresh log := by
  intro pre i status post hl
  exact h pre i status (post ++ news) (by simp [hl])

theorem fresh_nil : Fresh ([] : List (Access ι)) := by
  intro pre i status post hl
  simp at hl

theorem Fresh.read (h : Fresh log) (i : ι) : Fresh (log ++ [.read i]) := by
  intro pre j status post hl
  obtain ⟨rest, hlog, _⟩ := write_of_append hl (by simp)
  exact h pre j status rest hlog

theorem Fresh.write (h : Fresh log) (hc : Current log i) (status : BuildStatus) :
    Fresh (log ++ [.write i status]) := by
  intro pre j last post hl
  obtain ⟨ws, hlog, _⟩ | ⟨rfl, hlast, _⟩ := concat_eq_append_cons_iff.mp hl
  · exact h pre j last ws hlog
  · obtain ⟨rfl, _⟩ : i = j ∧ status = last := by simpa using hlast
    exact hc

end Access

namespace Shared
variable {ι : Type} {kinds : List ObjectKind} {settings : Settings} {orders : ι → Order}
  {log news : List (Access ι)} {s s' : Shared ι} {b copy : Build} {i : ι}
  {rest : Pass Call Call.Answer (Except Failure Unit)}

/-- What a running call did so far is told by the log, and its copy has the stored conditions as
long as nothing is written. -/
structure Minded (r : Reconciler Call Call.Answer) (orders : ι → Order) (log : List (Access ι))
    (b : Build) (i : ι) (copy : Build) (rest : Pass Call Call.Answer (Except Failure Unit)) :
    Prop where
  follows : ∃ xs, (∀ ys a, rest.Ends ys a → ((orders i).pass r copy).Ends (xs ++ ys) a) ∧
    ∀ x ∈ xs, ∀ status, writtenStatus? x = some status → .write i status ∈ log
  current : Access.Current log i → copy.conditions = b.conditions

structure Sound (r : Reconciler Call Call.Answer) (orders : ι → Order) (log : List (Access ι))
    (s : Shared ι) (b : Build) : Prop where
  stored : Build.ofJson (.object s.document) = .ok b
  status : StatusIn s.document b.status
  calls : ∀ i copy rest, s.stages i = .running copy rest → Minded r orders log b i copy rest

variable {r : Reconciler Call Call.Answer}

theorem Minded.goOn (h : Minded r orders log b i copy rest)
    (xs : List (Exchange Call Call.Answer)) {rest' : Pass Call Call.Answer (Except Failure Unit)}
    (hrest : ∀ ys a, rest'.Ends ys a → rest.Ends (xs ++ ys) a)
    (hxs : ∀ x ∈ xs, ∀ status, writtenStatus? x = some status → .write i status ∈ log) :
    Minded r orders log b i copy rest' := by
  obtain ⟨ws, hws, hlog⟩ := h.follows
  refine ⟨⟨ws ++ xs, ?_, ?_⟩, h.current⟩
  · intro ys a ha
    rw [List.append_assoc]
    exact hws _ a (hrest ys a ha)
  · intro x hx status hw
    rcases List.mem_append.mp hx with hm | hm
    · exact hlog x hm status hw
    · exact hxs x hm status hw

theorem Minded.append (h : Minded r orders log b i copy rest) {b' : Build}
    (hc : Access.Current (log ++ news) i → Access.Current log i ∧ b'.conditions = b.conditions) :
    Minded r orders (log ++ news) b' i copy rest := by
  obtain ⟨xs, hxs, hlog⟩ := h.follows
  refine ⟨⟨xs, hxs, ?_⟩, ?_⟩
  · intro x hx status hw
    exact List.mem_append_left _ (hlog x hx status hw)
  · intro hcurrent
    obtain ⟨hbefore, hsame⟩ := hc hcurrent
    rw [h.current hbefore, hsame]

theorem Sound.edit (h : Sound r orders log s b) {document : List (String × Json)} {b' : Build}
    (hs : document.lookup "status" = s.document.lookup "status")
    (hd : Build.ofJson (.object document) = .ok b') :
    Sound r orders log { s with document } b' ∧ b'.status = b.status := by
  have hw : StatusIn document b.status := (statusIn_congr hs).mpr h.status
  have hb : b'.status = b.status := Build.status_of_statusIn hd hw
  refine ⟨⟨hd, hb ▸ hw, fun j copy' rest' hj => ?_⟩, hb⟩
  have hconditions : b'.conditions = b.conditions := by rw [Build.conditions, Build.conditions, hb]
  have hm := h.calls j copy' rest' hj
  exact ⟨hm.follows, fun hc => by rw [hm.current hc, hconditions]⟩

variable [DecidableEq ι]

theorem stages_put_self : (s.put i copy rest).stages i = .running copy rest :=
  Function.update_self ..

theorem running_put {j : ι} {copy' : Build}
    {rest' : Pass Call Call.Answer (Except Failure Unit)}
    (h : (s.put i copy rest).stages j = .running copy' rest') :
    (j = i ∧ copy = copy' ∧ rest = rest') ∨ (j ≠ i ∧ s.stages j = .running copy' rest') := by
  by_cases hji : j = i
  · subst hji
    rw [stages_put_self] at h
    injection h with hcopy hrest
    exact Or.inl ⟨rfl, hcopy, hrest⟩
  · have hother : (s.put i copy rest).stages j = s.stages j := Function.update_of_ne hji ..
    rw [hother] at h
    exact Or.inr ⟨hji, h⟩

theorem Sound.put (h : Sound r orders log s b)
    (hm : Minded r orders log b i copy rest) : Sound r orders log (s.put i copy rest) b := by
  refine ⟨h.stored, h.status, fun j copy' rest' hj => ?_⟩
  obtain ⟨rfl, rfl, rfl⟩ | ⟨_, hj⟩ := running_put hj
  · exact hm
  · exact h.calls j copy' rest' hj

theorem Sound.read (h : Sound r orders log s b) (hi : s.stages i = .waiting)
    (hd : Build.ofJson (.object s.document) = .ok copy) :
    Sound r orders (log ++ [.read i]) (s.put i copy ((orders i).pass r copy)) b := by
  obtain rfl : copy = b := by
    rw [h.stored] at hd
    exact (Except.ok.inj hd).symm
  refine ⟨h.stored, h.status, fun j copy' rest' hj => ?_⟩
  obtain ⟨rfl, rfl, rfl⟩ | ⟨hji, hj⟩ := running_put hj
  · exact ⟨⟨[], fun _ _ ha => ha, by simp⟩, fun _ => rfl⟩
  · exact (h.calls j copy' rest' hj).append fun hc => ⟨hc.of_read hji, rfl⟩

/-- After a write the document holds what was written, and nobody's reading is current. -/
theorem Sound.write (h : Sound r orders log s b) {space name : String} {status : BuildStatus}
    {resume : Reply Unit → Pass Call Call.Answer (Except Failure Unit)}
    (hi : s.stages i = .running copy (.call (.cluster (.patchStatus space name status)) resume))
    (reply : Reply Unit) :
    Sound r orders (log ++ [.write i status])
      { s.put i copy (resume reply) with document := patchedBy s.document status }
      { b with status := some (b.currentStatus.overlaid status) } := by
  refine ⟨Build.ofJson_patchedBy h.stored h.status status, h.status.patchedBy status, ?_⟩
  intro j copy' rest' hj
  have hstale : Access.Current (log ++ [.write i status]) j → False := Access.not_current_write
  obtain ⟨rfl, rfl, rfl⟩ | ⟨_, hj⟩ := running_put hj
  · have hlogged : Minded r orders (log ++ [.write j status])
        { b with status := some (b.currentStatus.overlaid status) } j copy
        (.call (.cluster (.patchStatus space name status)) resume) :=
      (h.calls j _ _ hi).append fun hc => (hstale hc).elim
    refine hlogged.goOn [⟨.cluster (.patchStatus space name status), reply⟩]
      (fun ys a ha => Pass.ends_call_iff.mpr ⟨reply, ys, rfl, ha⟩) ?_
    intro x hx st hw
    obtain rfl := List.mem_singleton.mp hx
    obtain ⟨_, _, hc⟩ := call_of_writtenStatus? hw
    injection hc with hc
    injection hc with _ _ hst
    simp [hst]
  · exact (h.calls j copy' rest' hj).append fun hc => (hstale hc).elim

end Shared

namespace Shared
variable {ι : Type} {kinds : List ObjectKind} {settings : Settings} {orders : ι → Order}
  {log news : List (Access ι)} {s s' : Shared ι} {b copy : Build} {i : ι}
  {r : Reconciler Call Call.Answer} {rest : Pass Call Call.Answer (Except Failure Unit)}

theorem Minded.records {space name : String} {status : BuildStatus}
    {resume : Reply Unit → Pass Call Call.Answer (Except Failure Unit)}
    (h : Minded (Operator.reconcilerOf kinds settings) orders log b i copy
      (.call (.cluster (.patchStatus space name status)) resume)) :
    (orders i).Records copy status := by
  obtain ⟨xs, hxs, _⟩ := h.follows
  obtain ⟨ys, a, hy⟩ := Pass.exists_ends (resume .interrupted)
  have hends := hxs _ a (.call .interrupted hy)
  exact Order.records_of_write hends (List.mem_append_right xs List.mem_cons_self) rfl

/-- A step writes what a call recorded on its copy, or leaves the stored conditions alone. -/
theorem Sound.step [DecidableEq ι]
    (h : Sound (Operator.reconcilerOf kinds settings) orders log s b)
    (hs : Step (Operator.reconcilerOf kinds settings) orders s news s') :
    ∃ b', Sound (Operator.reconcilerOf kinds settings) orders (log ++ news) s' b' ∧
      ((∀ i status, .write i status ∉ news) ∧ b'.conditions = b.conditions ∨
        ∃ i status copy rest, news = [.write i status] ∧ s'.stages i = .running copy rest ∧
          (orders i).Records copy status ∧ b'.conditions = status.conditions ∧
          (Access.Current log i → copy.conditions = b.conditions)) := by
  cases hs with
  | read hi hd => exact ⟨b, h.read hi hd, Or.inl ⟨by simp, rfl⟩⟩
  | clock hi now =>
    rw [List.append_nil]
    have hm := (h.calls _ _ _ hi).goOn [] (fun ys a ha => .clock now ha) (by simp)
    exact ⟨b, h.put hm, Or.inl ⟨by simp, rfl⟩⟩
  | token hi cancelled =>
    rw [List.append_nil]
    have hm := (h.calls _ _ _ hi).goOn [] (fun ys a ha => .token cancelled ha) (by simp)
    exact ⟨b, h.put hm, Or.inl ⟨by simp, rfl⟩⟩
  | @call i copy q resume hi reply hq =>
    rw [List.append_nil]
    have hm := (h.calls _ _ _ hi).goOn [⟨q, reply⟩] (fun ys a ha => .call reply ha)
      (by simp [hq])
    exact ⟨b, h.put hm, Or.inl ⟨by simp, rfl⟩⟩
  | @write i copy space name status resume hi reply =>
    have hrecords := (h.calls _ _ _ hi).records
    refine ⟨_, h.write hi reply,
      Or.inr ⟨i, status, copy, _, rfl, stages_put_self, hrecords, ?_, ?_⟩⟩
    · change (b.currentStatus.overlaid status).conditions = status.conditions
      rw [BuildStatus.overlaid, if_neg hrecords.conditions_ne_nil]
    · exact (h.calls _ _ _ hi).current
  | edit hsame hd =>
    rw [List.append_nil]
    obtain ⟨hsound, hb⟩ := h.edit hsame hd
    refine ⟨_, hsound, Or.inl ⟨by simp, ?_⟩⟩
    rw [Build.conditions, Build.conditions, hb]

theorem Step.running [DecidableEq ι] (hs : Step r orders s news s') {j : ι}
    (hj : s.stages j = .running copy rest) : ∃ rest', s'.stages j = .running copy rest' := by
  have hput {i : ι} {copy' : Build} {rest' rest'' : Pass Call Call.Answer (Except Failure Unit)}
      (hi : s.stages i = .running copy' rest') :
      ∃ rest, (s.put i copy' rest'').stages j = .running copy rest := by
    by_cases hji : j = i
    · subst hji
      obtain ⟨rfl, -⟩ : copy' = copy ∧ rest' = rest := by simpa [hi] using hj
      exact ⟨_, stages_put_self⟩
    · exact ⟨rest, (Function.update_of_ne hji ..).trans hj⟩
  cases hs with
  | @read i _ hi _ =>
    have hji : j ≠ i := by
      rintro rfl
      rw [hi] at hj
      cases hj
    exact ⟨rest, (Function.update_of_ne hji ..).trans hj⟩
  | clock hi | token hi | call hi | write hi => exact hput hi
  | edit => exact ⟨rest, hj⟩

/-- A call that started later wrote another condition of type `t` than the one in its copy. -/
def Overwrites (orders : ι → Order) (s : Shared ι) (post : List (Access ι)) (t : ConditionType) :
    Prop :=
  ∃ j copy rest later, s.stages j = .running copy rest ∧ .read j ∈ post ∧ .write j later ∈ post ∧
    t ∈ (orders j).types copy ∧ later.conditions.find? t ≠ copy.conditions.find? t

theorem Overwrites.step [DecidableEq ι] {post : List (Access ι)} {t : ConditionType}
    (h : Overwrites orders s post t) (hs : Step r orders s news s') :
    Overwrites orders s' (post ++ news) t := by
  obtain ⟨j, copy, rest, later, hj, hread, hwrite, ht⟩ := h
  obtain ⟨rest', hj'⟩ := hs.running hj
  exact ⟨j, copy, rest', later, hj', List.mem_append_left _ hread,
    List.mem_append_left _ hwrite, ht⟩

/-- What was written is still stored or overwritten by a call that started later. -/
def Kept (orders : ι → Order) (log : List (Access ι)) (s : Shared ι) (b : Build) : Prop :=
  ∀ pre i status post, log = pre ++ .write i status :: post →
    ∀ t c, status.conditions.find? t = some c →
      b.conditions.find? t = some c ∨ Overwrites orders s post t

/-- The stored conditions are those of the last write. -/
def Latest (log : List (Access ι)) (b : Build) : Prop :=
  ∀ pre i status post, log = pre ++ .write i status :: post →
    (∀ j later, .write j later ∉ post) → b.conditions = status.conditions

theorem Latest.quiet (h : Latest log b) {b' : Build} (hn : ∀ i status, .write i status ∉ news)
    (hb : b'.conditions = b.conditions) : Latest (log ++ news) b' := by
  intro pre i status post hl hlast
  obtain ⟨rest, hlog, rfl⟩ := Access.write_of_append hl hn
  rw [hb]
  exact h pre i status rest hlog fun j later hm => hlast j later (List.mem_append_left _ hm)

theorem latest_write {status : BuildStatus} {b' : Build}
    (hb : b'.conditions = status.conditions) : Latest (log ++ [.write i status]) b' := by
  intro pre j last post hl hlast
  obtain ⟨ws, _, rfl⟩ | ⟨_, he, _⟩ := concat_eq_append_cons_iff.mp hl
  · exact absurd (by simp) (hlast i status)
  · obtain ⟨rfl, rfl⟩ : i = j ∧ status = last := by simpa using he
    exact hb

theorem Kept.quiet [DecidableEq ι] (h : Kept orders log s b) {b' : Build}
    (hs : Step r orders s news s') (hn : ∀ i status, .write i status ∉ news)
    (hb : b'.conditions = b.conditions) : Kept orders (log ++ news) s' b' := by
  intro pre i status post hl t c hc
  obtain ⟨rest, hlog, rfl⟩ := Access.write_of_append hl hn
  rw [hb]
  exact (h pre i status rest hlog t c hc).imp_right fun ho => ho.step hs

/-- A write that rests on a current reading keeps every condition that it does not replace, and its
call started after the writes before it. -/
theorem Kept.write [DecidableEq ι] (h : Kept orders log s b) {status : BuildStatus} {b' : Build}
    (hs : Step r orders s [.write i status] s') (hi : s'.stages i = .running copy rest)
    (hr : (orders i).Records copy status) (hb : b'.conditions = status.conditions)
    (hcopy : copy.conditions = b.conditions) (hc : Access.Current log i) :
    Kept orders (log ++ [.write i status]) s' b' := by
  intro pre j earlier post hl t c ht
  rw [hb]
  obtain ⟨ws, hlog, rfl⟩ | ⟨_, he, _⟩ := concat_eq_append_cons_iff.mp hl
  · rcases h pre j earlier ws hlog t c ht with hkept | ho
    · by_cases hsame : status.conditions.find? t = copy.conditions.find? t
      · rw [hsame, hcopy]
        exact Or.inl hkept
      · -- The call replaced the condition, so it has to have read after the earlier write.
        have hread := Access.read_of_current hc hlog
        exact Or.inr ⟨i, copy, rest, status, hi, List.mem_append_left _ hread, by simp,
          hr.mem_types hsame, hsame⟩
    · exact Or.inr (ho.step hs)
  · obtain ⟨rfl, rfl⟩ : i = j ∧ status = earlier := by simpa using he
    exact Or.inl ht

theorem Runs.sound [DecidableEq ι] {start : Shared ι}
    (h : Runs (Operator.reconcilerOf kinds settings) orders start log s)
    (hw : ∀ i, start.stages i = .waiting) (hd : Build.ofJson (.object start.document) = .ok b)
    (hs : StatusIn start.document b.status) :
    ∃ b', Sound (Operator.reconcilerOf kinds settings) orders log s b' ∧ Latest log b' ∧
      (Access.Fresh log → Kept orders log s b') := by
  induction h with
  | start =>
    refine ⟨b, ⟨hd, hs, fun i copy rest hi => ?_⟩, fun pre i status post hl => by simp at hl,
      fun _ pre i status post hl => by simp at hl⟩
    rw [hw i] at hi
    cases hi
  | step _ hstep ih =>
    obtain ⟨b', hsound, hlatest, hkept⟩ := ih
    obtain ⟨b'', hsound', ⟨hquiet, hb⟩ | ⟨i, status, copy, rest, rfl, hi, hr, hb, hcopy⟩⟩ :=
      hsound.step hstep
    · exact ⟨b'', hsound', hlatest.quiet hquiet hb,
        fun hf => (hkept hf.of_append).quiet hstep hquiet hb⟩
    · refine ⟨b'', hsound', latest_write hb, fun hf => ?_⟩
      have hcurrent := hf _ i status [] rfl
      exact (hkept hf.of_append).write hstep hi hr hb (hcopy hcurrent) hcurrent

/-- Calls work on one stored build, each on the copy that it read. One that ends in success had
nothing to record, or it wrote what it recorded. The stored conditions are those of the last write,
whatever that rests on. If no write rests on an outdated reading, then each condition that was
written is stored in the end, unless a call that started later and may write its type gave it
another condition than it had in the copy of that call. -/
theorem kept_of_runs [DecidableEq ι] {start : Shared ι}
    (hw : ∀ i, start.stages i = .waiting) (hd : Build.ofJson (.object start.document) = .ok b)
    (hs : StatusIn start.document b.status)
    (h : Runs (Operator.reconcilerOf kinds settings) orders start log s) :
    (∀ i copy, s.stages i = .running copy (.done (.ok ())) → (orders i).Idle copy ∨
      ∃ status, .write i status ∈ log ∧ (orders i).Records copy status) ∧
    ∃ stored, Build.ofJson (.object s.document) = .ok stored ∧
      (∀ pre i status post, log = pre ++ .write i status :: post →
        (∀ j later, .write j later ∉ post) → stored.conditions = status.conditions) ∧
      (Access.Fresh log → ∀ pre i status post, log = pre ++ .write i status :: post →
        ∀ t c, status.conditions.find? t = some c → stored.conditions.find? t = some c ∨
          ∃ j copy rest later, s.stages j = .running copy rest ∧ .read j ∈ post ∧
            .write j later ∈ post ∧ t ∈ (orders j).types copy ∧
            later.conditions.find? t ≠ copy.conditions.find? t) := by
  obtain ⟨stored, hsound, hlatest, hkept⟩ := h.sound hw hd hs
  refine ⟨fun i copy hi => ?_, stored, hsound.stored, hlatest, hkept⟩
  obtain ⟨xs, hxs, hlog⟩ := (hsound.calls i copy _ hi).follows
  have hends : ((orders i).pass (Operator.reconcilerOf kinds settings) copy).Ends xs (.ok ()) := by
    rw [← xs.append_nil]
    exact hxs [] _ (.done _)
  rcases Order.written_of_ok hends with hidle | hwritten
  · exact Or.inl hidle
  · obtain ⟨status, hl⟩ := Option.ne_none_iff_exists'.mp hwritten
    obtain ⟨x, hx, hstatus⟩ := exists_of_lastWritten? hl
    obtain ⟨space, name, hc⟩ := call_of_writtenStatus? hstatus
    exact Or.inr ⟨status, hlog x hx status hstatus, Order.records_of_write hends hx hc⟩

theorem Runs.event [DecidableEq ι] {start : Shared ι} {e : PipelineEvent} {next : Build}
    {space : String} (h : Runs (Operator.reconcilerOf kinds settings) orders start log s) (i : ι)
    (status : BuildStatus)
    (hi : s.stages i =
      .running copy ((Order.event e).pass (Operator.reconcilerOf kinds settings) copy))
    (he : copy.recordEvent e .epoch .epoch = (next, .recorded))
    (hn : next.metadata.space = some space) (hs : next.status = some status) :
    Runs (Operator.reconcilerOf kinds settings) orders start (log ++ [.write i status])
      ⟨patchedBy s.document status,
        Function.update s.stages i (.running copy (.done (.ok ())))⟩ := by
  obtain ⟨p₁, h₁, p₂, h₂, p₃, h₃, p₄, h₄, h₅⟩ : ∃ p₁,
      (Order.event e).pass (Operator.reconcilerOf kinds settings) copy = .clock p₁ ∧
      ∃ p₂, p₁ .epoch = .clock p₂ ∧ ∃ p₃, p₂ .epoch = .token p₃ ∧
      ∃ p₄, p₃ false = .call (.cluster (.patchStatus space next.displayName status)) p₄ ∧
        p₄ (.settled (.ok ())) = .done (.ok ()) := by
    refine ⟨_, rfl, _, rfl, ?_⟩
    simp only [Pass.bind, he, Reconciler.persistStatus, hn, hs]
    exact ⟨_, rfl, _, rfl, rfl⟩
  have hrun₁ := h.step (.clock (hi.trans (congrArg _ h₁)) .epoch)
  have hrun₂ := hrun₁.step (.clock (stages_put_self.trans (congrArg _ h₂)) .epoch)
  have hrun₃ := hrun₂.step (.token (stages_put_self.trans (congrArg _ h₃)) false)
  have hrun₄ := hrun₃.step (.write (stages_put_self.trans (congrArg _ h₄)) (.settled (.ok ())))
  simp only [List.append_nil, Shared.put, Function.update_idem, h₅] at hrun₄
  exact hrun₄

/-- Two callbacks on one build that has no status yet. -/
def callbacks : Bool → Order
  | false => .event .accepted
  | true => .event (.stepSucceeded .clone)

theorem initialized_not_mem_cloned : .initialized ∉ (callbacks true).types b := by
  change ConditionType.initialized ∉ (Mark.event (.stepSucceeded .clone)).types
  decide

def unwritten : Shared Bool := ⟨Build.checkout.toJson.members, fun _ => .waiting⟩

theorem stored_unwritten : Build.ofJson (.object unwritten.document) = .ok Build.checkout := by rfl

theorem status_unwritten : StatusIn unwritten.document Build.checkout.status :=
  statusIn_of_lookup (by decide)

def initialized : BuildStatus := (Build.checkout.recordEvent .accepted .epoch).1.currentStatus

def cloned : BuildStatus :=
  (Build.checkout.recordEvent (.stepSucceeded .clone) .epoch).1.currentStatus

/-- Both callbacks read the build before either is written. Both end in success, and what the first
recorded is not stored in the end, although no other call records its type. -/
theorem lost_of_callbacks : ∃ log s stored c,
    Runs (Operator.reconciler {}) callbacks unwritten log s ∧
    (∀ i, s.stages i = .running Build.checkout (.done (.ok ()))) ∧
    .write false initialized ∈ log ∧
    initialized.conditions.find? .initialized = some c ∧
    c.status = .holds ∧ c.observedGeneration = stored.generation ∧
    (∀ i b, .initialized ∈ (callbacks i).types b → i = false) ∧
    Build.ofJson (.object s.document) = .ok stored ∧
    stored.conditions.find? .initialized = none := by
  have hread : Runs (Operator.reconciler {}) callbacks unwritten [.read false, .read true]
      ((unwritten.put false Build.checkout
        ((callbacks false).pass (Operator.reconciler {}) Build.checkout)).put true Build.checkout
          ((callbacks true).pass (Operator.reconciler {}) Build.checkout)) :=
    (Runs.start.step (.read rfl stored_unwritten)).step (.read rfl stored_unwritten)
  have hfirst := hread.event false initialized rfl rfl rfl rfl
  have hsecond := hfirst.event true cloned rfl rfl rfl rfl
  have hstored := Build.ofJson_patchedBy
    (Build.ofJson_patchedBy stored_unwritten status_unwritten initialized)
    (status_unwritten.patchedBy initialized) cloned
  refine ⟨_, _, _, _, hsecond, ?_, by simp, rfl, rfl, rfl, ?_, hstored, by decide⟩
  · intro i
    cases i with
    | false => rfl
    | true => rfl
  · intro i b
    cases i with
    | false => simp
    | true => exact fun h => absurd h initialized_not_mem_cloned

/-- The build that the second callback reads if it starts after the first. -/
def accepted : Build := { Build.checkout with status := some initialized }

def acceptedAndCloned : BuildStatus :=
  (accepted.recordEvent (.stepSucceeded .clone) .epoch).1.currentStatus

theorem kept_of_callbacks : ∃ log s stored,
    Runs (Operator.reconciler {}) callbacks unwritten log s ∧ Access.Fresh log ∧
    .write false initialized ∈ log ∧ Build.ofJson (.object s.document) = .ok stored ∧
    stored.conditions.find? .initialized = initialized.conditions.find? .initialized ∧
    stored.conditions.find? .cloneSucceeded ≠ none := by
  have hread : Runs (Operator.reconciler {}) callbacks unwritten ([] ++ [.read false])
      (unwritten.put false Build.checkout
        ((callbacks false).pass (Operator.reconciler {}) Build.checkout)) :=
    Runs.start.step (.read rfl stored_unwritten)
  have hfirst := hread.event false initialized rfl rfl rfl rfl
  have haccepted : Build.ofJson (.object (patchedBy unwritten.document initialized)) =
      .ok accepted := Build.ofJson_patchedBy stored_unwritten status_unwritten initialized
  have hagain := hfirst.step (.read (i := true) rfl haccepted)
  have hsecond := hagain.event true acceptedAndCloned rfl rfl rfl rfl
  have hfresh : Access.Fresh ([] ++ [.read false] ++ [.write false initialized] ++ [.read true] ++
      [.write true acceptedAndCloned]) :=
    (((Access.fresh_nil.read false).write ⟨_, [], rfl, by simp⟩ _).read true).write
      ⟨_, [], rfl, by simp⟩ _
  obtain ⟨_, stored, hstored, hlatest, hkept⟩ :=
    kept_of_runs (fun _ => rfl) stored_unwritten status_unwritten hsecond
  refine ⟨_, _, stored, hsecond, hfresh, by simp, hstored, ?_, ?_⟩
  · rcases hkept hfresh [.read false] false initialized [.read true, .write true acceptedAndCloned]
      rfl .initialized _ rfl with hi | ⟨j, copy, _, later, _, hr, _, ht, _⟩
    · exact hi
    · obtain rfl : j = true := by simpa using hr
      exact absurd ht initialized_not_mem_cloned
  · rw [hlatest [.read false, .write false initialized, .read true] true acceptedAndCloned [] rfl
      (by simp)]
    decide

end Shared
end BuildOperator
