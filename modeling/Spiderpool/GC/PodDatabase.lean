/-
# The Pods that are traced

`PodDatabase` of `pkg/gcmanager/pod_cache.go` holds an entry for each Pod whose addresses are to be
collected, and those who work on it: the Pod informer and the scan apply entries; the trace worker
lists them, and sends those that are out of time to the executors (`tracePodWorker` and
`handlePodEntryForTracingTimeOut`); an executor deletes the entry when it has done, or applies it
again (`releaseIPPoolIPExecutor`).

The database goes by the namespace and the name of the Pod, and no operation looks at the UID. The
worker and the executors have copies in hand, of Pods that may have been created anew since.
-/

import Spiderpool.GC.ProviderOrder

namespace Spiderpool

inductive PodStatus where
  | running
  | terminating
  | succeeded
  | failed
  | deleted
deriving DecidableEq

/-- `PodEntry`. The zero time is 0. -/
structure TracedPod extends PodEntry where
  nodeName : String := ""
  entryUpdateTime : ℤ := 0
  tracingStartTime : ℤ := 0
  tracingGracefulTime : ℤ := 0
  tracingStopTime : ℤ := 0
  podTracingReason : PodStatus
  numRequeues : ℕ := 0

def TracedPod.namespacedName (e : TracedPod) : String × String := (e.ns, e.podName)

/-- What `ApplyPodEntry` compares is the same. -/
def TracedPod.sameTracing (podCache podEntry : TracedPod) : Bool :=
  podCache.tracingStartTime = podEntry.tracingStartTime &&
    podCache.tracingGracefulTime = podEntry.tracingGracefulTime &&
    podCache.tracingStopTime = podEntry.tracingStopTime &&
    podCache.podTracingReason = podEntry.podTracingReason &&
    podCache.numRequeues = podEntry.numRequeues

structure PodDatabase where
  pods : GoMap (String × String) TracedPod
  maxCap : ℕ

/-- `NewPodDBer`. -/
def PodDatabase.new (maxDatabaseCap : ℕ) : PodDatabase := ⟨∅, maxDatabaseCap⟩

def PodDatabase.deletePodEntry (p : PodDatabase) (ns podName : String) : PodDatabase :=
  { p with pods := p.pods.erase (ns, podName) }

/-- `ApplyPodEntry`. An error leaves the database as it is. -/
def PodDatabase.applyPodEntry (p : PodDatabase) (podEntry : TracedPod) : Result Err PodDatabase := do
  failIf (podEntry.podTracingReason = .running) (.new "discard 'Running' status pod")
  match p.pods.lookup podEntry.namespacedName with
  | none => do
    failIf (p.pods.keys.length = p.maxCap) (.new "podEntry database is out of capacity")
    return { p with pods := p.pods.insert podEntry.namespacedName podEntry }
  | some podCache =>
    if podCache.sameTracing podEntry then return p
    else return { p with pods := p.pods.insert podCache.namespacedName podEntry }

namespace Tracing

inductive DbOp where
  | keep
  | delete (podCache : TracedPod)
  | apply (podEntry : TracedPod)
  | requeue (podCache : TracedPod)

/-- The database after the operation. A copy that cannot be applied again is deleted. -/
def DbOp.run (db : PodDatabase) : DbOp → PodDatabase
  | .keep => db
  | .delete podCache => db.deletePodEntry podCache.ns podCache.podName
  | .apply podEntry => ((db.applyPodEntry podEntry).toOption).getD db
  | .requeue podCache =>
    ((db.applyPodEntry podCache).toOption).getD (db.deletePodEntry podCache.ns podCache.podName)

/-- What `GetPodByName` tells the trace worker. -/
inductive PodAnswer where
  | notFound
  | failed
  | found (podIPs : List String)

/-- How the function ends that an executor runs for an entry: the endpoint is that of another Pod, all
is done, or there is an error. -/
inductive Outcome where
  | foreign
  | done
  | failed
deriving DecidableEq

/-- `handlePodEntryForTracingTimeOut` up to the signal: what it does to the database, and whether it
sends the signal. -/
def handlePodEntryForTracingTimeOut (now : ℤ) (answer : PodAnswer) (podEntry : TracedPod) :
    DbOp × Bool :=
  if podEntry.tracingStopTime = 0 then (.keep, false)
  else if podEntry.tracingStopTime < now then
    match answer with
    | .notFound => (.keep, true)
    | .failed => (.keep, false)
    | .found [] => (.delete podEntry, true)
    | .found _ => (.keep, true)
  else (.keep, false)

/-- What an executor does to the database with the copy that it has handled. -/
def finishOp (workQueueMaxRetries : ℕ) (now : ℤ) (podCache : TracedPod) : Outcome → DbOp
  | .failed =>
    if podCache.numRequeues < workQueueMaxRetries then
      .requeue { podCache with entryUpdateTime := now, numRequeues := podCache.numRequeues + 1 }
    else .delete podCache
  | .foreign | .done => .delete podCache

/-- The database, the copies that the trace worker has still to look at, those that are on their way
to the executors, and those that these have in hand. -/
structure State (ι : Type) where
  db : PodDatabase
  listed : List TracedPod
  signals : List TracedPod
  executors : ι → Option TracedPod

def State.init (ι : Type) (maxCap : ℕ) : State ι := ⟨.new maxCap, [], [], fun _ => none⟩

/-- What can happen: the informer or the scan applies an entry; the trace worker lists the entries or
looks at one, with a signal that is taken or dropped; an executor takes a signal or ends. -/
inductive Event (ι : Type) where
  | apply (podEntry : TracedPod)
  | list
  | handle (podEntry : TracedPod) (now : ℤ) (answer : PodAnswer) (taken : Bool)
  | receive (i : ι)
  | finish (i : ι) (podCache : TracedPod) (now : ℤ) (outcome : Outcome)

def Event.dbOp {ι : Type} (workQueueMaxRetries : ℕ) : Event ι → DbOp
  | .apply podEntry => .apply podEntry
  | .handle podEntry now answer _ => (handlePodEntryForTracingTimeOut now answer podEntry).1
  | .finish _ podCache now outcome => finishOp workQueueMaxRetries now podCache outcome
  | .list | .receive _ => .keep

inductive Step {ι : Type} [DecidableEq ι] (workQueueMaxRetries : ℕ) : State ι → Event ι → State ι → Prop
  | apply {s : State ι} (podEntry : TracedPod) :
      Step workQueueMaxRetries s (.apply podEntry) { s with
        db := DbOp.run s.db (.apply podEntry) }
  | list {s : State ι} (order : RangeOrder (String × String) TracedPod) (hidle : s.listed = []) :
      Step workQueueMaxRetries s .list { s with listed := (order.visit s.db.pods).map (·.2) }
  | handle {s : State ι} {podEntry : TracedPod} {rest : List TracedPod} (now : ℤ) (answer : PodAnswer)
      (taken : Bool) (hlisted : s.listed = podEntry :: rest) :
      Step workQueueMaxRetries s (.handle podEntry now answer taken) { s with
        db := DbOp.run s.db (handlePodEntryForTracingTimeOut now answer podEntry).1
        listed := rest
        signals := s.signals ++
          if (handlePodEntryForTracingTimeOut now answer podEntry).2 && taken then [podEntry] else [] }
  | receive {s : State ι} {i : ι} {podCache : TracedPod} {rest : List TracedPod}
      (hidle : s.executors i = none) (hsignal : s.signals = podCache :: rest) :
      Step workQueueMaxRetries s (.receive i) { s with
        signals := rest
        executors := Function.update s.executors i (some podCache) }
  | finish {s : State ι} {i : ι} {podCache : TracedPod} (now : ℤ) (outcome : Outcome)
      (hbusy : s.executors i = some podCache) :
      Step workQueueMaxRetries s (.finish i podCache now outcome) { s with
        db := DbOp.run s.db (finishOp workQueueMaxRetries now podCache outcome)
        executors := Function.update s.executors i none }

def DbOp.uid : DbOp → Option String
  | .keep => none
  | .delete e | .apply e | .requeue e => some e.uid

/-- An operation leaves every entry as it is, unless it handles its UID, or files the entry of a Pod
of the same name that was created later. -/
def Spares (born : String → ℕ) (db db' : PodDatabase) (op : DbOp) : Prop :=
  ∀ k e, db.pods.lookup k = some e → db'.pods.lookup k = some e ∨ op.uid = some e.uid ∨
    ∃ e', db'.pods.lookup k = some e' ∧ op.uid = some e'.uid ∧ born e.uid < born e'.uid

/-- The operation meets the entry of its own Pod, or of one created before it, or changes nothing. -/
def DbOp.Meets (born : String → ℕ) (e : TracedPod) : DbOp → Prop
  | .keep => True
  | .delete podCache => podCache.uid = e.uid
  | .apply podEntry => podEntry.podTracingReason = .running ∨ e.sameTracing podEntry ∨
      podEntry.uid = e.uid ∨ born e.uid < born podEntry.uid
  | .requeue podCache => podCache.uid = e.uid ∨ podCache.podTracingReason ≠ .running ∧
      (e.sameTracing podCache ∨ born e.uid < born podCache.uid)

def DbOp.namespacedName : DbOp → Option (String × String)
  | .keep => none
  | .delete e | .apply e | .requeue e => some e.namespacedName

/-! ### Operations on the database -/

def Filed (db : PodDatabase) : Prop := ∀ k e, db.pods.lookup k = some e → e.namespacedName = k

section

variable {db : PodDatabase} {born : String → ℕ}

theorem applyPodEntry_cases (hfiled : Filed db) (podEntry : TracedPod) :
    (∃ err, db.applyPodEntry podEntry = fail err ∧
      (podEntry.podTracingReason = .running ∨ db.pods.lookup podEntry.namespacedName = none)) ∨
    podEntry.podTracingReason ≠ .running ∧
      ((∃ e, db.pods.lookup podEntry.namespacedName = some e ∧ e.sameTracing podEntry = true ∧
          db.applyPodEntry podEntry = .ok db) ∨
        (∀ e, db.pods.lookup podEntry.namespacedName = some e → e.sameTracing podEntry = false) ∧
          db.applyPodEntry podEntry =
            .ok { db with pods := db.pods.insert podEntry.namespacedName podEntry }) := by
  unfold PodDatabase.applyPodEntry
  by_cases hrunning : podEntry.podTracingReason = .running
  · left
    rw [failIf, if_pos hrunning]
    exact ⟨_, rfl, .inl hrunning⟩
  rw [failIf, if_neg hrunning]
  cases hlookup : db.pods.lookup podEntry.namespacedName with
  | none =>
    by_cases hcap : db.pods.keys.length = db.maxCap
    · left
      simp only [bind, Except.bind, failIf, if_pos hcap]
      exact ⟨_, rfl, .inr trivial⟩
    · right
      simp only [bind, Except.bind, failIf, if_neg hcap]
      refine ⟨hrunning, .inr ⟨?_, rfl⟩⟩
      rintro e ⟨⟩
  | some podCache =>
    right
    refine ⟨hrunning, ?_⟩
    by_cases hsame : podCache.sameTracing podEntry = true
    · simp only [bind, Except.bind, if_pos hsame]
      exact .inl ⟨podCache, rfl, hsame, rfl⟩
    · simp only [bind, Except.bind, if_neg hsame, hfiled _ _ hlookup]
      refine .inr ⟨?_, rfl⟩
      rintro _ ⟨⟩
      simpa using hsame

theorem run_cases (hfiled : Filed db) (op : DbOp) :
    op.run db = db ∨ ∃ name, op.namespacedName = some name ∧
      ((op.run db).pods = db.pods.erase name ∨
        ∃ e, e.namespacedName = name ∧ op.uid = some e.uid ∧
          (op.run db).pods = db.pods.insert name e) := by
  cases op with
  | keep => exact .inl rfl
  | delete c => exact .inr ⟨_, rfl, .inl rfl⟩
  | apply e =>
    rcases applyPodEntry_cases hfiled e with ⟨_, h, -⟩ | ⟨-, ⟨_, -, -, h⟩ | ⟨-, h⟩⟩
    · exact .inl (by rw [DbOp.run, h]; rfl)
    · exact .inl (by rw [DbOp.run, h]; rfl)
    · exact .inr ⟨_, rfl, .inr ⟨e, rfl, rfl, by rw [DbOp.run, h]; rfl⟩⟩
  | requeue e =>
    rcases applyPodEntry_cases hfiled e with ⟨_, h, -⟩ | ⟨-, ⟨_, -, -, h⟩ | ⟨-, h⟩⟩
    · exact .inr ⟨_, rfl, .inl (by rw [DbOp.run, h]; rfl)⟩
    · exact .inl (by rw [DbOp.run, h]; rfl)
    · exact .inr ⟨_, rfl, .inr ⟨e, rfl, rfl, by rw [DbOp.run, h]; rfl⟩⟩

theorem Filed.run (hfiled : Filed db) (op : DbOp) : Filed (op.run db) := by
  intro k e hk
  rcases run_cases hfiled op with heq | ⟨name, -, heq | ⟨e', hname, -, heq⟩⟩
  · exact hfiled k e (heq ▸ hk)
  · rw [heq, GoMap.lookup_erase_eq] at hk
    split_ifs at hk
    exact hfiled k e hk
  · rw [heq, GoMap.lookup_insert_eq] at hk
    split_ifs at hk with hkey
    · rw [← Option.some.inj hk, hname, hkey]
    · exact hfiled k e hk

theorem spares_run_iff (hfiled : Filed db) (op : DbOp) :
    Spares born db (op.run db) op ↔ ∀ name e, op.namespacedName = some name →
      db.pods.lookup name = some e → (op.run db).pods.lookup name = some e ∨ op.uid = some e.uid ∨
        ∃ e', (op.run db).pods.lookup name = some e' ∧ op.uid = some e'.uid ∧
          born e.uid < born e'.uid := by
  constructor
  · exact fun h name e _ he => h name e he
  · intro h k e hk
    rcases run_cases hfiled op with heq | ⟨name, hname, heq⟩
    · exact .inl (by rw [heq, hk])
    · by_cases hkey : k = name
      · exact h k e (hkey ▸ hname) hk
      · left
        rcases heq with heq | ⟨e', -, -, heq⟩
        · rw [heq, GoMap.lookup_erase_eq, if_neg hkey, hk]
        · rw [heq, GoMap.lookup_insert_eq, if_neg hkey, hk]

theorem replaced_iff {e e' : TracedPod} :
    (some e' = some e ∨ some e'.uid = some e.uid ∨
      ∃ e'', some e' = some e'' ∧ some e'.uid = some e''.uid ∧ born e.uid < born e''.uid) ↔
      e'.uid = e.uid ∨ born e.uid < born e'.uid := by
  constructor
  · rintro (heq | heq | ⟨e'', heq, -, hborn⟩)
    · exact .inl (congrArg (·.uid) (Option.some.inj heq))
    · exact .inl (Option.some.inj heq)
    · exact .inr (Option.some.inj heq ▸ hborn)
  · rintro (heq | hborn)
    · exact .inr (.inl (congrArg some heq))
    · exact .inr (.inr ⟨e', rfl, rfl, hborn⟩)

theorem spares_iff (hfiled : Filed db) (op : DbOp) :
    Spares born db (op.run db) op ↔ ∀ name e, op.namespacedName = some name →
      db.pods.lookup name = some e → op.Meets born e := by
  rw [spares_run_iff hfiled]
  refine forall₄_congr fun name e hname he => ?_
  cases op with
  | keep => cases hname
  | delete c =>
    obtain rfl := Option.some.inj hname
    have hnone : (DbOp.run db (.delete c)).pods.lookup c.namespacedName = none := AList.lookup_erase _ _
    rw [hnone]
    simp [DbOp.Meets, DbOp.uid]
  | apply e' =>
    obtain rfl := Option.some.inj hname
    rcases applyPodEntry_cases hfiled e' with
      ⟨_, h, hrunning | hnone⟩ | ⟨hrunning, ⟨_, he', hsame, h⟩ | ⟨hdiff, h⟩⟩
    · rw [DbOp.run, h]
      exact iff_of_true (.inl he) (.inl hrunning)
    · cases hnone.symm.trans he
    · obtain rfl := Option.some.inj (he.symm.trans he')
      rw [DbOp.run, h]
      exact iff_of_true (.inl he) (.inr (.inl hsame))
    · have hlookup : (DbOp.run db (.apply e')).pods.lookup e'.namespacedName = some e' := by
        rw [DbOp.run, h]
        exact AList.lookup_insert _
      rw [hlookup, DbOp.Meets, hdiff e he]
      exact replaced_iff.trans (by simp [hrunning])
  | requeue e' =>
    obtain rfl := Option.some.inj hname
    rcases applyPodEntry_cases hfiled e' with
      ⟨_, h, hrunning | hnone⟩ | ⟨hrunning, ⟨_, he', hsame, h⟩ | ⟨hdiff, h⟩⟩
    · have hlookup : (DbOp.run db (.requeue e')).pods.lookup e'.namespacedName = none := by
        rw [DbOp.run, h]
        exact AList.lookup_erase _ _
      rw [hlookup]
      simp [DbOp.Meets, DbOp.uid, hrunning]
    · cases hnone.symm.trans he
    · obtain rfl := Option.some.inj (he.symm.trans he')
      rw [DbOp.run, h]
      exact iff_of_true (.inl he) (.inr ⟨hrunning, .inl hsame⟩)
    · have hlookup : (DbOp.run db (.requeue e')).pods.lookup e'.namespacedName = some e' := by
        rw [DbOp.run, h]
        exact AList.lookup_insert _
      rw [hlookup, DbOp.Meets, hdiff e he]
      exact replaced_iff.trans (by simp [hrunning])

end

/-! ### Steps -/

section

variable {ι : Type} [DecidableEq ι] {workQueueMaxRetries : ℕ} {s s' : State ι} {l : Event ι}

theorem Step.db_eq (h : Step workQueueMaxRetries s l s') :
    s'.db = (l.dbOp workQueueMaxRetries).run s.db := by
  cases h <;> rfl

theorem filed_of_run {maxCap : ℕ} {ls : List (Event ι)}
    (h : Run (Step workQueueMaxRetries) (State.init ι maxCap) ls s) : Filed s.db :=
  h.inv (fun s => Filed s.db) (fun _ _ => nofun) fun _ _ _ hfiled hstep => by
    rw [hstep.db_eq]
    exact hfiled.run _

/-- **Whose entries are dropped.**  Whatever the informer, the scan, the trace worker and the executors
have done before, a step leaves every entry as it is, unless it handles the UID of the entry or files
that of a Pod of the same name created later, if and only if the entry that it finds under the name of
its Pod is that of the Pod, or it only applies an entry, which changes nothing or is of a Pod created
later. -/
theorem entry_spared_iff (born : String → ℕ) (maxCap : ℕ) (ls : List (Event ι))
    (hrun : Run (Step workQueueMaxRetries) (State.init ι maxCap) ls s)
    (hstep : Step workQueueMaxRetries s l s') :
    Spares born s.db s'.db (l.dbOp workQueueMaxRetries) ↔
      ∀ name e, (l.dbOp workQueueMaxRetries).namespacedName = some name →
        s.db.pods.lookup name = some e → (l.dbOp workQueueMaxRetries).Meets born e := by
  rw [hstep.db_eq]
  exact spares_iff (filed_of_run hrun) _

end

end Tracing

namespace Sample

open Tracing

def deletedPod (uid : String) (time : ℤ) : TracedPod where
  ns := "default"
  podName := "web-0"
  uid := uid
  tracingStartTime := time
  tracingGracefulTime := 5
  tracingStopTime := time + 5
  podTracingReason := .deleted

theorem executor_busy : ∃ s : State ℕ,
    Run (Step 3) (State.init ℕ 100) [.apply (deletedPod "u1" 10), .list,
      .handle (deletedPod "u1" 10) 20 .notFound true, .receive 0] s ∧
    s.db.pods = AList.insert ("default", "web-0") (deletedPod "u1" 10) ∅ ∧
    s.executors 0 = some (deletedPod "u1" 10) :=
  ⟨_, .cons (.apply _) (.cons (.list (.stored _ _) rfl) (.cons (.handle 20 .notFound true rfl)
    (.cons (.receive rfl rfl) (.nil _)))), rfl, rfl⟩

/-- If no other Pod has come, the executor deletes the entry of its Pod. -/
theorem own_entry_deleted : ∃ (ls : List (Event ℕ)) (s s' : State ℕ),
    Run (Step 3) (State.init ℕ 100) ls s ∧
    Step 3 s (.finish 0 (deletedPod "u1" 10) 30 .done) s' ∧
    Spares (fun _ => 0) s.db s'.db (.delete (deletedPod "u1" 10)) := by
  obtain ⟨s, hrun, hpods, hbusy⟩ := executor_busy
  have hstep : Step 3 s (.finish 0 (deletedPod "u1" 10) 30 .done) _ := .finish 30 .done hbusy
  refine ⟨_, s, _, hrun, hstep, (entry_spared_iff (fun _ => 0) 100 _ hrun hstep).2 ?_⟩
  rintro name e ⟨⟩ he
  rw [hpods] at he
  obtain rfl := Option.some.inj he
  rfl

def createdAt (uid : String) : ℕ := if uid = "u1" then 1 else 2

/-- A Pod of the same name is created, and deleted as well. When the executor has done with the first
one, it drops the entry of the second. -/
theorem newer_entry_dropped : ∃ (ls : List (Event ℕ)) (s s' : State ℕ),
    Run (Step 3) (State.init ℕ 100) ls s ∧
    Step 3 s (.finish 0 (deletedPod "u1" 10) 50 .done) s' ∧
    s.db.pods.lookup ("default", "web-0") = some (deletedPod "u2" 40) ∧
    s'.db.pods.lookup ("default", "web-0") = none ∧ createdAt "u1" < createdAt "u2" ∧
    ¬Spares createdAt s.db s'.db (.delete (deletedPod "u1" 10)) := by
  obtain ⟨s, hrun, hpods, hbusy⟩ := executor_busy
  have happly : Step 3 s (.apply (deletedPod "u2" 40)) _ := .apply _
  have hstep : Step 3 { s with db := DbOp.run s.db (.apply (deletedPod "u2" 40)) }
      (.finish 0 (deletedPod "u1" 10) 50 .done) _ := .finish 50 .done hbusy
  have hnew : (DbOp.run s.db (.apply (deletedPod "u2" 40))).pods.lookup ("default", "web-0") =
      some (deletedPod "u2" 40) := by
    obtain ⟨⟨pods, maxCap⟩, _, _, _⟩ := s
    obtain rfl : pods = _ := hpods
    rfl
  refine ⟨_, _, _, hrun.snoc happly, hstep, hnew, AList.lookup_erase _ _, by decide, fun hspares => ?_⟩
  rcases hspares _ _ hnew with hsame | huid | ⟨e', he', -, -⟩
  · cases (AList.lookup_erase _ _).symm.trans hsame
  · exact absurd huid (by decide)
  · cases (AList.lookup_erase _ _).symm.trans he'

end Sample

end Spiderpool
