/-
# Applications that change while their keys are queued

The handlers of the application informers in `pkg/applicationcontroller/app_controller.go` and the
worker behind them. The handler decides by the versions it is given whether an application is
queued; the worker takes its key, and `syncHandler` reads the application from the cache again, in
whatever version it has come to be there.

`GetSubnetAnnoConfig` gives nil for a version without the annotations of subnets. The handler looks
for nil, `syncHandler` does not: it dereferences nil if and only if the cache holds such a version
under the name of the key (`config_present_iff`).
-/

import Spiderpool.Base.Runs
import Spiderpool.Base.WorkQueue
import Spiderpool.IPAM.PoolSelection

namespace Spiderpool
namespace AppController

inductive AppKind where
  | deployment
  | replicaSet
  | statefulSet
  | daemonSet
  | job
  | cronJob
deriving DecidableEq

namespace AppKind

def text : AppKind → String
  | deployment => Constant.kindDeployment
  | replicaSet => Constant.kindReplicaSet
  | statefulSet => Constant.kindStatefulSet
  | daemonSet => Constant.kindDaemonSet
  | job => Constant.kindJob
  | cronJob => Constant.kindCronJob

abbrev Count : AppKind → Type
  | deployment | replicaSet | statefulSet => Option Int32
  | daemonSet => Int32
  | job | cronJob => Option Int32 × Option Int32

/-- `newAppReplicas` and `oldAppReplicas` of the handler. -/
def replicas : (kind : AppKind) → kind.Count → ℤ
  | deployment, r | replicaSet, r | statefulSet, r => replicasOf r
  | daemonSet, n => n.toInt
  | job, j | cronJob, j => jobPodsOf j

def apiVersion : AppKind → String
  | deployment | replicaSet | statefulSet | daemonSet => Constant.appsV1
  | job | cronJob => Constant.batchV1

def app : (kind : AppKind) → kind.Count → App
  | deployment, r => .deployment (r.map Int32.toInt)
  | replicaSet, r => .replicaSet (r.map Int32.toInt)
  | statefulSet, r => .statefulSet (r.map Int32.toInt)
  | daemonSet, n => .daemonSet n.toInt
  | job, j => .job (j.1.map Int32.toInt) (j.2.map Int32.toInt)
  | cronJob, j => .cronJob (j.1.map Int32.toInt) (j.2.map Int32.toInt)

/-- The version and kind of an owner which takes care of the application itself. -/
def topController : AppKind → Option (String × String)
  | replicaSet => some (Constant.appsV1, Constant.kindDeployment)
  | job => some (Constant.batchV1, Constant.kindCronJob)
  | deployment | statefulSet | daemonSet | cronJob => none

theorem text_injective {kind kind' : AppKind} (h : kind.text = kind'.text) : kind = kind' := by
  cases kind <;> cases kind' <;> first | rfl | exact absurd h (by decide)

end AppKind

/-- An application as its informer holds it. Namespaces and names have no slash. -/
structure Workload (kind : AppKind) extends AppObject kind.Count where
  hostNetwork : Bool := false
  ownerReferences : List OwnerReference := []
  ns_plain : '/' ∉ ns.toList
  name_plain : '/' ∉ name.toList

variable {kind : AppKind}

/-- The key that `enqueueApp` makes of an application. -/
def Workload.appKey (app : Workload kind) : AppWorkQueueKey where
  metaNamespaceKey := metaNamespaceKey app.ns app.name
  appKind := kind.text
  appUID := app.uid

def Workload.isOwned (app : Workload kind) : Bool :=
  match getControllerOf app.ownerReferences with
  | none => false
  | some owner => kind.topController = some (owner.apiVersion, owner.kind)

/-- `hasSubnetConfigChanged`. A nil slice is not told apart from an empty one. -/
def hasSubnetConfigChanged (oldSubnetConfig newSubnetConfig : Option PodSubnetAnnoConfig)
    (oldAppReplicas newAppReplicas : ℤ) : Bool :=
  if oldSubnetConfig = none then true
  else if oldSubnetConfig = newSubnetConfig then oldAppReplicas ≠ newAppReplicas
  else true

/-- The configuration and the replicas of the old version, if there is one. -/
def oldConfig (redundant : Int64) :
    Option (Workload kind) → Result Err (Option PodSubnetAnnoConfig × ℤ)
  | none => .ok (none, 0)
  | some oldObj => do
    let config ← mapErr (.wrap "failed to get old app subnet configuration, error: " · "")
      (getSubnetAnnoConfig redundant oldObj.annotations)
    return (config, kind.replicas oldObj.count)

/-- `controllerAddOrUpdateHandler`: the key that it queues. -/
def controllerAddOrUpdateHandler (redundant : Int64) (oldObj : Option (Workload kind))
    (newObj : Workload kind) : Result Err (Option AppWorkQueueKey) :=
  if newObj.hostNetwork ∨ newObj.isOwned then .ok none
  else do
    let newSubnetConfig ← mapErr (.wrap "failed to get app subnet configuration, error: " · "")
      (getSubnetAnnoConfig redundant newObj.annotations)
    if IPAM.isDefaultIPPoolMode newSubnetConfig then return none
    else do
      let (oldSubnetConfig, oldAppReplicas) ← oldConfig redundant oldObj
      return if hasSubnetConfigChanged oldSubnetConfig newSubnetConfig oldAppReplicas
          (kind.replicas newObj.count) then
        some newObj.appKey
      else none

/-- What an informer tells its handler. A deletion that was missed comes without the
application. -/
inductive Notification (kind : AppKind) where
  | add (obj : Workload kind)
  | update (oldObj newObj : Workload kind)
  | delete (obj : Workload kind)
  | deletedFinalStateUnknown

/-- `controllerDeleteHandler`: the key that it queues when the pools of the application could not be
deleted. -/
def controllerDeleteHandler (obj : Workload kind) (deleted : Bool) : Option AppWorkQueueKey :=
  if (getControllerOf obj.ownerReferences).isSome ∨ deleted then none else some obj.appKey

/-- The key that the handlers queue for a notification. Their errors are logged only. -/
def Notification.queued (redundant : Int64) (deleted : Bool) :
    Notification kind → Option AppWorkQueueKey
  | .add obj => ((controllerAddOrUpdateHandler redundant none obj).toOption).join
  | .update oldObj newObj =>
    ((controllerAddOrUpdateHandler redundant (some oldObj) newObj).toOption).join
  | .delete obj => controllerDeleteHandler obj deleted
  | .deletedFinalStateUnknown => none

/-- The configuration of the controller's queue, and the errors that it knows from the API. -/
structure QueueConfig where
  maxWorkqueueLength : ℤ
  workQueueMaxRetries : ℤ
  workQueueRequeueDelayDuration : ℤ
  /-- `ClusterSubnetAutoPoolDefaultRedundantIPNumber`. -/
  redundant : Int64
  isConflict : Err → Bool
  isAlreadyExists : Err → Bool

def enqueueApp (cfg : QueueConfig) (q : WorkQueue AppWorkQueueKey) (key : AppWorkQueueKey) :
    WorkQueue AppWorkQueueKey :=
  if q.len ≥ cfg.maxWorkqueueLength then q else q.add key

/-- The end of `process` in `processNextWorkItem`, where `syncHandler` has returned. -/
def finish (cfg : QueueConfig) (q : WorkQueue AppWorkQueueKey) (key : AppWorkQueueKey)
    (err : Option Err) : WorkQueue AppWorkQueueKey :=
  WorkQueue.done (match err with
    | none => q.forget key
    | some e =>
      if .errWrongInput ∈ e.sentinels then q.forget key
      else if cfg.isConflict e ∨ cfg.isAlreadyExists e ∨ .errFreeIPsNotEnough ∈ e.sentinels then
        q.addRateLimited key
      else if cfg.workQueueRequeueDelayDuration ≥ 0 ∧
          q.numRequeues key < cfg.workQueueMaxRetries then
        q.addAfter key
      else q.forget key) key

/-- The caches of the informers, the notifications that their handlers have not had yet, and the
work queue. A panic takes the process down. -/
structure AppState where
  cache : (kind : AppKind) → GoMap (String × String) (Workload kind)
  notifications : (kind : AppKind) → List (Notification kind)
  workQueue : WorkQueue AppWorkQueueKey
  down : Bool

def AppState.init : AppState := ⟨fun _ => ∅, fun _ => [], .empty, false⟩

def AppState.lister (s : AppState) (kind : AppKind) : Lister kind.Count :=
  fun ns name => .ok (((s.cache kind).lookup (ns, name)).map (·.toAppObject))

def AppState.listers (s : AppState) : Listers where
  deployments := s.lister .deployment
  replicaSets := s.lister .replicaSet
  daemonSets := s.lister .daemonSet
  statefulSets := s.lister .statefulSet
  jobs := s.lister .job
  cronJobs := s.lister .cronJob

/-- The new version of an application is in the cache, and its handler is to be told. -/
def AppState.store (s : AppState) (obj : Workload kind) : AppState :=
  let note := match (s.cache kind).lookup (obj.ns, obj.name) with
    | none => Notification.add obj
    | some oldObj => .update oldObj obj
  { s with
    cache := Function.update s.cache kind ((s.cache kind).insert (obj.ns, obj.name) obj)
    notifications := Function.update s.notifications kind (s.notifications kind ++ [note]) }

/-- An application is no longer in the cache, and its handler is to be told. -/
def AppState.remove (s : AppState) (obj : Workload kind) (missed : Bool) : AppState :=
  let note := if missed then Notification.deletedFinalStateUnknown else .delete obj
  { s with
    cache := Function.update s.cache kind ((s.cache kind).erase (obj.ns, obj.name))
    notifications := Function.update s.notifications kind (s.notifications kind ++ [note]) }

/-- The error with which `syncHandler` ends, or none, where `deletion` is how `deleteAutoPools`
ends. -/
def syncErr (deletion : Result Err Unit) : Result Err Synced → Result Err (Option Err)
  | .ok (.deleteAutoPools _) =>
    match deletion with
    | .ok () => .ok none
    | .error (.err e) => .ok (some e)
    | .error .panic => .error .panic
    | .error .hang => .error .hang
  | .ok (.applied _ _) => .ok none
  | .error (.err e) => .ok (some e)
  | .error .panic => .error .panic
  | .error .hang => .error .hang

/-- What can happen: an application is created or changed, or deleted; a handler runs; a delay is
over; the worker takes a key, or handles the one it has. -/
inductive AppEvent where
  | store (kind : AppKind) (obj : Workload kind)
  | remove (kind : AppKind) (obj : Workload kind) (missed : Bool)
  | notify (kind : AppKind) (deleted : Bool)
  | ready (key : AppWorkQueueKey)
  | get
  | sync (env : Env) (deletion : Result Err Unit)

inductive AppStep (cfg : QueueConfig) : AppState → AppEvent → AppState → Prop
  | store {s : AppState} {kind : AppKind} (obj : Workload kind) (hup : s.down = false) :
      AppStep cfg s (.store kind obj) (s.store obj)
  | remove {s : AppState} {kind : AppKind} {obj : Workload kind} (missed : Bool)
      (hup : s.down = false) (hobj : (s.cache kind).lookup (obj.ns, obj.name) = some obj) :
      AppStep cfg s (.remove kind obj missed) (s.remove obj missed)
  | notify {s : AppState} {kind : AppKind} {note : Notification kind}
      {rest : List (Notification kind)} (deleted : Bool) (hup : s.down = false)
      (hnote : s.notifications kind = note :: rest) :
      AppStep cfg s (.notify kind deleted) { s with
        notifications := Function.update s.notifications kind rest
        workQueue :=
          (note.queued cfg.redundant deleted).elim s.workQueue (enqueueApp cfg s.workQueue) }
  | ready {s : AppState} {key : AppWorkQueueKey} (hup : s.down = false)
      (hkey : key ∈ s.workQueue.waiting) :
      AppStep cfg s (.ready key) { s with workQueue := s.workQueue.ready key }
  | get {s : AppState} {key : AppWorkQueueKey} {rest : List AppWorkQueueKey} (hup : s.down = false)
      (hidle : s.workQueue.processing = []) (hkey : s.workQueue.queue = key :: rest) :
      AppStep cfg s .get { s with workQueue := s.workQueue.take key }
  | sync {s : AppState} {key : AppWorkQueueKey} {env : Env} {deletion : Result Err Unit}
      {err : Option Err} (hup : s.down = false) (hkey : s.workQueue.processing = [key])
      (hlisters : env.listers = s.listers) (hredundant : env.redundant = cfg.redundant)
      (hend : syncErr deletion (syncHandler env key) = .ok err) :
      AppStep cfg s (.sync env deletion) { s with workQueue := finish cfg s.workQueue key err }
  | crash {s : AppState} {key : AppWorkQueueKey} {env : Env} {deletion : Result Err Unit}
      (hup : s.down = false) (hkey : s.workQueue.processing = [key])
      (hlisters : env.listers = s.listers) (hredundant : env.redundant = cfg.redundant)
      (hend : syncErr deletion (syncHandler env key) = .error .panic) :
      AppStep cfg s (.sync env deletion) { s with down := true }

/-! ### What the handler reads -/

/-- What `syncHandler` goes on with for an application that it finds. -/
def Workload.synced (obj : Workload kind) : SyncedApp where
  podController :=
    { apiVersion := kind.apiVersion, kind := kind.text, ns := obj.ns, name := obj.name,
      uid := obj.uid, app := kind.app obj.count }
  podAnno := obj.annotations
  appReplicas := kind.replicas obj.count

/-- `syncHandler` up to where it uses the configuration: the application that it finds, with the
configuration of its annotations. -/
def foundConfig (redundant : Int64) (listers : Listers) (key : AppWorkQueueKey) :
    Result Err (Option (SyncedApp × Option PodSubnetAnnoConfig)) := do
  let (ns, name) ← mapErr (.wrongInput ("failed to split meta namespace key '" ++
    key.metaNamespaceKey ++ "', error: ")) (splitMetaNamespaceKey key.metaNamespaceKey)
  match ← findApp listers key ns name with
  | none => return none
  | some app => do
    let subnetConfig ← mapErr (.wrongInput "failed to get pod annotation subnet config, error: ")
      (getSubnetAnnoConfig redundant app.podAnno)
    return some (app, subnetConfig)

/-- `syncHandler` dereferences a nil configuration. -/
def DereferencesNil (redundant : Int64) (listers : Listers) (key : AppWorkQueueKey) : Prop :=
  ∃ app, foundConfig redundant listers key = .ok (some (app, none))

theorem syncHandler_of_nil {env : Env} {key : AppWorkQueueKey}
    (h : DereferencesNil env.redundant env.listers key) : syncHandler env key = .error .panic := by
  obtain ⟨app, h⟩ := h
  obtain ⟨⟨ns, name⟩, hsplit, h⟩ := bind_eq_ok.1 h
  obtain ⟨found, hfound, h⟩ := bind_eq_ok.1 h
  cases found with
  | none => cases h
  | some app' =>
    obtain ⟨config, hconfig, h⟩ := bind_eq_ok.1 h
    obtain ⟨rfl, rfl⟩ := Prod.mk.inj (Option.some.inj (Except.ok.inj h))
    simp only [syncHandler, bind, Except.bind, hsplit, hfound, hconfig, deref]

theorem split_metaNamespaceKey {ns name : String} (hns : '/' ∉ ns.toList)
    (hname : '/' ∉ name.toList) :
    splitMetaNamespaceKey (metaNamespaceKey ns name) = .ok (ns, name) := by
  unfold metaNamespaceKey splitMetaNamespaceKey
  split_ifs with hempty
  · rw [split_of_notMem hname, hempty]
  · have hsplit : split (ns ++ "/" ++ name) '/' = [ns, name] := split_append hns hname
    rw [hsplit]

theorem Workload.name_eq {kind' : AppKind} {app : Workload kind} {app' : Workload kind'}
    (h : app.appKey.metaNamespaceKey = app'.appKey.metaNamespaceKey) :
    app.ns = app'.ns ∧ app.name = app'.name := by
  have hsplit := split_metaNamespaceKey app.ns_plain app.name_plain
  have hsplit' := split_metaNamespaceKey app'.ns_plain app'.name_plain
  have hkey : metaNamespaceKey app.ns app.name = metaNamespaceKey app'.ns app'.name := h
  rw [hkey, hsplit'] at hsplit
  exact Prod.mk.inj (Except.ok.inj hsplit).symm

theorem getSubnetAnnoConfig_eq_none_iff {redundant : Int64} {anno : PodAnnotations} :
    getSubnetAnnoConfig redundant anno = .ok none ↔ anno.subnets = none ∧ anno.subnet = none := by
  constructor
  · intro h
    obtain ⟨subnets, hsubnets, h⟩ := bind_eq_ok.1 h
    cases subnets with
    | some config =>
      obtain ⟨_, -, h⟩ := bind_eq_ok.1 h
      obtain ⟨_, -, h⟩ := bind_eq_ok.1 h
      obtain ⟨_, -, h⟩ := bind_eq_ok.1 h
      cases h
    | none =>
      unfold subnetsOfAnno at hsubnets
      split at hsubnets
      · obtain ⟨_, -, h⟩ := bind_eq_ok.1 hsubnets
        cases h
      · obtain ⟨_, -, h⟩ := bind_eq_ok.1 hsubnets
        cases h
      · exact ⟨‹_›, ‹_›⟩
  · rintro ⟨hsubnets, hsubnet⟩
    simp only [getSubnetAnnoConfig, subnetsOfAnno, hsubnets, hsubnet]
    rfl

theorem findApp_listers (s : AppState) {key : AppWorkQueueKey} {kind : AppKind}
    (hkind : key.appKind = kind.text) (ns name : String) :
    findApp s.listers key ns name = .ok (((s.cache kind).lookup (ns, name)).map (·.synced)) := by
  have hlisted : ∀ (apiVersion : String) (app : kind.Count → App) (appReplicas : kind.Count → ℤ),
      apiVersion = kind.apiVersion → app = kind.app → appReplicas = kind.replicas →
      listed (s.lister kind ns name) kind.text apiVersion app appReplicas =
        .ok (((s.cache kind).lookup (ns, name)).map (·.synced)) := by
    rintro _ _ _ rfl rfl rfl
    exact congrArg Except.ok (Option.map_map ..)
  unfold findApp
  rw [hkind]
  cases kind <;> exact hlisted _ _ _ rfl rfl rfl

theorem dereferencesNil_iff (s : AppState) (redundant : Int64) (app : Workload kind) :
    DereferencesNil redundant s.listers app.appKey ↔
      ∃ obj, (s.cache kind).lookup (app.ns, app.name) = some obj ∧
        obj.annotations.subnets = none ∧ obj.annotations.subnet = none := by
  have hfound := findApp_listers s (show app.appKey.appKind = kind.text from rfl) app.ns app.name
  have hsplit : splitMetaNamespaceKey app.appKey.metaNamespaceKey = .ok (app.ns, app.name) :=
    split_metaNamespaceKey app.ns_plain app.name_plain
  unfold DereferencesNil foundConfig
  rw [hsplit]
  simp only [mapErr, bind, Except.bind, hfound]
  cases (s.cache kind).lookup (app.ns, app.name) with
  | none => simp [pure, Except.pure]
  | some obj =>
    dsimp only [Option.map_some, Workload.synced]
    constructor
    · rintro ⟨found, h⟩
      obtain ⟨config, hconfig, h⟩ := bind_eq_ok.1 h
      obtain ⟨-, rfl⟩ := Prod.mk.inj (Option.some.inj (Except.ok.inj h))
      exact ⟨obj, rfl, getSubnetAnnoConfig_eq_none_iff.1 (mapErr_eq_ok.1 hconfig)⟩
    · rintro ⟨_, ⟨⟩, hnone⟩
      exact ⟨_, bind_eq_ok.2 ⟨_, mapErr_eq_ok.2 (getSubnetAnnoConfig_eq_none_iff.2 hnone), rfl⟩⟩

/-! ### Runs -/

/-- The caches file applications under their names, and the queue holds keys of applications. -/
structure AppState.Consistent (s : AppState) : Prop where
  filed : ∀ (kind : AppKind) (k : String × String) (obj : Workload kind),
    (s.cache kind).lookup k = some obj → (obj.ns, obj.name) = k
  keyed : ∀ key, s.workQueue.Holds key → ∃ (kind : AppKind) (app : Workload kind), key = app.appKey

section

variable {cfg : QueueConfig} {s s' : AppState} {key key' : AppWorkQueueKey}

theorem holds_enqueueApp {q : WorkQueue AppWorkQueueKey} (h : (enqueueApp cfg q key).Holds key') :
    key' = key ∨ q.Holds key' := by
  unfold enqueueApp at h
  split_ifs at h
  · exact .inr h
  · exact WorkQueue.holds_add h

theorem holds_finish {q : WorkQueue AppWorkQueueKey} {err : Option Err}
    (hkey : q.Holds key) (h : (finish cfg q key err).Holds key') : q.Holds key' := by
  have hends : ∀ q' : WorkQueue AppWorkQueueKey, q'.Holds key →
      (∀ j, q'.Holds j → j = key ∨ q.Holds j) → (q'.done key).Holds key' → q.Holds key' := by
    intro q' hq' hsub hdone
    rcases hsub key' (WorkQueue.holds_done hq' hdone) with rfl | hj
    · exact hkey
    · exact hj
  have hafter : (q.addAfter key).Holds key := .inr (.inr (.inr List.mem_cons_self))
  unfold finish at h
  split at h
  · exact hends _ hkey (fun j hj => .inr hj) h
  · split_ifs at h
    · exact hends _ hkey (fun j hj => .inr hj) h
    · exact hends _ hafter (fun j hj => WorkQueue.holds_addRateLimited hj) h
    · exact hends _ hafter (fun j hj => WorkQueue.holds_addAfter hj) h
    · exact hends _ hkey (fun j hj => .inr hj) h

theorem Notification.queued_eq {note : Notification kind} {redundant : Int64} {deleted : Bool}
    (h : note.queued redundant deleted = some key) : ∃ app : Workload kind, key = app.appKey := by
  have hupdate : ∀ (oldObj : Option (Workload kind)) (newObj : Workload kind),
      (controllerAddOrUpdateHandler redundant oldObj newObj).toOption.join = some key →
        key = newObj.appKey := by
    intro oldObj newObj h
    obtain ⟨queued, hqueued, h⟩ := exists_ok_of_map (f := id)
      (by rw [Option.map_id]; exact Option.join_eq_some_iff.1 h)
    obtain rfl : queued = some key := h
    unfold controllerAddOrUpdateHandler at hqueued
    split_ifs at hqueued
    · cases hqueued
    · obtain ⟨config, -, hqueued⟩ := bind_eq_ok.1 hqueued
      split_ifs at hqueued
      · cases hqueued
      · obtain ⟨⟨oldConfig, oldReplicas⟩, -, hqueued⟩ := bind_eq_ok.1 hqueued
        have hkey := Except.ok.inj hqueued
        split_ifs at hkey
        exact (Option.some.inj hkey).symm
  cases note with
  | add obj => exact ⟨obj, hupdate none obj h⟩
  | update oldObj newObj => exact ⟨newObj, hupdate (some oldObj) newObj h⟩
  | delete obj =>
    simp only [queued, controllerDeleteHandler] at h
    split_ifs at h
    exact ⟨obj, (Option.some.inj h).symm⟩
  | deletedFinalStateUnknown => cases h

theorem AppState.Consistent.step (hs : s.Consistent) {e : AppEvent} (h : AppStep cfg s e s') :
    s'.Consistent := by
  cases h with
  | @store kind obj hup =>
    refine ⟨fun kind' k obj' hk => ?_, hs.keyed⟩
    by_cases hkind : kind' = kind
    · subst hkind
      simp only [AppState.store, Function.update_self, GoMap.lookup_insert_eq] at hk
      split_ifs at hk with hk'
      · rw [← Option.some.inj hk, hk']
      · exact hs.filed _ k obj' hk
    · simp only [AppState.store, Function.update_of_ne hkind] at hk
      exact hs.filed _ k obj' hk
  | @remove kind obj missed hup hobj =>
    refine ⟨fun kind' k obj' hk => ?_, hs.keyed⟩
    by_cases hkind : kind' = kind
    · subst hkind
      simp only [AppState.remove, Function.update_self, GoMap.lookup_erase_eq] at hk
      split_ifs at hk
      exact hs.filed _ k obj' hk
    · simp only [AppState.remove, Function.update_of_ne hkind] at hk
      exact hs.filed _ k obj' hk
  | @notify kind note rest deleted hup hnote =>
    refine ⟨hs.filed, fun key hkey => ?_⟩
    cases hqueued : note.queued cfg.redundant deleted with
    | none =>
      simp only [hqueued, Option.elim_none] at hkey
      exact hs.keyed key hkey
    | some queued =>
      simp only [hqueued, Option.elim_some] at hkey
      rcases holds_enqueueApp hkey with rfl | hkey
      · exact ⟨kind, Notification.queued_eq hqueued⟩
      · exact hs.keyed key hkey
  | ready hup hkey => exact ⟨hs.filed, fun key h => hs.keyed key (WorkQueue.holds_ready hkey h)⟩
  | get hup hidle hkey => exact ⟨hs.filed, fun key h => hs.keyed key (WorkQueue.holds_take hkey h)⟩
  | sync hup hkey hlisters hredundant hend =>
    refine ⟨hs.filed, fun key' h => hs.keyed key' (holds_finish (.inr (.inr (.inl ?_))) h)⟩
    rw [hkey]
    exact List.mem_singleton_self _
  | crash => exact ⟨hs.filed, hs.keyed⟩

theorem consistent_of_run {es : List AppEvent} (h : Run (AppStep cfg) .init es s) : s.Consistent :=
  h.inv AppState.Consistent ⟨fun _ _ _ => nofun, fun key h => absurd h (WorkQueue.not_holds_empty key)⟩
    fun _ _ _ hs hstep => hs.step hstep

/-- **When the configuration is there.**  Whatever has been created, changed, deleted and handled
before, `syncHandler` does not dereference a nil configuration for the key that the worker has taken,
if and only if every application in the caches that has the kind and the name of the key has one of
the annotations of subnets. -/
theorem config_present_iff (es : List AppEvent) (hrun : Run (AppStep cfg) .init es s)
    (hkey : key ∈ s.workQueue.processing) :
    ¬DereferencesNil cfg.redundant s.listers key ↔
      ∀ (kind : AppKind) (obj : Workload kind), (s.cache kind).lookup (obj.ns, obj.name) = some obj →
        obj.appKey.appKind = key.appKind → obj.appKey.metaNamespaceKey = key.metaNamespaceKey →
        obj.annotations.subnets.isSome ∨ obj.annotations.subnet.isSome := by
  have hs := consistent_of_run hrun
  obtain ⟨kind, app, rfl⟩ := hs.keyed key (.inr (.inr (.inl hkey)))
  rw [dereferencesNil_iff]
  constructor
  · intro hnil kind' obj hobj hkind hname
    obtain rfl := AppKind.text_injective hkind
    obtain ⟨hns, hname⟩ := Workload.name_eq hname
    rw [hns, hname] at hobj
    by_contra hnone
    rw [not_or, Option.not_isSome_iff_eq_none, Option.not_isSome_iff_eq_none] at hnone
    exact hnil ⟨obj, hobj, hnone⟩
  · rintro hall ⟨obj, hobj, hsubnets, hsubnet⟩
    obtain ⟨hns, hname⟩ := Prod.mk.inj (hs.filed kind _ obj hobj)
    have hkey : obj.appKey.metaNamespaceKey = app.appKey.metaNamespaceKey := by
      rw [Workload.appKey, Workload.appKey, hns, hname]
    have hanno := hall kind obj (by rw [hns, hname, hobj]) rfl hkey
    simp [hsubnets, hsubnet] at hanno

end

end AppController

namespace Sample

open AppController

def queueConfig : QueueConfig where
  maxWorkqueueLength := 10000
  workQueueMaxRetries := 500
  workQueueRequeueDelayDuration := 5
  redundant := 1
  isConflict := fun e => e = errConflict
  isAlreadyExists := fun e => e = errAlreadyExists

def watchedWeb (annotations : PodAnnotations) : Workload .deployment where
  ns := "default"
  name := "web"
  uid := "u1"
  annotations := annotations
  count := some 2
  ns_plain := by decide
  name_plain := by decide

def oneSubnet : PodAnnotations := { subnet := some (.doc (some { ipv4 := ["demo-v4"] })) }

theorem web_queued :
    (Notification.add (watchedWeb oneSubnet)).queued queueConfig.redundant true =
      some (watchedWeb oneSubnet).appKey := by
  rfl

theorem web_taken (annotations : PodAnnotations) : ∃ (es : List AppEvent) (s : AppState),
    Run (AppStep queueConfig) .init es s ∧
    s.workQueue.processing = [(watchedWeb oneSubnet).appKey] ∧
    ∀ k, (s.cache .deployment).lookup k =
      if k = ("default", "web") then some (watchedWeb annotations) else none := by
  have hnotify := @AppStep.notify queueConfig (AppState.init.store (watchedWeb oneSubnet)) .deployment
    (.add (watchedWeb oneSubnet)) [] true rfl rfl
  rw [web_queued] at hnotify
  refine ⟨_, _, .cons (.store (watchedWeb oneSubnet) rfl) (.cons hnotify
    (.cons (.store (watchedWeb annotations) rfl) (.cons (.get rfl rfl rfl) (.nil _)))), rfl, ?_⟩
  intro k
  simp only [AppState.store, Function.update_self, GoMap.lookup_insert_eq]
  change (if k = ("default", "web") then _ else if k = ("default", "web") then _ else none) = _
  split_ifs <;> rfl

/-- A Deployment that keeps a subnet is handled with it. -/
theorem kept_subnet_handled : ∃ (es : List AppEvent) (s : AppState),
    Run (AppStep queueConfig) .init es s ∧
      ¬DereferencesNil 1 s.listers (watchedWeb oneSubnet).appKey := by
  obtain ⟨es, s, hrun, hkey, hcache⟩ := web_taken oneSubnet
  refine ⟨es, s, hrun, (config_present_iff es hrun (hkey ▸ List.mem_singleton_self _)).2 ?_⟩
  rintro kind obj hobj hkind -
  obtain rfl : kind = .deployment := AppKind.text_injective hkind
  rw [hcache] at hobj
  split_ifs at hobj
  rw [← Option.some.inj hobj]
  exact .inr rfl

/-- A Deployment that loses its subnets while its key is queued takes the controller down. -/
theorem lost_subnet_panics : ∃ (es : List AppEvent) (s : AppState),
    Run (AppStep queueConfig) .init es s ∧
    (watchedWeb oneSubnet).appKey ∈ s.workQueue.processing ∧
    DereferencesNil 1 s.listers (watchedWeb oneSubnet).appKey ∧
    ∀ env : Env, env.listers = s.listers → env.redundant = 1 →
      AppController.syncHandler env (watchedWeb oneSubnet).appKey = .error .panic := by
  obtain ⟨es, s, hrun, hkey, hcache⟩ := web_taken {}
  have hnil : DereferencesNil 1 s.listers (watchedWeb oneSubnet).appKey :=
    (dereferencesNil_iff s 1 (watchedWeb oneSubnet)).2 ⟨watchedWeb {}, hcache _, rfl, rfl⟩
  refine ⟨es, s, hrun, hkey ▸ List.mem_singleton_self _, hnil, fun env hlisters hredundant => ?_⟩
  exact syncHandler_of_nil (by rwa [hlisters, hredundant])

end Sample

end Spiderpool
