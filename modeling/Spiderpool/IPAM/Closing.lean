/-
# Pools that are deleted or disabled meanwhile

A pool becomes a candidate if the copy of it in the informer's cache passes `selectByPod`, and
`AllocateIP` reads it again, past the cache, without another look at its deletion timestamp or
at `spec.disable`. The system here is that of `Spiderpool.IPPool.System`, in which a client
calls `AllocateIP` only on a pool it has selected, from any version the cache may have shown it
(`SelectStep`).
-/

import Spiderpool.IPAM.Select
import Spiderpool.IPPool.WellFormed

namespace Spiderpool
namespace IPAM

open Versioned

structure Request where
  version : IPVersion
  nic : String
  pod : Pod
  podController : PodTopController
  podNetNamespace : String := ""
  matchMasterSubnet : Bool := false

def Request.op (r : Request) : PoolOp := .allocateIP r.nic r.pod r.podController

def Request.Selects (cfg : Config) (r : Request) (ipPool : Option IPPool) : Prop :=
  ∃ env, selectByPod cfg env r.version ipPool r.pod r.podController r.nic r.podNetNamespace
    r.matchMasterSubnet = .ok ()

/-- A pool with its clients, and the versions of it they have selected. -/
structure SelectWorld (ι : Type*) where
  world : PoolWorld ι
  chosen : ι → Option (Version (Option IPPool))

/-- What happens in a step: a client selects the pool, or an event at the pool. -/
inductive SelectEvent (ι : Type*) where
  | select (i : ι)
  | pool (e : Event ι PoolOp PoolReply)

section

variable {ι : Type*} [DecidableEq ι] (cfg : Config) (mgr : IPPoolManagerConfig)
  (requests : ι → Request)

/-- A step of a client. Which clients allocate and which delete or update the pool is left
open; those that allocate have a request and have selected the pool for it. -/
inductive SelectStep : SelectWorld ι → SelectEvent ι → SelectWorld ι → Prop
  | select {w : SelectWorld ι} {i : ι} {v : Version (Option IPPool)} (hv : w.world.store.Shows v)
      (hselect : (requests i).Selects cfg v.val) :
      SelectStep w (.select i) { w with chosen := Function.update w.chosen i (some v) }
  | pool {w : SelectWorld ι} {e : Event ι PoolOp PoolReply} {world : PoolWorld ι}
      (hcall : ∀ i nic pod pc, e = .call i (.allocateIP nic pod pc) →
        .allocateIP nic pod pc = (requests i).op ∧ (w.chosen i).isSome)
      (hstep : PoolStep mgr w.world e world) :
      SelectStep w (.pool e) { w with world := world }

end

def Open (p : IPPool) : Prop := p.deletionTimestamp = none ∧ p.spec.disable ≠ some true

/-- The calls that close a pool: a delete request, and an update that disables it. -/
def Closes : PoolOp → Prop
  | .delete _ => True
  | .updateSpec request => request.spec.disable = some true
  | _ => False

def ClosesPool {ι : Type*} : SelectEvent ι → Prop
  | .pool (.commit _ op _) => Closes op
  | _ => False

section

variable {ι : Type*} [DecidableEq ι] {cfg : Config} {mgr : IPPoolManagerConfig}
  {requests : ι → Request}

theorem PoolAttempt.open {op : PoolOp} {v v' : Option IPPool} {r : PoolReply}
    (h : PoolAttempt mgr op v (.write v' r)) (hop : ¬ Closes op) (hv : ∀ p ∈ v, Open p) :
    ∀ p ∈ v', Open p := by
  cases h with
  | @allocate nic pod pc env p p' ip h =>
    rintro _ ⟨⟩
    rw [genRandomIP_frame h]
    exact hv p rfl
  | @release ius p p' h =>
    obtain ⟨m, m', n, -, -, rfl⟩ := releaseIP_ok h
    rintro _ ⟨⟩
    exact hv p rfl
  | @update nn ius p p' h =>
    obtain ⟨m, m', -, -, rfl⟩ := updateAllocatedIPs_ok h
    rintro _ ⟨⟩
    exact hv p rfl
  | @sync p w h =>
    rcases syncHandler_ok h with ⟨hterm, -⟩ | ⟨total, rfl⟩
    · simp [(hv p rfl).1] at hterm
    · rintro _ ⟨⟩
      exact hv p rfl
  | @updateSpec request iw order p p' hp hd hval =>
    have hframe := (defaultIPPool_ok hd hp).1
    have hrequested : (addFinalizer (requested request p)).deletionTimestamp = p.deletionTimestamp ∧
        (addFinalizer (requested request p)).spec = request.spec := by
      unfold addFinalizer requested
      split_ifs <;> exact ⟨rfl, rfl⟩
    rintro _ ⟨⟩
    refine ⟨?_, fun hdisable => hop ?_⟩
    · rw [hframe.deletionTimestamp, hrequested.1, hp]
    · rw [hframe.disable, hrequested.2] at hdisable
      exact hdisable
  | delete h => exact absurd trivial hop

/-- What a client has selected has passed the check, and every version held is one the store
has shown. -/
structure SelectInv (cfg : Config) (requests : ι → Request) (w : SelectWorld ι) : Prop where
  shown : w.world.Shown
  chosen : ∀ i v, w.chosen i = some v → (requests i).Selects cfg v.val

theorem SelectInv.step {w w' : SelectWorld ι} {e : SelectEvent ι} (hI : SelectInv cfg requests w)
    (h : SelectStep cfg mgr requests w e w') : SelectInv cfg requests w' := by
  cases h with
  | @select i v hv hselect =>
    refine ⟨hI.shown, fun j v' hj => ?_⟩
    by_cases hji : j = i
    · subst hji
      obtain rfl : v = v' := by simpa using hj
      exact hselect
    · exact hI.chosen j v' (by simpa [hji] using hj)
  | pool hcall hstep => exact ⟨hstep.shown hI.shown, hI.chosen⟩

theorem SelectStep.open {w w' : SelectWorld ι} {e : SelectEvent ι}
    (h : SelectStep cfg mgr requests w e w') (hw : w.world.Shown) (he : ¬ ClosesPool e)
    (hopen : ∀ p ∈ w.world.val, Open p) : ∀ p ∈ w'.world.val, Open p := by
  cases h with
  | select hv hselect => exact hopen
  | pool hcall hstep =>
    have hkeep : ∀ op v v' r, (∀ p ∈ v, Open p) → ¬ Closes op →
        (poolCalls mgr).attempt op v (.write v' r) → ∀ p ∈ v', Open p :=
      fun op v v' r hv hok ha => PoolAttempt.open ha hok hv
    refine hstep.keeps hkeep hw ?_ hopen
    rintro i op r rfl
    exact he

end

/-- An allocation commits on an open pool, if nobody deletes or disables the pool between the
version `v` that was selected and the commit. -/
theorem allocates_open {ι : Type*} [DecidableEq ι] (cfg : Config) (mgr : IPPoolManagerConfig)
    (requests : ι → Request) {w₀ w₁ w₂ w₃ : SelectWorld ι} {es₁ es₂ : List (SelectEvent ι)} {i : ι}
    {v r : Version (Option IPPool)} {op : PoolOp} {n : ℕ} {reply : PoolReply}
    (hidle : ∀ i, w₀.world.phase i = .idle) (hnone : ∀ i, w₀.chosen i = none)
    (hrun₁ : Run (SelectStep cfg mgr requests) w₀ es₁ w₁) (hcur : w₁.world.store.cur = v)
    (hrun₂ : Run (SelectStep cfg mgr requests) w₁ es₂ w₂) (hclose : ∀ e ∈ es₂, ¬ ClosesPool e)
    (hchosen : w₂.chosen i = some v) (hread : w₂.world.phase i = .holding op n r)
    (hcommit : SelectStep cfg mgr requests w₂ (.pool (.commit i (requests i).op reply)) w₃) :
    ∀ p ∈ r.val, p.deletionTimestamp = none ∧ p.spec.disable ≠ some true := by
  have hI₀ : SelectInv cfg requests w₀ :=
    ⟨World.shown_of_idle hidle, fun i v hv => by simp [hnone i] at hv⟩
  have hI₁ := hrun₁.inv _ hI₀ fun _ _ _ => SelectInv.step
  have hI₂ := hrun₂.inv _ hI₁ fun _ _ _ => SelectInv.step
  have hopen₁ : ∀ p ∈ w₁.world.val, Open p := by
    obtain ⟨env, hselect⟩ := hI₂.chosen i v hchosen
    intro p hp
    rw [← hcur, show w₁.world.store.cur.val = some p from hp] at hselect
    obtain ⟨hlive, henabled, -⟩ := selectByPod_ok hselect
    exact ⟨hlive, by simp [henabled]⟩
  have hopen₂ := (hrun₂.inv_of
    (fun w => SelectInv cfg requests w ∧ ∀ p ∈ w.world.val, Open p) (¬ ClosesPool ·) ⟨hI₁, hopen₁⟩ hclose
    fun _ _ _ hI he hst => ⟨hI.1.step hst, hst.open hI.1.shown he hI.2⟩).2
  cases hcommit with
  | pool hcall hstep =>
    rw [hstep.commit_read hI₂.shown hread]
    exact hopen₂

theorem Run.select {ι : Type*} [DecidableEq ι] {cfg : Config} {mgr : IPPoolManagerConfig}
    {requests : ι → Request} {w w' : PoolWorld ι} {es : List (Event ι PoolOp PoolReply)}
    {chosen : ι → Option (Version (Option IPPool))} (h : Run (PoolStep mgr) w es w')
    (hcall : ∀ i nic pod pc, .call i (.allocateIP nic pod pc) ∈ es →
      .allocateIP nic pod pc = (requests i).op ∧ (chosen i).isSome) :
    Run (SelectStep cfg mgr requests) ⟨w, chosen⟩ (es.map .pool) ⟨w', chosen⟩ := by
  induction h with
  | nil => exact .nil _
  | cons hstep _ ih =>
    refine .cons (.pool (fun i nic pod pc he => hcall i nic pod pc ?_) hstep)
      (ih fun i nic pod pc he => hcall i nic pod pc (List.mem_cons_of_mem _ he))
    rw [he]
    exact List.mem_cons_self

end IPAM

/-! ### A pool that is deleted between its selection and the allocation -/

namespace Sample

open IPAM Versioned

def openPool : IPPool := { pool with spec := { pool.spec with disable := some false } }

def agent : IPAM.Config := { multusClusterNetwork := some "kube-system/default" }

def selectEnv : SelectEnv where
  getIPPoolByName _ := .ok openPool
  parsePodNetworkAnnotation _ _ := .ok [{ name := "default", ns := "kube-system" }]

def podRequest : Request where
  version := Constant.ipv4
  nic := "eth0"
  pod := pod "u1"
  podController := topController

def atRest : SelectWorld ℕ := ⟨World.init (some openPool), fun _ => none⟩

theorem selects_openPool : podRequest.Selects agent (some openPool) := ⟨selectEnv, rfl⟩

def selected : SelectWorld ℕ :=
  { atRest with chosen := Function.update atRest.chosen 0 (some ⟨0, some openPool⟩) }

theorem select_step : SelectStep agent config (fun _ => podRequest) atRest (.select 0) selected :=
  .select (.inl rfl) selects_openPool

theorem calls_selected (i : ℕ) (nic : String) (pod' : Pod) (pc : PodTopController)
    (h : (.call i (.allocateIP nic pod' pc) : Event ℕ PoolOp PoolReply) ∈
      [.call 0 podRequest.op, .read 0 podRequest.op]) :
    .allocateIP nic pod' pc = podRequest.op ∧ (selected.chosen i).isSome := by
  obtain ⟨rfl, hop⟩ : i = 0 ∧ .allocateIP nic pod' pc = podRequest.op := by simpa using h
  exact ⟨hop, rfl⟩

theorem selected_allocates (world : PoolWorld ℕ) {p p' : IPPool} {ip : IP}
    (hidle : ∀ i, world.phase i = .idle) (hval : world.val = some p)
    (hgen : genRandomIP config env (pod "u1") topController p = .ok (ip, p')) :
    ∃ (w₁ w₂ : PoolWorld ℕ) (n : ℕ) (r : Version (Option IPPool)) (reply : PoolReply),
      Run (SelectStep agent config fun _ => podRequest) ⟨world, selected.chosen⟩
        [.pool (.call 0 podRequest.op), .pool (.read 0 podRequest.op)] ⟨w₁, selected.chosen⟩ ∧
      w₁.phase 0 = .holding podRequest.op n r ∧ r.val = some p ∧
      SelectStep agent config (fun _ => podRequest) ⟨w₁, selected.chosen⟩
        (.pool (.commit 0 podRequest.op reply)) ⟨w₂, selected.chosen⟩ ∧ w₂.val = some p' := by
  have hattempt : PoolAttempt config podRequest.op world.val
      (.write (some p') (.allocated ip (genIPConfigResult config ip "eth0" p'))) := by
    rw [hval]
    exact .allocate hgen
  have htries : (poolCalls config).tries podRequest.op ≠ 0 := by decide
  obtain ⟨w₁, w₂, hrun, hval₁, hcommit, hval₂, -⟩ := World.solo hidle 0 htries hattempt
  obtain ⟨n, r, hread⟩ := hcommit.commit_holds
  have hshown : w₁.Shown := hrun.inv _ (World.shown_of_idle hidle) fun _ _ _ hI hst => hst.shown hI
  have hr : r.val = some p := by
    rw [hcommit.commit_read hshown hread]
    exact hval₁.trans hval
  exact ⟨w₁, w₂, n, r, _, Run.select hrun calls_selected, hread, hr,
    .pool (fun i nic pod pc he => by cases he) hcommit, hval₂⟩

/-- Left alone, the agent allocates from an open pool. -/
theorem open_allocates : ∃ (w w' : SelectWorld ℕ) (n : ℕ) (r : Version (Option IPPool))
    (reply : PoolReply),
    Run (SelectStep agent config fun _ => podRequest) atRest
      [.select 0, .pool (.call 0 podRequest.op), .pool (.read 0 podRequest.op)] w ∧
    w.world.phase 0 = .holding podRequest.op n r ∧ r.val = some openPool ∧
    SelectStep agent config (fun _ => podRequest) w (.pool (.commit 0 podRequest.op reply)) w' ∧
    ∀ p ∈ r.val, p.deletionTimestamp = none ∧ p.spec.disable ≠ some true := by
  obtain ⟨ip, p', hgen⟩ : ∃ ip p', genRandomIP config env (pod "u1") topController openPool =
      .ok (ip, p') := ⟨_, _, rfl⟩
  obtain ⟨w₁, w₂, n, r, reply, hrun, hread, hr, hcommit, -⟩ :=
    selected_allocates (World.init (some openPool)) (fun _ => rfl) rfl hgen
  have hrun' := Run.cons select_step hrun
  exact ⟨_, _, n, r, reply, hrun', hread, hr, hcommit, allocates_open agent config _ (fun _ => rfl)
    (fun _ => rfl) (.nil _) rfl hrun' (by simp [ClosesPool]) rfl hread hcommit⟩

/-- The pool is deleted after it has been selected. It keeps its finalizer, and an address is
recorded in it although its deletion timestamp is set. -/
theorem terminating_allocates : ∃ (es : List (SelectEvent ℕ)) (w w' : SelectWorld ℕ) (n : ℕ)
    (r : Version (Option IPPool)) (reply : PoolReply) (p p' : IPPool),
    Run (SelectStep agent config fun _ => podRequest) atRest es w ∧
    w.world.phase 0 = .holding podRequest.op n r ∧ r.val = some p ∧ p.deletionTimestamp.isSome ∧
    SelectStep agent config (fun _ => podRequest) w (.pool (.commit 0 podRequest.op reply)) w' ∧
    w'.world.val = some p' ∧ "10.0.0.1" ∉ p.status.records ∧ "10.0.0.1" ∈ p'.status.records := by
  have hvalid : validateDelete {} openPool = .ok () := rfl
  have hdelete : PoolAttempt config (.delete 0) (some openPool)
      (.write (deleteIPPool 0 openPool) .ok) := .delete hvalid
  obtain ⟨w₁, w₂, hrun, -, hcommit, hval, hidle⟩ := World.solo (w := selected.world)
    (C := poolCalls config) (fun _ => rfl) 1 (by decide) hdelete
  have hdeleted : Run (SelectStep agent config fun _ => podRequest) selected _
      ⟨w₂, selected.chosen⟩ := Run.select (hrun.snoc hcommit) (by simp)
  obtain ⟨p', hgen, hrecord⟩ : ∃ p', genRandomIP config env (pod "u1") topController
      { openPool with deletionTimestamp := some 0 } = .ok (some addr, p') ∧
        (p'.status.records.lookup "10.0.0.1").isSome := ⟨_, rfl, rfl⟩
  obtain ⟨w₃, w₄, n, r, reply, hrun', hread, hr, hcommit', hval'⟩ :=
    selected_allocates _ hidle hval hgen
  exact ⟨_, _, _, n, r, reply, _, p', .cons select_step (hdeleted.append hrun'), hread, hr, rfl,
    hcommit', hval', AList.notMem_empty _, AList.lookup_isSome.1 hrecord⟩

end Sample

end Spiderpool
