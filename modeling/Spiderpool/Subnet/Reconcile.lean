/-
# Reconciling the pools of a subnet

A subnet, its auto-created pools, and the calls of `ReconcileAutoIPPool` on them. A call
reads the subnet past the cache and is refused its status write if the subnet has changed
since, so that what it writes comes from the subnet as it is. The pool's own write follows,
and may fail: then the status is written and the pool is not. The pool that a call is made
with is one that some reader was shown before, and may be out of date; its update is refused
then.
-/

import Spiderpool.IPPool.System
import Spiderpool.Subnet.Controlled

namespace Spiderpool
namespace Reconcile

/-- The subnet and its pools as they are stored, and the pools as they were at some time. -/
structure State where
  subnet : SpiderSubnet
  pools : GoMap String IPPool
  seen : List IPPool

/-- What can happen: a call, or a Pod gets or releases addresses of a pool. -/
inductive Event where
  | reconcile (pool : Option IPPool) (podController : PodTopController) (property : AutoPoolProperty)
  | allocate (poolName : String) (pod : Pod) (podController : PodTopController)
  | release (poolName : String) (ipAndUIDs : List IPAndUID)

namespace State

def put (s : State) (p : IPPool) : State :=
  { s with pools := s.pools.insert p.name p, seen := p :: s.seen }

/-- The status of the subnet is written, if there is something to write. -/
def writeStatus (s : State) (subnet : Option SpiderSubnet) : State :=
  { s with subnet := subnet.getD s.subnet }

/-- What a call of `ReconcileAutoIPPool` goes on to do. -/
def reconcile (s : State) (env : SubnetEnv) (pool : Option IPPool) (podController : PodTopController)
    (property : AutoPoolProperty) : Result Err Reconciled :=
  reconcileAutoIPPool env pool s.subnet.name podController property (.ok s.subnet)

end State

inductive Step (cfg : IPPoolManagerConfig) : State → Event → State → Prop
  /-- The call fails before it writes anything, or its first write does. -/
  | nothing {s : State} {pool : Option IPPool} {c : PodTopController} {property : AutoPoolProperty} :
      Step cfg s (.reconcile pool c property) s
  /-- The status is written, and the write of the pool fails. -/
  | interrupted {s : State} {env : SubnetEnv} {pool : Option IPPool} {c : PodTopController}
      {property : AutoPoolProperty} {written : Option SpiderSubnet} {create : Bool} {p : IPPool}
      (hseen : ∀ p₀ ∈ pool, p₀ ∈ s.seen)
      (h : s.reconcile env pool c property = .ok (.write written create p)) :
      Step cfg s (.reconcile pool c property) (s.writeStatus written)
  | created {s : State} {env : SubnetEnv} {c : PodTopController} {property : AutoPoolProperty}
      {written : Option SpiderSubnet} {p p' : IPPool} {iw : Webhook}
      (h : s.reconcile env none c property = .ok (.write written true p))
      (hnew : s.pools.lookup p.name = none) (hd : defaultIPPool iw p = .ok p')
      (hv : validateCreateIPPool iw p' = .ok ()) :
      Step cfg s (.reconcile none c property) ((s.writeStatus written).put p')
  | updated {s : State} {env : SubnetEnv} {c : PodTopController} {property : AutoPoolProperty}
      {written : Option SpiderSubnet} {p₀ p p' : IPPool} {iw : Webhook}
      {order : RangeOrder String PoolIPAllocation}
      (hstored : s.pools.lookup p₀.name = some p₀)
      (h : s.reconcile env (some p₀) c property = .ok (.write written false p))
      (hd : defaultIPPool iw (requested p p₀) = .ok p')
      (hv : validateUpdateIPPool iw order p₀ p' = .ok ()) :
      Step cfg s (.reconcile (some p₀) c property) ((s.writeStatus written).put p')
  | allocate {s : State} {name : String} {pod : Pod} {c : PodTopController} {env : GenEnv}
      {p p' : IPPool} {ip : IP} (hstored : s.pools.lookup name = some p)
      (h : genRandomIP cfg env pod c p = .ok (ip, p')) :
      Step cfg s (.allocate name pod c) (s.put p')
  | release {s : State} {name : String} {ius : List IPAndUID} {p p' : IPPool}
      (hstored : s.pools.lookup name = some p) (h : releaseIP ius p = .ok (some p')) :
      Step cfg s (.release name ius) (s.put p')

/-- If the call recovers its pool, then the pool's `spec.ips` does not meet the entry of
another pool. -/
def SpecApart (s : State) : Event → Prop
  | .reconcile (some p) _ property =>
    Recovers s.subnet.entries p property.ipVersion property.desiredIPNumber →
      ∀ name e a, name ≠ p.name → s.subnet.entries.lookup name = some e → Listed p.spec.ips a →
        ¬Listed e.ips a
  | _ => True

section

variable {s s' : State} {env : SubnetEnv} {pool : Option IPPool} {c : PodTopController}
  {property : AutoPoolProperty}

section

variable {subnet : SpiderSubnet} {create : Bool} {p : IPPool} {written : Option SpiderSubnet}

theorem applyPool_ok {create' : Bool} {p' : IPPool}
    (h : applyPool env subnet create p c property = .ok (.write written create' p')) :
    ∃ ips, preAllocateIPsFromSubnet env subnet p property.ipVersion property.desiredIPNumber c =
      .ok (ips, written) := by
  obtain ⟨⟨ips, written'⟩, hpre, h⟩ := bind_eq_ok.1 h
  cases Except.ok.inj h
  exact ⟨ips, mapErr_eq_ok.1 hpre⟩

theorem not_recovers_newAutoPool {m : PoolIPPreAllocations}
    {v : IPVersion} {n : ℤ} (h : newAutoPool subnet c property = .ok p) : ¬Recovers m p v n := by
  obtain ⟨name, -, h⟩ := bind_eq_ok.1 h
  obtain ⟨cidr, -, h⟩ := bind_eq_ok.1 h
  obtain ⟨⟩ := mapErr_eq_ok.1 h
  rintro ⟨_, _, -, -, -, k, hk, -⟩
  exact absurd hk (AList.notMem_empty k)

theorem writeStatus_disjoint (h : s.reconcile env pool c property = .ok (.write written create p))
    (hdisjoint : EntriesDisjoint s.subnet.entries)
    (hapart : SpecApart s (.reconcile pool c property)) :
    EntriesDisjoint (s.writeStatus written).subnet.entries := by
  cases written with
  | none => exact hdisjoint
  | some subnet' =>
    obtain ⟨-, h⟩ := seq_eq_ok.1 h
    obtain ⟨-, h⟩ := seq_eq_ok.1 h
    obtain ⟨subnet, hsubnet, h⟩ := bind_eq_ok.1 h
    obtain rfl := Except.ok.inj (mapErr_eq_ok.1 hsubnet)
    obtain ⟨-, h⟩ := seq_eq_ok.1 h
    cases pool with
    | none =>
      obtain ⟨p₁, hnew, h⟩ := bind_eq_ok.1 h
      obtain ⟨ips, hpre⟩ := applyPool_ok h
      exact preAllocate_disjoint hpre hdisjoint fun hrec => absurd hrec (not_recovers_newAutoPool hnew)
    | some p₀ =>
      obtain ⟨-, h⟩ := seq_eq_ok.1 h
      obtain ⟨poolIPs, -, h⟩ := bind_eq_ok.1 h
      dsimp only at h
      split_ifs at h
      · cases Except.ok.inj h
      · obtain ⟨ips, hpre⟩ := applyPool_ok h
        exact preAllocate_disjoint hpre hdisjoint hapart

end

/-- **Entries stay apart unless a recovered pool meets another's entry.**  From entries
that have no address in common, every run of calls, Pods' allocations and releases, with
writes of pools that fail at any point, leads to entries that have none, as long as every
pool that is recovered has a `spec.ips` that does not meet the entry of another pool. -/
theorem entries_disjoint {cfg : IPPoolManagerConfig} {evs : List Event}
    (h : Run (fun s ev s' => Step cfg s ev s' ∧ SpecApart s ev) s evs s')
    (hs : EntriesDisjoint s.subnet.entries) : EntriesDisjoint s'.subnet.entries := by
  refine Run.inv (fun s => EntriesDisjoint s.subnet.entries) h hs ?_
  rintro s ev s' hs ⟨hst, hapart⟩
  cases hst with
  | nothing => exact hs
  | interrupted _ h => exact writeStatus_disjoint h hs hapart
  | created h => exact writeStatus_disjoint h hs hapart
  | updated _ h => exact writeStatus_disjoint h hs hapart
  | allocate | release => exact hs

end

/-! ### A pool that is shrunk, and recovered too late -/

namespace Sample

def env : SubnetEnv := ⟨.ok [], .stored _ _, .stored _ _, id, le_refl⟩

def property (desiredIPNumber : ℤ) : AutoPoolProperty :=
  ⟨desiredIPNumber, Constant.ipv4, true, "eth0"⟩

def web : PodTopController where
  apiVersion := "apps/v1"
  kind := "Deployment"
  ns := "default"
  name := "web"
  uid := "uid-web"

def job : PodTopController where
  apiVersion := "batch/v1"
  kind := "Job"
  ns := "default"
  name := "job"
  uid := "uid-job"

def webPool : String := "auto4-web-eth0-web"
def jobPool : String := "auto4-job-eth0-job"

def webEntry (ips : List String) : PoolIPPreAllocation :=
  ⟨ips, some "apps_v1_Deployment_default_web"⟩

def entries : PoolIPPreAllocations :=
  (∅ : PoolIPPreAllocations).insert webPool (webEntry ["10.0.0.1-10.0.0.3"])

def subnet : SpiderSubnet where
  name := "subnet"
  spec := { ipVersion := some Constant.ipv4, subnet := "10.0.0.0/24", ips := ["10.0.0.1-10.0.0.4"] }
  status := ⟨some (.doc entries), some 4, some 3⟩

def pool : IPPool where
  name := webPool
  labels := (∅ : GoMap String String).insert Constant.labelIPPoolOwnerApplicationUID web.uid
  finalizers := [Constant.spiderFinalizer]
  spec := { ipVersion := some Constant.ipv4, subnet := "10.0.0.0/24", ips := ["10.0.0.1-10.0.0.3"] }

def initial : State := ⟨subnet, (∅ : GoMap String IPPool).insert webPool pool, [pool]⟩

theorem initial_disjoint : EntriesDisjoint initial.subnet.entries :=
  entriesDisjoint_empty.insert fun _ _ _ _ h => absurd h (by simp)

def shrunk : SpiderSubnet :=
  { subnet with status :=
    ⟨some (.doc (entries.insert webPool (webEntry ["10.0.0.2-10.0.0.3"]))), some 4, some 2⟩ }

def taken : SpiderSubnet :=
  { shrunk with status :=
    ⟨some (.doc (shrunk.entries.insert jobPool ⟨["10.0.0.1"], some "batch_v1_Job_default_job"⟩)),
      some 4, some 3⟩ }

theorem run_taken :
    Run (fun s ev s' => Step Spiderpool.Sample.config s ev s' ∧ SpecApart s ev) initial
      [.reconcile (some pool) web (property 2), .reconcile none job (property 1)]
      { initial with subnet := taken } := by
  obtain ⟨p, hshrink⟩ : ∃ p, initial.reconcile env (some pool) web (property 2) =
      .ok (.write (some shrunk) false p) := ⟨_, rfl⟩
  obtain ⟨p', htake⟩ : ∃ p', State.reconcile { initial with subnet := shrunk } env none job
      (property 1) = .ok (.write (some taken) true p') := ⟨_, rfl⟩
  -- the pool has no records, so it is not recovered
  have hapart : SpecApart initial (.reconcile (some pool) web (property 2)) := by
    rintro ⟨_, _, -, -, -, k, hk, -⟩
    exact absurd hk (AList.notMem_empty k)
  exact .cons ⟨.interrupted (by simp [initial]) hshrink, hapart⟩
    (.single ⟨.interrupted (by simp) htake, trivial⟩)

theorem taken_disjoint : EntriesDisjoint taken.entries :=
  entries_disjoint run_taken initial_disjoint

def usedPool : IPPool :=
  (pool.setRecords (AList.insert "10.0.0.1" ⟨"default/web-0", "u1"⟩ ∅)).setCount 1

def recovered : SpiderSubnet :=
  { taken with status :=
    ⟨some (.doc (taken.entries.insert webPool (webEntry ["10.0.0.1", "10.0.0.3"]))), some 4, some 3⟩ }

/-- With the pool of `web` recovered, 10.0.0.1 is in both entries. -/
theorem address_in_two_entries : EntriesDisjoint initial.subnet.entries ∧
    ∃ s, Run (Step Spiderpool.Sample.config) initial
        [.reconcile (some pool) web (property 2), .reconcile none job (property 1),
          .allocate webPool (Spiderpool.Sample.pod "u1") web,
          .reconcile (some usedPool) web (property 2)] s ∧
      ¬EntriesDisjoint s.subnet.entries := by
  have htaken := run_taken.mono fun _ _ _ hst => hst.1
  have hallocate : genRandomIP Spiderpool.Sample.config Spiderpool.Sample.env
      (Spiderpool.Sample.pod "u1") web pool = .ok (some Spiderpool.Sample.addr, usedPool) := rfl
  obtain ⟨p, hrecover⟩ : ∃ p, State.reconcile (State.put { initial with subnet := taken } usedPool)
      env (some usedPool) web (property 2) = .ok (.write (some recovered) false p) := ⟨_, rfl⟩
  refine ⟨initial_disjoint, _, (htaken.snoc (.allocate rfl hallocate)).snoc
    (.interrupted (by simp [State.put]) hrecover), fun h => ?_⟩
  have hweb : Listed ["10.0.0.1", "10.0.0.3"] Spiderpool.Sample.addr :=
    ⟨Constant.ipv4, _, rfl, by decide⟩
  have hjob : Listed ["10.0.0.1"] Spiderpool.Sample.addr := ⟨Constant.ipv4, _, rfl, by decide⟩
  exact h webPool jobPool _ _ _ (by decide) rfl rfl hweb hjob

end Sample

end Reconcile
end Spiderpool
