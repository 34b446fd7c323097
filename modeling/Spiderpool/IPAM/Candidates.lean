/-
# Allocating from all candidates at once

`allocateIPsFromAllCandidates` and `allocateIPFromCandidate` of `pkg/ipam/allocate.go`, once the
tickets are acquired. Each candidate, that is each interface and IP version of the Pod, has a
goroutine of its own (`Task`), which calls `AllocateIP` on one pool after the other until one
succeeds. The calls of different goroutines interleave as `Spiderpool.Base.Versioned` allows,
read by read and write by write (`AllocStep`).
-/

import Spiderpool.IPAM.Types
import Spiderpool.IPPool.System

namespace Spiderpool
namespace IPAM

open Versioned

/-- A candidate, with what `doAllocate` is given beside it. -/
structure Candidate extends PoolCandidate where
  nic : String
  cleanGateway : Bool := false

def allCandidates (tt : List ToBeAllocated) : List Candidate :=
  tt.flatMap fun t => t.poolCandidates.map fun c =>
    { c with nic := t.nic, cleanGateway := t.cleanGateway }

def allocationResult (c : Candidate) (poolName : String) (config : Result Err IPConfig) :
    Result Err AllocationResult := do
  let config ← config
  let ipPool ← deref (c.pToIPPool.lookup poolName)
  return ⟨config, convertSpecRoutesToOAIRoutes c.nic (ipPool.spec.routes.getD []), c.cleanGateway⟩

theorem allocationResult_ok {c : Candidate} {poolName : String} {p : IPPool} (config : IPConfig)
    (hp : c.pToIPPool.lookup poolName = some p) :
    allocationResult c poolName (.ok config) =
      .ok ⟨config, convertSpecRoutesToOAIRoutes c.nic (p.spec.routes.getD []), c.cleanGateway⟩ := by
  rw [allocationResult, hp]
  rfl

/-- The result of an allocation that has failed before which the candidate can take over. -/
def reuseFailed (order : RangeOrder String IPPool) (failed : List AllocationResult) (c : Candidate) :
    Option AllocationResult :=
  failed.findSome? fun oldRes =>
    ((order.visit c.pToIPPool).find? fun e =>
      oldRes.ip.ipPool = e.2.name ∧ oldRes.ip.nic = c.nic).map fun e =>
        { oldRes with
          routes := convertSpecRoutesToOAIRoutes c.nic (e.2.spec.routes.getD [])
          cleanGateway := c.cleanGateway }

/-- Where the goroutine of a candidate stands: before the next pool, in a call on a pool, or at
its end. -/
inductive Task where
  | trying (pools : List String) (errs : List Err)
  | calling (pool : String) (pools : List String) (errs : List Err)
  | finished (result : Result Err AllocationResult)

def Task.start (order : RangeOrder String IPPool) (failed : List AllocationResult) (c : Candidate) :
    Task :=
  match reuseFailed order failed c with
  | some oldRes => .finished (.ok oldRes)
  | none => .trying c.pools []

def Task.after {ι : Type} (c : Candidate) (pool : String) (pools : List String) (errs : List Err) :
    Event ι PoolOp PoolReply → Task
  | .commit _ _ (.allocated _ config) => .finished (allocationResult c pool config)
  | .done _ _ (.failed (.err e)) => .trying pools (errs ++ [e])
  | .done _ _ (.failed fault) => .finished (.error fault)
  | .giveUp _ _ => .trying pools (errs ++ [errConflict])
  | _ => .calling pool pools errs

def exhaustedErr (c : Candidate) (errs : List Err) : Err :=
  .wrap ("failed to allocate any IPv" ++ toString c.ipVersion ++ " IP address to NIC " ++ c.nic ++
    " from IPPools " ++ formatList c.pools ++ ": ") (.aggregate errs) ""

structure AllocState (ι : Type) where
  pools : String → PoolWorld ι
  tasks : ι → Task

section

variable {ι : Type} [DecidableEq ι] (cfg : IPPoolManagerConfig) (pod : Pod) (pc : PodTopController)
  (cs : ι → Candidate)

def AllocState.set (s : AllocState ι) (pool : String) (w : PoolWorld ι) (i : ι) (t : Task) :
    AllocState ι where
  pools := Function.update s.pools pool w
  tasks := Function.update s.tasks i t

@[simp] theorem AllocState.set_tasks (s : AllocState ι) (pool : String) (w : PoolWorld ι) (i : ι)
    (t : Task) : (s.set pool w i t).tasks i = t := by
  simp [AllocState.set]

@[simp] theorem AllocState.set_pools (s : AllocState ι) (pool : String) (w : PoolWorld ι) (i : ι)
    (t : Task) : (s.set pool w i t).pools pool = w := by
  simp [AllocState.set]

@[simp] theorem AllocState.set_set (s : AllocState ι) (pool : String) (w w' : PoolWorld ι) (i : ι)
    (t t' : Task) : (s.set pool w i t).set pool w' i t' = s.set pool w' i t' := by
  simp [AllocState.set]

inductive AllocStep : AllocState ι → ι → AllocState ι → Prop
  | call {s : AllocState ι} {i : ι} {pool : String} {pools : List String} {errs : List Err}
      {w : PoolWorld ι} (ht : s.tasks i = .trying (pool :: pools) errs)
      (hw : PoolStep cfg (s.pools pool) (.call i (.allocateIP (cs i).nic pod pc)) w) :
      AllocStep s i (s.set pool w i (.calling pool pools errs))
  | event {s : AllocState ι} {i : ι} {pool : String} {pools : List String} {errs : List Err}
      {e : Event ι PoolOp PoolReply} {w : PoolWorld ι} (ht : s.tasks i = .calling pool pools errs)
      (hi : e.client = i) (hop : e.op = .allocateIP (cs i).nic pod pc)
      (hw : PoolStep cfg (s.pools pool) e w) :
      AllocStep s i (s.set pool w i (.after (cs i) pool pools errs e))
  | exhausted {s : AllocState ι} {i : ι} {errs : List Err} (ht : s.tasks i = .trying [] errs) :
      AllocStep s i { s with
        tasks := Function.update s.tasks i (.finished (fail (exhaustedErr (cs i) errs))) }

end

def AllocState.start {ι : Type} (order : RangeOrder String IPPool) (failed : List AllocationResult)
    (cs : ι → Candidate) (pools : String → Option IPPool) : AllocState ι where
  pools name := World.init (pools name)
  tasks i := .start order failed (cs i)

/-- `allocateIPsFromAllCandidates` succeeds with the results, in the order in which they come in. -/
def AllocState.Succeeds {n : ℕ} (s : AllocState (Fin n)) (results : List AllocationResult) : Prop :=
  ∃ r : Fin n → AllocationResult, (∀ i, s.tasks i = .finished (.ok (r i))) ∧
    results.Perm (List.ofFn r)

section

variable {ι : Type} [DecidableEq ι] {cfg : IPPoolManagerConfig} {pod : Pod} {pc : PodTopController}
  {s : AllocState ι} {i : ι}

theorem AllocStep.solo (cs : ι → Candidate) {pool : String} {names : List String} {errs : List Err} {v : Option IPPool}
    {ip : IP} {config : Result Err IPConfig} (ht : s.tasks i = .trying (pool :: names) errs)
    (hidle : ∀ j, (s.pools pool).phase j = .idle)
    (ha : PoolAttempt cfg (.allocateIP (cs i).nic pod pc) (s.pools pool).val
      (.write v (.allocated ip config))) :
    ∃ w, Run (AllocStep cfg pod pc cs) s [i, i, i]
        (s.set pool w i (.finished (allocationResult (cs i) pool config))) ∧
      w.val = v ∧ ∀ j, w.phase j = .idle := by
  have htries : (poolCalls cfg).tries (.allocateIP (cs i).nic pod pc) ≠ 0 := Nat.succ_ne_zero 4
  obtain ⟨w₁, w₂, hrun, -, hcommit, hval, hidle'⟩ := World.solo hidle i htries ha
  obtain _ | ⟨hcall, _ | ⟨hread, _ | _⟩⟩ := hrun
  rename_i w₀
  have hstep₀ : AllocStep cfg pod pc cs s i (s.set pool w₀ i (.calling pool names errs)) :=
    .call ht hcall
  have hstep₁ := AllocStep.event (s.set_tasks pool w₀ i (.calling pool names errs)) rfl rfl
    (s.set_pools pool w₀ i (.calling pool names errs) ▸ hread)
  rw [AllocState.set_set] at hstep₁
  have hstep₂ := AllocStep.event (s.set_tasks pool w₁ i (.calling pool names errs)) rfl rfl
    (s.set_pools pool w₁ i (.calling pool names errs) ▸ hcommit)
  rw [AllocState.set_set] at hstep₂
  exact ⟨w₂, .cons hstep₀ (.cons hstep₁ (.single hstep₂)), hval, hidle'⟩

end

end IPAM
end Spiderpool
