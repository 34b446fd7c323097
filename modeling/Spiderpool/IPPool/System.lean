/-
# One pool and everyone who writes to it

The calls that read a pool and write it conditionally, as an instance of
`Spiderpool.Base.Versioned`: `AllocateIP`, `ReleaseIP` and `UpdateAllocatedIPs` of any
number of agents and garbage collectors, which read past the cache and are tried five
times (`retry.DefaultRetry`); the informer's `syncHandler`, which reads through the cache;
spec updates that the webhook admits, and delete requests.
-/

import Spiderpool.Base.Versioned
import Spiderpool.IPPool.Informer
import Spiderpool.IPPool.Manager

namespace Spiderpool

open Versioned

inductive PoolOp where
  | allocateIP (nic : String) (pod : Pod) (podController : PodTopController)
  | releaseIP (ipAndUIDs : List IPAndUID)
  | updateAllocatedIPs (namespacedName : String) (ipAndUIDs : List IPAndUID)
  | syncHandler
  | updateSpec (request : IPPool)
  | delete (now : ℤ)

/-- What a call returns. `AllocateIP` makes its result after its write has committed. -/
inductive PoolReply where
  | allocated (ip : IP) (config : Result Err IPConfig)
  | ok
  | failed (text : Fault Err)
  | rejected (errs : Fault (List FieldError))
  | unanswered

/-- The object of an update request as the API server hands it to the webhook: the server
keeps the name, the status and the deletion timestamp. -/
def requested (request p : IPPool) : IPPool :=
  { request with name := p.name, status := p.status, deletionTimestamp := p.deletionTimestamp }

/-- What one attempt of a call may do with the pool it has read. -/
inductive PoolAttempt (cfg : IPPoolManagerConfig) :
    PoolOp → Option IPPool → Attempt (Option IPPool) PoolReply → Prop
  | notFound (op : PoolOp) : PoolAttempt cfg op none (.done (.failed (.err errNotFound)))
  | allocate {nic : String} {pod : Pod} {pc : PodTopController} {env : GenEnv} {p p' : IPPool}
      {ip : IP} (h : genRandomIP cfg env pod pc p = .ok (ip, p')) :
      PoolAttempt cfg (.allocateIP nic pod pc) (some p)
        (.write (some p') (.allocated ip (genIPConfigResult cfg ip nic p')))
  | allocateFailed {nic : String} {pod : Pod} {pc : PodTopController} {env : GenEnv} {p : IPPool}
      {e : Fault Err} (h : genRandomIP cfg env pod pc p = .error e) :
      PoolAttempt cfg (.allocateIP nic pod pc) (some p) (.done (.failed e))
  | release {ius : List IPAndUID} {p p' : IPPool} (h : releaseIP ius p = .ok (some p')) :
      PoolAttempt cfg (.releaseIP ius) (some p) (.write (some p') .ok)
  | releaseNone {ius : List IPAndUID} {p : IPPool} (h : releaseIP ius p = .ok none) :
      PoolAttempt cfg (.releaseIP ius) (some p) (.done .ok)
  | releaseFailed {ius : List IPAndUID} {p : IPPool} {e : Fault Err}
      (h : releaseIP ius p = .error e) :
      PoolAttempt cfg (.releaseIP ius) (some p) (.done (.failed e))
  | update {nn : String} {ius : List IPAndUID} {p p' : IPPool}
      (h : updateAllocatedIPs nn ius p = .ok (some p')) :
      PoolAttempt cfg (.updateAllocatedIPs nn ius) (some p) (.write (some p') .ok)
  | updateNone {nn : String} {ius : List IPAndUID} {p : IPPool}
      (h : updateAllocatedIPs nn ius p = .ok none) :
      PoolAttempt cfg (.updateAllocatedIPs nn ius) (some p) (.done .ok)
  | updateFailed {nn : String} {ius : List IPAndUID} {p : IPPool} {e : Fault Err}
      (h : updateAllocatedIPs nn ius p = .error e) :
      PoolAttempt cfg (.updateAllocatedIPs nn ius) (some p) (.done (.failed e))
  | sync {p : IPPool} {w : PoolWrite} (h : syncHandler p = .ok (some w)) :
      PoolAttempt cfg .syncHandler (some p) (.write w.stored .ok)
  | syncNone {p : IPPool} (h : syncHandler p = .ok none) :
      PoolAttempt cfg .syncHandler (some p) (.done .ok)
  | syncFailed {p : IPPool} {e : Fault Err} (h : syncHandler p = .error e) :
      PoolAttempt cfg .syncHandler (some p) (.done (.failed e))
  -- an update of a pool that is not terminating; see `validateUpdate` for the others
  | updateSpec {request : IPPool} {iw : Webhook} {order : RangeOrder String PoolIPAllocation}
      {p p' : IPPool} (hp : p.deletionTimestamp = none)
      (hd : defaultIPPool iw (requested request p) = .ok p')
      (hv : validateUpdateIPPool iw order p p' = .ok ()) :
      PoolAttempt cfg (.updateSpec request) (some p) (.write (some p') .ok)
  | updateSpecRejected {request : IPPool} {iw : Webhook}
      {order : RangeOrder String PoolIPAllocation} {p p' : IPPool} {e : Fault (List FieldError)}
      (hd : defaultIPPool iw (requested request p) = .ok p')
      (hv : validateUpdateIPPool iw order p p' = .error e) :
      PoolAttempt cfg (.updateSpec request) (some p) (.done (.rejected e))
  | updateSpecUnanswered {request : IPPool} {iw : Webhook} {p : IPPool} {e : Fault Empty}
      (hd : defaultIPPool iw (requested request p) = .error e) :
      PoolAttempt cfg (.updateSpec request) (some p) (.done .unanswered)
  | delete {now : ℤ} {iw : Webhook} {p : IPPool} (h : validateDelete iw p = .ok ()) :
      PoolAttempt cfg (.delete now) (some p) (.write (deleteIPPool now p) .ok)
  | deleteRejected {now : ℤ} {iw : Webhook} {p : IPPool} {e : Fault Err}
      (h : validateDelete iw p = .error e) :
      PoolAttempt cfg (.delete now) (some p) (.done (.failed e))

/-- The calls on a pool: how often each is tried, and which of them read through the cache. -/
def poolCalls (cfg : IPPoolManagerConfig) : Calls PoolOp (Option IPPool) PoolReply where
  tries
    | .allocateIP .. | .releaseIP .. | .updateAllocatedIPs .. => 5
    | .syncHandler | .updateSpec .. | .delete .. => 1
  cached op := op = .syncHandler
  attempt := PoolAttempt cfg

abbrev PoolWorld (ι : Type*) := World ι PoolOp (Option IPPool)

abbrev PoolStep {ι : Type*} [DecidableEq ι] (cfg : IPPoolManagerConfig) :
    PoolWorld ι → Event ι PoolOp PoolReply → PoolWorld ι → Prop :=
  Step (poolCalls cfg)

/-! ### A pool with two addresses -/

namespace Sample

def config : IPPoolManagerConfig := { maxAllocatedIPs := 2 }

def pool : IPPool where
  name := "sample"
  finalizers := [Constant.spiderFinalizer]
  spec := { ipVersion := some Constant.ipv4, subnet := "10.0.0.0/24", ips := ["10.0.0.1-10.0.0.2"] }

def pod (uid : String) : Pod := { ns := "default", name := "web-0", uid := uid }

def topController : PodTopController where
  apiVersion := Constant.coreV1
  kind := Constant.kindPod
  ns := "default"
  name := "web-0"
  uid := "u1"

def allocate (uid : String) : PoolOp := .allocateIP "eth0" (pod uid) topController

def env : GenEnv := ⟨.ok [], .stored _ _, .stored _ _⟩

def addr : Addr := Addr.ofV4 0x0a000001

def allocated (uid : String) : IPPool :=
  (pool.setRecords (AList.insert "10.0.0.1" ⟨"default/web-0", uid⟩ ∅)).setCount 1

theorem allocates (uid : String) : PoolAttempt config (allocate uid) (some pool)
    (.write (some (allocated uid))
      (.allocated (some addr) (genIPConfigResult config (some addr) "eth0" (allocated uid)))) := by
  have h : genRandomIP config env (pod uid) topController pool =
      .ok (some addr, allocated uid) := rfl
  exact .allocate h

end Sample

end Spiderpool
