/-
# The periodic scan of the garbage collector

`executeScanAll` of `pkg/gcmanager/scanAll_IPPool.go`: for every record of every pool it
looks up the Pod and the SpiderEndpoint of the record's name and decides whether to
release the address, to reclaim the endpoint, and to hand the Pod to the tracer. The
body of the loop is `scanRecord`; where the code says `continue`, nothing more is done
for the record, but a Pod that was handed to the tracer before stays there.

The checks of a static Pod are read through one `ClusterView` for each record.
-/

import Spiderpool.GC.View

namespace Spiderpool

/-- A step of the loop's body, which may say `continue`. -/
abbrev Scan := Result Unit

/-- What is done for a record: the Pod is handed to the tracer, the address is released, the
endpoint is reclaimed. -/
structure GCFlags where
  trace : Bool := false
  releaseIP : Bool := false
  releaseEndpoint : Bool := false
deriving DecidableEq, Repr

/-- The rest of the body, unless the step says `continue`; `flags` is what is done then. -/
def orContinue {α : Type} (r : Scan α) (flags : GCFlags) (k : α → Result Empty GCFlags) :
    Result Empty GCFlags :=
  match r with
  | .ok a => k a
  | .error (.err ()) => .ok flags
  | .error .panic => .error .panic
  | .error .hang => .error .hang

section

variable (cfg : GCConfig) (view : ClusterView) (podNS podName : String)

/-- `isValidStatefulsetOrKubevirt`, whose error makes the loop continue. -/
def checkValid (ownerControllerType : String) : Scan Bool :=
  mapErr (fun _ => ()) (isValidStatefulsetOrKubevirt cfg view podNS podName ownerControllerType)

/-- `podYaml.OwnerReferences[0].Kind`. -/
def firstOwnerKind (pod : Pod) : Scan String :=
  deref (pod.ownerReferences.head?.map OwnerReference.kind)

def checkStatic (pod : Pod) : Scan Bool := do
  checkValid cfg view podNS podName (← firstOwnerKind pod)

/-- The time at which the graceful deletion of a Pod is over, in `int64` nanoseconds after the
timestamp. -/
def podTracingStopTime (deletionTimestamp deletionGracePeriodSeconds : ℤ) : ℤ :=
  deletionTimestamp +
    ((deletionGracePeriodSeconds + cfg.additionalGraceDelay) * 1000000000).bmod (2 ^ 64)

/-- `shouldTraceOrReclaimIPInDeletionTimeStampPod`: whether to release the address, and whether
to trace the Pod. -/
def shouldTraceOrReclaimIPInDeletionTimeStampPod (pod : Pod) (shouldGC : Bool) :
    Scan (Bool × Bool) := do
  let deletionTimestamp ← deref pod.deletionTimestamp
  let deletionGracePeriodSeconds ← deref pod.deletionGracePeriodSeconds
  if podTracingStopTime cfg deletionTimestamp deletionGracePeriodSeconds < view.now then
    return (shouldGC, false)
  else if pod.podIPs ≠ [] then return (false, true)
  else return (true, false)

/-- The switch over the status of the Pod: `flagPodStatusShouldGCIP` and `flagTracePodEntry`. -/
def podStatusFlags (pod : Pod) (static shouldGC : Bool) : Scan (Bool × Bool) :=
  if pod.phase = .succeeded ∨ pod.phase = .failed then
    if static then do
      let valid ← checkStatic cfg view podNS podName pod
      return (!valid, valid)
    else if pod.deletionTimestamp.isSome then
      shouldTraceOrReclaimIPInDeletionTimeStampPod cfg view pod shouldGC
    else return (false, false)
  else if pod.phase = .pending then return (false, false)
  else if pod.deletionTimestamp.isSome then
    shouldTraceOrReclaimIPInDeletionTimeStampPod cfg view pod shouldGC
  else if pod.podIPs ≠ [] then return (false, false)
  else if static then do
    let valid ← checkStatic cfg view podNS podName pod
    return (!valid, false)
  else if pod.phase = .running then return (cfg.enableGCStatelessRunningPodOnEmptyPodStatusIPs, false)
  else return (true, false)

/-- `flagGCIPPoolIP` after the comparison of the Pod's UID with that of the record. -/
def poolFlag (pod : Pod) (static statusShouldGC : Bool) (record : PoolIPAllocation) : Scan Bool :=
  if pod.uid ≠ record.podUID then
    if static then
      if pod.podIPs ≠ [] then return true
      else do
        let valid ← checkStatic cfg view podNS podName pod
        return !valid
    else return true
  else return statusShouldGC

/-- The comparison of the Pod's UID with that of the endpoint: whether it sets
`flagGCIPPoolIP`, and `flagGCEndpoint`. -/
def endpointFlags (pod : Pod) (static statusShouldGC : Bool) :
    Lookup SpiderEndpoint → Scan (Bool × Bool)
  | .notFound | .failed _ => return (false, false)
  | .found endpoint =>
    if pod.uid ≠ endpoint.uid then
      if static then
        if pod.podIPs ≠ [] then return (false, true)
        else do
          let valid ← checkStatic cfg view podNS podName pod
          return (false, !valid)
      else return (true, true)
    else return (false, statusShouldGC)

/-- `shouldGcstatelessTerminatingPod`: a static Pod's node is not asked for. -/
def shouldGCOnNode (pod : Pod) (static : Bool) : Scan Bool :=
  if static then return false
  else mapErr (fun _ => ()) (isShouldGCOrTraceStatelessTerminatingPodOnNode cfg view pod)

def scanPod (record : PoolIPAllocation) (pod : Pod) : Result Empty GCFlags :=
  let static := isStaticIPPod cfg.enableStatefulSet cfg.enableKubevirtStaticIP pod
  orContinue (shouldGCOnNode cfg view pod static) {} fun shouldGC =>
    orContinue (podStatusFlags cfg view podNS podName pod static shouldGC) {} fun status =>
      let flags : GCFlags := { trace := status.2 && view.elected }
      orContinue (poolFlag cfg view podNS podName pod static status.1 record) flags fun inPool =>
        orContinue (endpointFlags cfg view podNS podName pod static status.1
            (view.endpoint podNS podName)) flags fun ep =>
          .ok { flags with releaseIP := inPool || ep.1, releaseEndpoint := ep.2 }

def scanMissingPod : Result Empty GCFlags :=
  match view.endpoint podNS podName with
  | .notFound => .ok { releaseIP := true }
  | .failed _ => .ok {}
  | .found endpoint =>
    orContinue (checkValid cfg view podNS podName endpoint.ownerControllerType) {} fun valid =>
      .ok { releaseIP := !valid, releaseEndpoint := !valid }

def scanRecord (record : PoolIPAllocation) : Result Empty GCFlags :=
  match splitMetaNamespaceKey record.namespacedName with
  | .error _ => .ok {}
  | .ok (podNS, podName) =>
    match view.pod podNS podName with
    | .notFound => scanMissingPod cfg view podNS podName
    | .failed _ => .ok {}
    | .found pod => scanPod cfg view podNS podName record pod

end

/-! ### A pass over the pools -/

inductive GCCall where
  | releaseIP (poolName : String) (iu : IPAndUID)
  | releaseEndpoint (ns name : String)
  | applyPodEntry (ns name : String)
deriving DecidableEq

structure Visit where
  pool : IPPool
  ip : String
  record : PoolIPAllocation

/-- What a pass reads: the endpoints and pools listed, the order in which records are visited, the
view of each visit, and the pools read again for the cleanup. -/
structure ScanInput where
  endpoints : Result Err (List SpiderEndpoint)
  pools : Result Err (List IPPool)
  order : RangeOrder String PoolIPAllocation
  view : Visit → ClusterView
  pool : String → Lookup IPPool

def GCFlags.calls (flags : GCFlags) (v : Visit) (podNS podName : String) : List GCCall :=
  (if flags.trace then [.applyPodEntry podNS podName] else []) ++
  (if flags.releaseIP then [.releaseIP v.pool.name ⟨v.ip, v.record.podUID⟩] else []) ++
  (if flags.releaseEndpoint then [.releaseEndpoint podNS podName] else [])

def scanVisit (cfg : GCConfig) (view : ClusterView) (v : Visit) : Result Empty (List GCCall) := do
  let flags ← scanRecord cfg view v.record
  match splitMetaNamespaceKey v.record.namespacedName with
  | .error _ => return []
  | .ok (podNS, podName) => return flags.calls v podNS podName

/-- The key of an endpoint in `suspiciousEndpointMap`. -/
def SpiderEndpoint.key (e : SpiderEndpoint) : String := e.ns ++ "/" ++ e.name

def checkEndpointExistInIPPool (inp : ScanInput) (e : SpiderEndpoint) (poolName : String) :
    List GCCall :=
  match inp.pool poolName with
  | .notFound | .failed _ => []
  | .found p =>
    match unmarshalIPPoolAllocatedIPs p.status.allocatedIPs with
    | .error _ => []
    | .ok m =>
      if m.entries.any fun r => r.2.namespacedName == e.key then []
      else [.releaseEndpoint e.ns e.name]

def cleanOutdateEndpoint (inp : ScanInput) (suspicious : List SpiderEndpoint) : List GCCall :=
  suspicious.flatMap fun e => e.ips.flatMap fun detail =>
    (detail.ipv4Pool.toList ++ detail.ipv6Pool.toList).flatMap (checkEndpointExistInIPPool inp e)

end Spiderpool
