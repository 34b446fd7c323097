/-
# The calls of a scan

Which calls a turn of the loop of `executeScanAll` makes, and which a whole pass makes. A turn
that finds the Pod of its record does what `scanPod_iff` says: it releases the address
or reclaims the endpoint only if it gets to its end without a `continue`. A pass makes
the calls of its turns, and the cleanup after them releases no address
(`releaseIP_mem_executeScanAll`).
-/

import Spiderpool.GC.ScanAll

namespace Spiderpool

def Releases (cfg : GCConfig) (view : ClusterView) (v : Visit) : Prop :=
  ∃ calls, scanVisit cfg view v = .ok calls ∧
    .releaseIP v.pool.name ⟨v.ip, v.record.podUID⟩ ∈ calls

theorem orContinue_ok {α : Type} {r : Scan α} {flags out : GCFlags} {k : α → Result Empty GCFlags} :
    orContinue r flags k = .ok out ↔
      (r = .error (.err ()) ∧ out = flags) ∨ ∃ a, r = .ok a ∧ k a = .ok out := by
  unfold orContinue
  split <;> simp [eq_comm]

section

variable {cfg : GCConfig} {view : ClusterView} {podNS podName : String} {v : Visit} {pod : Pod}

theorem scanPod_iff {Q : GCFlags → Prop} (hQ : ∀ t, ¬Q { trace := t })
    {record : PoolIPAllocation} {static : Bool}
    (hstatic : isStaticIPPod cfg.enableStatefulSet cfg.enableKubevirtStaticIP pod = static) :
    (∃ flags, scanPod cfg view podNS podName record pod = .ok flags ∧ Q flags) ↔
      ∃ shouldGC status inPool ep, shouldGCOnNode cfg view pod static = .ok shouldGC ∧
        podStatusFlags cfg view podNS podName pod static shouldGC = .ok status ∧
        poolFlag cfg view podNS podName pod static status.1 record = .ok inPool ∧
        endpointFlags cfg view podNS podName pod static status.1 (view.endpoint podNS podName) =
          .ok ep ∧ Q ⟨status.2 && view.elected, inPool || ep.1, ep.2⟩ := by
  subst hstatic
  unfold scanPod
  constructor
  · rintro ⟨flags, h, hq⟩
    rcases orContinue_ok.1 h with ⟨-, rfl⟩ | ⟨shouldGC, hgc, h⟩
    · exact absurd hq (hQ false)
    rcases orContinue_ok.1 h with ⟨-, rfl⟩ | ⟨status, hst, h⟩
    · exact absurd hq (hQ false)
    rcases orContinue_ok.1 h with ⟨-, rfl⟩ | ⟨inPool, hpool, h⟩
    · exact absurd hq (hQ _)
    rcases orContinue_ok.1 h with ⟨-, rfl⟩ | ⟨ep, hep, h⟩
    · exact absurd hq (hQ _)
    obtain rfl := Except.ok.inj h
    exact ⟨shouldGC, status, inPool, ep, hgc, hst, hpool, hep, hq⟩
  · rintro ⟨shouldGC, status, inPool, ep, hgc, hst, hpool, hep, hq⟩
    refine ⟨_, ?_, hq⟩
    simp only [hgc, hst, hpool, hep, orContinue]

theorem scanVisit_of_found
    (hkey : splitMetaNamespaceKey v.record.namespacedName = .ok (podNS, podName))
    (hpod : view.pod podNS podName = .found pod) :
    scanVisit cfg view v = (scanPod cfg view podNS podName v.record pod).map
      fun flags => flags.calls v podNS podName := by
  unfold scanVisit scanRecord
  simp only [hkey, hpod]
  cases scanPod cfg view podNS podName v.record pod <;> rfl

section

variable {flags : GCFlags} {p ns name : String} {iu : IPAndUID} {inp : ScanInput}

theorem mem_calls_releaseIP : .releaseIP p iu ∈ flags.calls v podNS podName ↔
      flags.releaseIP = true ∧ p = v.pool.name ∧ iu = ⟨v.ip, v.record.podUID⟩ := by
  unfold GCFlags.calls
  cases flags.releaseIP <;> cases flags.trace <;> cases flags.releaseEndpoint <;> simp

theorem exists_calls_iff {P : List GCCall → Prop} {f : GCFlags → List GCCall}
    {r : Result Empty GCFlags} :
    (∃ calls, r.map f = .ok calls ∧ P calls) ↔ ∃ flags, r = .ok flags ∧ P (f flags) := by
  cases r <;> simp [Except.map]

theorem releases_iff (hkey : splitMetaNamespaceKey v.record.namespacedName = .ok (podNS, podName))
    (hpod : view.pod podNS podName = .found pod) :
    Releases cfg view v ↔
      ∃ flags, scanPod cfg view podNS podName v.record pod = .ok flags ∧ flags.releaseIP = true := by
  rw [Releases, scanVisit_of_found hkey hpod, exists_calls_iff]
  simp only [mem_calls_releaseIP, and_true]

end

end

end Spiderpool
