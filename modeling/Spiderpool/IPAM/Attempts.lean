/-
# Attempts, and the results of those that have failed

`allocateInStandardMode` of `pkg/ipam/allocate.go` keeps the addresses that an attempt has got
before it failed, under the UID of its Pod (`failureCache` of `pkg/ipam/ipam.go`), and
`allocateIPFromCandidate` takes them over in the next attempt without a look at their pools. The
attempts of a Pod on its agent interleave with the calls of others, of agents that allocate for
other Pods and of garbage collectors that release (`AgentStep`).
-/

import Spiderpool.IPAM.Candidates

namespace Spiderpool
namespace IPAM

open Versioned

/-! ### The agent -/

/-- What an attempt allocates from, once the candidates are selected. -/
structure Attempt where
  pod : Pod
  podController : PodTopController
  candidates : List Candidate

/-- The candidate of a goroutine. The clients that are no goroutines of the attempt have none. -/
def Attempt.candidate {κ : Type} (a : Attempt) : ℕ ⊕ κ → Candidate
  | .inl i => a.candidates.getD i { ipVersion := Constant.ipv4, pools := [], nic := "" }
  | .inr _ => { ipVersion := Constant.ipv4, pools := [], nic := "" }

/-- The pools with the goroutines of the agent and the other clients `κ`, the attempt that is
running, and the results that are cached for the Pod. -/
structure AgentState (κ : Type) extends AllocState (ℕ ⊕ κ) where
  attempt : Option Attempt
  failed : List AllocationResult

inductive Ending where
  | answered
  | iaasFailed
  | failed

/-- What is cached then. The error of the provider is returned beside the variable that the
deferred function looks at. -/
def Ending.cache (isMultipleNicWithNoName : Bool) (results cached : List AllocationResult) :
    Ending → List AllocationResult
  | .failed =>
    if isMultipleNicWithNoName then [] else if results ≠ [] then results else cached
  | .answered | .iaasFailed => []

def Task.result : Task → Option AllocationResult
  | .finished (.ok r) => some r
  | _ => none

def AgentState.results {κ : Type} (s : AgentState κ) (a : Attempt) : List AllocationResult :=
  (List.range a.candidates.length).filterMap fun i => (s.tasks (.inl i)).result

inductive AgentEvent (κ : Type) where
  | start (a : Attempt)
  | goroutine (i : ℕ)
  | finish (ending : Ending)
  | other (pool : String) (e : Event (ℕ ⊕ κ) PoolOp PoolReply)

def OtherCall (uid : String) : PoolOp → Prop
  | .allocateIP _ pod _ => pod.uid ≠ uid
  | .releaseIP _ => True
  | _ => False

section

variable {κ : Type} [DecidableEq κ] (cfg : IPPoolManagerConfig) (uid : String)

/-- A step of the attempts of the Pod with the UID, or of another client. -/
inductive AgentStep : AgentState κ → AgentEvent κ → AgentState κ → Prop
  | start {s : AgentState κ} (a : Attempt) (order : RangeOrder String IPPool)
      (hidle : s.attempt = none) (huid : a.pod.uid = uid) :
      AgentStep s (.start a) { s with
        attempt := some a
        tasks := fun j => Task.start order s.failed (a.candidate j) }
  | goroutine {s : AgentState κ} {a : Attempt} {i : ℕ} {t : AllocState (ℕ ⊕ κ)}
      (ha : s.attempt = some a) (hi : i < a.candidates.length)
      (h : AllocStep cfg a.pod a.podController a.candidate s.toAllocState (.inl i) t) :
      AgentStep s (.goroutine i) { s with toAllocState := t }
  | finish {s : AgentState κ} {a : Attempt} {results : List AllocationResult} (ending : Ending)
      (ha : s.attempt = some a)
      (hreturned : ∀ i < a.candidates.length, ∃ x, s.tasks (.inl i) = .finished x ∧
        ((∃ r, x = .ok r) ∨ ∃ e, x = fail e ∧ ending = .failed))
      (hresults : results.Perm (s.results a)) :
      AgentStep s (.finish ending) { s with
        attempt := none
        failed := ending.cache (isMultipleNicWithNoName a.pod.annotations) results s.failed }
  | other {s : AgentState κ} {pool : String} {e : Event (ℕ ⊕ κ) PoolOp PoolReply}
      {w : PoolWorld (ℕ ⊕ κ)} {k : κ} (hk : e.client = .inr k) (hop : OtherCall uid e.op)
      (hw : PoolStep cfg (s.pools pool) e w) :
      AgentStep s (.other pool e) { s with pools := Function.update s.pools pool w }

end

def AgentState.init {κ : Type} (pools : String → Option IPPool) : AgentState κ where
  pools name := World.init (pools name)
  tasks _ := .trying [] []
  attempt := none
  failed := []

/-- The goroutine may return in this step: it takes a step, or the attempt starts and it takes
over a result. -/
def AgentEvent.Returns {κ : Type} (i : ℕ) : AgentEvent κ → Prop
  | .start a => i < a.candidates.length
  | .goroutine j => j = i
  | _ => False

/-- The event is a release of an address for a UID that commits. -/
def AgentEvent.Releases {κ : Type} (pool : String) (iu : IPAndUID) : AgentEvent κ → Prop
  | .other name (.commit _ (.releaseIP ius) _) => name = pool ∧ iu ∈ ius
  | _ => False

def Leases : PoolOp → Prop
  | .allocateIP .. | .releaseIP _ => True
  | _ => False

section

variable {κ : Type} {cfg : IPPoolManagerConfig} {uid : String} {s s' : AgentState κ}
  {l : AgentEvent κ} {r : AllocationResult}

theorem Task.after_ok {ι : Type} {c : Candidate} {pool : String} {names : List String}
    {errs : List Err} {e : Event ι PoolOp PoolReply}
    (h : Task.after c pool names errs e = .finished (.ok r)) :
    ∃ j op ip config, e = .commit j op (.allocated ip (.ok config)) ∧ r.ip = config := by
  cases e with
  | commit j op reply =>
    cases reply with
    | allocated ip config =>
      obtain ⟨config', rfl, hr⟩ := bind_eq_ok.1 (Task.finished.inj h)
      obtain ⟨_, -, hr⟩ := bind_eq_ok.1 hr
      exact ⟨j, op, ip, config', rfl, by rw [← Except.ok.inj hr]⟩
    | _ => cases h
  | done j op reply =>
    cases reply with
    | failed fault => cases fault <;> cases h
    | _ => cases h
  | _ => cases h

theorem mem_results {a : Attempt} :
    r ∈ s.results a ↔ ∃ i < a.candidates.length, s.tasks (.inl i) = .finished (.ok r) := by
  have hresult : ∀ t : Task, t.result = some r ↔ t = .finished (.ok r) := by
    intro t
    unfold Task.result
    split <;> simp_all
  simp [AgentState.results, hresult]

theorem AllocStep.pool {ι : Type} [DecidableEq ι] {pod : Pod} {pc : PodTopController}
    {cs : ι → Candidate} {t t' : AllocState ι} {j : ι} (h : AllocStep cfg pod pc cs t j t')
    (name : String) : t'.pools name = t.pools name ∨
      ∃ e, PoolStep cfg (t.pools name) e (t'.pools name) ∧ e.op = .allocateIP (cs j).nic pod pc := by
  have hset : ∀ (pool : String) (w : PoolWorld ι) (u : Task) (e : Event ι PoolOp PoolReply),
      PoolStep cfg (t.pools pool) e w → e.op = .allocateIP (cs j).nic pod pc →
      (t.set pool w j u).pools name = t.pools name ∨
        ∃ e, PoolStep cfg (t.pools name) e ((t.set pool w j u).pools name) ∧
          e.op = .allocateIP (cs j).nic pod pc := by
    intro pool w u e hw hop
    by_cases hname : name = pool
    · subst hname
      rw [AllocState.set_pools]
      exact .inr ⟨e, hw, hop⟩
    · exact .inl (Function.update_of_ne hname _ _)
  cases h with
  | call ht hw => exact hset _ _ _ _ hw rfl
  | event ht hclient hop hw => exact hset _ _ _ _ hw hop
  | exhausted => exact .inl rfl

theorem AllocStep.tasks_ne {ι : Type} [DecidableEq ι] {pod : Pod} {pc : PodTopController}
    {cs : ι → Candidate} {t t' : AllocState ι} {j j' : ι} (h : AllocStep cfg pod pc cs t j t')
    (hne : j' ≠ j) : t'.tasks j' = t.tasks j' := by
  cases h with
  | call | event | exhausted => simp [AllocState.set, hne]

theorem Task.start_ok {order : RangeOrder String IPPool} {failed : List AllocationResult}
    {c : Candidate} (h : Task.start order failed c = .finished (.ok r)) :
    ∃ r' ∈ failed, r'.ip = r.ip := by
  unfold Task.start at h
  split at h
  · rename_i r' hreuse
    obtain ⟨old, hold, hreuse⟩ := List.exists_of_findSome?_eq_some hreuse
    obtain ⟨e, -, hreuse⟩ := Option.map_eq_some_iff.1 hreuse
    refine ⟨old, hold, ?_⟩
    rw [← Except.ok.inj (Task.finished.inj h), ← hreuse]
  · cases h

variable [DecidableEq κ]

theorem AgentStep.pool (h : AgentStep cfg uid s l s') (name : String) :
    s'.pools name = s.pools name ∨ ∃ e, PoolStep cfg (s.pools name) e (s'.pools name) ∧
      Leases e.op ∧ ∀ ius, e.op = .releaseIP ius → l = .other name e := by
  cases h with
  | start | finish => exact .inl rfl
  | @goroutine a i t ha hi h =>
    refine (AllocStep.pool h name).imp_right ?_
    rintro ⟨e, hw, hop⟩
    refine ⟨e, hw, hop ▸ trivial, fun ius hius => ?_⟩
    rw [hop] at hius
    cases hius
  | @other pool e w k hk hop hw =>
    by_cases hname : name = pool
    · subst hname
      refine .inr ⟨e, by simpa using hw, ?_, fun _ _ => rfl⟩
      cases hcall : e.op with
      | allocateIP | releaseIP => trivial
      | _ => simp [hcall, OtherCall] at hop
    · simp [hname]

end

end IPAM
end Spiderpool
