/-
# Addresses taken over from a failed attempt

An address that a goroutine of an attempt has allocated is recorded for the Pod when the goroutine
returns it. One that it takes over from an attempt that has failed is recorded then if no release
has named it for the Pod since the attempt that allocated it began (`returned_recorded`): the cache
of failed attempts does not learn of releases.
-/

import Spiderpool.IPAM.Attempts
import Spiderpool.IPAM.Distinct
import Spiderpool.IPPool.WellFormed

namespace Spiderpool
namespace IPAM

open Versioned

/-- The agent has the address in hand: it is cached, or a goroutine of the attempt has returned
it. -/
def AgentState.Holds {κ : Type} (s : AgentState κ) (config : IPConfig) : Prop :=
  (∃ r ∈ s.failed, r.ip = config) ∨
    ∃ a ∈ s.attempt, ∃ i < a.candidates.length, ∃ r, s.tasks (.inl i) = .finished (.ok r) ∧
      r.ip = config

/-! ### The pools -/

def Maps (v : Option IPPool) (key uid : String) : Prop :=
  ∃ p ∈ v, ∃ r, p.status.records.lookup key = some r ∧ r.podUID = uid

structure InOrder (name : String) (p : IPPool) : Prop where
  name : p.name = name
  canonical : Canonical p.status.records
  writable : Writable p

structure Descends (v₀ : Option IPPool) (name : String) (p : IPPool) : Prop where
  drawn : ∃ p₀ ∈ v₀, DrawnFrom p₀ p
  canonical : Canonical p.status.records
  name : p.name = name

section

variable {cfg : IPPoolManagerConfig} {v₀ v v' : Option IPPool} {name key uid nic : String}
  {p p' : IPPool} {op : PoolOp} {reply : PoolReply} {pod : Pod} {pc : PodTopController}

theorem InOrder.descends (h : InOrder name p) : Descends (some p) name p where
  drawn := ⟨p, rfl, h.writable.drawnFrom⟩
  canonical := h.canonical
  name := h.name

theorem Descends.genRandomIP {env : GenEnv} {ip : IP} (hp : Descends v₀ name p)
    (h : genRandomIP cfg env pod pc p = .ok (ip, p')) : Descends v₀ name p' := by
  obtain ⟨p₀, hp₀, hdrawn⟩ := hp.drawn
  refine ⟨⟨p₀, hp₀, (hdrawn.genRandomIP h).1⟩, genRandomIP_canonical h hp.canonical, ?_⟩
  rw [genRandomIP_frame h]
  exact hp.name

theorem Descends.releaseIP {ius : List IPAndUID} (hp : Descends v₀ name p)
    (h : releaseIP ius p = .ok (some p')) : Descends v₀ name p' := by
  obtain ⟨p₀, hp₀, hdrawn⟩ := hp.drawn
  have hspec : p'.spec = p.spec ∧ p'.name = p.name := by
    obtain ⟨m, m', n, -, -, rfl⟩ := releaseIP_ok h
    exact ⟨rfl, rfl⟩
  refine ⟨⟨p₀, hp₀, hspec.1.trans hdrawn.spec, fun k hk => ?_⟩, releaseIP_canonical h hp.canonical,
    hspec.2.trans hp.name⟩
  obtain ⟨r, hr⟩ := Option.isSome_iff_exists.1 (AList.lookup_isSome.2 hk)
  exact hdrawn.keys k (GoMap.mem_of_lookup ((releaseIP_lookup h).1 hr).1)

theorem PoolAttempt.descends (h : PoolAttempt cfg op v (.write v' reply)) (hop : Leases op)
    (hv : ∀ p ∈ v, Descends v₀ name p) : ∀ p ∈ v', Descends v₀ name p := by
  cases h with
  | allocate h =>
    rintro _ ⟨⟩
    exact (hv _ rfl).genRandomIP h
  | release h =>
    rintro _ ⟨⟩
    exact (hv _ rfl).releaseIP h
  | _ => exact hop.elim

theorem Maps.genRandomIP {env : GenEnv} {ip : IP} (hm : Maps (some p) key uid)
    (hp : Canonical p.status.records) (h : genRandomIP cfg env pod pc p = .ok (ip, p')) :
    Maps (some p') key uid := by
  obtain ⟨_, ⟨⟩, r, hr, hu⟩ := hm
  obtain ⟨v, m, -, hm, ⟨rfl, -⟩ | ⟨a, ks, used, ex, res, -, hnew⟩⟩ := genRandomIP_ok h
  · exact ⟨p', rfl, r, hr, hu⟩
  · rw [IPPoolStatus.records_eq hm] at hp hr
    refine ⟨p', rfl, r, ?_, hu⟩
    rw [hnew.result, IPPool.records_setCount, IPPool.records_setRecords, GoMap.lookup_insert_eq,
      if_neg, hr]
    rintro rfl
    exact (hnew.notMem hp).1 (GoMap.mem_of_lookup hr)

theorem PoolAttempt.maps (h : PoolAttempt cfg op v (.write v' reply)) (hop : Leases op)
    (hv : ∀ p ∈ v, Descends v₀ name p)
    (hspared : ∀ ius, op = .releaseIP ius → (⟨key, uid⟩ : IPAndUID) ∉ ius) (hm : Maps v key uid) :
    Maps v' key uid := by
  cases h with
  | allocate h => exact hm.genRandomIP (hv _ rfl).canonical h
  | @release ius p p' h =>
    obtain ⟨_, ⟨⟩, r, hr, rfl⟩ := hm
    exact ⟨p', rfl, r, (releaseIP_lookup h).2 ⟨hr, hspared ius rfl⟩, rfl⟩
  | _ => exact hop.elim

theorem genRandomIP_maps {env : GenEnv} {a : Addr} (hp : Canonical p.status.records)
    (h : genRandomIP cfg env pod pc p = .ok (some a, p')) : Maps (some p') a.string pod.uid := by
  obtain ⟨v, m, -, hm, ⟨rfl, k, r, hr, hu, ha⟩ | ⟨b, ks, used, ex, res, hb, hnew⟩⟩ :=
    genRandomIP_ok h
  · rw [← IPPoolStatus.records_eq hm] at hr
    obtain ⟨b, rfl⟩ := hp k (GoMap.mem_of_lookup hr)
    obtain rfl := Option.some.inj (ha.trans (parseIP_string b))
    exact ⟨p', rfl, r, hr, hu⟩
  · obtain rfl := Option.some.inj hb
    refine ⟨p', rfl, ⟨podKey cfg pod pc, pod.uid⟩, ?_, rfl⟩
    rw [hnew.result, IPPool.records_setCount, IPPool.records_setRecords, AList.lookup_insert]

theorem PoolAttempt.allocated_maps {ip : IP} {config : IPConfig}
    (h : PoolAttempt cfg (.allocateIP nic pod pc) v (.write v' (.allocated ip (.ok config))))
    (hwritable : ∀ p ∈ v₀, Writable p) (hv : ∀ p ∈ v, Descends v₀ name p) :
    config.ipPool = name ∧ Maps v' (recordKey config.address) pod.uid := by
  generalize hreply : PoolReply.allocated ip (.ok config) = reply at h
  cases h with
  | @allocate _ _ _ env p p' ip' h =>
    obtain ⟨rfl, hconfig⟩ := PoolReply.allocated.inj hreply
    have hp' := (hv p rfl).genRandomIP h
    obtain ⟨p₀, hp₀, hdrawn⟩ := (hv p rfl).drawn
    obtain ⟨hdrawn', a, ha, rfl⟩ := hdrawn.genRandomIP h
    have hkey := (hwritable p₀ hp₀).recordKey hdrawn'.spec ha hconfig.symm
    refine ⟨?_, hkey ▸ genRandomIP_maps (hv p rfl).canonical h⟩
    obtain ⟨v, -, hconfig⟩ := bind_eq_ok.1 hconfig.symm
    split at hconfig
    · cases hconfig
    · rw [← Except.ok.inj hconfig]
      exact hp'.name

end

/-! ### The attempts -/

structure AgentInv {κ : Type} (uid : String) (pools : String → Option IPPool) (s : AgentState κ) :
    Prop where
  pod : ∀ a ∈ s.attempt, a.pod.uid = uid
  shown : ∀ name, (s.pools name).Shown
  descends : ∀ name, ∀ p ∈ (s.pools name).val, Descends (pools name) name p

section

variable {κ : Type} {cfg : IPPoolManagerConfig} {uid : String} {pools : String → Option IPPool}
  {s s' : AgentState κ} {l : AgentEvent κ} {i : ℕ} {r : AllocationResult}

theorem agentInv_init (h : ∀ name, ∀ p ∈ pools name, InOrder name p) :
    AgentInv uid pools (AgentState.init pools : AgentState κ) where
  pod a ha := absurd ha (Option.not_mem_none a)
  shown name := World.shown_of_idle fun _ => rfl
  descends name p hp := by
    have hp' : pools name = some p := hp
    rw [hp']
    exact (h name p hp).descends

variable [DecidableEq κ]

theorem AgentInv.step (hI : AgentInv uid pools s) (h : AgentStep cfg uid s l s') :
    AgentInv uid pools s' := by
  refine ⟨?_, fun name => ?_, fun name => ?_⟩
  · cases h with
    | start a order hidle huid =>
      rintro _ ⟨⟩
      exact huid
    | finish => exact fun a ha => absurd ha (Option.not_mem_none a)
    | goroutine | other => exact hI.pod
  · rcases h.pool name with heq | ⟨e, hw, -, -⟩
    · exact heq ▸ hI.shown name
    · exact hw.shown (hI.shown name)
  · rcases h.pool name with heq | ⟨e, hw, hop, -⟩
    · exact heq ▸ hI.descends name
    · have hkeep : ∀ (op : PoolOp) (v v' : Option IPPool) (r : PoolReply),
          (∀ p ∈ v, Descends (pools name) name p) → Leases op →
          PoolAttempt cfg op v (.write v' r) → ∀ p ∈ v', Descends (pools name) name p :=
        fun op v v' r hv hop h => PoolAttempt.descends h hop hv
      refine hw.keeps hkeep (hI.shown name) ?_ (hI.descends name)
      rintro j op r rfl
      exact hop

theorem AgentStep.maps (h : AgentStep cfg uid s l s') (hI : AgentInv uid pools s) {name key : String}
    (hspared : ¬ l.Releases name ⟨key, uid⟩) (hm : Maps (s.pools name).val key uid) :
    Maps (s'.pools name).val key uid := by
  rcases h.pool name with heq | ⟨e, hw, hop, hrelease⟩
  · exact heq ▸ hm
  · by_cases hcommit : ∃ j op r, e = .commit j op r
    · obtain ⟨j, op, r, rfl⟩ := hcommit
      refine PoolAttempt.maps (hw.commit_attempt (hI.shown name)) hop (hI.descends name) ?_ hm
      rintro ius rfl hmem
      rw [hrelease ius rfl] at hspared
      exact hspared ⟨rfl, hmem⟩
    · rw [hw.val_eq fun j op r heq => hcommit ⟨j, op, r, heq⟩]
      exact hm

theorem AgentStep.allocated (h : AgentStep cfg uid s (.goroutine i) s') (hI : AgentInv uid pools s)
    (hpools : ∀ name, ∀ p ∈ pools name, InOrder name p)
    (hr : s'.tasks (.inl i) = .finished (.ok r)) :
    Maps (s'.pools r.ip.ipPool).val (recordKey r.ip.address) uid := by
  cases h with
  | @goroutine a _ t ha hi h =>
    cases h with
    | call => simp at hr
    | @event pool names errs e w ht hclient hop hw =>
      simp only [AllocState.set_tasks] at hr
      obtain ⟨j, op, ip, config, rfl, rfl⟩ := Task.after_ok hr
      obtain rfl : op = _ := hop
      obtain ⟨rfl, hmaps⟩ := PoolAttempt.allocated_maps (hw.commit_attempt (hI.shown pool))
        (fun p hp => (hpools pool p hp).writable) (hI.descends pool)
      rw [hI.pod a ha] at hmaps
      simpa using hmaps
    | exhausted => simp [fail] at hr

theorem AgentStep.holds (h : AgentStep cfg uid s l s') {config : IPConfig} (hs : s'.Holds config) :
    s.Holds config ∨ ∃ i r, l = .goroutine i ∧ s'.tasks (.inl i) = .finished (.ok r) ∧
      r.ip = config := by
  cases h with
  | start a order hidle huid =>
    rcases hs with hcached | ⟨_, ⟨⟩, i, hi, r, hr, rfl⟩
    · exact .inl (.inl hcached)
    · exact .inl (.inl (Task.start_ok hr))
  | @goroutine a i t ha hi h =>
    rcases hs with hcached | ⟨a', ha', i', hi', r, hr, rfl⟩
    · exact .inl (.inl hcached)
    · by_cases hii : i' = i
      · subst hii
        exact .inr ⟨i', r, rfl, hr, rfl⟩
      · refine .inl (.inr ⟨a', ha', i', hi', r, ?_, rfl⟩)
        rw [← hr]
        exact (AllocStep.tasks_ne h (by simpa using hii)).symm
  | @finish a results ending ha hreturned hresults =>
    rcases hs with ⟨r, hr, rfl⟩ | ⟨_, ⟨⟩, -⟩
    refine .inl ?_
    have hcases : r ∈ results ∨ r ∈ s.failed := by
      cases ending with
      | failed =>
        simp only [Ending.cache] at hr
        split_ifs at hr
        · exact absurd hr List.not_mem_nil
        · exact .inl hr
        · exact .inr hr
      | _ => simp [Ending.cache] at hr
    rcases hcases with hr | hr
    · obtain ⟨i, hi, htask⟩ := mem_results.1 (hresults.mem_iff.1 hr)
      exact .inr ⟨a, ha, i, hi, r, htask, rfl⟩
    · exact .inl ⟨r, hr, rfl⟩
  | other => exact .inl hs

end

/-- An address that a goroutine returns is recorded for the Pod at that moment: one that it has
allocated always, one that it takes over if none has been released for the Pod since the agent
did not hold it. -/
theorem returned_recorded {κ : Type} [DecidableEq κ] (cfg : IPPoolManagerConfig) (uid : String)
    (pools : String → Option IPPool) (es₁ es₂ : List (AgentEvent κ)) (s₁ s s' : AgentState κ)
    (l : AgentEvent κ) (i : ℕ) (r : AllocationResult)
    (hpools : ∀ name, ∀ p ∈ pools name, InOrder name p)
    (hrun₁ : Run (AgentStep cfg uid) (.init pools) es₁ s₁)
    (hrun₂ : Run (AgentStep cfg uid) s₁ es₂ s) (hstep : AgentStep cfg uid s l s')
    (hl : l.Returns i) (hr : s'.tasks (.inl i) = .finished (.ok r))
    (hheld : (∃ a, l = .start a) → ∀ config, s₁.Holds config →
      ¬ (config.ipPool = r.ip.ipPool ∧ recordKey config.address = recordKey r.ip.address))
    (hspared : (∃ a, l = .start a) → ∀ l' ∈ es₂,
      ¬ l'.Releases r.ip.ipPool ⟨recordKey r.ip.address, uid⟩) :
    Maps (s'.pools r.ip.ipPool).val (recordKey r.ip.address) uid := by
  have hI₁ : AgentInv uid pools s₁ :=
    hrun₁.inv _ (agentInv_init hpools) fun _ _ _ hI h => hI.step h
  have hI : AgentInv uid pools s := hrun₂.inv _ hI₁ fun _ _ _ hI h => hI.step h
  cases l with
  | goroutine j =>
    obtain rfl : j = i := hl
    exact hstep.allocated hI hpools hr
  | start a =>
    -- whatever the agent has come to hold since is recorded
    have hrecorded : ∀ config, s.Holds config → config.ipPool = r.ip.ipPool →
        recordKey config.address = recordKey r.ip.address →
        Maps (s.pools r.ip.ipPool).val (recordKey r.ip.address) uid := by
      refine (hrun₂.inv_of (fun s => AgentInv uid pools s ∧ ∀ config, s.Holds config →
        config.ipPool = r.ip.ipPool → recordKey config.address = recordKey r.ip.address →
        Maps (s.pools r.ip.ipPool).val (recordKey r.ip.address) uid) _
        ⟨hI₁, fun config hc hp hk => absurd ⟨hp, hk⟩ (hheld ⟨a, rfl⟩ config hc)⟩
        (hspared ⟨a, rfl⟩) ?_).2
      rintro t l t' ⟨hI, hrec⟩ hspared h
      refine ⟨hI.step h, fun config hc hp hk => ?_⟩
      rcases h.holds hc with hc | ⟨j, r', rfl, hr', rfl⟩
      · exact h.maps hI hspared (hrec config hc hp hk)
      · rw [← hp, ← hk]
        exact h.allocated hI hpools hr'
    cases hstep with
    | start a order hidle huid =>
      obtain ⟨r', hr', hip⟩ := Task.start_ok hr
      exact hrecorded r'.ip (.inl ⟨r', hr', rfl⟩) (by rw [hip]) (by rw [hip])
  | finish => exact hl.elim
  | other => exact hl.elim

end IPAM
/-! ### An attempt that fails, and one that takes its address over -/

namespace Sample

open IPAM Versioned

def attempt : Attempt := ⟨pod "u1", topController, allCandidates [request "eth0" pool]⟩

def attemptResult : AllocationResult where
  ip := {
    address := "10.0.0.1/24", gateway := "", ipPool := "sample", nic := "eth0", version := 4
    enableGatewayDetection := false, enableIPConflictDetection := false }

theorem inOrder_pools : ∀ name, ∀ p ∈ pools name, InOrder name p := by
  intro name p hp
  refine ⟨?_, ?_, writable_pools hp⟩ <;>
    · have hp' : pools name = some p := hp
      unfold pools at hp'
      split_ifs at hp' with h1 h2 <;> obtain rfl := Option.some.inj hp'
      all_goals first | exact h1.symm | exact h2.symm | exact canonical_empty

theorem goroutine_run {s : AgentState ℕ} {t : AllocState (ℕ ⊕ ℕ)} {a : Attempt} {n i : ℕ}
    (ha : s.attempt = some a) (hi : i < a.candidates.length)
    (h : Run (AllocStep config a.pod a.podController a.candidate) s.toAllocState
      (List.replicate n (.inl i)) t) :
    Run (AgentStep config "u1") s (List.replicate n (.goroutine i)) { s with toAllocState := t } := by
  induction n generalizing s with
  | zero =>
    cases h
    exact .nil _
  | succ n ih =>
    rw [List.replicate_succ] at h
    obtain _ | ⟨hstep, hrest⟩ := h
    exact .cons (.goroutine ha hi hstep) (ih (s := { s with toAllocState := _ }) ha hrest)

theorem other_run {s : AgentState ℕ} {name : String} (hidle : ∀ j, (s.pools name).phase j = .idle)
    {op : PoolOp} {v : Option IPPool} {reply : PoolReply} (hop : OtherCall "u1" op)
    (htries : (poolCalls config).tries op ≠ 0)
    (ha : PoolAttempt config op (s.pools name).val (.write v reply)) :
    ∃ s', Run (AgentStep config "u1") s [.other name (.call (.inr 0) op),
        .other name (.read (.inr 0) op), .other name (.commit (.inr 0) op reply)] s' ∧
      s'.attempt = s.attempt ∧ s'.failed = s.failed ∧ (s'.pools name).val = v ∧
      ∀ j, (s'.pools name).phase j = .idle := by
  obtain ⟨w₁, w₂, hrun, -, hcommit, hval, hidle'⟩ := World.solo hidle (.inr 0) htries ha
  obtain _ | ⟨hcall, _ | ⟨hread, _ | _⟩⟩ := hrun
  have hlift : ∀ (s : AgentState ℕ) e w, e.client = .inr 0 → e.op = op →
      PoolStep config (s.pools name) e w → ∃ s', AgentStep config "u1" s (.other name e) s' ∧
        s'.attempt = s.attempt ∧ s'.failed = s.failed ∧ s'.pools name = w :=
    fun s e w hk he hw => ⟨_, .other hk (he ▸ hop) hw, rfl, rfl, Function.update_self ..⟩
  obtain ⟨s₁, hs₁, ha₁, hf₁, hp₁⟩ := hlift s _ _ rfl rfl hcall
  obtain ⟨s₂, hs₂, ha₂, hf₂, hp₂⟩ := hlift s₁ _ _ rfl rfl (hp₁ ▸ hread)
  obtain ⟨s₃, hs₃, ha₃, hf₃, hp₃⟩ := hlift s₂ _ _ rfl rfl (hp₂ ▸ hcommit)
  exact ⟨s₃, .cons hs₁ (.cons hs₂ (.single hs₃)), ha₃.trans (ha₂.trans ha₁),
    hf₃.trans (hf₂.trans hf₁), hp₃ ▸ hval, hp₃ ▸ hidle'⟩

theorem attempt_fails : ∃ s : AgentState ℕ,
    Run (AgentStep config "u1") (.init pools)
      [.start attempt, .goroutine 0, .goroutine 0, .goroutine 0, .finish .failed] s ∧
    s.attempt = none ∧ s.failed = [attemptResult] ∧
    (s.pools "sample").val = some (allocated "u1") ∧ ∀ j, (s.pools "sample").phase j = .idle := by
  let s₁ : AgentState ℕ := { AgentState.init pools with
    attempt := some attempt
    tasks := fun j => Task.start (.stored _ _) [] (attempt.candidate j) }
  have hstart : AgentStep config "u1" (.init pools) (.start attempt) s₁ :=
    .start attempt (.stored _ _) rfl rfl
  have htask : s₁.tasks (.inl 0) = .trying ["sample"] [] := rfl
  have hattempt : PoolAttempt config (.allocateIP "eth0" (pod "u1") topController) (some pool)
    (.write (some (allocated "u1")) (.allocated (some addr) (.ok attemptResult.ip))) := allocates "u1"
  obtain ⟨w, hrun, hval, hidle⟩ :=
    AllocStep.solo attempt.candidate htask (fun _ => rfl) hattempt
  let s₂ : AgentState ℕ := { s₁ with
    toAllocState := s₁.set "sample" w (.inl 0) (.finished (.ok attemptResult)) }
  have hgoroutine : Run (AgentStep config "u1") s₁ [.goroutine 0, .goroutine 0, .goroutine 0] s₂ :=
    goroutine_run (a := attempt) (n := 3) rfl Nat.one_pos hrun
  have hreturned : s₂.tasks (.inl 0) = .finished (.ok attemptResult) := s₁.set_tasks ..
  have hresults : [attemptResult].Perm (s₂.results attempt) := by
    have hone : s₂.results attempt = [0].filterMap fun i => (s₂.tasks (.inl i)).result := rfl
    rw [hone, List.filterMap_cons, hreturned]
    exact .refl _
  have hall : ∀ i < attempt.candidates.length, ∃ x, s₂.tasks (.inl i) = .finished x ∧
      ((∃ r, x = .ok r) ∨ ∃ e, x = fail e ∧ Ending.failed = .failed) := by
    intro i hi
    obtain rfl : i = 0 := Nat.lt_one_iff.1 hi
    exact ⟨_, hreturned, .inl ⟨_, rfl⟩⟩
  have hfinish : AgentStep config "u1" s₂ (.finish .failed)
      { s₂ with attempt := none, failed := [attemptResult] } :=
    .finish .failed rfl hall hresults
  have hpool : s₂.pools "sample" = w := s₁.set_pools ..
  exact ⟨_, .cons hstart (hgoroutine.snoc hfinish), rfl, rfl, hpool ▸ hval, hpool ▸ hidle⟩

/-- The next attempt returns the address, and finds it recorded. -/
theorem taken_over_recorded : ∃ s s' : AgentState ℕ,
    Run (AgentStep config "u1") (.init pools)
      [.start attempt, .goroutine 0, .goroutine 0, .goroutine 0, .finish .failed] s ∧
    AgentStep config "u1" s (.start attempt) s' ∧
    s'.tasks (.inl 0) = .finished (.ok attemptResult) ∧
    Maps (s'.pools "sample").val "10.0.0.1" "u1" := by
  obtain ⟨s, hrun, hidle, hfailed, -, -⟩ := attempt_fails
  have hstart : AgentStep config "u1" s (.start attempt) _ :=
    .start attempt (.stored _ _) hidle rfl
  have hreturned : Task.start (.stored _ _) s.failed (attempt.candidate (.inl 0 : ℕ ⊕ ℕ)) =
      .finished (.ok attemptResult) := by
    rw [hfailed]
    rfl
  refine ⟨s, _, hrun, hstart, hreturned, ?_⟩
  refine returned_recorded config "u1" pools [] _ (.init pools) s _ _ 0 attemptResult inOrder_pools
    (.nil _) hrun hstart Nat.one_pos hreturned (fun _ c hc => ?_) fun _ l hl => ?_
  · obtain ⟨r, hr, -⟩ | ⟨a, ha, -⟩ := hc
    · exact absurd hr List.not_mem_nil
    · exact absurd ha (Option.not_mem_none a)
  · simp only [List.mem_cons, List.not_mem_nil, or_false] at hl
    rcases hl with rfl | rfl | rfl | rfl | rfl <;> exact id

def neighbour : Pod := { pod "u2" with name := "web-1" }

def neighbours : IPPool :=
  (pool.setRecords (AList.insert "10.0.0.1" ⟨"default/web-1", "u2"⟩ ∅)).setCount 1

/-- Between two attempts a garbage collector releases the address, and the neighbour gets it. The
second attempt returns it all the same. -/
theorem taken_over_released : ∃ (es : List (AgentEvent ℕ)) (s s' : AgentState ℕ),
    Run (AgentStep config "u1") (.init pools) es s ∧
    AgentStep config "u1" s (.start attempt) s' ∧
    s'.tasks (.inl 0) = .finished (.ok attemptResult) ∧
    Maps (s.pools "sample").val "10.0.0.1" "u2" ∧ Maps (s'.pools "sample").val "10.0.0.1" "u2" ∧
    ¬ Maps (s.pools "sample").val "10.0.0.1" "u1" ∧
    ¬ Maps (s'.pools "sample").val "10.0.0.1" "u1" := by
  obtain ⟨s₁, hrun₁, ha₁, hf₁, hval₁, hidle₁⟩ := attempt_fails
  obtain ⟨p, hp, hgen⟩ : ∃ p, releaseIP [⟨"10.0.0.1", "u1"⟩] (allocated "u1") = .ok (some p) ∧
      genRandomIP config env neighbour topController p = .ok (some addr, neighbours) :=
    ⟨_, rfl, rfl⟩
  have hrelease : OtherCall "u1" (.releaseIP [⟨"10.0.0.1", "u1"⟩]) := trivial
  have hallocate : OtherCall "u1" (.allocateIP "eth0" neighbour topController) :=
    show neighbour.uid ≠ "u1" by decide
  obtain ⟨s₂, hrun₂, ha₂, hf₂, hval₂, hidle₂⟩ := other_run hidle₁ hrelease (Nat.succ_ne_zero 4)
    (hval₁ ▸ PoolAttempt.release hp)
  obtain ⟨s₃, hrun₃, ha₃, hf₃, hval₃, -⟩ := other_run hidle₂ hallocate (Nat.succ_ne_zero 4)
    (hval₂ ▸ PoolAttempt.allocate hgen)
  have hstart : AgentStep config "u1" s₃ (.start attempt) _ :=
    .start attempt (.stored _ _) (ha₃.trans (ha₂.trans ha₁)) rfl
  have hreturned : Task.start (.stored _ _) s₃.failed (attempt.candidate (.inl 0 : ℕ ⊕ ℕ)) =
      .finished (.ok attemptResult) := by
    rw [hf₃, hf₂, hf₁]
    rfl
  have hu2 : Maps (s₃.pools "sample").val "10.0.0.1" "u2" := by
    rw [hval₃]
    exact ⟨_, rfl, _, rfl, rfl⟩
  have hu1 : ¬ Maps (s₃.pools "sample").val "10.0.0.1" "u1" := by
    rw [hval₃]
    rintro ⟨_, ⟨⟩, r, hr, hu⟩
    obtain rfl := Option.some.inj hr
    exact absurd hu (by decide)
  exact ⟨_, s₃, _, (hrun₁.append hrun₂).append hrun₃, hstart, hreturned, hu2, hu2, hu1, hu1⟩

end Sample

end Spiderpool
