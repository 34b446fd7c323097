/-
# Who holds an address

A pool is a table of leases: its records say which Pod UID holds which address
(`leases`). Every committed write is a run of changes of that table, and makes only
the changes its call may make (`PoolAttempt.refines`): `AllocateIP` grants a free address,
`ReleaseIP` revokes leases it names with their holder, `UpdateAllocatedIPs` transfers leases it
names, and nothing else touches them. Only the transfers can leave a Pod with two addresses
(`allocateIP_single`).
-/

import Spiderpool.Base.Leases
import Spiderpool.IPPool.WellFormed

namespace Spiderpool

open Versioned

variable {cfg : IPPoolManagerConfig}

/-! ### The records as leases -/

/-- Which Pod UID holds the address with the text `k`. -/
def leases (v : Option IPPool) : Leases String String := fun k =>
  v.bind fun p => (p.status.records.lookup k).map PoolIPAllocation.podUID

theorem leases_some (p : IPPool) (k : String) :
    leases (some p) k = (p.status.records.lookup k).map PoolIPAllocation.podUID := rfl

def PoolOp.May : PoolOp → Leases.Change String String → Prop
  | .allocateIP _ pod _, c => ∃ a : Addr, c = .grant a.string pod.uid
  | .releaseIP ius, c => ∃ iu ∈ ius, c = .revoke iu.ip iu.uid
  | .updateAllocatedIPs _ ius, c => ∃ iu ∈ ius, ∃ u, c = .transfer iu.ip u iu.uid
  | _, _ => False

theorem leases_insert (m : PoolIPAllocations) (k : String) (r : PoolIPAllocation) :
    (fun k' => ((m.insert k r).lookup k').map PoolIPAllocation.podUID) =
      Function.update (fun k' => (m.lookup k').map PoolIPAllocation.podUID) k (some r.podUID) := by
  funext k'
  rw [GoMap.lookup_insert_eq, Function.update_apply]
  split_ifs <;> rfl

theorem leases_erase (m : PoolIPAllocations) (k : String) :
    (fun k' => ((m.erase k).lookup k').map PoolIPAllocation.podUID) =
      Function.update (fun k' => (m.lookup k').map PoolIPAllocation.podUID) k none := by
  funext k'
  rw [GoMap.lookup_erase_eq, Function.update_apply]
  split_ifs <;> rfl

theorem releaseLoop_refines (ius : List IPAndUID) (m : PoolIPAllocations) (n : ℤ) (release : Bool) :
    ∃ cs, Run Leases.Step (fun k => (m.lookup k).map PoolIPAllocation.podUID) cs
        (fun k => ((releaseLoop ius m n release).1.lookup k).map PoolIPAllocation.podUID) ∧
      ∀ c ∈ cs, (PoolOp.releaseIP ius).May c := by
  induction ius generalizing m n release with
  | nil => exact ⟨[], .nil _, by simp⟩
  | cons iu ius ih =>
    have hmono : ∀ c, (PoolOp.releaseIP ius).May c → (PoolOp.releaseIP (iu :: ius)).May c := by
      rintro c ⟨iu', hiu', rfl⟩
      exact ⟨iu', List.mem_cons_of_mem _ hiu', rfl⟩
    rcases releaseLoop_cons iu ius m n release with h | ⟨⟨r, hr, hu⟩, h⟩
    · rw [h]
      obtain ⟨cs, hrun, hcs⟩ := ih m n release
      exact ⟨cs, hrun, fun c hc => hmono c (hcs c hc)⟩
    · rw [h]
      obtain ⟨cs, hrun, hcs⟩ := ih (m.erase iu.ip) (GoMap.len (m.erase iu.ip)) true
      rw [leases_erase] at hrun
      refine ⟨.revoke iu.ip iu.uid :: cs, .cons (.revoke (by simp [hr, hu])) hrun, ?_⟩
      exact List.forall_mem_cons.2 ⟨⟨iu, List.mem_cons_self, rfl⟩, fun c hc => hmono c (hcs c hc)⟩

theorem updateLoop_refines {pool nn : String} {ius : List IPAndUID} {m : PoolIPAllocations}
    {recreate : Bool} {x : PoolIPAllocations × Bool}
    (h : updateLoop pool nn ius m recreate = .ok x) :
    ∃ cs, Run Leases.Step (fun k => (m.lookup k).map PoolIPAllocation.podUID) cs
        (fun k => (x.1.lookup k).map PoolIPAllocation.podUID) ∧
      ∀ c ∈ cs, (PoolOp.updateAllocatedIPs nn ius).May c := by
  induction ius generalizing m recreate with
  | nil =>
    obtain rfl := Except.ok.inj h
    exact ⟨[], .nil _, by simp⟩
  | cons iu ius ih =>
    have hmono : ∀ c, (PoolOp.updateAllocatedIPs nn ius).May c →
        (PoolOp.updateAllocatedIPs nn (iu :: ius)).May c := by
      rintro c ⟨iu', hiu', u, rfl⟩
      exact ⟨iu', List.mem_cons_of_mem _ hiu', u, rfl⟩
    rcases updateLoop_cons h with h | ⟨r, hr, -, h⟩
    · obtain ⟨cs, hrun, hcs⟩ := ih h
      exact ⟨cs, hrun, fun c hc => hmono c (hcs c hc)⟩
    · obtain ⟨cs, hrun, hcs⟩ := ih h
      rw [leases_insert] at hrun
      refine ⟨.transfer iu.ip r.podUID iu.uid :: cs, .cons (.transfer _ (by simp [hr])) hrun, ?_⟩
      exact List.forall_mem_cons.2
        ⟨⟨iu, List.mem_cons_self, _, rfl⟩, fun c hc => hmono c (hcs c hc)⟩

theorem PoolAttempt.refines {op : PoolOp} {v v' : Option IPPool} {r : PoolReply}
    (h : PoolAttempt cfg op v (.write v' r)) (hv : ∀ p ∈ v, WellFormed p) :
    ∃ cs, Run Leases.Step (leases v) cs (leases v') ∧ ∀ c ∈ cs, op.May c := by
  have hsame : leases v' = leases v →
      ∃ cs, Run Leases.Step (leases v) cs (leases v') ∧ ∀ c ∈ cs, op.May c := by
    intro he
    rw [he]
    exact ⟨[], .nil _, by simp⟩
  cases h with
  | @allocate nic pod pc env p p' ip h =>
    obtain ⟨w, m, -, hm, ⟨rfl, -⟩ | ⟨a, ks, used, ex, res, -, hnew⟩⟩ := genRandomIP_ok h
    · exact hsame rfl
    · have hrec := IPPoolStatus.records_eq hm
      have hcan : Canonical m := hrec ▸ (hv _ rfl).canonical
      have hfree : leases (some p) a.string = none := by
        rw [leases_some, hrec, AList.lookup_eq_none.2 (hnew.notMem hcan).1]
        rfl
      have hrun := Run.single (Leases.Step.grant pod.uid hfree)
      have hres : leases (some p') = Function.update (leases (some p)) a.string (some pod.uid) := by
        rw [hnew.result]
        unfold leases
        simp only [Option.bind_some, IPPool.records_setCount, IPPool.records_setRecords, hrec]
        exact leases_insert m a.string _
      rw [← hres] at hrun
      exact ⟨_, hrun, by simpa using ⟨a, rfl⟩⟩
  | @release ius p p' h =>
    obtain ⟨m, m', n, hm, hloop, rfl⟩ := releaseIP_ok h
    obtain ⟨cs, hrun, hcs⟩ := releaseLoop_refines ius m (p.status.allocatedIPCount.getD 0) false
    refine ⟨cs, ?_, hcs⟩
    unfold leases
    simp only [Option.bind_some, IPPool.records_setCount, IPPool.records_setRecords,
      IPPoolStatus.records_eq hm]
    rwa [hloop] at hrun
  | @update nn ius p p' h =>
    obtain ⟨m, m', hm, hloop, rfl⟩ := updateAllocatedIPs_ok h
    obtain ⟨cs, hrun, hcs⟩ := updateLoop_refines hloop
    refine ⟨cs, ?_, hcs⟩
    unfold leases
    simpa only [Option.bind_some, IPPool.records_setRecords, IPPoolStatus.records_eq hm] using hrun
  | @sync p w h =>
    refine hsame ?_
    rcases syncHandler_stored h with ⟨p', hw, hrec, -⟩ | ⟨hw, hnone⟩
    · rw [hw]
      funext k
      rw [leases_some, leases_some, hrec]
    · -- the informer removes a pool only when it has no records
      rw [hw]
      funext k
      rw [leases_some, IPPoolStatus.records, hnone]
      rfl
  | updateSpec hp hd hval =>
    refine hsame ?_
    funext k
    rw [leases_some, leases_some, updateSpec_status hd hp]
  | @delete now iw p h =>
    refine hsame ?_
    obtain ⟨p', hw, hst, -⟩ := deleteIPPool_stored now (hv _ rfl).guarded
    rw [hw]
    funext k
    rw [leases_some, leases_some, hst]

/-! ### An address and its Pod -/

/-- The pool records the address `a` for the Pod UID `u`. -/
def Holds (v : Option IPPool) (a : Addr) (u : String) : Prop := leases v a.string = some u

theorem PoolAttempt.allocated {nic : String} {pod : Pod} {pc : PodTopController}
    {v v' : Option IPPool} {a : Addr} {config : Result Err IPConfig}
    (h : PoolAttempt cfg (.allocateIP nic pod pc) v (.write v' (.allocated (some a) config)))
    (hv : ∀ p ∈ v, WellFormed p) :
    Holds v' a pod.uid ∧ ∀ u, Holds v a u → u = pod.uid := by
  cases h with
  | @allocate _ _ _ env p p' ip h =>
    obtain ⟨w, m, -, hm, ⟨rfl, k, r, hr, hu, hip⟩ | ⟨b, ks, used, ex, res, hb, hnew⟩⟩ :=
      genRandomIP_ok h
    · -- the address of the record found is the one its key is the text of
      have hrec := IPPoolStatus.records_eq hm
      obtain ⟨b, rfl⟩ := (hv _ rfl).canonical k (hrec ▸ GoMap.mem_of_lookup hr)
      obtain rfl : a = b := Option.some.inj (hip.trans (parseIP_string b))
      have hold : leases (some p') a.string = some pod.uid := by rw [leases_some, hrec, hr, ← hu]; rfl
      exact ⟨hold, fun u hu => Option.some.inj (hu.symm.trans hold)⟩
    · obtain rfl := Option.some.inj hb
      have hrec := IPPoolStatus.records_eq hm
      have hcan : Canonical m := hrec ▸ (hv _ rfl).canonical
      constructor
      · rw [Holds, hnew.result, leases_some, IPPool.records_setCount, IPPool.records_setRecords,
          AList.lookup_insert]
        rfl
      · intro u hu
        rw [Holds, leases_some, hrec, AList.lookup_eq_none.2 (hnew.notMem hcan).1] at hu
        exact absurd hu (by simp)

variable {ι : Type*} [DecidableEq ι]

/-- The event is the commit of a `ReleaseIP` that names exactly `(a, u)`, or of an
`UpdateAllocatedIPs` that names `a`. -/
def EndsLease (a : Addr) (u : String) : Event ι PoolOp PoolReply → Prop
  | .commit _ (.releaseIP ius) _ => ⟨a.string, u⟩ ∈ ius
  | .commit _ (.updateAllocatedIPs _ ius) _ => ∃ iu ∈ ius, iu.ip = a.string
  | _ => False

/-- The pools in a world are well-formed, and clients hold versions the store has shown. -/
structure PoolWorldInv (w : PoolWorld ι) : Prop where
  shown : w.Shown
  wellFormed : ∀ p ∈ w.val, WellFormed p

section

variable {w w' : PoolWorld ι} {e : Event ι PoolOp PoolReply} {es : List (Event ι PoolOp PoolReply)}
  {a : Addr} {u : String}

theorem PoolWorldInv.step (h : PoolStep cfg w e w') (hw : PoolWorldInv w) : PoolWorldInv w' where
  shown := h.shown hw.shown
  wellFormed := (World.run_inv (fun v => ∀ p ∈ v, WellFormed p)
    (fun _ _ _ _ hv ha => PoolAttempt.wellFormed ha hv) (.single h) hw.shown hw.wellFormed).2

theorem PoolWorldInv.run (h : Run (PoolStep cfg) w es w') (hw : PoolWorldInv w) : PoolWorldInv w' :=
  h.inv PoolWorldInv hw fun _ _ _ hw hst => hw.step hst

theorem PoolStep.holds (h : PoolStep cfg w e w') (hw : PoolWorldInv w)
    (hold : Holds w.val a u) (he : ¬EndsLease a u e) : Holds w'.val a u := by
  by_cases hcommit : ∃ i op r, e = .commit i op r
  · obtain ⟨i, op, r, rfl⟩ := hcommit
    obtain ⟨cs, hrun, hcs⟩ := PoolAttempt.refines (h.commit_attempt hw.shown) hw.wellFormed
    refine Leases.run_held hrun hold fun c hc hends => he ?_
    -- a change that ends the lease is one its call names
    have hmay := hcs c hc
    cases op with
    | allocateIP nic pod pc =>
      obtain ⟨b, rfl⟩ := hmay
      exact hends.elim
    | releaseIP ius =>
      obtain ⟨iu, hiu, rfl⟩ := hmay
      obtain ⟨hk, hu⟩ := hends
      show (⟨a.string, u⟩ : IPAndUID) ∈ ius
      rw [← hk, ← hu]
      exact hiu
    | updateAllocatedIPs nn ius =>
      obtain ⟨iu, hiu, u', rfl⟩ := hmay
      exact ⟨iu, hiu, hends.1⟩
    | syncHandler => exact hmay.elim
    | updateSpec request => exact hmay.elim
    | delete now => exact hmay.elim
  · rw [h.val_eq fun i op r heq => hcommit ⟨i, op, r, heq⟩]
    exact hold

theorem Run.holds (h : Run (PoolStep cfg) w es w') (hw : PoolWorldInv w)
    (hold : Holds w.val a u) (hes : ∀ e ∈ es, ¬EndsLease a u e) : Holds w'.val a u :=
  (h.inv_of (fun w => PoolWorldInv w ∧ Holds w.val a u) (fun e => ¬EndsLease a u e) ⟨hw, hold⟩ hes
    fun _ _ _ hI he hst => ⟨hI.1.step hst, PoolStep.holds hst hI.1 hI.2 he⟩).2

end

/-- In any interleaving of the calls on a pool, an address `a` that `AllocateIP` has returned to
the Pod UID `u` is recorded for `u` from the committing write on, until a `ReleaseIP` that
names exactly `(a, u)` or an `UpdateAllocatedIPs` that names `a` commits; and before that no
`AllocateIP` returns it to another UID. -/
theorem allocateIP_exclusive {w₀ w₁ w₂ w₃ : PoolWorld ι} {p : IPPool}
    {es es' : List (Event ι PoolOp PoolReply)} {i : ι} {nic : String} {pod : Pod}
    {pc : PodTopController} {a : Addr} {config : Result Err IPConfig}
    (hidle : ∀ i, w₀.phase i = .idle) (hp : w₀.val = some p) (hwf : WellFormed p)
    (hrun : Run (PoolStep cfg) w₀ es w₁)
    (hcommit : PoolStep cfg w₁ (.commit i (.allocateIP nic pod pc) (.allocated (some a) config)) w₂)
    (hrun' : Run (PoolStep cfg) w₂ es' w₃) :
    ((∀ e ∈ es', ¬EndsLease a pod.uid e) → Holds w₃.val a pod.uid) ∧
      ∀ (j : ι) (nic' : String) (pod' : Pod) (pc' : PodTopController) (config' : Result Err IPConfig)
        (w₄ : PoolWorld ι),
        PoolStep cfg w₃ (.commit j (.allocateIP nic' pod' pc') (.allocated (some a) config')) w₄ →
          pod'.uid ≠ pod.uid → ∃ e ∈ es', EndsLease a pod.uid e := by
  have hinv₀ : PoolWorldInv w₀ := ⟨World.shown_of_idle hidle, by simpa [hp] using hwf⟩
  have hinv₁ := hinv₀.run hrun
  have hinv₂ := hinv₁.step hcommit
  have hinv₃ := hinv₂.run hrun'
  have hold₂ := (PoolAttempt.allocated (hcommit.commit_attempt hinv₁.shown) hinv₁.wellFormed).1
  refine ⟨Run.holds hrun' hinv₂ hold₂, ?_⟩
  intro j nic' pod' pc' config' w₄ hcommit' hne
  by_contra hno
  have hold₃ := Run.holds hrun' hinv₂ hold₂ fun e he hends => hno ⟨e, he, hends⟩
  have hother := PoolAttempt.allocated (hcommit'.commit_attempt hinv₃.shown) hinv₃.wellFormed
  exact hne (hother.2 _ hold₃).symm

/-! ### One address for a Pod -/

/-- No Pod UID has two addresses in the pool. -/
def Single (v : Option IPPool) : Prop :=
  ∀ k k' u, leases v k = some u → leases v k' = some u → k = k'

theorem PoolAttempt.single {op : PoolOp} {v v' : Option IPPool} {r : PoolReply}
    (h : PoolAttempt cfg op v (.write v' r)) (hop : ∀ nn ius, op ≠ .updateAllocatedIPs nn ius)
    (hv : ∀ p ∈ v, WellFormed p) (hs : Single v) : Single v' := by
  by_cases halloc : ∃ nic pod pc, op = .allocateIP nic pod pc
  · obtain ⟨nic, pod, pc, rfl⟩ := halloc
    cases h with
    | @allocate _ _ _ env p p' ip h =>
      obtain ⟨w, m, -, hm, ⟨rfl, -⟩ | ⟨a, ks, used, ex, res, -, hnew⟩⟩ := genRandomIP_ok h
      · exact hs
      · have hrec := IPPoolStatus.records_eq hm
        -- the Pod has no address yet
        have hnone : ∀ k, leases (some p) k ≠ some pod.uid := by
          intro k hk
          rw [leases_some, hrec, Option.map_eq_some_iff] at hk
          obtain ⟨r, hr, hu⟩ := hk
          exact hnew.other k r hr hu
        have hres : ∀ k, leases (some p') k =
            if k = a.string then some pod.uid else leases (some p) k := by
          intro k
          rw [hnew.result, leases_some, IPPool.records_setCount, IPPool.records_setRecords,
            GoMap.lookup_insert_eq, leases_some, hrec]
          split_ifs <;> rfl
        intro k k' u hk hk'
        rw [hres] at hk hk'
        split_ifs at hk hk' with heq heq' heq'
        · exact heq.trans heq'.symm
        · exact absurd (hk'.trans hk.symm) (hnone k')
        · exact absurd (hk.trans hk'.symm) (hnone k)
        · exact hs k k' u hk hk'
  · obtain ⟨cs, hrun, hcs⟩ := h.refines hv
    have hrevoke : ∀ c ∈ cs, ∃ k u, c = .revoke k u := by
      intro c hc
      have hmay := hcs c hc
      cases op with
      | allocateIP nic pod pc => exact absurd ⟨nic, pod, pc, rfl⟩ halloc
      | releaseIP ius =>
        obtain ⟨iu, -, rfl⟩ := hmay
        exact ⟨_, _, rfl⟩
      | updateAllocatedIPs nn ius => exact absurd rfl (hop nn ius)
      | syncHandler | updateSpec | delete => exact hmay.elim
    exact fun k k' u hk hk' =>
      hs k k' u (Leases.run_revoked hrun hrevoke hk) (Leases.run_revoked hrun hrevoke hk')

/-- **One address for a Pod.**  However the calls on a pool interleave, the pool never records two
addresses for one Pod UID, and an `AllocateIP` for a Pod that has an address returns that one, as
long as no `UpdateAllocatedIPs` hands records on. -/
theorem allocateIP_single {w₀ w : PoolWorld ι} {es : List (Event ι PoolOp PoolReply)}
    (hidle : ∀ i, w₀.phase i = .idle) (hwf : ∀ p ∈ w₀.val, WellFormed p) (hsingle : Single w₀.val)
    (hrun : Run (PoolStep cfg) w₀ es w)
    (hes : ∀ i nn ius r, .commit i (.updateAllocatedIPs nn ius) r ∉ es) :
    Single w.val ∧ ∀ i nic pod pc a b config w',
      PoolStep cfg w (.commit i (.allocateIP nic pod pc) (.allocated (some a) config)) w' →
        Holds w.val b pod.uid → a = b := by
  obtain ⟨hshown, hwf', hsingle'⟩ := World.run_inv_of
    (fun v => (∀ p ∈ v, WellFormed p) ∧ Single v)
    (fun op _ => ∀ nn ius, op ≠ .updateAllocatedIPs nn ius)
    (fun _ _ _ _ hv hop h => ⟨PoolAttempt.wellFormed h hv.1, PoolAttempt.single h hop hv.1 hv.2⟩)
    hrun (World.shown_of_idle hidle) (fun i op r he nn ius hop => hes i nn ius r (hop ▸ he))
    ⟨hwf, hsingle⟩
  refine ⟨hsingle', fun i nic pod pc a b config w' hcommit hb => ?_⟩
  have hattempt := hcommit.commit_attempt hshown
  have ha := (PoolAttempt.allocated hattempt hwf').1
  have hb' := PoolStep.holds hcommit ⟨hshown, hwf'⟩ hb id
  have hsame := PoolAttempt.single hattempt (fun _ _ => nofun) hwf' hsingle' _ _ _ ha hb'
  rw [← Option.some.injEq, ← parseIP_string a, hsame, parseIP_string b]

namespace Sample

theorem pool_wellFormed : WellFormed pool := ⟨canonical_empty, .inl List.mem_cons_self⟩

/-- A Pod gets the first address of the sample pool, and holds it. -/
theorem holds_addr : ∃ (w₁ w₂ : PoolWorld ℕ) (config' : Result Err IPConfig),
    Run (PoolStep config) (World.init (some pool))
      [.call 0 (allocate "u1"), .read 0 (allocate "u1")] w₁ ∧
    PoolStep config w₁ (.commit 0 (allocate "u1") (.allocated (some addr) config')) w₂ ∧
    Holds w₂.val addr "u1" := by
  obtain ⟨w₁, w₂, hrun, -, hcommit, -, -⟩ := World.solo (C := poolCalls config)
    (w := World.init (some pool)) (fun _ => rfl) 0 (by decide) (allocates "u1")
  have hex := allocateIP_exclusive (fun _ => rfl) rfl pool_wellFormed hrun hcommit (.nil _)
  exact ⟨w₁, w₂, _, hrun, hcommit, hex.1 (by simp)⟩

/-- A Pod that has the first address does not have another. -/
theorem single_addr : ∃ (w : PoolWorld ℕ) (es : List (Event ℕ PoolOp PoolReply)),
    Run (PoolStep config) (World.init (some pool)) es w ∧ Holds w.val addr "u1" ∧ Single w.val := by
  obtain ⟨w₁, w₂, hrun, -, hcommit, hval, -⟩ := World.solo (C := poolCalls config)
    (w := World.init (some pool)) (fun _ => rfl) 0 (by decide) (allocates "u1")
  have hall := hrun.snoc hcommit
  refine ⟨w₂, _, hall, by rw [hval]; rfl, (allocateIP_single (fun _ => rfl) ?_ ?_ hall ?_).1⟩
  · rintro _ ⟨⟩
    exact pool_wellFormed
  · intro k k' u hk
    cases hk
  · simp [allocate]

end Sample

end Spiderpool
