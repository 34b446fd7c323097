/-
# What an attempt does with the records

`genRandomIP_ok` is everything a successful `genRandomIP` can have done: it finds
an address recorded for the Pod's UID and changes nothing, or it records a new one.
The search for a previous record of the same Pod, which the code makes when no
address is free, never finds one, because the first loop has returned it already.
-/

import Spiderpool.IPPool.Manager

namespace Spiderpool

section

variable {uid : String} {l : List (Σ _ : String, PoolIPAllocation)}

theorem scanRecords_inl {ip : String}
    (h : scanRecords uid l = .inl ip) : ∃ r, ⟨ip, r⟩ ∈ l ∧ r.podUID = uid := by
  induction l with
  | nil => simp [scanRecords] at h
  | cons x l ih =>
    rw [scanRecords] at h
    split_ifs at h with hx
    · obtain rfl := Sum.inl.inj h
      exact ⟨x.2, List.mem_cons_self, hx⟩
    · cases hl : scanRecords uid l with
      | inl ip' =>
        rw [hl] at h
        obtain rfl : ip' = ip := Sum.inl.inj h
        obtain ⟨r, hr, hu⟩ := ih hl
        exact ⟨r, List.mem_cons_of_mem _ hr, hu⟩
      | inr used => simp [hl] at h

theorem scanRecords_inr {used : List String} (h : scanRecords uid l = .inr used) :
    used = l.map (·.1) ∧ ∀ x ∈ l, x.2.podUID ≠ uid := by
  induction l generalizing used with
  | nil =>
    obtain rfl := Sum.inr.inj h
    simp
  | cons x l ih =>
    rw [scanRecords] at h
    split_ifs at h with hx
    cases hl : scanRecords uid l with
    | inl ip => simp [hl] at h
    | inr used' =>
      rw [hl] at h
      obtain rfl : x.1 :: used' = used := Sum.inr.inj h
      obtain ⟨rfl, hall⟩ := ih hl
      exact ⟨rfl, List.forall_mem_cons.2 ⟨hx, hall⟩⟩

theorem findAllocatedIPFromRecords_eq_none {nn : String} (h : ∀ x ∈ l, x.2.podUID ≠ uid) :
    findAllocatedIPFromRecords l nn uid = none := by
  rw [findAllocatedIPFromRecords, Option.map_eq_none_iff, List.find?_eq_none]
  intro x hx
  simp [h x hx]

end

/-- `genRandomIP` records the new address `a` for the Pod: none of the records `m` is the
Pod's, `ks` are the keys of `m` in some order, and `a` was found outside of the
addresses these name. -/
structure GenNew (cfg : IPPoolManagerConfig) (pod : Pod) (podController : PodTopController)
    (p p' : IPPool) (v : IPVersion) (m : PoolIPAllocations) (a : Addr) (ks : List String)
    (usedIPs unAvailableIPs reservedIPs : List Addr) : Prop where
  keys : ks.Perm m.keys
  other : ∀ k r, m.lookup k = some r → r.podUID ≠ pod.uid
  used : parseIPRanges v ks = .ok usedIPs
  excluded : parseIPRanges v p.spec.excludeIPs = .ok unAvailableIPs
  found : a ∈ findAvailableIPs p.spec.ips (unAvailableIPs ++ (reservedIPs ++ usedIPs)) 1
  count : usedIPs.length + 1 ≤ cfg.maxAllocatedIPs
  result : p' = (p.setRecords (m.insert a.string ⟨podKey cfg pod podController, pod.uid⟩)).setCount
    (usedIPs.length + 1)

section

variable {cfg : IPPoolManagerConfig} {pod : Pod} {podController : PodTopController} {p p' : IPPool}
  {m : PoolIPAllocations} {ius : List IPAndUID} {k pool nn uid : String} {r : PoolIPAllocation}
  {o : Option IPPool} {recreate : Bool} {x : PoolIPAllocations × Bool}

theorem genRandomIP_ok {env : GenEnv} {ip : IP}
    (h : genRandomIP cfg env pod podController p = .ok (ip, p')) :
    ∃ v m, p.spec.ipVersion = some v ∧ unmarshalIPPoolAllocatedIPs p.status.allocatedIPs = .ok m ∧
      ((p' = p ∧ ∃ k r, m.lookup k = some r ∧ r.podUID = pod.uid ∧ ip = parseIP k) ∨
        ∃ a ks used ex res, ip = some a ∧
          GenNew cfg pod podController p p' v m a ks used ex res) := by
  unfold genRandomIP at h
  obtain ⟨v, hv, h⟩ := bind_eq_ok.1 h
  obtain ⟨res, -, h⟩ := bind_eq_ok.1 h
  obtain ⟨m, hm, h⟩ := bind_eq_ok.1 h
  refine ⟨v, m, deref_eq_ok.1 hv, hm, ?_⟩
  cases hscan : scanRecords pod.uid (env.order.visit m) with
  | inl k =>
    simp only [hscan] at h
    obtain ⟨rfl, rfl⟩ := Prod.mk.inj (Except.ok.inj h)
    obtain ⟨r, hr, hu⟩ := scanRecords_inl hscan
    exact .inl ⟨rfl, k, r, env.order.mem_visit.1 hr, hu, rfl⟩
  | inr ks =>
    simp only [hscan] at h
    obtain ⟨used, hused, h⟩ := bind_eq_ok.1 h
    obtain ⟨ex, hex, h⟩ := bind_eq_ok.1 h
    obtain ⟨avail, havail, h⟩ := bind_eq_ok.1 h
    obtain ⟨a, ha, h⟩ := bind_eq_ok.1 h
    obtain ⟨hcount, h⟩ := seq_eq_ok.1 h
    obtain ⟨rfl, rfl⟩ := Prod.mk.inj (Except.ok.inj h)
    obtain ⟨hks, hother⟩ := scanRecords_inr hscan
    have hothers : ∀ k r, m.lookup k = some r → r.podUID ≠ pod.uid := fun k r hk =>
      hother ⟨k, r⟩ (env.order.mem_visit.2 hk)
    have hfound : a ∈ findAvailableIPs p.spec.ips (ex ++ (res ++ used)) 1 := by
      cases hfind : findAvailableIPs p.spec.ips (ex ++ (res ++ used)) 1 with
      | nil =>
        -- a previous record of the Pod would have ended the first loop
        rw [hfind, findAllocatedIPFromRecords_eq_none fun x hx => hothers x.1 x.2
          (env.order'.mem_visit.1 hx)] at havail
        simp [availableIPs] at havail
      | cons x xs =>
        rw [hfind] at havail
        obtain rfl := Except.ok.inj havail
        simp only [deref, List.head?_cons, Except.ok.injEq] at ha
        rw [← ha]
        exact List.mem_cons_self
    refine .inr ⟨a, ks, used, ex, res, rfl, ?_, hothers, hused, hex, hfound, ?_, rfl⟩
    · rw [hks]
      exact (env.order.perm m).map _
    · rw [failIf_eq_ok] at hcount
      omega

theorem GenNew.notMem {v : IPVersion} {a : Addr} {ks : List String}
    {used ex res : List Addr} (h : GenNew cfg pod podController p p' v m a ks used ex res)
    (hm : Canonical m) : a.string ∉ m ∧ used.length = GoMap.len m := by
  obtain ⟨as, rfl⟩ := hm.exists_addrs h.keys
  obtain rfl := parseIPRanges_string h.used
  constructor
  · intro ha
    have hkey : a.string ∈ used.map Addr.string := h.keys.mem_iff.2 (AList.mem_keys.1 ha)
    obtain ⟨b, hb, hab⟩ := List.mem_map.1 hkey
    obtain rfl := Addr.string_injective hab
    refine (mem_findAvailableIPs h.found).1 ?_
    exact List.mem_append_right _ (List.mem_append_right _ hb)
  · have := h.keys.length_eq
    rw [List.length_map] at this
    rw [this, GoMap.len_eq_keys]

theorem releaseLoop_cons (iu : IPAndUID) (ius : List IPAndUID) (m : PoolIPAllocations) (n : ℤ)
    (release : Bool) :
    releaseLoop (iu :: ius) m n release = releaseLoop ius m n release ∨
      (∃ r, m.lookup iu.ip = some r ∧ r.podUID = iu.uid) ∧
        releaseLoop (iu :: ius) m n release =
          releaseLoop ius (m.erase iu.ip) (GoMap.len (m.erase iu.ip)) true := by
  rw [releaseLoop]
  split
  · rename_i r hr
    split_ifs with hu
    · exact .inr ⟨⟨r, hr, hu⟩, rfl⟩
    · exact .inl rfl
  · exact .inl rfl

theorem releaseLoop_count (ius : List IPAndUID) (m : PoolIPAllocations) (n : ℤ) (release : Bool)
    (hn : release = true → n = GoMap.len m) :
    (releaseLoop ius m n release).2.2 = true →
      (releaseLoop ius m n release).2.1 = GoMap.len (releaseLoop ius m n release).1 := by
  induction ius generalizing m n release with
  | nil => exact hn
  | cons iu ius ih =>
    rcases releaseLoop_cons iu ius m n release with h | ⟨-, h⟩
    · rw [h]
      exact ih m n release hn
    · rw [h]
      exact ih _ _ _ fun _ => rfl

theorem releaseLoop_len_le (ius : List IPAndUID) (m : PoolIPAllocations) (n : ℤ) (release : Bool) :
    GoMap.len (releaseLoop ius m n release).1 ≤ GoMap.len m := by
  induction ius generalizing m n release with
  | nil => exact le_rfl
  | cons iu ius ih =>
    rcases releaseLoop_cons iu ius m n release with h | ⟨-, h⟩
    · rw [h]
      exact ih m n release
    · rw [h]
      exact (ih _ _ _).trans (GoMap.len_erase_le m iu.ip)

theorem releaseIP_ok (h : releaseIP ius p = .ok (some p')) :
    ∃ m m' n, unmarshalIPPoolAllocatedIPs p.status.allocatedIPs = .ok m ∧
      releaseLoop ius m (p.status.allocatedIPCount.getD 0) false = (m', n, true) ∧
      p' = (p.setRecords m').setCount n := by
  obtain ⟨m, hm, h⟩ := bind_eq_ok.1 h
  refine ⟨m, ?_⟩
  split at h
  · simp [pure, Except.pure] at h
  · rename_i m' n hloop
    exact ⟨m', n, hm, hloop, (Option.some.inj (Except.ok.inj h)).symm⟩

theorem releaseLoop_released (ius : List IPAndUID) (m : PoolIPAllocations) (n : ℤ) :
    (releaseLoop ius m n true).2.2 = true := by
  induction ius generalizing m n with
  | nil => rfl
  | cons iu ius ih =>
    rcases releaseLoop_cons iu ius m n true with h | ⟨-, h⟩ <;> rw [h] <;> exact ih _ _

theorem releaseLoop_false {n : ℤ}
    (h : (releaseLoop ius m n false).2.2 = false) : (releaseLoop ius m n false).1 = m := by
  induction ius with
  | nil => rfl
  | cons iu ius ih =>
    rcases releaseLoop_cons iu ius m n false with hcons | ⟨-, hcons⟩ <;> rw [hcons] at h ⊢
    · exact ih h
    · simp [releaseLoop_released] at h

theorem releaseLoop_lookup (ius : List IPAndUID) (m : PoolIPAllocations) (n : ℤ) (release : Bool) :
    (releaseLoop ius m n release).1.lookup k = some r ↔
      m.lookup k = some r ∧ (⟨k, r.podUID⟩ : IPAndUID) ∉ ius := by
  induction ius generalizing m n release with
  | nil => simp [releaseLoop]
  | cons iu ius ih =>
    have hhere : (⟨k, r.podUID⟩ : IPAndUID) = iu ↔ k = iu.ip ∧ r.podUID = iu.uid := by
      cases iu
      simp
    rw [releaseLoop, List.mem_cons, not_or, hhere]
    split
    · rename_i r' hr'
      split_ifs with hu
      · rw [ih, GoMap.lookup_erase_eq]
        by_cases hk : k = iu.ip
        · subst hk
          simp only [if_true, hr', Option.some.injEq, reduceCtorEq, false_and, false_iff]
          rintro ⟨rfl, hne, -⟩
          exact hne ⟨trivial, hu⟩
        · simp [hk]
      · rw [ih]
        refine and_congr_right fun hr => (and_iff_right ?_).symm
        rintro ⟨rfl, heq⟩
        obtain rfl := Option.some.inj (hr'.symm.trans hr)
        exact hu heq
    · rename_i hnone
      rw [ih]
      refine and_congr_right fun hr => (and_iff_right ?_).symm
      rintro ⟨rfl, -⟩
      exact absurd (hnone.symm.trans hr) (by simp)

theorem releaseIP_lookup (h : releaseIP ius p = .ok o) :
    (o.getD p).status.records.lookup k = some r ↔
      p.status.records.lookup k = some r ∧ (⟨k, r.podUID⟩ : IPAndUID) ∉ ius := by
  obtain ⟨m, hm, h⟩ := bind_eq_ok.1 h
  rw [IPPoolStatus.records_eq hm,
    ← releaseLoop_lookup ius m (p.status.allocatedIPCount.getD 0) false]
  rcases hloop : releaseLoop ius m (p.status.allocatedIPCount.getD 0) false with ⟨m', n, _ | _⟩ <;>
    rw [hloop] at h <;> obtain rfl := Except.ok.inj h
  · have hkept := releaseLoop_false (congrArg (fun x => x.2.2) hloop)
    rw [hloop] at hkept
    exact Eq.congr_left (congrArg _ ((IPPoolStatus.records_eq hm).trans hkept.symm))
  · exact Eq.congr_left (congrArg _ (IPPool.records_setRecords p m'))

theorem updateLoop_cons {iu : IPAndUID} (h : updateLoop pool nn (iu :: ius) m recreate = .ok x) :
    updateLoop pool nn ius m recreate = .ok x ∨
      ∃ r, m.lookup iu.ip = some r ∧ r.podUID ≠ iu.uid ∧
        updateLoop pool nn ius (m.insert iu.ip { r with podUID := iu.uid }) true = .ok x := by
  rw [updateLoop] at h
  split at h
  · rename_i r hr
    split_ifs at h with hnn hu
    · simp at h
    · exact .inr ⟨r, hr, hu, h⟩
    · exact .inl h
  · exact .inl h

theorem updateLoop_keys (h : updateLoop pool nn ius m recreate = .ok x) :
    (∀ k, k ∈ x.1 ↔ k ∈ m) ∧ GoMap.len x.1 = GoMap.len m := by
  induction ius generalizing m recreate with
  | nil =>
    obtain rfl := Except.ok.inj h
    exact ⟨fun _ => Iff.rfl, rfl⟩
  | cons iu ius ih =>
    rcases updateLoop_cons h with h | ⟨r, hr, -, h⟩
    · exact ih h
    · obtain ⟨hkeys, hlen⟩ := ih h
      have hmem := GoMap.mem_of_lookup hr
      refine ⟨fun k => ?_, hlen.trans (GoMap.len_insert_of_mem _ hmem)⟩
      rw [hkeys, AList.mem_insert, or_iff_right_of_imp]
      rintro rfl
      exact hmem

theorem updateAllocatedIPs_ok (h : updateAllocatedIPs nn ius p = .ok (some p')) :
    ∃ m m', unmarshalIPPoolAllocatedIPs p.status.allocatedIPs = .ok m ∧
      updateLoop p.name nn ius m false = .ok (m', true) ∧ p' = p.setRecords m' := by
  obtain ⟨m, hm, h⟩ := bind_eq_ok.1 h
  obtain ⟨⟨m', recreate⟩, hloop, h⟩ := bind_eq_ok.1 h
  refine ⟨m, m', hm, ?_⟩
  cases recreate with
  | true => exact ⟨hloop, (Option.some.inj (Except.ok.inj h)).symm⟩
  | false => simp [pure, Except.pure] at h

theorem updateLoop_keeps (hu : ∀ iu ∈ ius, iu.uid = uid)
    (h : updateLoop pool nn ius m recreate = .ok x) (hk : ∀ r, m.lookup k = some r → r.podUID = uid) :
    ∀ r, x.1.lookup k = some r → r.podUID = uid := by
  induction ius generalizing m recreate with
  | nil =>
    obtain rfl := Except.ok.inj h
    exact hk
  | cons iu ius ih =>
    rw [List.forall_mem_cons] at hu
    rcases updateLoop_cons h with h | ⟨r₀, -, -, h⟩
    · exact ih hu.2 h hk
    · refine ih hu.2 h fun r hr => ?_
      rw [GoMap.lookup_insert_eq] at hr
      split_ifs at hr with heq
      · rw [← Option.some.inj hr]
        exact hu.1
      · exact hk r hr

theorem updateLoop_uid (hu : ∀ iu ∈ ius, iu.uid = uid)
    (h : updateLoop pool nn ius m recreate = .ok x) :
    ∀ iu ∈ ius, ∀ r, x.1.lookup iu.ip = some r → r.podUID = uid := by
  induction ius generalizing m recreate with
  | nil => simp
  | cons iu ius ih =>
    rw [List.forall_mem_cons] at hu
    rw [List.forall_mem_cons]
    rw [updateLoop] at h
    split at h
    · rename_i r₀ hr₀
      split_ifs at h with hnn hne
      · simp at h
      · refine ⟨updateLoop_keeps hu.2 h fun r hr => ?_, ih hu.2 h⟩
        rw [AList.lookup_insert] at hr
        rw [← Option.some.inj hr]
        exact hu.1
      · refine ⟨updateLoop_keeps hu.2 h fun r hr => ?_, ih hu.2 h⟩
        rw [← Option.some.inj (hr₀.symm.trans hr), not_not.1 hne, hu.1]
    · rename_i hnone
      refine ⟨updateLoop_keeps hu.2 h fun r hr => ?_, ih hu.2 h⟩
      rw [hnone] at hr
      cases hr

theorem updateLoop_false {m' : PoolIPAllocations}
    (h : updateLoop pool nn ius m recreate = .ok (m', false)) :
    m' = m ∧ recreate = false := by
  induction ius generalizing m recreate with
  | nil =>
    obtain ⟨rfl, rfl⟩ := Prod.mk.inj (Except.ok.inj h)
    exact ⟨rfl, rfl⟩
  | cons iu ius ih =>
    rcases updateLoop_cons h with h | ⟨r, -, -, h⟩
    · exact ih h
    · exact absurd (ih h).2 (by simp)

theorem updateAllocatedIPs_recorded (h : updateAllocatedIPs nn ius p = .ok o)
    (hu : ∀ iu ∈ ius, iu.uid = uid) :
    ∀ iu ∈ ius, iu.ip ∈ p.status.records ↔
      ∃ r, (o.getD p).status.records.lookup iu.ip = some r ∧ r.podUID = uid := by
  obtain ⟨m, hm, h⟩ := bind_eq_ok.1 h
  obtain ⟨⟨m', recreate⟩, hloop, h⟩ := bind_eq_ok.1 h
  have hrecords : (o.getD p).status.records = m' := by
    cases recreate with
    | true =>
      obtain rfl := Except.ok.inj h
      exact IPPool.records_setRecords p m'
    | false =>
      obtain rfl := Except.ok.inj h
      rw [(updateLoop_false hloop).1]
      exact IPPoolStatus.records_eq hm
  intro iu hiu
  rw [hrecords, IPPoolStatus.records_eq hm, ← (updateLoop_keys hloop).1, ← AList.lookup_isSome,
    Option.isSome_iff_exists]
  exact exists_congr fun r => (and_iff_left_of_imp fun hr => updateLoop_uid hu hloop iu hiu r hr).symm

end

end Spiderpool
