/-
# Pools do not share addresses

Pools are created and updated one request at a time, and the webhook compares each request with the
pools there are: its subnet with the other subnets of the version when it is created
(`validateIPPoolCIDR`), and its ranges with those of the pools that carry the label of its subnet
(`validateIPPoolAvailableIPs`). Together the two keep the total addresses of any two pools of one
version apart (`pools_disjoint`).

What the second comparison needs is that every stored pool carries the label of its subnet and has
ranges that `NewCIDR` reads (`Admitted`): the label is set by `mutateIPPool` before any step of it
that can fail on a pool that is admitted.
-/

import Spiderpool.IPPool.Admission
import Spiderpool.IPPool.MutFrame
import Spiderpool.IPPool.System

namespace Spiderpool

def IPPoolSpec.totalIPs (s : IPPoolSpec) : Set Addr := totalSet s.ips s.excludeIPs

/-! ### Two pools -/

/-- What the checks leave in every stored pool: a formatted subnet of its version, the label of
the subnet, and ranges that `NewCIDR` reads. -/
structure Admitted (p : IPPool) (v : IPVersion) : Prop where
  ipVersion : p.spec.ipVersion = some v
  formatted : isFormatCIDR p.spec.subnet = .ok ()
  label : ∃ cidr, cidrToLabelValue v p.spec.subnet = .ok cidr ∧
    p.labels.lookup Constant.labelIPPoolCIDR = some cidr
  ranges : ∃ c, newCIDR p.spec.subnet p.spec.ips p.spec.excludeIPs = .ok c

def SubnetsApart (s t : String) : Prop :=
  s = t ∨ ∃ v, isCIDROverlap v s t = .ok false ∨ isCIDROverlap v t s = .ok false

theorem SubnetsApart.symm {s t : String} (h : SubnetsApart s t) : SubnetsApart t s :=
  h.imp Eq.symm fun ⟨v, h⟩ => ⟨v, h.symm⟩

theorem totalIPs_disjoint_of_subnets {p q : IPPoolSpec} {v : IPVersion} {c c' : CIDR}
    (hp : newCIDR p.subnet p.ips p.excludeIPs = .ok c) (hpf : isFormatCIDR p.subnet = .ok ())
    (hq : newCIDR q.subnet q.ips q.excludeIPs = .ok c') (hqf : isFormatCIDR q.subnet = .ok ())
    (h : isCIDROverlap v p.subnet q.subnet = .ok false) : Disjoint p.totalIPs q.totalIPs := by
  obtain ⟨a, k, -, ha⟩ := isFormatCIDR_ok hpf
  obtain ⟨b, l, -, hb⟩ := isFormatCIDR_ok hqf
  rw [Set.disjoint_left]
  intro x hxp hxq
  exact not_sameBlock_of_not_overlap h ha hb (newCIDR_covers hp ha hxp).2 (newCIDR_covers hq hb hxq).2

theorem totalIPs_disjoint_of_ranges {p q : IPPoolSpec} {c c' : CIDR}
    (hp : newCIDR p.subnet p.ips p.excludeIPs = .ok c) (hpf : isFormatCIDR p.subnet = .ok ())
    (hq : newCIDR q.subnet q.ips q.excludeIPs = .ok c') (hsubnet : p.subnet = q.subnet)
    (h : c.isOverlapIPRanges c'.ranges = []) : Disjoint p.totalIPs q.totalIPs := by
  obtain ⟨b, k, -, hb⟩ := isFormatCIDR_ok hpf
  rw [Set.disjoint_left]
  intro x hxp hxq
  have hcp := (newCIDR_covers hp hb hxp).1
  have hcq := (newCIDR_covers hq (hsubnet ▸ hb) hxq).1
  exact not_covers_of_not_overlap h hcp hcq

theorem Admitted.disjoint {iw : Webhook} {p q : IPPool} {v : IPVersion} {pools : List IPPool}
    (hp : Admitted p v) (hq : Admitted q v) (hlist : iw.ipPools = .ok pools) (hmem : q ∈ pools)
    (hname : q.name ≠ p.name) (havail : validateIPPoolAvailableIPs iw p = .ok ())
    (hsubnets : SubnetsApart p.spec.subnet q.spec.subnet) :
    Disjoint p.spec.totalIPs q.spec.totalIPs := by
  obtain ⟨c, v', cidr, pools', hc, hv', hcidr, hlist', hall⟩ := validateIPPoolAvailableIPs_ok havail
  obtain rfl : v = v' := Option.some.inj (hp.ipVersion.symm.trans hv')
  obtain rfl : pools = pools' := Except.ok.inj (hlist.symm.trans hlist')
  obtain ⟨cq, hcq⟩ := hq.ranges
  rcases hsubnets with hsame | ⟨w, hov | hov⟩
  · -- the label of `q` is that of the subnet the two share
    obtain ⟨cidr', hcidr', hlabel⟩ := hq.label
    rw [← hsame] at hcidr'
    obtain rfl : cidr = cidr' := Except.ok.inj (hcidr.symm.trans hcidr')
    obtain ⟨c', hc', hno⟩ := hall q hmem hlabel hname
    exact totalIPs_disjoint_of_ranges hc hp.formatted hc' hsame hno
  · exact totalIPs_disjoint_of_subnets hc hp.formatted hcq hq.formatted hov
  · exact (totalIPs_disjoint_of_subnets hcq hq.formatted hc hp.formatted hov).symm

/-! ### The pools of a cluster -/

inductive ClusterEvent where
  | create (request : IPPool)
  | update (request : IPPool)
  | write (p : IPPool)
  | remove (name : String)

/-- The pools, with `p` in the place of the one that has its name. -/
def replacePool (p : IPPool) (pools : List IPPool) : List IPPool :=
  pools.map fun q => if q.name = p.name then p else q

/-- What becomes of the pools with a request that is admitted. The webhook is shown the pools
there are; a name is used once. -/
inductive ClusterStep : List IPPool → ClusterEvent → List IPPool → Prop
  | create {pools : List IPPool} {iw : Webhook} {request p : IPPool}
      (hlist : iw.ipPools = .ok pools) (hname : ∀ q ∈ pools, q.name ≠ request.name)
      (hlive : request.deletionTimestamp = none) (hd : defaultIPPool iw request = .ok p)
      (hv : validateCreateIPPool iw p = .ok ()) : ClusterStep pools (.create request) (p :: pools)
  | update {pools : List IPPool} {iw : Webhook} {order : RangeOrder String PoolIPAllocation}
      {request old p : IPPool} (hlist : iw.ipPools = .ok pools) (hold : old ∈ pools)
      (hlive : old.deletionTimestamp = none)
      (hd : defaultIPPool iw (requested request old) = .ok p)
      (hv : validateUpdateIPPool iw order old p = .ok ()) :
      ClusterStep pools (.update request) (replacePool p pools)
  -- the status, the deletion timestamp and the finalizers change without these checks
  | write {pools : List IPPool} {old p : IPPool} (hold : old ∈ pools) (hname : p.name = old.name)
      (hlabels : p.labels = old.labels) (hspec : p.spec = old.spec) :
      ClusterStep pools (.write p) (replacePool p pools)
  | remove {pools : List IPPool} (name : String) :
      ClusterStep pools (.remove name) (pools.filter fun q => q.name ≠ name)

/-- Two pools, if they are of one version, have subnets that are the same or do not overlap,
and no address in common. -/
def Apart (p q : IPPool) : Prop :=
  p.spec.ipVersion = q.spec.ipVersion →
    SubnetsApart p.spec.subnet q.spec.subnet ∧ Disjoint p.spec.totalIPs q.spec.totalIPs

theorem Apart.symm {p q : IPPool} (h : Apart p q) : Apart q p := fun hv =>
  (h hv.symm).imp SubnetsApart.symm fun hd => hd.symm

structure ClusterInv (pools : List IPPool) : Prop where
  admitted : ∀ p ∈ pools, ∃ v, Admitted p v
  apart : ∀ p ∈ pools, ∀ q ∈ pools, p.name ≠ q.name → Apart p q

section

variable {pools pools' : List IPPool} {p request : IPPool} {iw : Webhook}

theorem ClusterInv.put (h : ClusterInv pools)
    {v : IPVersion} (hp : Admitted p v) (hapart : ∀ q ∈ pools, q.name ≠ p.name → Apart p q)
    (hmem : ∀ x ∈ pools', x = p ∨ x ∈ pools ∧ x.name ≠ p.name) : ClusterInv pools' := by
  constructor
  · intro x hx
    rcases hmem x hx with rfl | ⟨hx, -⟩
    · exact ⟨v, hp⟩
    · exact h.admitted x hx
  · intro x hx y hy hne
    rcases hmem x hx with rfl | ⟨hx, hxp⟩ <;> rcases hmem y hy with rfl | ⟨hy, hyp⟩
    · exact absurd rfl hne
    · exact hapart y hy hyp
    · exact (hapart x hx hxp).symm
    · exact h.apart x hx y hy hne

theorem mem_replacePool {x : IPPool} (h : x ∈ replacePool p pools) :
    x = p ∨ x ∈ pools ∧ x.name ≠ p.name := by
  obtain ⟨q, hq, rfl⟩ := List.mem_map.1 h
  split_ifs with hname
  · exact .inl rfl
  · exact .inr ⟨hq, hname⟩

theorem admitted_of_checks (hlive : request.deletionTimestamp = none)
    (hd : defaultIPPool iw request = .ok p) (hfmt : isFormatCIDR p.spec.subnet = .ok ())
    (havail : validateIPPoolAvailableIPs iw p = .ok ()) :
    ∃ v, Admitted p v := by
  obtain ⟨c, v, cidr, pools, hc, hv, hcidr, -⟩ := validateIPPoolAvailableIPs_ok havail
  exact ⟨v, hv, hfmt, ⟨cidr, hcidr, (defaultIPPool_ok hd hlive).2.2 v cidr hv hcidr⟩, c, hc⟩

theorem name_defaultIPPool
    (hlive : request.deletionTimestamp = none) (hd : defaultIPPool iw request = .ok p) :
    p.name = request.name := by
  rw [(defaultIPPool_ok hd hlive).1.name]
  unfold addFinalizer
  split_ifs <;> rfl

theorem ClusterStep.inv {e : ClusterEvent}
    (h : ClusterStep pools e pools') (hI : ClusterInv pools) : ClusterInv pools' := by
  cases h with
  | @create iw request p hlist hname hlive hd hv =>
    obtain ⟨-, hcidr, havail⟩ := validateCreateIPPool_ok hv
    obtain ⟨v, pools', hpv, hlist', -, hfmt, hall⟩ := validateIPPoolCIDR_ok hcidr
    obtain rfl : pools = pools' := Except.ok.inj (hlist.symm.trans hlist')
    obtain ⟨v', hp⟩ := admitted_of_checks hlive hd hfmt havail
    obtain rfl : v = v' := Option.some.inj (hpv.symm.trans hp.ipVersion)
    have hpname := name_defaultIPPool hlive hd
    refine hI.put hp (fun q hq hne hver => ?_) fun x hx => ?_
    · obtain ⟨w, hqa⟩ := hI.admitted q hq
      obtain rfl : v = w := Option.some.inj (hpv.symm.trans (hver.trans hqa.ipVersion))
      have hsub : SubnetsApart p.spec.subnet q.spec.subnet :=
        (hall q hq hqa.ipVersion).2.imp Eq.symm fun hov => ⟨v, .inl hov⟩
      exact ⟨hsub, hp.disjoint hqa hlist hq hne havail hsub⟩
    · rcases List.mem_cons.1 hx with rfl | hx
      · exact .inl rfl
      · exact .inr ⟨hx, hpname ▸ hname x hx⟩
  | @update iw order request old p hlist hold hlive hd hv =>
    obtain ⟨hsubnet, hversion, havail, -⟩ := validateUpdateIPPool_ok hv
    obtain ⟨u, hu⟩ := hI.admitted old hold
    have hpver : p.spec.ipVersion = old.spec.ipVersion :=
      hversion (by rw [hu.ipVersion]; rfl)
    have hlive' : (requested request old).deletionTimestamp = none := hlive
    obtain ⟨v, hp⟩ := admitted_of_checks hlive' hd (hsubnet ▸ hu.formatted) havail
    have hpname : p.name = (requested request old).name := name_defaultIPPool hlive' hd
    refine hI.put hp (fun q hq hne hver => ?_) fun x hx => mem_replacePool hx
    obtain ⟨w, hqa⟩ := hI.admitted q hq
    obtain rfl : v = w := Option.some.inj (hp.ipVersion.symm.trans (hver.trans hqa.ipVersion))
    -- the subnet is that of the stored pool, which was apart from `q`
    have hsub : SubnetsApart p.spec.subnet q.spec.subnet := by
      rw [hsubnet]
      exact (hI.apart old hold q hq (hpname ▸ hne.symm) (hpver ▸ hver)).1
    exact ⟨hsub, hp.disjoint hqa hlist hq hne havail hsub⟩
  | @write old p hold hname hlabels hspec =>
    obtain ⟨v, hv⟩ := hI.admitted old hold
    refine hI.put (v := v) ?_ (fun q hq hne => ?_) fun x hx => mem_replacePool hx
    · exact ⟨hspec ▸ hv.ipVersion, hspec ▸ hv.formatted, by rw [hspec, hlabels]; exact hv.label,
        hspec ▸ hv.ranges⟩
    · have := hI.apart old hold q hq (hname ▸ hne.symm)
      unfold Apart at this ⊢
      rwa [hspec]
  | remove name =>
    have hsub : ∀ x ∈ pools.filter (fun q => q.name ≠ name), x ∈ pools := fun x hx =>
      (List.mem_filter.1 hx).1
    exact ⟨fun p hp => hI.admitted p (hsub p hp),
      fun p hp q hq => hI.apart p (hsub p hp) q (hsub q hq)⟩

theorem ClusterInv.of_run {es : List ClusterEvent}
    (h : Run ClusterStep [] es pools) : ClusterInv pools :=
  h.inv ClusterInv ⟨by simp, by simp⟩ fun _ _ _ hI hst => hst.inv hI

end

/-- After any sequence of admitted creations and updates, two pools of one version have no
address in common. -/
theorem pools_disjoint {es : List ClusterEvent} {pools : List IPPool}
    (h : Run ClusterStep [] es pools) :
    ∀ p ∈ pools, ∀ q ∈ pools, p.name ≠ q.name → p.spec.ipVersion = q.spec.ipVersion →
      Disjoint p.spec.totalIPs q.spec.totalIPs :=
  fun p hp q hq hne hv => ((ClusterInv.of_run h).apart p hp q hq hne hv).2

namespace Sample

def nextRequest : IPPool where
  name := "next"
  spec := { subnet := "10.0.0.0/24", ips := ["10.0.0.3-10.0.0.4"] }

def mutated (p : IPPool) : IPPool :=
  { p with
    labels := AList.insert Constant.labelIPPoolCIDR "10-0-0-0-24" ∅
    finalizers := [Constant.spiderFinalizer]
    spec := { p.spec with ipVersion := some Constant.ipv4 } }

/-- Two pools that are created one after the other. -/
theorem totalIPs_disjoint : ∃ es : List ClusterEvent,
    Run ClusterStep [] es [mutated nextRequest, mutated pool] ∧
      Disjoint (mutated nextRequest).spec.totalIPs (mutated pool).spec.totalIPs := by
  have hfirst : ClusterStep [] (.create pool) [mutated pool] :=
    .create (show ({} : Webhook).ipPools = .ok [] from rfl) (by simp) rfl rfl rfl
  have hsecond : ClusterStep [mutated pool] (.create nextRequest)
      [mutated nextRequest, mutated pool] :=
    .create (show ({ ipPools := .ok [mutated pool] } : Webhook).ipPools = _ from rfl) (by decide)
      rfl rfl rfl
  have hrun : Run ClusterStep [] _ _ := .cons hfirst (.single hsecond)
  refine ⟨_, hrun, pools_disjoint hrun _ List.mem_cons_self _ ?_ (by decide) rfl⟩
  exact List.mem_cons_of_mem _ List.mem_cons_self

end Sample

end Spiderpool
