/-
# What the mutating webhook leaves alone

Behind the finalizer, every step of `mutateIPPool` keeps the pool's name, status, finalizers,
deletion timestamp, subnet, whether it is disabled, and a version that was set (`MutFrame`).
`defaultIPPool_ok` puts the steps together for `Default`, whichever of them it returns at.
-/

import Spiderpool.IPPool.Mutate

namespace Spiderpool

variable {FieldError : Type}

/-- What no step of `mutateIPPool` changes after the finalizer is in place: a step may derive
the version, and may set labels other than that of the subnet. -/
structure MutFrame (p p' : IPPool) : Prop where
  name : p'.name = p.name
  status : p'.status = p.status
  finalizers : p'.finalizers = p.finalizers
  deletionTimestamp : p'.deletionTimestamp = p.deletionTimestamp
  subnet : p'.spec.subnet = p.spec.subnet
  disable : p'.spec.disable = p.spec.disable
  ipVersion : p.spec.ipVersion.isSome → p'.spec.ipVersion = p.spec.ipVersion

theorem MutFrame.refl (p : IPPool) : MutFrame p p := ⟨rfl, rfl, rfl, rfl, rfl, rfl, fun _ => rfl⟩

section

variable {p p' : IPPool} {e : Option Err} {wrap : Err → Err} {iw : IPPoolWebhook FieldError}

theorem MutFrame.trans {q r : IPPool} (h : MutFrame p q) (h' : MutFrame q r) : MutFrame p r where
  name := h'.name.trans h.name
  status := h'.status.trans h.status
  finalizers := h'.finalizers.trans h.finalizers
  deletionTimestamp := h'.deletionTimestamp.trans h.deletionTimestamp
  subnet := h'.subnet.trans h.subnet
  disable := h'.disable.trans h.disable
  ipVersion hp := by
    have := h.ipVersion hp
    rw [h'.ipVersion (by rw [this]; exact hp), this]

theorem Mutation.seq_ok {f g : Mutation} (h : f.seq g p = .ok (p', e)) :
    (f p = .ok (p', e) ∧ e.isSome) ∨ ∃ q, f p = .ok (q, none) ∧ g q = .ok (p', e) := by
  unfold Mutation.seq at h
  split at h
  · exact .inr ⟨_, ‹_›, h⟩
  · rename_i hf
    refine .inl ⟨h, ?_⟩
    cases e with
    | none => exact absurd h (hf p')
    | some => rfl

theorem Mutation.orReturn_ok {α : Type} {r : Result Err α}
    {k : α → Mutated} (h : Mutation.orReturn r wrap p k = .ok (p', e)) :
    (p' = p ∧ e.isSome ∧ ∀ a, r ≠ .ok a) ∨ ∃ a, r = .ok a ∧ k a = .ok (p', e) := by
  unfold Mutation.orReturn at h
  split at h
  · exact .inr ⟨_, rfl, h⟩
  · obtain ⟨rfl, rfl⟩ := Prod.mk.inj (Except.ok.inj h)
    exact .inl ⟨rfl, rfl, by simp⟩
  · simp at h
  · simp at h

theorem setIPVersion_frame (h : setIPVersion p = .ok (p', e)) :
    MutFrame p p' ∧ (e = none ↔ p'.spec.ipVersion.isSome) := by
  unfold setIPVersion at h
  split at h
  · rename_i v hv
    obtain ⟨rfl, rfl⟩ := Prod.mk.inj (Except.ok.inj h)
    exact ⟨.refl _, by simp [hv]⟩
  · rename_i hv
    split_ifs at h <;> obtain ⟨rfl, rfl⟩ := Prod.mk.inj (Except.ok.inj h)
    · exact ⟨⟨rfl, rfl, rfl, rfl, rfl, rfl, by simp [hv]⟩, by simp⟩
    · exact ⟨⟨rfl, rfl, rfl, rfl, rfl, rfl, by simp [hv]⟩, by simp⟩
    · exact ⟨.refl _, by simp [hv]⟩

theorem setCIDRLabel_frame (h : setCIDRLabel p = .ok (p', e)) :
    MutFrame p p' ∧ p'.spec = p.spec ∧ ∀ v c, p.spec.ipVersion = some v →
      cidrToLabelValue v p.spec.subnet = .ok c →
        p'.labels.lookup Constant.labelIPPoolCIDR = some c := by
  rcases Mutation.orReturn_ok h with ⟨rfl, -, hr⟩ | ⟨c, hc, h⟩
  · refine ⟨.refl _, rfl, fun v c hv hc => ?_⟩
    refine absurd ?_ (hr c)
    rw [hv]
    exact hc
  · obtain ⟨rfl, rfl⟩ := Prod.mk.inj (Except.ok.inj h)
    refine ⟨⟨rfl, rfl, rfl, rfl, rfl, rfl, fun _ => rfl⟩, rfl, fun v c' hv hc' => ?_⟩
    rw [hv] at hc
    have : cidrToLabelValue v p.spec.subnet = .ok c := hc
    rw [GoMap.lookup_insert_eq, if_pos rfl, Except.ok.inj (this.symm.trans hc')]

theorem attachSubnet_ok {s : SpiderSubnet} (h : attachSubnet s p = .ok p') :
    MutFrame p p' ∧ p'.labels = p.labels ∧ p'.spec = p.spec := by
  unfold attachSubnet at h
  split_ifs at h
  · obtain rfl := Except.ok.inj h
    exact ⟨.refl _, rfl, rfl⟩
  · rw [mapErr_eq_ok] at h
    unfold setControllerReference at h
    dsimp only at h
    split at h
    · simp at h
    · obtain rfl := Except.ok.inj h
      exact ⟨⟨rfl, rfl, rfl, rfl, rfl, rfl, fun _ => rfl⟩, rfl, rfl⟩

theorem setControllerSubnet_ok
    {s : Option SpiderSubnet} (h : setControllerSubnet iw p = .ok (p', s)) :
    MutFrame p p' ∧ p'.labels.lookup Constant.labelIPPoolCIDR =
      p.labels.lookup Constant.labelIPPoolCIDR := by
  unfold setControllerSubnet at h
  dsimp only at h
  split_ifs at h
  · obtain ⟨rfl, rfl⟩ := Prod.mk.inj (Except.ok.inj h)
    exact ⟨.refl _, rfl⟩
  · obtain ⟨v, -, h⟩ := bind_eq_ok.1 h
    obtain ⟨cidr, -, h⟩ := bind_eq_ok.1 h
    obtain ⟨list, -, h⟩ := bind_eq_ok.1 h
    split at h
    · obtain ⟨rfl, rfl⟩ := Prod.mk.inj (Except.ok.inj h)
      exact ⟨.refl _, rfl⟩
    · obtain ⟨q, hq, h⟩ := bind_eq_ok.1 h
      obtain ⟨rfl, rfl⟩ := Prod.mk.inj (Except.ok.inj h)
      obtain ⟨hframe, hlabels, -⟩ := attachSubnet_ok hq
      refine ⟨hframe.trans ⟨rfl, rfl, rfl, rfl, rfl, rfl, fun _ => rfl⟩, ?_⟩
      have hne : Constant.labelIPPoolCIDR ≠ Constant.labelIPPoolOwnerSpiderSubnet := by decide
      rw [GoMap.lookup_insert_eq, if_neg hne, hlabels]

theorem setSubnet_frame (h : setSubnet iw p = .ok (p', e)) :
    MutFrame p p' ∧ p'.labels.lookup Constant.labelIPPoolCIDR =
      p.labels.lookup Constant.labelIPPoolCIDR := by
  unfold setSubnet at h
  split_ifs at h
  · rcases Mutation.orReturn_ok h with ⟨rfl, -, -⟩ | ⟨⟨q, s⟩, hq, h⟩
    · exact ⟨.refl _, rfl⟩
    · obtain ⟨hframe, hlabel⟩ := setControllerSubnet_ok hq
      cases s with
      | none =>
        obtain ⟨rfl, rfl⟩ := Prod.mk.inj (Except.ok.inj h)
        exact ⟨hframe, hlabel⟩
      | some s =>
        obtain ⟨rfl, rfl⟩ := Prod.mk.inj (Except.ok.inj h)
        exact ⟨hframe.trans ⟨rfl, rfl, rfl, rfl, rfl, rfl, fun _ => rfl⟩, hlabel⟩
  · obtain ⟨rfl, rfl⟩ := Prod.mk.inj (Except.ok.inj h)
    exact ⟨.refl _, rfl⟩

theorem Mutation.orReturn_frame {α : Type} {r : Result Err α} {f : α → IPPool}
    (h : Mutation.orReturn r wrap p (fun a => .ok (f a, none)) = .ok (p', e))
    (hf : ∀ a, MutFrame p (f a) ∧ (f a).labels = p.labels) :
    MutFrame p p' ∧ p'.labels = p.labels := by
  rcases Mutation.orReturn_ok h with ⟨rfl, -, -⟩ | ⟨a, -, h⟩
  · exact ⟨.refl _, rfl⟩
  · obtain ⟨rfl, rfl⟩ := Prod.mk.inj (Except.ok.inj h)
    exact hf a

theorem mergeIPs_frame
    (h : mergeIPs.seq mergeExcludeIPs p = .ok (p', e)) : MutFrame p p' ∧ p'.labels = p.labels := by
  have hset : ∀ p : IPPool, ∀ ips excludeIPs : List String,
      MutFrame p { p with spec := { p.spec with ips := ips, excludeIPs := excludeIPs } } :=
    fun p _ _ => ⟨rfl, rfl, rfl, rfl, rfl, rfl, fun _ => rfl⟩
  rcases Mutation.seq_ok h with ⟨h, -⟩ | ⟨q, hq, h⟩
  · exact Mutation.orReturn_frame h fun ips => ⟨hset p ips p.spec.excludeIPs, rfl⟩
  · obtain ⟨hf, hl⟩ := Mutation.orReturn_frame hq fun ips => ⟨hset p ips p.spec.excludeIPs, rfl⟩
    obtain ⟨hf', hl'⟩ := Mutation.orReturn_frame h fun ips => ⟨hset q q.spec.ips ips, rfl⟩
    exact ⟨hf.trans hf', hl'.trans hl⟩

theorem mem_addFinalizer (p : IPPool) : Constant.spiderFinalizer ∈ (addFinalizer p).finalizers := by
  unfold addFinalizer
  split_ifs with h
  · exact h
  · simp

/-- What becomes of a pool that is not terminating: it has the finalizer, and the label of its
subnet if `IsCIDR` accepts the subnet; name, status, subnet and a version that was set
are as before. -/
theorem defaultIPPool_ok (h : defaultIPPool iw p = .ok p') (hp : p.deletionTimestamp = none) :
    MutFrame (addFinalizer p) p' ∧ Constant.spiderFinalizer ∈ p'.finalizers ∧
      ∀ v c, p'.spec.ipVersion = some v → cidrToLabelValue v p'.spec.subnet = .ok c →
        p'.labels.lookup Constant.labelIPPoolCIDR = some c := by
  obtain ⟨⟨q, e⟩, hq, h⟩ := bind_eq_ok.1 h
  obtain rfl := Except.ok.inj h
  unfold mutateIPPool at hq
  rw [hp, if_neg (by simp)] at hq
  suffices hs : MutFrame (addFinalizer p) q ∧ ∀ v c, q.spec.ipVersion = some v →
      cidrToLabelValue v q.spec.subnet = .ok c →
        q.labels.lookup Constant.labelIPPoolCIDR = some c from
    ⟨hs.1, hs.1.finalizers ▸ mem_addFinalizer p, hs.2⟩
  rcases Mutation.seq_ok hq with ⟨hq, he⟩ | ⟨q₁, h₁, hq⟩
  · -- no version, and so no label
    obtain ⟨hf, hv⟩ := setIPVersion_frame hq
    refine ⟨hf, fun v c hqv _ => ?_⟩
    rw [hv.2 (by rw [hqv]; rfl)] at he
    exact absurd he (by simp)
  obtain ⟨hf₁, hv₁⟩ := setIPVersion_frame h₁
  rcases Mutation.seq_ok hq with ⟨hq, -⟩ | ⟨q₂, h₂, hq⟩
  · obtain ⟨hf₂, hspec, hlabel⟩ := setCIDRLabel_frame hq
    rw [← hspec] at hlabel
    exact ⟨hf₁.trans hf₂, hlabel⟩
  obtain ⟨hf₂, hspec, hlabel⟩ := setCIDRLabel_frame h₂
  rw [← hspec] at hlabel
  have hv₂ : q₂.spec.ipVersion.isSome := by rw [hspec]; exact hv₁.1 rfl
  -- the later steps keep the version and the label
  have hrest : ∀ {q}, MutFrame q₂ q → q.labels.lookup Constant.labelIPPoolCIDR =
      q₂.labels.lookup Constant.labelIPPoolCIDR → MutFrame (addFinalizer p) q ∧
        ∀ v c, q.spec.ipVersion = some v → cidrToLabelValue v q.spec.subnet = .ok c →
          q.labels.lookup Constant.labelIPPoolCIDR = some c := by
    intro q hf hl
    refine ⟨(hf₁.trans hf₂).trans hf, fun v c hv hc => ?_⟩
    rw [hf.ipVersion hv₂] at hv
    rw [hf.subnet] at hc
    rw [hl, hlabel v c hv hc]
  rcases Mutation.seq_ok hq with ⟨hq, -⟩ | ⟨q₃, h₃, hq⟩
  · obtain ⟨hf₃, hl₃⟩ := setSubnet_frame hq
    exact hrest hf₃ hl₃
  · obtain ⟨hf₃, hl₃⟩ := setSubnet_frame h₃
    obtain ⟨hf₄, hl₄⟩ := mergeIPs_frame hq
    exact hrest (hf₃.trans hf₄) (by rw [hl₄, hl₃])

end

end Spiderpool
