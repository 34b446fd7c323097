/-
# The resources that the webhook adds to a Pod

What the two functions that add resources do to a Pod. `injectRdmaResourceToPod` adds the resources that
no container has in its limits, whichever order the maps are visited in (`injectRdmaResourceToPod_orders`);
`injectPodResource` adds a resource that the Pod does not have at all. Neither takes a resource away
(`Grows`).
-/

import Spiderpool.PodManager.Webhook

namespace Spiderpool
namespace PodManager

variable {pod pod' : Pod} {c : Container} {cs : List Container} {resource : String}

def Limited (pod : Pod) (resource : String) : Prop :=
  ∃ c ∈ pod.containers, (c.limits.lookup resource).isSome

structure Grows (pod pod' : Pod) : Prop where
  ns : pod'.ns = pod.ns
  annotations : pod'.annotations = pod.annotations
  containers : pod'.containers = [] ↔ pod.containers = []
  limited : ∀ resource, Limited pod resource → Limited pod' resource
  has : ∀ resource, podHasResource pod resource = true → podHasResource pod' resource = true

theorem Grows.refl (pod : Pod) : Grows pod pod := ⟨rfl, rfl, .rfl, fun _ => id, fun _ => id⟩

theorem Grows.trans {pod'' : Pod} (h : Grows pod pod') (h' : Grows pod' pod'') :
    Grows pod pod'' where
  ns := h'.ns.trans h.ns
  annotations := h'.annotations.trans h.annotations
  containers := h'.containers.trans h.containers
  limited r hr := h'.limited r (h.limited r hr)
  has r hr := h'.has r (h.has r hr)

theorem podHasResource_iff : podHasResource pod resource = true ↔
    ∃ c ∈ pod.containers, (c.limits.lookup resource).isSome ∨ (c.requests.lookup resource).isSome := by
  simp [podHasResource]

theorem grows_of_container (c' : Container) (hpod : pod.containers = c :: cs)
    (hlimits : ∀ r, (c.limits.lookup r).isSome → (c'.limits.lookup r).isSome)
    (hrequests : ∀ r, (c.requests.lookup r).isSome → (c'.requests.lookup r).isSome) :
    Grows pod { pod with containers := c' :: cs } where
  ns := rfl
  annotations := rfl
  containers := by simp [hpod]
  limited := by
    rintro r ⟨d, hd, hr⟩
    rw [hpod, List.mem_cons] at hd
    rcases hd with rfl | hd
    · exact ⟨c', List.mem_cons_self, hlimits r hr⟩
    · exact ⟨d, List.mem_cons_of_mem _ hd, hr⟩
  has := by
    simp only [podHasResource_iff]
    rintro r ⟨d, hd, hr⟩
    rw [hpod, List.mem_cons] at hd
    rcases hd with rfl | hd
    · exact ⟨c', List.mem_cons_self, hr.imp (hlimits r) (hrequests r)⟩
    · exact ⟨d, List.mem_cons_of_mem _ hd, hr⟩

theorem isSome_lookup_insert {m : ResourceList} {r r' : String} {q : ℚ} :
    ((m.insert r q).lookup r').isSome ↔ r' = r ∨ (m.lookup r').isSome := by
  by_cases h : r' = r
  · subst h
    simp
  · simp [Finmap.lookup_insert_of_ne _ h, h]

/-! ### One resource -/

section

variable {quantity : ℕ}

theorem injectPodResource_of_has (hne : resource ≠ "")
    (h : podHasResource pod resource = true) : injectPodResource pod resource quantity = pod := by
  unfold injectPodResource
  simp only [if_neg hne, h, if_true, ite_self]
  split <;> rfl

theorem injectPodResource_of_nil (h : pod.containers = []) :
    injectPodResource pod resource quantity = pod := by
  unfold injectPodResource
  rw [h]

theorem injectPodResource_of_not_has (hpod : pod.containers = c :: cs)
    (hquantity : quantity ≠ 0) (hne : resource ≠ "") (h : podHasResource pod resource = false) :
    injectPodResource pod resource quantity = { pod with containers := { c with
      limits := c.limits.insert resource (quantity : ℚ)
      requests := c.requests.insert resource (quantity : ℚ) } :: cs } := by
  unfold injectPodResource
  simp [hpod, hquantity, hne, h]

theorem grows_injectPodResource (hquantity : quantity ≠ 0) (hne : resource ≠ "") :
    Grows pod (injectPodResource pod resource quantity) := by
  rcases hpod : pod.containers with - | ⟨c, cs⟩
  · rw [injectPodResource_of_nil hpod]
    exact .refl pod
  · cases h : podHasResource pod resource with
    | true =>
      rw [injectPodResource_of_has hne h]
      exact .refl pod
    | false =>
      rw [injectPodResource_of_not_has hpod hquantity hne h]
      exact grows_of_container _ hpod (fun r hr => isSome_lookup_insert.2 (.inr hr))
        fun r hr => isSome_lookup_insert.2 (.inr hr)

theorem podHasResource_injectPodResource (hpod : pod.containers ≠ [])
    (hquantity : quantity ≠ 0) (hne : resource ≠ "") :
    podHasResource (injectPodResource pod resource quantity) resource = true := by
  obtain ⟨c, cs, hpod⟩ := List.exists_cons_of_ne_nil hpod
  cases h : podHasResource pod resource with
  | true => rw [injectPodResource_of_has hne h, h]
  | false =>
    rw [injectPodResource_of_not_has hpod hquantity hne h, podHasResource_iff]
    exact ⟨_, List.mem_cons_self, .inl (isSome_lookup_insert.2 (.inl rfl))⟩

end

/-! ### The resources of networks -/

section

variable {m : GoMap String Bool} {ks : List String}

theorem lookup_markFound (hk : resource ∈ m) (r : String) :
    (markFound c m resource).lookup r = (m.lookup r).map fun found =>
      found || (decide (r = resource) && (c.limits.lookup r).isSome) := by
  obtain ⟨found, hfound⟩ := Option.isSome_iff_exists.1 (AList.lookup_isSome.2 hk)
  unfold markFound
  rw [hfound]
  by_cases hr : r = resource
  · subst hr
    cases found <;> cases hlimit : (c.limits.lookup r).isSome <;> simp [hfound]
  · cases found <;> cases (c.limits.lookup resource).isSome <;> simp [hr]

theorem lookup_foldl_markFound (hks : ∀ k ∈ ks, k ∈ m) (r : String) :
    (ks.foldl (markFound c) m).lookup r = (m.lookup r).map fun found =>
      found || (decide (r ∈ ks) && (c.limits.lookup r).isSome) := by
  induction ks generalizing m with
  | nil => simp
  | cons k ks ih =>
    have hk := lookup_markFound (c := c) (hks k List.mem_cons_self)
    have hstay : ∀ k' ∈ ks, k' ∈ markFound c m k := by
      intro k' hk'
      rw [← AList.lookup_isSome, hk, Option.isSome_map]
      exact AList.lookup_isSome.2 (hks k' (List.mem_cons_of_mem _ hk'))
    rw [List.foldl_cons, ih hstay, hk, Option.map_map]
    congr 1
    funext found
    by_cases hr : r = k <;> cases found <;> simp [hr]

theorem lookup_scanContainers (scan : ℕ → RangeOrder String Bool) (i : ℕ) (cs : List Container)
    (r : String) :
    (scanContainers scan i cs m).lookup r = (m.lookup r).map fun found =>
      found || cs.any fun c => (c.limits.lookup r).isSome := by
  induction cs generalizing i m with
  | nil => simp [scanContainers]
  | cons c cs ih =>
    have hkeys : ∀ k, k ∈ ((scan i).visit m).map (·.1) ↔ k ∈ m := by
      intro k
      rw [(((scan i).perm m).map _).mem_iff, AList.mem_keys]
      rfl
    have hfold : ((scan i).visit m).foldl (fun m kv => markFound c m kv.1) m =
        (((scan i).visit m).map (·.1)).foldl (markFound c) m := by
      rw [List.foldl_map]
    rw [scanContainers, ih, hfold, lookup_foldl_markFound (fun k hk => (hkeys k).1 hk), Option.map_map]
    cases hr : m.lookup r with
    | none => rfl
    | some found =>
      have hmem := (hkeys r).2 (GoMap.mem_of_lookup hr)
      simp only [Option.map_some, Function.comp_apply, hmem, decide_true, Bool.true_and,
        List.any_cons, Bool.or_assoc]

end

def unfound (kvs : List (Σ _ : String, Bool)) : List String := (kvs.filter (!·.2)).map (·.1)

theorem mem_unfound_visit {order : RangeOrder String Bool} {m : GoMap String Bool} :
    resource ∈ unfound (order.visit m) ↔ m.lookup resource = some false := by
  rw [← order.mem_visit]
  simp only [unfound, List.mem_map, List.mem_filter, Bool.not_eq_true']
  constructor
  · rintro ⟨⟨k, found⟩, ⟨hmem, rfl⟩, rfl⟩
    exact hmem
  · exact fun h => ⟨_, ⟨h, rfl⟩, rfl⟩

def addAll (m : ResourceList) (rs : List String) : ResourceList :=
  rs.foldl (fun m r => m.insert r 1) m

theorem lookup_addAll (m : ResourceList) (rs : List String) (r : String) :
    (addAll m rs).lookup r = if r ∈ rs then some 1 else m.lookup r := by
  induction rs generalizing m with
  | nil => simp [addAll]
  | cons k rs ih =>
    rw [addAll, List.foldl_cons, ← addAll, ih]
    by_cases hr : r = k
    · subst hr
      simp
    · simp [Finmap.lookup_insert_of_ne _ hr, hr]

section

variable {kvs : List (Σ _ : String, Bool)} {orders : Orders}

theorem injectMissing_cons (hpod : pod.containers = c :: cs) : injectMissing pod kvs =
      .ok { pod with containers := { c with limits := addAll c.limits (unfound kvs) } :: cs } := by
  induction kvs generalizing pod c with
  | nil =>
    obtain ⟨ns, annotations, containers⟩ := pod
    obtain rfl : containers = c :: cs := hpod
    rfl
  | cons kv kvs ih =>
    obtain ⟨resource, found⟩ := kv
    cases found with
    | true => exact ih hpod
    | false =>
      rw [injectMissing, if_neg (by decide), hpod]
      let c' : Container := { c with limits := c.limits.insert resource 1 }
      exact @ih { pod with containers := c' :: cs } c' rfl

theorem injectMissing_nil (hpod : pod.containers = []) :
    injectMissing pod kvs = if unfound kvs = [] then .ok pod else .error .panic := by
  induction kvs with
  | nil => rfl
  | cons kv kvs ih =>
    obtain ⟨resource, found⟩ := kv
    cases found with
    | true => exact ih
    | false =>
      rw [injectMissing, if_neg (by decide), hpod]
      rfl

theorem injectMissing_congr {kvs' : List (Σ _ : String, Bool)}
    (h : ∀ r, r ∈ unfound kvs ↔ r ∈ unfound kvs') :
    injectMissing pod kvs = injectMissing pod kvs' := by
  rcases hpod : pod.containers with - | ⟨c, cs⟩
  · have hnil : unfound kvs = [] ↔ unfound kvs' = [] := by
      simp only [List.eq_nil_iff_forall_not_mem, h]
    rw [injectMissing_nil hpod, injectMissing_nil hpod]
    simp only [hnil]
  · have hadd : addAll c.limits (unfound kvs) = addAll c.limits (unfound kvs') := by
      refine Finmap.ext_lookup fun r => ?_
      simp only [lookup_addAll, h]
    rw [injectMissing_cons hpod, injectMissing_cons hpod, hadd]

theorem mem_unfound_scan {m : GoMap String Bool} :
    resource ∈ unfound (orders.write.visit (scanContainers orders.scan 0 pod.containers m)) ↔
      m.lookup resource = some false ∧ ¬Limited pod resource := by
  rw [mem_unfound_visit, lookup_scanContainers]
  cases m.lookup resource with
  | none => simp
  | some found => cases found <;> simp [Limited]

/-- **The order in which the maps are visited makes no difference.** -/
theorem injectRdmaResourceToPod_orders (orders orders' : Orders) (m : GoMap String Bool) (pod : Pod) :
    injectRdmaResourceToPod orders m pod = injectRdmaResourceToPod orders' m pod :=
  injectMissing_congr fun _ => mem_unfound_scan.trans mem_unfound_scan.symm

theorem injectRdmaResourceToPod_of_limited {m : GoMap String Bool}
    (h : ∀ r, m.lookup r = some false → Limited pod r) :
    injectRdmaResourceToPod orders m pod = .ok pod := by
  have hnone : unfound (orders.write.visit (scanContainers orders.scan 0 pod.containers m)) = [] := by
    refine List.eq_nil_iff_forall_not_mem.2 fun r hr => ?_
    obtain ⟨hfalse, hlimited⟩ := mem_unfound_scan.1 hr
    exact hlimited (h r hfalse)
  unfold injectRdmaResourceToPod
  rcases hpod : pod.containers with - | ⟨c, cs⟩
  · rw [injectMissing_nil hpod, ← hpod, if_pos hnone]
  · rw [injectMissing_cons hpod, ← hpod, hnone]
    obtain ⟨ns, annotations, containers⟩ := pod
    obtain rfl : containers = c :: cs := hpod
    rfl

theorem injectRdmaResourceToPod_eq_ok {m : GoMap String Bool}
    (h : injectRdmaResourceToPod orders m pod = .ok pod') :
    Grows pod pod' ∧ ∀ r, m.lookup r = some false → Limited pod' r := by
  unfold injectRdmaResourceToPod at h
  rcases hpod : pod.containers with - | ⟨c, cs⟩
  · rw [injectMissing_nil hpod] at h
    split_ifs at h with hnone
    obtain rfl := Except.ok.inj h
    refine ⟨.refl pod, fun r hr => ?_⟩
    by_contra hlimited
    exact absurd (mem_unfound_scan.2 ⟨hr, hlimited⟩) (by rw [hnone]; exact List.not_mem_nil)
  · rw [injectMissing_cons hpod] at h
    obtain rfl := Except.ok.inj h
    have hgrows := grows_of_container { c with limits := addAll c.limits (unfound
      (orders.write.visit (scanContainers orders.scan 0 pod.containers m))) } hpod
      (fun r hr => by rw [lookup_addAll]; split_ifs; exacts [rfl, hr]) fun _ hr => hr
    refine ⟨hgrows, fun r hr => ?_⟩
    by_cases hlimited : Limited pod r
    · exact hgrows.limited r hlimited
    · refine ⟨_, List.mem_cons_self, ?_⟩
      rw [lookup_addAll, if_pos (mem_unfound_scan.2 ⟨hr, hlimited⟩)]
      rfl

end

end PodManager
end Spiderpool
