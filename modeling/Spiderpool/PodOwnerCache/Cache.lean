/-
# The Pod owner cache

`pkg/podownercache/pod_owner_cache.go` tells the RDMA metrics which Pod has an
address. The handlers of a Pod informer keep two maps: the cached Pods by name,
and the name of a Pod by address. `onPodAdd` serves updates as well; it only
writes, so an address that a Pod has lost stays in the index. `onPodDel` clears
the index by the cached list of the Pod, whoever the entries belong to by then.
-/

import Spiderpool.Base.Runs
import Spiderpool.K8s

namespace Spiderpool

structure NamespacedName where
  ns : String
  name : String
deriving DecidableEq

namespace PodOwnerCache

structure OwnerInfo where
  apiVersion : String := ""
  kind : String := ""
  ns : String := ""
  name : String := ""
deriving DecidableEq

/-- `Pod`, an item of the cache. -/
structure Pod where
  namespacedName : NamespacedName
  ownerInfo : OwnerInfo := {}
  ips : List String
deriving DecidableEq

/-- What `getFinalOwner` reads of an object. -/
structure ObjectMeta where
  ns : String
  name : String
  ownerReferences : List OwnerReference := []

def ObjectMeta.key (obj : ObjectMeta) : NamespacedName := ⟨obj.ns, obj.name⟩

/-- What the handlers read of a `corev1.Pod`. -/
structure CorePod extends ObjectMeta where
  hostNetwork : Bool := false
  annotations : GoMap String String := ∅
  podIPs : List String := []

/-- What an informer hands to a handler: a Pod, or the last that is known of one
whose removal the watch has missed. -/
inductive Object where
  | pod (pod : CorePod)
  | deletedFinalStateUnknown (key : NamespacedName)

def Object.key : Object → NamespacedName
  | .pod p => p.key
  | .deletedFinalStateUnknown k => k

/-- What `apiReader.Get` finds; `denied` is an error that `IsForbidden` or `IsNotFound` tells. -/
inductive GetReply where
  | found (obj : ObjectMeta)
  | denied
  | failed (e : Err)

/-- `apiReader.Get` by API version, kind, namespace and name. -/
abbrev Reader := String → String → String → String → GetReply

end PodOwnerCache

open PodOwnerCache in
structure PodOwnerCache where
  pods : GoMap NamespacedName PodOwnerCache.Pod := ∅
  ipToPod : GoMap String NamespacedName := ∅
  ownerCache : GoMap NamespacedName (Option OwnerInfo) := ∅

namespace PodOwnerCache

def multusNetworkStatus : String := "k8s.v1.cni.cncf.io/network-status"

def contains (s sub : String) : Bool := decide (sub.toList <:+: s.toList)

/-- The loop of `getFinalOwner`: the first owner of the first owner and so on, each
under the namespace of the object that names it. -/
def finalOwner (get : Reader) : ℕ → ObjectMeta → Option OwnerInfo → Result Err (Option OwnerInfo)
  | _, ⟨_, _, []⟩, owner => .ok owner
  | 0, ⟨_, _, _ :: _⟩, _ => .error .hang
  | fuel + 1, ⟨ns, _, ref :: _⟩, _ =>
    match get ref.apiVersion ref.kind ns ref.name with
    | .found obj => finalOwner get fuel obj (some ⟨ref.apiVersion, ref.kind, ns, ref.name⟩)
    | .denied => .ok none
    | .failed e => fail e

/-- `getFinalOwner`: an owner once found, or once missed, is not read again. -/
def getFinalOwner (get : Reader) (fuel : ℕ) (s : PodOwnerCache) (obj : ObjectMeta) :
    Result Err (Option OwnerInfo × PodOwnerCache) :=
  match s.ownerCache.lookup obj.key with
  | some owner => .ok (owner, s)
  | none =>
    (finalOwner get fuel obj none).map fun owner =>
      (owner, { s with ownerCache := s.ownerCache.insert obj.key owner })

/-- `for _, ip := range ips { s.ipToPod[ip] = key }`. -/
def index (key : NamespacedName) (ips : List String) (m : GoMap String NamespacedName) :
    GoMap String NamespacedName :=
  ips.foldl (fun m ip => m.insert ip key) m

/-- `for _, ip := range ips { delete(s.ipToPod, ip) }`. -/
def unindex (ips : List String) (m : GoMap String NamespacedName) : GoMap String NamespacedName :=
  ips.foldl (fun m ip => m.erase ip) m

/-- The writes of `onPodAdd`. -/
def put (s : PodOwnerCache) (pod : CorePod) (owner : Option OwnerInfo) : PodOwnerCache :=
  { s with
    pods := s.pods.insert pod.key ⟨pod.key, owner.getD {}, pod.podIPs⟩
    ipToPod := index pod.key pod.podIPs s.ipToPod }

/-- The Pods that `onPodAdd` looks at: not on the host's network, and with a network status
that names an RDMA device. -/
def CorePod.isRDMA (pod : CorePod) : Bool :=
  let status := (pod.annotations.lookup multusNetworkStatus).getD ""
  !pod.hostNetwork && status != "" && contains status "rdma-device"

/-- `onPodAdd`; an error of the owner lookup is logged, and the Pod is not cached. -/
def onPodAdd (get : Reader) (fuel : ℕ) (s : PodOwnerCache) : Object → Result Err PodOwnerCache
  | .deletedFinalStateUnknown _ => .ok s
  | .pod pod =>
    if pod.isRDMA && 0 < pod.podIPs.length then
      match getFinalOwner get fuel s pod.toObjectMeta with
      | .ok (owner, s) => .ok (s.put pod owner)
      | .error (.err _) => .ok s
      | .error fault => .error fault
    else .ok s

def onPodUpdate (get : Reader) (fuel : ℕ) (s : PodOwnerCache) (_oldObj newObj : Object) :
    Result Err PodOwnerCache :=
  s.onPodAdd get fuel newObj

def onPodDel (s : PodOwnerCache) : Object → PodOwnerCache
  | .deletedFinalStateUnknown _ => s
  | .pod pod =>
    match s.pods.lookup pod.key with
    | none => s
    | some item =>
      { s with pods := s.pods.erase pod.key, ipToPod := unindex item.ips s.ipToPod }

def getPodByIP (s : PodOwnerCache) (ip : String) : Option Pod :=
  (s.ipToPod.lookup ip).bind fun item => s.pods.lookup item

/-! ### Events -/

/-- An event of the Pod informer, with the API server as it answers while it is handled. -/
inductive Event where
  | add (obj : Object) (get : Reader)
  | update (oldObj newObj : Object) (get : Reader)
  | delete (obj : Object)

def handle (fuel : ℕ) (s : PodOwnerCache) : Event → Result Err PodOwnerCache
  | .add obj get => s.onPodAdd get fuel obj
  | .update oldObj newObj get => s.onPodUpdate get fuel oldObj newObj
  | .delete obj => .ok (s.onPodDel obj)

/-- The addresses that the latest add or update event of each Pod listed. An
event of a Pod that is not an RDMA Pod lists none that the cache is to know. -/
abbrev Listed := GoMap NamespacedName (List String)

def Listed.write (listed : Listed) : Object → Listed
  | .deletedFinalStateUnknown _ => listed
  | .pod pod => listed.insert pod.key (if pod.isRDMA then pod.podIPs else [])

def Listed.next (listed : Listed) : Event → Listed
  | .add obj _ => listed.write obj
  | .update _ obj _ => listed.write obj
  | .delete obj => listed.erase obj.key

structure State where
  cache : PodOwnerCache := {}
  listed : Listed := ∅

/-- One event; a lookup that follows more than `fuel` owners does not return. -/
def Step (fuel : ℕ) (s : State) (e : Event) (s' : State) : Prop :=
  s.cache.handle fuel e = .ok s'.cache ∧ s'.listed = s.listed.next e

/-- What `GetPodByIP` owes: a Pod for every address that is listed, and no Pod that
has lost the address. -/
structure Answers (s : State) : Prop where
  found : ∀ key ips ip, s.listed.lookup key = some ips → ip ∈ ips →
    ∃ pod, s.cache.getPodByIP ip = some pod
  holds : ∀ ip pod, s.cache.getPodByIP ip = some pod → ip ∈ pod.ips

def OwnerFails (get : Reader) (fuel : ℕ) (s : PodOwnerCache) (pod : CorePod) : Prop :=
  ∃ e, getFinalOwner get fuel s pod.toObjectMeta = fail e

/-- An add or update event that keeps the answers. If the owner is known, the Pod
still lists every address that is indexed under its name; if not, the addresses it
lists are indexed already. -/
def KeptWrite (fuel : ℕ) (s : State) (get : Reader) : Object → Prop
  | .deletedFinalStateUnknown _ => True
  | .pod pod => pod.isRDMA = true → pod.podIPs ≠ [] →
      (OwnerFails get fuel s.cache pod → ∀ ip ∈ pod.podIPs, ip ∈ s.cache.ipToPod) ∧
      (¬OwnerFails get fuel s.cache pod →
        ∀ ip, s.cache.ipToPod.lookup ip = some pod.key → ip ∈ pod.podIPs)

/-- A delete event that keeps the answers: no other Pod lists an address that is
cached for the deleted one. -/
def KeptDelete (s : State) : Object → Prop
  | .deletedFinalStateUnknown _ => True
  | .pod pod => ∀ item, s.cache.pods.lookup pod.key = some item → ∀ ip ∈ item.ips,
      ∀ key, key ≠ pod.key → ∀ ips, s.listed.lookup key = some ips → ip ∉ ips

/-- The events that keep the answers, by the state they come in. -/
def Kept (fuel : ℕ) (s : State) : Event → Prop
  | .add obj get => KeptWrite fuel s get obj
  | .update _ obj get => KeptWrite fuel s get obj
  | .delete obj => KeptDelete s obj

/-! ### What the handlers do to the two maps -/

theorem lookup_index (key : NamespacedName) (ips : List String) (m : GoMap String NamespacedName)
    (ip : String) :
    (index key ips m).lookup ip = if ip ∈ ips then some key else m.lookup ip := by
  induction ips generalizing m with
  | nil => simp [index]
  | cons x xs ih =>
    have hstep : index key (x :: xs) m = index key xs (m.insert x key) := rfl
    rw [hstep, ih, GoMap.lookup_insert_eq]
    by_cases hxs : ip ∈ xs <;> by_cases hx : ip = x <;> simp [hxs, hx]

theorem lookup_unindex (ips : List String) (m : GoMap String NamespacedName) (ip : String) :
    (unindex ips m).lookup ip = if ip ∈ ips then none else m.lookup ip := by
  induction ips generalizing m with
  | nil => simp [unindex]
  | cons x xs ih =>
    have hstep : unindex (x :: xs) m = unindex xs (m.erase x) := rfl
    rw [hstep, ih, GoMap.lookup_erase_eq]
    by_cases hxs : ip ∈ xs <;> by_cases hx : ip = x <;> simp [hxs, hx]

theorem getPodByIP_eq_some {s : PodOwnerCache} {ip : String} {pod : Pod} :
    s.getPodByIP ip = some pod ↔
      ∃ key, s.ipToPod.lookup ip = some key ∧ s.pods.lookup key = some pod :=
  Option.bind_eq_some_iff

theorem getFinalOwner_frame {get : Reader} {fuel : ℕ} {s s' : PodOwnerCache} {obj : ObjectMeta}
    {owner : Option OwnerInfo} (h : getFinalOwner get fuel s obj = .ok (owner, s')) :
    s'.pods = s.pods ∧ s'.ipToPod = s.ipToPod := by
  unfold getFinalOwner at h
  cases hc : s.ownerCache.lookup obj.key with
  | some cached =>
    rw [hc] at h
    cases h
    exact ⟨rfl, rfl⟩
  | none =>
    rw [hc] at h
    cases hw : finalOwner get fuel obj none with
    | error f => rw [hw] at h; cases h
    | ok o =>
      rw [hw] at h
      cases h
      exact ⟨rfl, rfl⟩

theorem onPodAdd_cases {get : Reader} {fuel : ℕ} {s s' : PodOwnerCache} {pod : CorePod}
    (h : s.onPodAdd get fuel (.pod pod) = .ok s') :
    (s' = s ∧ (pod.isRDMA = true → pod.podIPs = [])) ∨
    (s' = s ∧ pod.isRDMA = true ∧ pod.podIPs ≠ [] ∧ OwnerFails get fuel s pod) ∨
    (pod.isRDMA = true ∧ pod.podIPs ≠ [] ∧ ¬OwnerFails get fuel s pod ∧
      (∃ item : Pod, item.ips = pod.podIPs ∧ s'.pods = s.pods.insert pod.key item) ∧
      s'.ipToPod = index pod.key pod.podIPs s.ipToPod) := by
  simp only [onPodAdd] at h
  split_ifs at h with hc
  · simp only [Bool.and_eq_true, decide_eq_true_eq] at hc
    have hips : pod.podIPs ≠ [] := List.length_pos_iff.1 hc.2
    rcases hl : getFinalOwner get fuel s pod.toObjectMeta with f | ⟨owner, s₁⟩
    · rw [hl] at h
      cases f with
      | err e => cases h; exact .inr (.inl ⟨rfl, hc.1, hips, e, hl⟩)
      | panic => cases h
      | hang => cases h
    · rw [hl] at h
      cases h
      obtain ⟨hpods, hindex⟩ := getFinalOwner_frame hl
      have hread : ¬OwnerFails get fuel s pod := by
        rintro ⟨e, he⟩
        rw [hl] at he
        cases he
      refine .inr (.inr ⟨hc.1, hips, hread, ⟨⟨pod.key, owner.getD {}, pod.podIPs⟩, rfl, ?_⟩, ?_⟩)
      · unfold put; rw [hpods]
      · unfold put; rw [hindex]
  · cases h
    refine .inl ⟨rfl, fun hr => ?_⟩
    by_contra hne
    exact hc (by simp [hr, List.length_pos_iff.2 hne])

/-! ### One event -/

def Indexed (s : PodOwnerCache) : Prop :=
  ∀ ip key, s.ipToPod.lookup ip = some key → ∃ pod, s.pods.lookup key = some pod

theorem Indexed.exists_getPodByIP {s : PodOwnerCache} (h : Indexed s) (ip : String) :
    (∃ pod, s.getPodByIP ip = some pod) ↔ ip ∈ s.ipToPod := by
  constructor
  · rintro ⟨pod, hpod⟩
    obtain ⟨key, hkey, -⟩ := getPodByIP_eq_some.1 hpod
    exact GoMap.mem_of_lookup hkey
  · intro hmem
    obtain ⟨key, hkey⟩ := Option.isSome_iff_exists.1 (AList.lookup_isSome.2 hmem)
    obtain ⟨pod, hpod⟩ := h ip key hkey
    exact ⟨pod, getPodByIP_eq_some.2 ⟨key, hkey, hpod⟩⟩

/-- What a run keeps: the answers, and an index without dangling entries. -/
structure Good (s : State) : Prop where
  answers : Answers s
  indexed : Indexed s.cache

section Step

variable {s s' : State}

theorem answers_insert_iff (hs : Good s) (hc : s'.cache = s.cache) {key : NamespacedName}
    {ips : List String} (hl : s'.listed = s.listed.insert key ips) :
    Answers s' ↔ ∀ ip ∈ ips, ip ∈ s.cache.ipToPod := by
  constructor
  · intro h ip hip
    rw [← hs.indexed.exists_getPodByIP, ← hc]
    exact h.found key ips ip (by rw [hl, GoMap.lookup_insert_eq, if_pos rfl]) hip
  · intro h
    refine ⟨fun key' ips' ip hkey' hip => ?_, by rw [hc]; exact hs.answers.holds⟩
    rw [hl, GoMap.lookup_insert_eq] at hkey'
    rw [hc]
    split_ifs at hkey' with heq
    · cases hkey'
      exact (hs.indexed.exists_getPodByIP ip).2 (h ip hip)
    · exact hs.answers.found key' ips' ip hkey' hip

theorem answers_erase (hs : Answers s) (hc : s'.cache = s.cache) {key : NamespacedName}
    (hl : s'.listed = s.listed.erase key) : Answers s' := by
  refine ⟨fun key' ips ip hkey' hip => ?_, by rw [hc]; exact hs.holds⟩
  rw [hl, GoMap.lookup_erase_eq] at hkey'
  split_ifs at hkey'
  rw [hc]
  exact hs.found key' ips ip hkey' hip

variable {key : NamespacedName} {item : Pod} {ips : List String}

theorem indexed_put (hs : Indexed s.cache) (hp : s'.cache.pods = s.cache.pods.insert key item)
    (hi : s'.cache.ipToPod = index key ips s.cache.ipToPod) : Indexed s'.cache := by
  intro ip key' hkey'
  rw [hi, lookup_index] at hkey'
  rw [hp, GoMap.lookup_insert_eq]
  split_ifs with heq
  · exact ⟨item, rfl⟩
  · split_ifs at hkey' with hip
    · exact absurd (Option.some.inj hkey').symm heq
    · exact hs ip key' hkey'

theorem answers_put_iff (hs : Good s) (hp : s'.cache.pods = s.cache.pods.insert key item)
    (hi : s'.cache.ipToPod = index key ips s.cache.ipToPod) (hitem : item.ips = ips)
    (hl : s'.listed = s.listed.insert key ips) :
    Answers s' ↔ ∀ ip, s.cache.ipToPod.lookup ip = some key → ip ∈ ips := by
  have hkey : s'.cache.pods.lookup key = some item := by
    rw [hp, GoMap.lookup_insert_eq, if_pos rfl]
  constructor
  · intro h ip hip
    by_contra hne
    have hget : s'.cache.getPodByIP ip = some item := by
      refine getPodByIP_eq_some.2 ⟨key, ?_, hkey⟩
      rw [hi, lookup_index, if_neg hne, hip]
    exact hne (hitem ▸ h.holds ip item hget)
  · intro h
    constructor
    · intro key' ips' ip hkey' hip
      rw [(indexed_put hs.indexed hp hi).exists_getPodByIP, ← AList.lookup_isSome, hi,
        lookup_index]
      split_ifs with hmem
      · rfl
      · rw [AList.lookup_isSome, ← hs.indexed.exists_getPodByIP]
        rw [hl, GoMap.lookup_insert_eq] at hkey'
        split_ifs at hkey' with heq
        · cases hkey'
          exact absurd hip hmem
        · exact hs.answers.found key' ips' ip hkey' hip
    · intro ip pod hget
      obtain ⟨key', hkey', hpod⟩ := getPodByIP_eq_some.1 hget
      rw [hi, lookup_index] at hkey'
      rw [hp, GoMap.lookup_insert_eq] at hpod
      split_ifs at hpod with heq
      · cases hpod
        rw [hitem]
        split_ifs at hkey' with hmem
        · exact hmem
        · exact h ip (heq ▸ hkey')
      · split_ifs at hkey' with hmem
        · exact absurd (Option.some.inj hkey').symm heq
        · exact hs.answers.holds ip pod (getPodByIP_eq_some.2 ⟨key', hkey', hpod⟩)

theorem Good.ne_of_lookup (hs : Good s) (hitem : s.cache.pods.lookup key = some item) {ip : String}
    {key' : NamespacedName} (hip : ip ∉ item.ips) (h : s.cache.ipToPod.lookup ip = some key') :
    key' ≠ key := by
  rintro rfl
  exact hip (hs.answers.holds ip item (getPodByIP_eq_some.2 ⟨key', h, hitem⟩))

theorem indexed_drop (hs : Good s) (hitem : s.cache.pods.lookup key = some item)
    (hp : s'.cache.pods = s.cache.pods.erase key)
    (hi : s'.cache.ipToPod = unindex item.ips s.cache.ipToPod) : Indexed s'.cache := by
  intro ip key' hkey'
  rw [hi, lookup_unindex] at hkey'
  split_ifs at hkey' with hip
  rw [hp, GoMap.lookup_erase_eq, if_neg (hs.ne_of_lookup hitem hip hkey')]
  exact hs.indexed ip key' hkey'

theorem answers_drop_iff (hs : Good s) (hitem : s.cache.pods.lookup key = some item)
    (hp : s'.cache.pods = s.cache.pods.erase key)
    (hi : s'.cache.ipToPod = unindex item.ips s.cache.ipToPod)
    (hl : s'.listed = s.listed.erase key) :
    Answers s' ↔ ∀ ip ∈ item.ips, ∀ key', key' ≠ key →
      ∀ ips, s.listed.lookup key' = some ips → ip ∉ ips := by
  have hindexed := indexed_drop hs hitem hp hi
  constructor
  · intro h ip hip key' hne ips' hkey' hmem
    have hentry := h.found key' ips' ip (by rw [hl, GoMap.lookup_erase_eq, if_neg hne, hkey']) hmem
    rw [hindexed.exists_getPodByIP, ← AList.lookup_isSome, hi, lookup_unindex, if_pos hip] at hentry
    cases hentry
  · intro h
    constructor
    · intro key' ips' ip hkey' hmem
      rw [hl, GoMap.lookup_erase_eq] at hkey'
      split_ifs at hkey' with hne
      have hip : ip ∉ item.ips := fun hip => h ip hip key' hne ips' hkey' hmem
      rw [hindexed.exists_getPodByIP, ← AList.lookup_isSome, hi, lookup_unindex, if_neg hip,
        AList.lookup_isSome, ← hs.indexed.exists_getPodByIP]
      exact hs.answers.found key' ips' ip hkey' hmem
    · intro ip pod hget
      obtain ⟨key', hkey', hpod⟩ := getPodByIP_eq_some.1 hget
      rw [hi, lookup_unindex] at hkey'
      rw [hp, GoMap.lookup_erase_eq] at hpod
      split_ifs at hkey' hpod
      exact hs.answers.holds ip pod (getPodByIP_eq_some.2 ⟨key', hkey', hpod⟩)

end Step

/-- **An add or update event.**  It keeps the answers exactly on its condition, and the index
in any case. -/
theorem write_iff {get : Reader} {fuel : ℕ} {s s' : State} {obj : Object} (hs : Good s)
    (h : s.cache.onPodAdd get fuel obj = .ok s'.cache) (hl : s'.listed = s.listed.write obj) :
    (Answers s' ↔ KeptWrite fuel s get obj) ∧ Indexed s'.cache := by
  cases obj with
  | deletedFinalStateUnknown key =>
    have hc : s' = s := by
      cases s'; cases s; cases h; cases hl; rfl
    subst hc
    exact ⟨⟨fun _ => trivial, fun _ => hs.answers⟩, hs.indexed⟩
  | pod pod =>
    simp only [Listed.write] at hl
    rcases onPodAdd_cases h with ⟨hc, hempty⟩ | ⟨hc, hr, hips, hf⟩ |
      ⟨hr, hips, hf, ⟨item, hitem, hp⟩, hi⟩
    · refine ⟨⟨fun _ hr hne => absurd (hempty hr) hne, fun _ => ?_⟩, by rw [hc]; exact hs.indexed⟩
      rw [answers_insert_iff hs hc hl]
      split_ifs with hr
      · simp [hempty hr]
      · simp
    · rw [if_pos hr] at hl
      refine ⟨?_, by rw [hc]; exact hs.indexed⟩
      rw [answers_insert_iff hs hc hl]
      exact ⟨fun h _ _ => ⟨fun _ => h, fun hn => absurd hf hn⟩, fun h => (h hr hips).1 hf⟩
    · rw [if_pos hr] at hl
      refine ⟨?_, indexed_put hs.indexed hp hi⟩
      rw [answers_put_iff hs hp hi hitem hl]
      exact ⟨fun h _ _ => ⟨fun hn => absurd hn hf, fun _ => h⟩, fun h => (h hr hips).2 hf⟩

/-- **A delete event.** -/
theorem delete_iff {s s' : State} {obj : Object} (hs : Good s)
    (h : s'.cache = s.cache.onPodDel obj) (hl : s'.listed = s.listed.erase obj.key) :
    (Answers s' ↔ KeptDelete s obj) ∧ Indexed s'.cache := by
  cases obj with
  | deletedFinalStateUnknown key =>
    exact ⟨⟨fun _ => trivial, fun _ => answers_erase hs.answers h hl⟩, by rw [h]; exact hs.indexed⟩
  | pod pod =>
    simp only [onPodDel] at h
    cases hitem : s.cache.pods.lookup pod.key with
    | none =>
      rw [hitem] at h
      refine ⟨⟨fun _ item hi => ?_, fun _ => answers_erase hs.answers h hl⟩,
        by rw [h]; exact hs.indexed⟩
      rw [hitem] at hi
      cases hi
    | some item =>
      rw [hitem] at h
      have hp : s'.cache.pods = s.cache.pods.erase pod.key := by rw [h]
      have hi : s'.cache.ipToPod = unindex item.ips s.cache.ipToPod := by rw [h]
      refine ⟨?_, indexed_drop hs hitem hp hi⟩
      rw [answers_drop_iff hs hitem hp hi hl]
      exact ⟨fun h item' hitem' => by rw [hitem] at hitem'; cases hitem'; exact h,
        fun h => h item hitem⟩

theorem step_iff {fuel : ℕ} {s s' : State} {e : Event} (hs : Good s) (h : Step fuel s e s') :
    (Answers s' ↔ Kept fuel s e) ∧ Indexed s'.cache := by
  obtain ⟨hc, hl⟩ := h
  cases e with
  | add obj get => exact write_iff hs hc hl
  | update oldObj obj get => exact write_iff hs hc hl
  | delete obj => exact delete_iff hs (Except.ok.inj hc).symm hl

theorem good_initial : Good {} where
  answers := ⟨fun _ _ _ h => absurd h (by simp), fun _ _ h => absurd h (by simp [getPodByIP])⟩
  indexed := fun _ _ h => absurd h (by simp)

/-- **Which events `GetPodByIP` survives.**  Over a run from the empty cache the
answers are right after every event exactly when every event meets its condition
in the state it comes in. -/
theorem answers_iff_kept (fuel : ℕ) (es : List Event) (s : State) :
    Run (fun s e s' => Step fuel s e s' ∧ Answers s') {} es s ↔
      Run (fun s e s' => Step fuel s e s' ∧ Kept fuel s e) {} es s :=
  Run.guard_iff Good good_initial
    (fun _ _ _ hs hstep h => ⟨h, (step_iff hs hstep).2⟩)
    (fun _ _ _ hs hstep => (step_iff hs hstep).1)

namespace Sample

def noOwner : Reader := fun _ _ _ _ => .denied

def rdmaPod (name : String) (podIPs : List String) : CorePod where
  ns := "default"
  name := name
  annotations := (∅ : GoMap String String).insert multusNetworkStatus "[rdma-device]"
  podIPs := podIPs

def added (name ip : String) : Event := .add (.pod (rdmaPod name [ip])) noOwner

def deleted (name ip : String) : Event := .delete (.pod (rdmaPod name [ip]))

def after (s : State) (e : Event) : State :=
  ⟨((s.cache.handle 0 e).toOption).getD s.cache, s.listed.next e⟩

theorem step_after {s : State} {e : Event} (h : (s.cache.handle 0 e).isOk = true) :
    Step 0 s e (after s e) := by
  refine ⟨?_, rfl⟩
  unfold after
  cases hr : s.cache.handle 0 e with
  | error f => rw [hr] at h; cases h
  | ok c => rfl

/-- A Pod that is added and deleted. -/
theorem deleted_is_gone :
    Run (fun s e s' => Step 0 s e s' ∧ Answers s') {} [added "a" "10.0.0.1", deleted "a" "10.0.0.1"]
      (after (after {} (added "a" "10.0.0.1")) (deleted "a" "10.0.0.1")) := by
  refine (answers_iff_kept 0 _ _).2 (.cons ⟨step_after (by decide +kernel), fun _ _ => ⟨?_, ?_⟩⟩
    (.single ⟨step_after (by decide +kernel), fun item hitem ip hip key hne ips hkey => ?_⟩))
  · rintro ⟨e, he⟩
    cases he
  · exact fun _ ip h => absurd h (by simp)
  · have hlisted : (after {} (added "a" "10.0.0.1")).listed =
        (∅ : Listed).write (.pod (rdmaPod "a" ["10.0.0.1"])) := rfl
    rw [hlisted, Listed.write, GoMap.lookup_insert_eq, if_neg hne] at hkey
    cases hkey

/-- Two runs after which `GetPodByIP` is wrong. A Pod whose address has changed is still
returned for the old one; and the delete event of a Pod takes away the address that a new
Pod has got. -/
theorem stale_and_lost :
    (∃ s, Run (Step 0) {}
      [added "a" "10.0.0.1",
        .update (.pod (rdmaPod "a" ["10.0.0.1"])) (.pod (rdmaPod "a" ["10.0.0.2"])) noOwner] s ∧
      s.cache.getPodByIP "10.0.0.1" = some ⟨⟨"default", "a"⟩, {}, ["10.0.0.2"]⟩) ∧
    (∃ s, Run (Step 0) {}
      [added "a" "10.0.0.1", added "b" "10.0.0.1", deleted "a" "10.0.0.1"] s ∧
      s.listed.lookup ⟨"default", "b"⟩ = some ["10.0.0.1"] ∧
      s.cache.getPodByIP "10.0.0.1" = none) := by
  refine ⟨⟨_, .cons (step_after (by decide +kernel)) (.single (step_after (by decide +kernel))),
    by decide +kernel⟩, ⟨_, .cons (step_after (by decide +kernel))
      (.cons (step_after (by decide +kernel)) (.single (step_after (by decide +kernel)))),
    by decide +kernel, by decide +kernel⟩⟩

end Sample

end PodOwnerCache

end Spiderpool
