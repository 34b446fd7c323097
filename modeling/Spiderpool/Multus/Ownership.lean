/-
# Who controls a definition

SpiderMultusConfigs are admitted, changed and deleted, the informer sees them some time later, and
the controller syncs what the informer has seen. The webhook admits an object only if the definition
that it describes is not managed by another one (`managed_of_validate`). But it looks at the
definitions, which the controller makes later: two objects that describe the same definition are
both admitted before there is one, and then each sync takes it from the other.
-/

import Spiderpool.Base.Runs
import Spiderpool.Multus.Controller

namespace Spiderpool
namespace Multus

/-- What the API server has, and what the informer has seen of it. The keys are namespaces and
names. -/
structure Cluster where
  configs : GoMap (String × String) StoredConfig := ∅
  cache : GoMap (String × String) StoredConfig := ∅
  nads : GoMap (String × String) StoredNad := ∅

namespace Cluster

def getNad (s : Cluster) : GetNad := fun ns name => .ok (s.nads.lookup (ns, name))

def Live (s : Cluster) (c : StoredConfig) : Prop := ∃ key, s.configs.lookup key = some c

/-- The versions of objects that a sync works on, now or later. -/
def Version (s : Cluster) (c : StoredConfig) : Prop :=
  ∃ key, s.configs.lookup key = some c ∨ s.cache.lookup key = some c

def Fresh (s : Cluster) (uid : String) : Prop :=
  (∀ c, s.Version c → c.uid ≠ uid) ∧ ∀ key nad, s.nads.lookup key = some nad →
    ∀ ref ∈ nad.ownerReferences, ref.uid ≠ uid

def store (s : Cluster) (c : StoredConfig) : Cluster :=
  { s with configs := s.configs.insert (c.ns, c.name) c }

def observe (s : Cluster) (key : String × String) : Cluster :=
  { s with cache := match s.configs.lookup key with
      | some c => s.cache.insert key c
      | none => s.cache.erase key }

def synced (s : Cluster) (env : GenerateEnv) (c : StoredConfig) (answered : Bool) : Cluster :=
  match syncHandler env s.getNad c with
  | .ok (some w) =>
    if answered then { s with nads := s.nads.insert (c.ns, c.netAttachName) w.nad.stored } else s
  | _ => s

end Cluster

inductive Event where
  | create (smc : SpiderMultusConfig) (uid : String)
  | update (smc : SpiderMultusConfig)
  /-- The object gets a deletion timestamp. -/
  | terminate (key : String × String)
  | delete (key : String × String)
  | observe (key : String × String)
  | sync (key : String × String) (answered : Bool)
  /-- A definition is deleted, by the garbage collector or by a user. -/
  | deleteNad (key : String × String)

/-- What each of it does. Objects pass through both webhooks on their way. -/
inductive Step (env : ValidateEnv) (gen : GenerateEnv) : Cluster → Event → Cluster → Prop
  | create {s : Cluster} {raw smc : SpiderMultusConfig} {uid : String} :
      mutateSpiderMultusConfig raw = .ok smc → validate env s.getNad none smc = .ok () →
      s.configs.lookup (smc.ns, smc.name) = none → s.Fresh uid →
      Step env gen s (.create raw uid) (s.store ⟨smc, uid, false⟩)
  | update {s : Cluster} {raw smc : SpiderMultusConfig} {old : StoredConfig} :
      mutateSpiderMultusConfig raw = .ok smc →
      s.configs.lookup (smc.ns, smc.name) = some old →
      validate env s.getNad (some old.toSpiderMultusConfig) smc = .ok () →
      Step env gen s (.update raw) (s.store ⟨smc, old.uid, old.terminating⟩)
  | terminate {s : Cluster} {key : String × String} {c : StoredConfig} :
      s.configs.lookup key = some c →
      Step env gen s (.terminate key) (s.store { c with terminating := true })
  | delete {s : Cluster} {key : String × String} :
      Step env gen s (.delete key) { s with configs := s.configs.erase key }
  | observe {s : Cluster} {key : String × String} : Step env gen s (.observe key) (s.observe key)
  | sync {s : Cluster} {key : String × String} {c : StoredConfig} {answered : Bool} :
      s.cache.lookup key = some c →
      Step env gen s (.sync key answered) (s.synced gen c answered)
  | deleteNad {s : Cluster} {key : String × String} :
      Step env gen s (.deleteNad key) { s with nads := s.nads.erase key }

/-- A sync of the object would write a definition that another object, which exists, controls. -/
def TakesOver (gen : GenerateEnv) (s : Cluster) (d : StoredConfig) : Prop :=
  ∃ w nad c, syncHandler gen s.getNad d = .ok (some w) ∧
    s.nads.lookup (d.ns, d.netAttachName) = some nad ∧ s.Live c ∧ c.uid ≠ d.uid ∧
    nad.isControlledBy c.uid = true

def Unclaimed (s : Cluster) (smc : SpiderMultusConfig) (uid : String) : Prop :=
  ∀ c, s.Version c → c.uid ≠ uid → c.ns = smc.ns → c.netAttachName ≠ smc.netAttachName

/-- The objects that are admitted describe definitions of their own. -/
def NameFree (s : Cluster) : Event → Prop
  | .create smc uid => Unclaimed s smc uid
  | .update smc => ∀ old, s.configs.lookup (smc.ns, smc.name) = some old → Unclaimed s smc old.uid
  | _ => True

/-! ### The invariant -/

/-- Different objects describe different definitions, and none describes a definition that another
object controls. -/
structure Separate (s : Cluster) : Prop where
  keyed : ∀ key c, s.configs.lookup key = some c ∨ s.cache.lookup key = some c → key = (c.ns, c.name)
  identity : ∀ c d, s.Version c → s.Version d → c.uid = d.uid → c.ns = d.ns ∧ c.name = d.name
  targets : ∀ c d, s.Version c → s.Version d → c.uid ≠ d.uid → c.ns = d.ns →
    c.netAttachName ≠ d.netAttachName
  refs : ∀ key nad ref c, s.nads.lookup key = some nad →
    getControllerOf nad.ownerReferences = some ref → s.Version c → ref.uid = c.uid →
    ref.kind = Constant.kindSpiderMultusConfig ∧ ref.name = c.name ∧ key.1 = c.ns
  claims : ∀ key nad c d, s.nads.lookup key = some nad → nad.isControlledBy c.uid = true →
    s.Live c → s.Version d → d.uid ≠ c.uid → key ≠ (d.ns, d.netAttachName)

theorem isControlledBy_iff {nad : StoredNad} {uid : String} :
    nad.isControlledBy uid = true ↔
      ∃ ref, getControllerOf nad.ownerReferences = some ref ∧ ref.uid = uid := by
  unfold StoredNad.isControlledBy
  cases getControllerOf nad.ownerReferences <;> simp

section

variable {s : Cluster} {c : StoredConfig}

theorem Cluster.Live.version (h : s.Live c) : s.Version c := h.imp fun _ => .inl

section

variable {d : StoredConfig} {s' : Cluster} {env : ValidateEnv} {gen : GenerateEnv} {w : Write}

theorem live_store (h : (s.store c).Live d) : d = c ∨ s.Live d := by
  obtain ⟨key, hkey⟩ := h
  rw [Cluster.store, GoMap.lookup_insert_eq] at hkey
  split_ifs at hkey
  · exact .inl (Option.some.inj hkey).symm
  · exact .inr ⟨key, hkey⟩

theorem version_store (h : (s.store c).Version d) : d = c ∨ s.Version d := by
  obtain ⟨key, hkey | hkey⟩ := h
  · exact (live_store ⟨key, hkey⟩).imp_right Cluster.Live.version
  · exact .inr ⟨key, .inr hkey⟩

/-- **A version is stored.**  What has to be known of it: it keeps the name of the object, it describes
a definition that no other object describes or controls, and what the object controls is
described by no other. -/
theorem Separate.store (h : Separate s)
    (hname : ∀ d, s.Version d → d.uid = c.uid → d.ns = c.ns ∧ d.name = c.name)
    (htarget : ∀ d, s.Version d → d.uid ≠ c.uid → d.ns = c.ns → d.netAttachName ≠ c.netAttachName)
    (hrefs : ∀ key nad ref, s.nads.lookup key = some nad →
      getControllerOf nad.ownerReferences = some ref → ref.uid = c.uid →
      ref.kind = Constant.kindSpiderMultusConfig ∧ ref.name = c.name ∧ key.1 = c.ns)
    (hclaimed : ∀ key nad d, s.nads.lookup key = some nad → nad.isControlledBy d.uid = true →
      s.Live d → d.uid ≠ c.uid → key ≠ (c.ns, c.netAttachName))
    (hclaims : ∀ key nad d, s.nads.lookup key = some nad → nad.isControlledBy c.uid = true →
      s.Version d → d.uid ≠ c.uid → key ≠ (d.ns, d.netAttachName)) : Separate (s.store c) where
  keyed key d hd := by
    rw [Cluster.store, GoMap.lookup_insert_eq] at hd
    split_ifs at hd with hkey
    · rcases hd with hd | hd
      · obtain rfl := Option.some.inj hd
        exact hkey
      · exact h.keyed key d (.inr hd)
    · exact h.keyed key d hd
  identity d e hd he huid := by
    rcases version_store hd with rfl | hd' <;> rcases version_store he with rfl | he'
    · exact ⟨rfl, rfl⟩
    · exact (hname e he' huid.symm).imp Eq.symm Eq.symm
    · exact hname d hd' huid
    · exact h.identity d e hd' he' huid
  targets d e hd he huid hns := by
    rcases version_store hd with rfl | hd' <;> rcases version_store he with rfl | he'
    · exact absurd rfl huid
    · exact (htarget e he' (Ne.symm huid) hns.symm).symm
    · exact htarget d hd' huid hns
    · exact h.targets d e hd' he' huid hns
  refs key nad ref d hnad href hd huid := by
    rcases version_store hd with rfl | hd
    · exact hrefs key nad ref hnad href huid
    · exact h.refs key nad ref d hnad href hd huid
  claims key nad d e hnad hctl hd he huid := by
    rcases live_store hd with rfl | hd' <;> rcases version_store he with rfl | he'
    · exact absurd rfl huid
    · exact hclaims key nad e hnad hctl he' huid
    · exact hclaimed key nad d hnad hctl hd' huid.symm
    · exact h.claims key nad d e hnad hctl hd' he' huid

theorem Separate.mono (h : Separate s)
    (hlive : ∀ key c, s'.configs.lookup key = some c → s.configs.lookup key = some c)
    (hcache : ∀ key c, s'.cache.lookup key = some c →
      s.configs.lookup key = some c ∨ s.cache.lookup key = some c)
    (hnads : ∀ key nad, s'.nads.lookup key = some nad → s.nads.lookup key = some nad) :
    Separate s' := by
  have hversion : ∀ c, s'.Version c → s.Version c := fun c ⟨key, hkey⟩ =>
    ⟨key, hkey.elim (fun hkey => .inl (hlive key c hkey)) (hcache key c)⟩
  exact {
    keyed := fun key c hc => h.keyed key c (hc.elim (fun hc => .inl (hlive key c hc)) (hcache key c))
    identity := fun c d hc hd => h.identity c d (hversion c hc) (hversion d hd)
    targets := fun c d hc hd => h.targets c d (hversion c hc) (hversion d hd)
    refs := fun key nad ref c hnad href hc =>
      h.refs key nad ref c (hnads key nad hnad) href (hversion c hc)
    claims := fun key nad c d hnad hctl ⟨k, hk⟩ hd =>
      h.claims key nad c d (hnads key nad hnad) hctl ⟨k, hlive k c hk⟩ (hversion d hd) }

theorem Separate.unclaimed_of_validate (h : Separate s) {old : Option SpiderMultusConfig}
    (hval : validate env s.getNad old c.toSpiderMultusConfig = .ok ())
    (hold : ∀ d, s.configs.lookup (c.ns, c.name) = some d → d.uid = c.uid) {key : String × String}
    {nad : StoredNad} (hnad : s.nads.lookup key = some nad) (hctl : nad.isControlledBy d.uid = true)
    (hd : s.Live d) (huid : d.uid ≠ c.uid) :
    key ≠ (c.ns, c.netAttachName) := by
  rintro rfl
  obtain ⟨ref, href, hrefuid⟩ := isControlledBy_iff.1 hctl
  obtain ⟨hkind, hname, hns⟩ := h.refs _ nad ref d hnad href hd.version hrefuid
  have hmanaged := managed_of_validate hval (congrArg Except.ok hnad) ref
    (List.mem_of_find?_eq_some href) hkind
  obtain ⟨k, hk⟩ := hd
  have hkey : k = (c.ns, c.name) := by
    rw [h.keyed k d (.inl hk), ← hname, hmanaged, ← hns]
  exact huid (hold d (hkey ▸ hk))

theorem Separate.written_ref (h : Separate s) (hc : s.Version c)
    (hw : syncHandler gen s.getNad c = .ok (some w)) :
    ∃ ref, getControllerOf w.nad.ownerReferences = some ref ∧ ref.uid = c.uid ∧
      ref.kind = Constant.kindSpiderMultusConfig ∧ ref.name = c.name := by
  rcases written_owners hw with hrefs | ⟨old, hold, hctl, hrefs⟩ <;> rw [hrefs]
  · exact ⟨c.controllerRef, rfl, rfl, rfl, rfl⟩
  · obtain ⟨ref, href, huid⟩ := isControlledBy_iff.1 hctl
    obtain ⟨hkind, hname, -⟩ := h.refs _ old ref c (Except.ok.inj hold) href hc huid
    exact ⟨ref, href, huid, hkind, hname⟩

theorem Separate.write (h : Separate s) (hc : s.Version c)
    (hw : syncHandler gen s.getNad c = .ok (some w)) :
    Separate { s with nads := s.nads.insert (c.ns, c.netAttachName) w.nad.stored } := by
  obtain ⟨ref, href, hrefuid, hkind, hname⟩ := h.written_ref hc hw
  have hwritten : ∀ key nad, (s.nads.insert (c.ns, c.netAttachName) w.nad.stored).lookup key = some nad →
      key = (c.ns, c.netAttachName) ∧ getControllerOf nad.ownerReferences = some ref ∨
        s.nads.lookup key = some nad := by
    intro key nad hnad
    rw [GoMap.lookup_insert_eq] at hnad
    split_ifs at hnad with hkey
    · obtain rfl := Option.some.inj hnad
      exact .inl ⟨hkey, href⟩
    · exact .inr hnad
  refine { h with refs := ?_, claims := ?_ }
  · intro key nad ref' d hnad href' hd huid
    rcases hwritten key nad hnad with ⟨rfl, hctl⟩ | hnad
    · obtain rfl := Option.some.inj (hctl.symm.trans href')
      obtain ⟨hns, hdname⟩ := h.identity c d hc hd (hrefuid.symm.trans huid)
      exact ⟨hkind, hname.trans hdname, hns⟩
    · exact h.refs key nad ref' d hnad href' hd huid
  · intro key nad d e hnad hctl hd he huid
    rcases hwritten key nad hnad with ⟨rfl, hctl'⟩ | hnad
    · obtain ⟨ref', href', huid'⟩ := isControlledBy_iff.1 hctl
      obtain rfl := Option.some.inj (hctl'.symm.trans href')
      -- the controller is the object itself, which shares its name with no other
      intro heq
      obtain ⟨hns, htarget⟩ := Prod.mk.inj heq
      exact h.targets c e hc he (fun hce => huid (hce.symm.trans (hrefuid.symm.trans huid'))) hns htarget
    · exact h.claims key nad d e hnad hctl hd he huid

theorem Separate.synced (h : Separate s) (hc : s.Version c) (answered : Bool) :
    Separate (s.synced gen c answered) := by
  unfold Cluster.synced
  split
  · rename_i w hw
    split_ifs
    · exact h.write hc hw
    · exact h
  · exact h

theorem names_of_mutate {raw smc : SpiderMultusConfig} (h : mutateSpiderMultusConfig raw = .ok smc) :
    smc.ns = raw.ns ∧ smc.name = raw.name ∧ smc.netAttachName = raw.netAttachName := by
  obtain ⟨smc', hsmc', hanno, hname, hns, -⟩ := mutateSpiderMultusConfig_eq raw
  obtain rfl := Except.ok.inj (h.symm.trans hsmc')
  exact ⟨hns, hname, by rw [SpiderMultusConfig.netAttachName, hanno, hname]; rfl⟩

theorem Separate.create (h : Separate s)
    (hval : validate env s.getNad none c.toSpiderMultusConfig = .ok ())
    (hnew : s.configs.lookup (c.ns, c.name) = none) (hfresh : s.Fresh c.uid)
    (hfree : Unclaimed s c.toSpiderMultusConfig c.uid) : Separate (s.store c) := by
  have hnoref : ∀ key nad ref, s.nads.lookup key = some nad →
      getControllerOf nad.ownerReferences = some ref → ref.uid ≠ c.uid := fun key nad ref hnad href =>
    hfresh.2 key nad hnad ref (List.mem_of_find?_eq_some href)
  refine h.store (fun d hd huid => absurd huid (hfresh.1 d hd)) hfree ?_ ?_ ?_
  · exact fun key nad ref hnad href huid => absurd huid (hnoref key nad ref hnad href)
  · exact fun key nad d hnad hctl hd huid =>
      h.unclaimed_of_validate hval (fun e he => by rw [hnew] at he; cases he) hnad hctl hd huid
  · intro key nad d hnad hctl
    obtain ⟨ref, href, huid⟩ := isControlledBy_iff.1 hctl
    exact absurd huid (hnoref key nad ref hnad href)

theorem Separate.replace (h : Separate s) {old : StoredConfig}
    (hold : s.configs.lookup (c.ns, c.name) = some old) (huid : old.uid = c.uid)
    (hfree : Unclaimed s c.toSpiderMultusConfig c.uid)
    (hclaimed : ∀ key nad d, s.nads.lookup key = some nad → nad.isControlledBy d.uid = true →
      s.Live d → d.uid ≠ c.uid → key ≠ (c.ns, c.netAttachName)) : Separate (s.store c) := by
  have hlive : s.Live old := ⟨_, hold⟩
  obtain ⟨hns, hname⟩ := Prod.mk.inj (h.keyed _ old (.inl hold))
  refine h.store (fun d hd hduid => ?_) hfree ?_ hclaimed ?_
  · rw [hns, hname]
    exact h.identity d old hd hlive.version (hduid.trans huid.symm)
  · intro key nad ref hnad href hrefuid
    rw [hns, hname]
    exact h.refs key nad ref old hnad href hlive.version (hrefuid.trans huid.symm)
  · intro key nad d hnad hctl hd hduid
    exact h.claims key nad old d hnad (huid ▸ hctl) hlive hd (huid ▸ hduid)

/-- **One step.**  The objects stay separate if those that are admitted describe definitions of their
own. -/
theorem Separate.step (h : Separate s) {e : Event} (hstep : Step env gen s e s')
    (hfree : NameFree s e) : Separate s' := by
  cases hstep with
  | @create raw smc uid hmut hval hnew hfresh =>
    obtain ⟨hns, -, htarget⟩ := names_of_mutate hmut
    refine h.create hval hnew hfresh fun d hd huid hdns => ?_
    exact htarget ▸ hfree d hd huid (hdns.trans hns)
  | @update raw smc old hmut hold hval =>
    obtain ⟨hns, hname, htarget⟩ := names_of_mutate hmut
    refine h.replace hold rfl (fun d hd huid hdns => ?_) fun key nad d hnad hctl hd huid => ?_
    · exact htarget ▸ hfree old (hns ▸ hname ▸ hold) d hd huid (hdns.trans hns)
    · refine h.unclaimed_of_validate hval (fun e he => ?_) hnad hctl hd huid
      rw [Option.some.inj (hold.symm.trans he)]
  | @terminate key c hc =>
    obtain rfl := h.keyed key c (.inl hc)
    refine h.replace hc rfl (fun d hd huid hns => ?_) fun key nad d hnad hctl hd huid => ?_
    · exact h.targets d c hd ⟨_, .inl hc⟩ huid hns
    · exact h.claims key nad d c hnad hctl hd ⟨_, .inl hc⟩ huid.symm
  | @delete key =>
    refine h.mono (fun k c hc => ?_) (fun _ _ => .inr) fun _ _ => id
    rw [GoMap.lookup_erase_eq] at hc
    split_ifs at hc
    exact hc
  | @observe key =>
    refine h.mono (fun _ _ => id) (fun k c hc => ?_) fun _ _ => id
    unfold Cluster.observe at hc
    dsimp only at hc
    split at hc
    · rename_i d hd
      rw [GoMap.lookup_insert_eq] at hc
      split_ifs at hc with hkey
      · exact .inl (hkey ▸ hd.trans hc)
      · exact .inr hc
    · rw [GoMap.lookup_erase_eq] at hc
      split_ifs at hc
      exact .inr hc
  | @sync key c answered hc => exact h.synced ⟨key, .inr hc⟩ answered
  | @deleteNad key =>
    refine h.mono (fun _ _ => id) (fun _ _ => .inr) fun k nad hnad => ?_
    rw [GoMap.lookup_erase_eq] at hnad
    split_ifs at hnad
    exact hnad

end

def Cluster.Empty (s : Cluster) : Prop := s.configs = ∅ ∧ s.cache = ∅

theorem Cluster.Empty.separate (h : s.Empty) : Separate s := by
  have hnone : ∀ c, ¬s.Version c := by
    rintro c ⟨key, hkey | hkey⟩
    · simp [h.1] at hkey
    · simp [h.2] at hkey
  exact {
    keyed := fun key c hc => absurd ⟨key, hc⟩ (hnone c)
    identity := fun c _ hc => absurd hc (hnone c)
    targets := fun c _ hc => absurd hc (hnone c)
    refs := fun _ _ _ c _ _ hc => absurd hc (hnone c)
    claims := fun _ _ c _ _ _ hc => absurd hc.version (hnone c) }

/-- **No sync takes a definition from an object that exists.**  This is true at every point of a run
in which each object, when it is admitted or changed, describes a definition that no other object
describes. -/
theorem definition_kept {env : ValidateEnv} {gen : GenerateEnv} {s₀ : Cluster} {events : List Event}
    (h₀ : s₀.Empty)
    (hrun : Run (fun s e s' => Step env gen s e s' ∧ NameFree s e) s₀ events s)
    {key : String × String} (hc : s.cache.lookup key = some c) : ¬TakesOver gen s c := by
  have hsep : Separate s := hrun.inv Separate h₀.separate fun t e t' ht hstep => ht.step hstep.1 hstep.2
  rintro ⟨w, nad, d, -, hnad, hd, huid, hctl⟩
  exact hsep.claims _ nad d c hnad hctl hd ⟨key, .inr hc⟩ huid.symm rfl

end

end Multus

namespace Sample

open Multus (Cluster Step)

def defaultedMacvlan (name : String) (annotations : GoMap String String) :
    Multus.SpiderMultusConfig :=
  (Multus.mutateSpiderMultusConfig (macvlan name annotations)).toOption.getD (macvlan name annotations)

def firstAdmitted (name : String) (annotations : GoMap String String) : Cluster :=
  Cluster.store {} ⟨defaultedMacvlan name annotations, "1", false⟩

theorem not_version_empty (c : Multus.StoredConfig) : ¬Cluster.Version {} c := by
  rintro ⟨key, h | h⟩ <;> cases h

theorem fresh_empty (uid : String) : Cluster.Fresh {} uid :=
  ⟨fun c hc => absurd hc (not_version_empty c), fun key nad h => by cases h⟩

theorem fresh_first (name : String) (annotations : GoMap String String) :
    (firstAdmitted name annotations).Fresh "2" := by
  constructor
  · intro c hc
    rcases Multus.version_store hc with rfl | hc
    · exact show "1" ≠ "2" by decide
    · exact (fresh_empty "2").1 c hc
  · intro key nad h
    cases h

def customName : GoMap String String := AList.insert "multus.spidernet.io/cr-name" "net" ∅

/-- Two objects describe the definition `net`. Both are admitted, since there is no such definition
yet; the sync of the first makes it, and the sync of the second takes it over. -/
theorem described_twice_taken_over : ∃ s d,
    Run (Step validateEnv generateEnv) {}
      [.create (macvlan "a" customName) "1", .create (macvlan "net" ∅) "2",
        .observe ("default", "a"), .observe ("default", "net"), .sync ("default", "a") true] s ∧
    s.cache.lookup ("default", "net") = some d ∧ Multus.TakesOver generateEnv s d :=
  ⟨_, _, .cons (.create rfl rfl rfl (fresh_empty "1"))
    (.cons (.create rfl rfl rfl (fresh_first "a" customName))
      (.cons .observe (.cons .observe (.single (.sync rfl))))),
    rfl, _, _, _, rfl, rfl, ⟨("default", "a"), rfl⟩, by decide, by decide⟩

theorem unclaimed_second : Multus.Unclaimed (firstAdmitted "a" customName) (macvlan "b" ∅) "2" := by
  intro c hc huid hns
  rcases Multus.version_store hc with rfl | hc
  · exact show "net" ≠ "b" by decide
  · exact absurd hc (not_version_empty c)

/-- The definitions of two objects with different ones are not taken over. -/
theorem described_once_kept : ∃ s d,
    Run (fun s e s' => Step validateEnv generateEnv s e s' ∧ Multus.NameFree s e) {}
      [.create (macvlan "a" customName) "1", .create (macvlan "b" ∅) "2",
        .observe ("default", "a"), .observe ("default", "b"), .sync ("default", "a") true,
        .sync ("default", "b") true] s ∧
    s.cache.lookup ("default", "b") = some d ∧ ¬Multus.TakesOver generateEnv s d := by
  have hrun : ∃ s d, Run (fun s e s' => Step validateEnv generateEnv s e s' ∧ Multus.NameFree s e) {}
      [.create (macvlan "a" customName) "1", .create (macvlan "b" ∅) "2",
        .observe ("default", "a"), .observe ("default", "b"), .sync ("default", "a") true,
        .sync ("default", "b") true] s ∧ s.cache.lookup ("default", "b") = some d :=
    ⟨_, _, .cons ⟨.create rfl rfl rfl (fresh_empty "1"), fun c hc => absurd hc (not_version_empty c)⟩
      (.cons ⟨.create rfl rfl rfl (fresh_first "a" customName), unclaimed_second⟩
        (.cons ⟨.observe, trivial⟩ (.cons ⟨.observe, trivial⟩
          (.cons ⟨.sync rfl, trivial⟩ (.single ⟨.sync rfl, trivial⟩))))), rfl⟩
  obtain ⟨s, d, hrun, hd⟩ := hrun
  exact ⟨s, d, hrun, hd, Multus.definition_kept ⟨rfl, rfl⟩ hrun hd⟩

end Sample

end Spiderpool
