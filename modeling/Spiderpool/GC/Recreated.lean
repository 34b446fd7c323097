/-
# A Pod created anew, beside the trace of the old one

A worker handles the entry of a Pod of a StatefulSet (`releaseIPPoolIPExecutor`) while a Pod of the
same name is created anew and is given the addresses of its endpoint (`retrieveStaticIPAllocation`).
Both read the endpoint through a cache, which may show an earlier version of it. The records in the
pools carry the UID and are safe. The endpoint is not: the worker compares its UID once, and then
deletes it and strips its finalizer by its name, with no regard to the version that is stored, while
an update of the new Pod is accepted only if the endpoint is still as it was read.
-/

import Spiderpool.GC.EndpointWrites

namespace Spiderpool

open EndpointManager IPAM Versioned

namespace Recreated

/-- A program at some point, and the version of the endpoint that it has read. -/
structure Thread (α : Type) where
  read : Version (Option SpiderEndpoint)
  rest : Prog Cloud Err α

/-- The cloud with the versions of one endpoint, the worker at an entry, and an ADD of the Pod
created anew. -/
structure State (key : String × String) where
  cloud : Cloud
  store : Store (Option SpiderEndpoint)
  current : store.cur.val = cloud.endpoint key
  worker : Option (Thread Unit)
  add : Option (Thread (Option IpamAddResponse))

def State.init (key : String × String) (c : Cloud) : State key where
  cloud := c
  store := ⟨⟨0, c.endpoint key⟩, [], fun _ h => absurd h List.not_mem_nil⟩
  current := rfl
  worker := none
  add := none

/-- The cloud has become `c`. A change of the endpoint makes a new version. -/
def State.move {key : String × String} (s : State key) (c : Cloud) : State key where
  cloud := c
  store := if s.store.cur.val = c.endpoint key then s.store else s.store.push (c.endpoint key)
  current := by
    split_ifs with h
    · exact h
    · rfl
  worker := s.worker
  add := s.add

structure Scene where
  iaasClient : Bool
  gcEnv : Env
  podCache : PodEntry
  cfg : IPAM.Config
  env : Env
  pod : Pod

def Scene.key (sc : Scene) : String × String := (sc.podCache.ns, sc.podCache.podName)

/-- What can happen: the worker reads the endpoint of its entry, makes a call, or has done; an ADD
reads the endpoint, makes a call that leaves it as it is, rewrites it, or has done. -/
inductive Event where
  | take
  | work
  | done
  | start (nic : String)
  | add
  | rewrite
  | finish
deriving DecidableEq

/-- One step. A read is of any version there has been; it is answered as by a cloud that has this
version. The worker's calls are carried out whatever the endpoint is by then, and a call of an
ADD that changes the endpoint only if it is still the version read. -/
inductive Step (sc : Scene) : State sc.key → Event → State sc.key → Prop
  | take {s : State sc.key} {v : Version (Option SpiderEndpoint)} {c c' : Cloud}
      {p : Prog Cloud Err Unit} :
      s.worker = none → s.store.Shows v → c.endpoint sc.key = v.val →
      Prog.Step (releaseIPPoolIPExecutor sc.iaasClient sc.gcEnv sc.podCache, c) (p, c') →
        Step sc s .take { s with worker := some ⟨v, p⟩ }
  | work {s : State sc.key} {t : Thread Unit} {p : Prog Cloud Err Unit} {c : Cloud} :
      s.worker = some t → Prog.Step (t.rest, s.cloud) (p, c) →
        Step sc s .work { s.move c with worker := some ⟨t.read, p⟩ }
  | done {s : State sc.key} {t : Thread Unit} {r : Result Err Unit} :
      s.worker = some t → t.rest = .ret r → Step sc s .done { s with worker := none }
  | start {s : State sc.key} {v : Version (Option SpiderEndpoint)} {nic : String} :
      s.add = none → s.store.Shows v →
        Step sc s (.start nic) { s with
          add := some ⟨v, Stepwise.retrieveStaticIPAllocation sc.cfg sc.env nic sc.pod v.val⟩ }
  | add {s : State sc.key} {t : Thread (Option IpamAddResponse)}
      {p : Prog Cloud Err (Option IpamAddResponse)} {c : Cloud} :
      s.add = some t → Prog.Step (t.rest, s.cloud) (p, c) →
      c.endpoint sc.key = s.cloud.endpoint sc.key →
        Step sc s .add { s.move c with add := some ⟨t.read, p⟩ }
  | rewrite {s : State sc.key} {t : Thread (Option IpamAddResponse)}
      {p : Prog Cloud Err (Option IpamAddResponse)} {c : Cloud} :
      s.add = some t → Prog.Step (t.rest, s.cloud) (p, c) →
      c.endpoint sc.key ≠ s.cloud.endpoint sc.key → t.read = s.store.cur →
        Step sc s .rewrite { s.move c with add := some ⟨t.read, p⟩ }
  | finish {s : State sc.key} {t : Thread (Option IpamAddResponse)}
      {r : Result Err (Option IpamAddResponse)} :
      s.add = some t → t.rest = .ret r → Step sc s .finish { s with add := none }

/-- The step leaves the endpoint as it is if that carries the UID of the Pod created anew. -/
def Spares (sc : Scene) (s s' : State sc.key) : Prop :=
  ∀ e, s.cloud.endpoint sc.key = some e → e.uid = sc.pod.uid → s'.cloud.endpoint sc.key = some e

/-- The endpoints are valid, the worker keeps the UID of the endpoint and has found that of its
entry if it is to make calls, and an ADD writes the UID of its Pod. -/
structure Inv (sc : Scene) (s : State sc.key) : Prop where
  valid : s.cloud.api.Valid
  worker : ∀ t, s.worker = some t → t.rest.Within (Moves sc.key KeepsUID) ∧
    ((∃ r, t.rest = .ret r) ∨ ∃ e, t.read.val = some e ∧ e.uid = sc.podCache.uid)
  add : ∀ t, s.add = some t → t.rest.Within (Moves sc.key (WritesUID sc.pod.uid))

variable {sc : Scene} {s s' : State sc.key} {ev : Event}

theorem inv_init {c : Cloud} (hc : c.api.Valid) : Inv sc (.init sc.key c) := ⟨hc, nofun, nofun⟩

theorem executor_first {c c' : Cloud} {p : Prog Cloud Err Unit}
    (h : Prog.Step (releaseIPPoolIPExecutor sc.iaasClient sc.gcEnv sc.podCache, c) (p, c')) :
    (∃ r, p = .ret r) ∨ ∃ e, c.endpoint sc.key = some e ∧ e.uid = sc.podCache.uid := by
  cases h with
  | failed e => exact .inl ⟨_, rfl⟩
  | lost e => exact .inl ⟨_, rfl⟩
  | answered =>
    refine (?_ : ∀ o : Option SpiderEndpoint, (∃ r, Prog.bind (.ret (.ok o)) _ = .ret r) ∨
      ∃ e, o = some e ∧ e.uid = sc.podCache.uid) (c.endpoint sc.key)
    rintro (- | e)
    · exact .inl ⟨_, rfl⟩
    · by_cases huid : e.uid = sc.podCache.uid
      · exact .inr ⟨e, rfl, huid⟩
      · exact .inl ⟨_, if_pos huid⟩

theorem Inv.step (hinv : Inv sc s) (hstep : Step sc s ev s') : Inv sc s' := by
  cases hstep with
  | @take v c c' p hidle hshows hread hfirst =>
    refine ⟨hinv.valid, ?_, hinv.add⟩
    rintro t ⟨⟩
    refine ⟨(executor_keepsUID.step (Moves.refl KeepsUID.refl) hfirst).2, ?_⟩
    rw [← hread]
    exact executor_first hfirst
  | @work t p c ht hcall =>
    obtain ⟨hwithin, hread⟩ := hinv.worker t ht
    obtain ⟨hmove, hrest⟩ := hwithin.step (Moves.refl KeepsUID.refl) hcall
    refine ⟨(hmove hinv.valid).1, ?_, hinv.add⟩
    rintro t' ⟨⟩
    refine ⟨hrest, hread.imp ?_ id⟩
    rintro ⟨r, hr⟩
    rw [hr] at hcall
    cases hcall
  | done => exact ⟨hinv.valid, nofun, hinv.add⟩
  | start =>
    refine ⟨hinv.valid, hinv.worker, ?_⟩
    rintro t ⟨⟩
    exact retrieveStatic_writesUID
  | add ht hcall | rewrite ht hcall =>
    obtain ⟨hmove, hrest⟩ := (hinv.add _ ht).step (Moves.refl (WritesUID.refl _)) hcall
    refine ⟨(hmove hinv.valid).1, hinv.worker, ?_⟩
    rintro t ⟨⟩
    exact hrest
  | finish => exact ⟨hinv.valid, hinv.worker, nofun⟩

def Carries (uid : String) (s : State sc.key) : Prop :=
  ∀ e, s.cloud.endpoint sc.key = some e → e.uid = uid

theorem Carries.step {uid : String} (hs : Carries uid s) (hinv : Inv sc s) (hstep : Step sc s ev s')
    (hev : ev = .rewrite → uid = sc.pod.uid) : Carries uid s' := by
  cases hstep with
  | take | done | start | finish => exact hs
  | @work t p c ht hcall =>
    intro e' he'
    have hmove := ((hinv.worker t ht).1.step (Moves.refl KeepsUID.refl) hcall).1
    obtain ⟨e, he, heq⟩ := (hmove hinv.valid).2 e' he'
    rw [← heq]
    exact hs e he
  | add ht hcall hsame => exact fun e he => hs e (hsame ▸ he)
  | rewrite ht hcall hne =>
    have hmove := ((hinv.add _ ht).step (Moves.refl (WritesUID.refl _)) hcall).1
    rw [hev rfl]
    exact (hmove hinv.valid).2 hne

theorem carries_of_rewrite (hinv : Inv sc s) (hstep : Step sc s .rewrite s') :
    Carries sc.pod.uid s' := by
  cases hstep with
  | rewrite ht hcall hne =>
    have hmove := ((hinv.add _ ht).step (Moves.refl (WritesUID.refl _)) hcall).1
    exact (hmove hinv.valid).2 hne

/-- **When the worker spares the endpoint of a Pod created anew.**  In every interleaving, a call of
the worker leaves the endpoint as it is if that carries the UID of the new Pod, unless the Pod has
written it since the version that the worker has read; then it does if and only if it does not touch
the endpoint. -/
theorem spares_recreated_iff (huid : sc.pod.uid ≠ sc.podCache.uid) {c : Cloud} (hc : c.api.Valid)
    {ls₀ ls : List Event} {s' s'' : State sc.key} {t : Thread Unit}
    (h₀ : Run (Step sc) (.init sc.key c) ls₀ s) (h : Run (Step sc) s ls s')
    (ht : s'.worker = some t) (hread : t.read = s.store.cur) (hstep : Step sc s' .work s'') :
    Spares sc s' s'' ↔
      .rewrite ∉ ls ∨ s''.cloud.endpoint sc.key = s'.cloud.endpoint sc.key := by
  have hinv : Inv sc s := h₀.inv (Inv sc) (inv_init hc) fun _ _ _ => Inv.step
  have hinv' : Inv sc s' := h.inv (Inv sc) hinv fun _ _ _ => Inv.step
  cases hstep with
  | @work t' p c' ht' hcall =>
    obtain rfl := Option.some.inj (ht.symm.trans ht')
    obtain ⟨hwithin, hfound⟩ := hinv'.worker t ht
    have hkeeps := ((hwithin.step (Moves.refl KeepsUID.refl) hcall).1 hinv'.valid).2
    by_cases hrewrite : .rewrite ∈ ls
    · -- the endpoint carries the new UID by now
      have hcarries : Carries sc.pod.uid s' := h.after (Inv sc) (Carries sc.pod.uid) hinv hrewrite
        (fun _ _ _ => Inv.step) (fun _ _ => carries_of_rewrite)
        fun _ _ _ hI hJ hst => hJ.step hI hst fun _ => rfl
      constructor
      · intro hspares
        right
        cases he : s'.cloud.endpoint sc.key with
        | some e => exact hspares e he (hcarries e he)
        | none =>
          refine Option.eq_none_iff_forall_ne_some.2 fun e' he' => ?_
          obtain ⟨e, he₁, -⟩ := hkeeps e' he'
          exact absurd (he.symm.trans he₁) (by simp)
      · rintro (hno | hsame) e he -
        · exact absurd hrewrite hno
        · exact hsame.trans he
    · -- it carries the UID that the worker has found
      refine iff_of_true ?_ (.inl hrewrite)
      obtain ⟨r, hr⟩ | ⟨e, he, heuid⟩ := hfound
      · rw [hr] at hcall
        cases hcall
      have hcarries : Carries sc.podCache.uid s := by
        intro e' he'
        rw [hread, s.current] at he
        obtain rfl := Option.some.inj (he'.symm.trans he)
        exact heuid
      have hboth := h.inv_of (fun x => Inv sc x ∧ Carries sc.podCache.uid x) (· ≠ .rewrite)
        ⟨hinv, hcarries⟩ (fun l hl heq => hrewrite (heq ▸ hl))
        fun x l x' hx hl hst => ⟨hx.1.step hst, hx.2.step hx.1 hst fun heq => absurd heq hl⟩
      intro e' he' heq
      exact absurd (heq.symm.trans (hboth.2 e' he')) huid

end Recreated

namespace Sample

open Recreated

def scene : Scene where
  iaasClient := false
  gcEnv := {}
  podCache := ⟨"default", "web-0", "u1"⟩
  cfg := {}
  env := {}
  pod := pod "u2"

def beforehand : Cloud := ⟨server (allocated "u1"), []⟩

/-- A worker alone deletes the endpoint of its entry. -/
theorem own_endpoint_deleted : ∃ s s' ls t,
    Run (Step scene) (.init scene.key beforehand) ls s ∧ s.worker = some t ∧
    t.read = (State.init scene.key beforehand).store.cur ∧ Step scene s .work s' ∧
    s'.cloud.endpoint scene.key ≠ s.cloud.endpoint scene.key ∧ Spares scene s s' := by
  obtain ⟨s, s', t, hrun, ht, hread, hstep, hchanged⟩ : ∃ s s' t,
      Run (Step scene) (.init scene.key beforehand) [.take, .work] s ∧ s.worker = some t ∧
      t.read = (State.init scene.key beforehand).store.cur ∧ Step scene s .work s' ∧
      s'.cloud.endpoint scene.key ≠ s.cloud.endpoint scene.key :=
    ⟨_, _, _, .cons (.take rfl (.inl rfl) rfl .answered) (.single (.work rfl .answered)), rfl, rfl,
      .work rfl .answered, by decide⟩
  have huid : scene.pod.uid ≠ scene.podCache.uid := by decide
  refine ⟨s, s', _, t, hrun, ht, hread, hstep, hchanged, ?_⟩
  have hiff := spares_recreated_iff huid (server_valid _) (.nil _) hrun ht hread hstep
  exact hiff.2 (.inl (by decide))

/-- The worker has read the endpoint. Then the new Pod is given the address and rewrites the
endpoint; the worker releases nothing, as the record is the new Pod's by now, but it deletes the
endpoint and strips its finalizer, so that it is gone. -/
theorem recreated_taken_away : ∃ s₁ s₂ s₃ ls e e',
    Run (Step scene) (.init scene.key beforehand) ls s₁ ∧
    Recorded s₁.cloud.api "u2" "sample" "10.0.0.1" ∧
    s₁.cloud.endpoint scene.key = some e ∧ e.uid = scene.pod.uid ∧ Step scene s₁ .work s₂ ∧
    s₂.cloud.endpoint scene.key = some e' ∧ e'.uid = scene.pod.uid ∧ e'.deletionTimestamp ≠ none ∧
    Step scene s₂ .work s₃ ∧ s₃.cloud.endpoint scene.key = none := by
  refine ⟨_, _, _, [.take, .start "eth0", .add, .rewrite, .work], _, _,
    .cons (.take rfl (.inl rfl) rfl .answered) <| .cons (.start rfl (.inl rfl)) <|
    .cons (.add rfl .answered rfl) <| .cons (.rewrite rfl .answered ?_ rfl) <|
    .single (.work rfl .answered), ?_, rfl, rfl, .work rfl .answered, rfl, rfl, ?_,
    .work rfl .answered, rfl⟩
  · decide
  · decide
  · decide

end Sample

end Spiderpool
