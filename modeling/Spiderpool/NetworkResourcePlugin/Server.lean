/-
# Device lists on their way to the kubelet

`UpdateDevices` and `ListAndWatch` of `pkg/networkresourceplugin/server.go`. An update stores the
devices and offers them to the channel of the stream, which has one slot: if the slot is taken, what
is in it is thrown away and the new list is offered again, by three `select`s with a default, between
which the stream may receive. A stream sends a snapshot of the devices first and then what it
receives.

What is the newest on its way to the kubelet (`State.newest`) is in the channel, or else in the hand
of the stream, or else what the stream has sent last. Between updates it is the list that the
server has (`Inv.newest`). What is done under the mutex is one step.
-/

import Spiderpool.Base.Channel
import Spiderpool.Base.Runs

namespace Spiderpool
namespace NetworkResourcePlugin

structure Device where
  id : String
  health : String

/-- `[]*pluginapi.Device`: a pointer may be nil. -/
abbrev Devices := List (Option Device)

def deviceIDSet (devices : Devices) : GoMap String Unit :=
  devices.foldl (fun set d => d.elim set fun d => set.insert d.id ()) ∅

structure Server where
  resourceName : String
  devices : Devices
  deviceIDs : GoMap String Unit
  updateCh : Chan Devices

def newServer (resourceName : String) (devices : Devices) : Server where
  resourceName := resourceName
  devices := devices
  deviceIDs := deviceIDSet devices
  updateCh := { cap := 1 }

/-- Where the caller of `UpdateDevices` is: outside of it, or before the lock or one of the three
`select`s, with its argument. -/
inductive Caller where
  | outside
  | lock (devices : Devices)
  | offer (devices : Devices)
  | empty (devices : Devices)
  | offerAgain (devices : Devices)

def Caller.left : Caller → ℕ
  | outside => 0
  | lock _ => 4
  | offer _ => 3
  | empty _ => 2
  | offerAgain _ => 1

/-- Where the stream is in `ListAndWatch`, with what has been sent on it. -/
inductive Stream where
  | closed
  | opened
  | sending (devices : Devices) (sent : List Devices)
  | waiting (sent : List Devices)

structure State where
  server : Server
  caller : Caller := .outside
  stream : Stream := .closed

inductive Event where
  /-- A call of `UpdateDevices`. -/
  | updateDevices (devices : Devices)
  /-- The next step of the caller. -/
  | proceed
  /-- A call of `ListAndWatch`. -/
  | listAndWatch
  | snapshotDevices
  | send (ok : Bool)
  /-- The `select` of the stream, whose context is done or not. -/
  | watch (done : Bool)

namespace State

/-- `s.updateCh <- devices`. -/
def put (s : State) (devices : Devices) (caller : Caller) : Option State :=
  (s.server.updateCh.send devices).map fun ch =>
    { s with server := { s.server with updateCh := ch }, caller := caller }

/-- `<-s.updateCh`. -/
def take (s : State) (f : Devices → State → State) : Option State :=
  s.server.updateCh.recv.map fun r =>
    f r.1 { s with server := { s.server with updateCh := r.2 } }

end State

inductive Step : State → Event → State → Prop
  | updateDevices {s : State} {ds : Devices} :
      s.caller = .outside → Step s (.updateDevices ds) { s with caller := .lock ds }
  | lock {s : State} {ds : Devices} :
      s.caller = .lock ds →
        Step s .proceed
          { s with
            server := { s.server with devices := ds, deviceIDs := deviceIDSet ds }
            caller := .offer ds }
  | offer {s s' : State} {ds : Devices} :
      s.caller = .offer ds →
        Select [s.put ds .outside] (some { s with caller := .empty ds }) s' → Step s .proceed s'
  | empty {s s' : State} {ds : Devices} :
      s.caller = .empty ds →
        Select [s.take fun _ s => { s with caller := .offerAgain ds }]
          (some { s with caller := .offerAgain ds }) s' → Step s .proceed s'
  | offerAgain {s s' : State} {ds : Devices} :
      s.caller = .offerAgain ds →
        Select [s.put ds .outside] (some { s with caller := .outside }) s' → Step s .proceed s'
  | listAndWatch {s : State} :
      s.stream = .closed → Step s .listAndWatch { s with stream := .opened }
  | snapshotDevices {s : State} :
      s.stream = .opened →
        Step s .snapshotDevices { s with stream := .sending s.server.devices [] }
  | sent {s : State} {ds : Devices} {sent : List Devices} :
      s.stream = .sending ds sent →
        Step s (.send true) { s with stream := .waiting (sent ++ [ds]) }
  | failed {s : State} {ds : Devices} {sent : List Devices} :
      s.stream = .sending ds sent → Step s (.send false) { s with stream := .closed }
  | watch {s s' : State} {sent : List Devices} {done : Bool} :
      s.stream = .waiting sent →
        Select [if done then some { s with stream := .closed } else none,
          s.take fun ds s => { s with stream := .sending ds sent }] none s' → Step s (.watch done) s'

def State.init (resourceName : String) (devices : Devices) : State :=
  { server := newServer resourceName devices }

def State.newest (s : State) : Option Devices :=
  s.server.updateCh.buf.getLast?.or <|
    match s.stream with
    | .sending ds _ => some ds
    | .waiting sent => sent.getLast?
    | _ => none

structure Inv (s : State) : Prop where
  cap : s.server.updateCh.cap = 1
  /-- After the lock, the devices are those of the call. -/
  stored : ∀ ds, s.caller = .offer ds ∨ s.caller = .empty ds ∨ s.caller = .offerAgain ds →
    s.server.devices = ds
  /-- Nobody fills the slot that the caller has emptied. -/
  emptied : ∀ ds, s.caller = .offerAgain ds → s.server.updateCh.buf = []
  newest : s.caller = .outside → ∀ ds ∈ s.newest, ds = s.server.devices
  sent : ∀ sent, s.stream = .waiting sent → sent ≠ []

theorem inv_init (resourceName : String) (devices : Devices) : Inv (.init resourceName devices) where
  cap := rfl
  stored ds h := by simp [State.init] at h
  emptied ds h := by cases h
  newest _ ds h := by cases h
  sent sent h := by cases h

section

variable {s s' : State} {ds : Devices}

theorem State.put_eq_some {caller : Caller} (h : s.put ds caller = some s') :
    ∃ ch : Chan Devices, ch.cap = s.server.updateCh.cap ∧ ch.buf = s.server.updateCh.buf ++ [ds] ∧
      s' = { s with server := { s.server with updateCh := ch }, caller := caller } := by
  obtain ⟨ch, hch, rfl⟩ := Option.map_eq_some_iff.1 h
  obtain ⟨hcap, hbuf⟩ := Chan.send_eq_some hch
  exact ⟨ch, hcap, hbuf, rfl⟩

theorem State.take_eq_some {f : Devices → State → State} (h : s.take f = some s') :
    ∃ (ds : Devices) (ch : Chan Devices), ch.cap = s.server.updateCh.cap ∧
      s.server.updateCh.buf = ds :: ch.buf ∧
      s' = f ds { s with server := { s.server with updateCh := ch } } := by
  obtain ⟨⟨ds, ch⟩, hr, rfl⟩ := Option.map_eq_some_iff.1 h
  obtain ⟨hcap, hbuf⟩ := Chan.recv_eq_some hr
  exact ⟨ds, ch, hcap, hbuf, rfl⟩

/-- An offer that is taken ends the call, with the new list as the newest. -/
theorem Inv.put (h : Inv s) (hds : s.server.devices = ds) (hput : s.put ds .outside = some s') :
    Inv s' := by
  obtain ⟨ch, hcap, hbuf, rfl⟩ := State.put_eq_some hput
  refine ⟨hcap.trans h.cap, by simp, by simp, fun _ ds' hds' => ?_, h.sent⟩
  simp only [State.newest, hbuf, List.getLast?_append, List.getLast?_singleton, Option.some_or,
    Option.mem_def, Option.some.injEq] at hds'
  exact hds'.symm.trans hds.symm

/-- A step of the stream shows nothing newer than there was, but for a snapshot. -/
theorem Inv.stream (h : Inv s) (hcaller : s'.caller = s.caller)
    (hdevices : s'.server.devices = s.server.devices)
    (hcap : s'.server.updateCh.cap = s.server.updateCh.cap)
    (hbuf : s.server.updateCh.buf = [] → s'.server.updateCh.buf = [])
    (hnewest : ∀ ds ∈ s'.newest, ds ∈ s.newest ∨ ds = s.server.devices)
    (hsent : ∀ sent, s'.stream = .waiting sent → sent ≠ []) : Inv s' where
  cap := hcap.trans h.cap
  stored ds hds := by
    rw [hcaller] at hds
    exact hdevices.trans (h.stored ds hds)
  emptied ds hds := hbuf (h.emptied ds (hcaller ▸ hds))
  newest hout ds hds := by
    rw [hdevices]
    exact (hnewest ds hds).elim (h.newest (hcaller ▸ hout) ds) id
  sent := hsent

theorem Inv.close (h : Inv s) : Inv { s with stream := .closed } := by
  refine h.stream rfl rfl rfl id (fun ds hds => .inl ?_) (by simp)
  simp only [State.newest, Option.or_none] at hds
  simp [State.newest, Option.mem_def.1 hds]

theorem inv_step {e : Event} (h : Inv s) (hstep : Step s e s') : Inv s' := by
  cases hstep with
  | updateDevices hcaller => exact ⟨h.cap, by simp, by simp, by simp, h.sent⟩
  | lock hcaller => exact ⟨h.cap, by simp, by simp, by simp, h.sent⟩
  | offer hcaller hselect =>
    have hds := h.stored _ (.inl hcaller)
    rcases select_one hselect with hput | ⟨-, rfl⟩
    · exact h.put hds hput
    · exact ⟨h.cap, by simpa using hds, by simp, by simp, h.sent⟩
  | empty hcaller hselect =>
    have hds := h.stored _ (.inr (.inl hcaller))
    rcases select_one hselect with htake | ⟨htake, rfl⟩
    · obtain ⟨ds', ch, hcap, hbuf, rfl⟩ := State.take_eq_some htake
      -- there is one slot, so nothing is left
      have hlen : ch.buf.length + 1 ≤ s.server.updateCh.cap := by
        simpa [hbuf] using s.server.updateCh.le_cap
      have hnil : ch.buf = [] := List.eq_nil_of_length_eq_zero (by have := h.cap; omega)
      exact ⟨hcap.trans h.cap, by simpa using hds, fun _ _ => hnil, by simp, h.sent⟩
    · have hnil := Chan.recv_eq_none (Option.map_eq_none_iff.1 htake)
      exact ⟨h.cap, by simpa using hds, fun _ _ => hnil, by simp, h.sent⟩
  | offerAgain hcaller hselect =>
    rcases select_one hselect with hput | ⟨hput, -⟩
    · exact h.put (h.stored _ (.inr (.inr hcaller))) hput
    · refine absurd (Option.map_eq_none_iff.1 hput) (Chan.send_ne_none (h.emptied _ hcaller) ?_)
      rw [h.cap]
      exact Nat.one_pos
  | listAndWatch hstream =>
    refine h.stream rfl rfl rfl id (fun ds hds => .inl ?_) (by simp)
    simpa [State.newest, hstream] using hds
  | snapshotDevices hstream =>
    refine h.stream rfl rfl rfl id (fun ds hds => ?_) (by simp)
    rcases hlast : s.server.updateCh.buf.getLast? with _ | x
    · exact .inr (by simpa [State.newest, hlast, eq_comm] using hds)
    · exact .inl (by simpa [State.newest, hlast] using hds)
  | sent hstream =>
    refine h.stream rfl rfl rfl id (fun ds hds => .inl ?_) (by simp)
    simpa [State.newest, hstream] using hds
  | failed hstream => exact h.close
  | watch hstream hselect =>
    obtain hready | ⟨-, hnone⟩ := hselect
    · rcases List.mem_pair.1 hready with hdone | htake
      · split_ifs at hdone
        obtain rfl := Option.some.inj hdone
        exact h.close
      · obtain ⟨ds', ch, hcap, hbuf, rfl⟩ := State.take_eq_some htake.symm
        refine h.stream rfl rfl hcap (by simp [hbuf]) (fun ds hds => .inl ?_) (by simp)
        rcases hlast : ch.buf.getLast? with _ | x
        · simpa [State.newest, hbuf, List.getLast?_cons, hlast] using hds
        · simpa [State.newest, hbuf, List.getLast?_cons, hlast] using hds
    · cases hnone

/-- The caller can always go on, and each step of its own takes it nearer to its return. -/
theorem caller_proceeds (s : State) :
    (s.caller ≠ .outside → ∃ s', Step s .proceed s') ∧
      ∀ s', Step s .proceed s' → s'.caller.left < s.caller.left := by
  constructor
  · intro hin
    rcases hcaller : s.caller with _ | ds | ds | ds | ds
    · exact absurd hcaller hin
    · exact ⟨_, .lock hcaller⟩
    · obtain ⟨s', hs'⟩ := Select.exists_of_default [s.put ds .outside] { s with caller := .empty ds }
      exact ⟨s', .offer hcaller hs'⟩
    · obtain ⟨s', hs'⟩ := Select.exists_of_default
        [s.take fun _ s => { s with caller := .offerAgain ds }] { s with caller := .offerAgain ds }
      exact ⟨s', .empty hcaller hs'⟩
    · obtain ⟨s', hs'⟩ := Select.exists_of_default [s.put ds .outside] { s with caller := .outside }
      exact ⟨s', .offerAgain hcaller hs'⟩
  · intro s' hstep
    cases hstep with
    | lock hcaller => simp [hcaller, Caller.left]
    | offer hcaller hselect =>
      rcases select_one hselect with hput | ⟨-, rfl⟩
      · obtain ⟨_, -, -, rfl⟩ := State.put_eq_some hput
        simp [hcaller, Caller.left]
      · simp [hcaller, Caller.left]
    | empty hcaller hselect =>
      rcases select_one hselect with htake | ⟨-, rfl⟩
      · obtain ⟨_, _, -, -, rfl⟩ := State.take_eq_some htake
        simp [hcaller, Caller.left]
      · simp [hcaller, Caller.left]
    | offerAgain hcaller hselect =>
      rcases select_one hselect with hput | ⟨-, rfl⟩
      · obtain ⟨_, -, -, rfl⟩ := State.put_eq_some hput
        simp [hcaller, Caller.left]
      · simp [hcaller, Caller.left]

end

/-- **The kubelet is not left with an old list.**  In whatever order the caller and the streams take
their steps: while no update is going on, the channel is empty and a stream waits, what it has sent
last are the devices of the server; and the caller of `UpdateDevices` never blocks. -/
theorem stream_up_to_date {resourceName : String} {devices : Devices} {es : List Event} {s : State}
    (h : Run Step (.init resourceName devices) es s) :
    (s.caller = .outside → s.server.updateCh.buf = [] → ∀ sent, s.stream = .waiting sent →
      sent.getLast? = some s.server.devices) ∧
    (s.caller ≠ .outside → ∃ s', Step s .proceed s') ∧
    ∀ s', Step s .proceed s' → s'.caller.left < s.caller.left := by
  have hinv : Inv s := h.inv Inv (inv_init _ _) fun _ _ _ => inv_step
  refine ⟨fun hout hbuf sent hsent => ?_, caller_proceeds s⟩
  have hne : sent.getLast? ≠ none := mt List.getLast?_eq_none_iff.1 (hinv.sent sent hsent)
  obtain ⟨ds, hds⟩ := Option.ne_none_iff_exists'.1 hne
  have hnewest : ds ∈ s.newest := by simp [State.newest, hbuf, hsent, hds]
  rw [hds, hinv.newest hout ds hnewest]

namespace Sample

def subENIs (n : ℕ) : Devices :=
  (List.range n).map fun i => some ⟨"sub-eni-" ++ itoa i, "Healthy"⟩

/-- An update between the snapshot of a stream and its first send is sent after it. -/
theorem update_follows_snapshot : ∃ s,
    Run Step (.init "spidernet.io/sub-eni" (subENIs 1))
      [.listAndWatch, .snapshotDevices, .updateDevices (subENIs 2), .proceed, .proceed, .send true,
        .watch false, .send true] s ∧
    s.stream = .waiting [subENIs 1, subENIs 2] ∧
    [subENIs 1, subENIs 2].getLast? = some s.server.devices := by
  have hrun : Run Step (.init "spidernet.io/sub-eni" (subENIs 1))
      [.listAndWatch, .snapshotDevices, .updateDevices (subENIs 2), .proceed, .proceed, .send true,
        .watch false, .send true] _ :=
    .cons (.listAndWatch rfl) <| .cons (.snapshotDevices rfl) <| .cons (.updateDevices rfl) <|
    .cons (.lock rfl) <| .cons (.offer rfl (.ready (List.mem_singleton.2 rfl))) <|
    .cons (.sent rfl) <| .cons (.watch rfl (.ready (List.mem_pair.2 (.inr rfl)))) <|
    .single (.sent rfl)
  exact ⟨_, hrun, rfl, (stream_up_to_date hrun).1 rfl rfl _ rfl⟩

end Sample

end NetworkResourcePlugin
end Spiderpool
