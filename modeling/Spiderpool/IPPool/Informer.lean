/-
# The IPPool informer

`syncHandler` and `removeFinalizer` of `pkg/ippoolmanager/ippool_informer.go`, and what
the API server makes of their writes and of a delete request. A status update leaves
the object there; an update of the object that takes the last finalizer from a
terminating object removes it, and a delete request removes an object without
finalizers and otherwise marks it as terminating.
-/

import Spiderpool.IPPool.Validate

namespace Spiderpool

/-- A write to the API server: of the status, or of the object without it. -/
inductive PoolWrite where
  | status (p : IPPool)
  | object (p : IPPool)

def PoolWrite.stored : PoolWrite → Option IPPool
  | .status p => some p
  | .object p => if p.deletionTimestamp.isSome ∧ p.finalizers = [] then none else some p

/-- `removeFinalizer`: the write it makes, if it makes one. -/
def removeFinalizer (p : IPPool) : Option PoolWrite :=
  if Constant.spiderFinalizer ∈ p.finalizers then
    some (.object { p with finalizers := p.finalizers.filter (· ≠ Constant.spiderFinalizer) })
  else none

/-- `syncHandler` on the copy `p`: the write it makes, if it makes one. -/
def syncHandler (p : IPPool) : Result Err (Option PoolWrite) :=
  if p.deletionTimestamp.isSome ∧ p.status.allocatedIPs.isNone then .ok (removeFinalizer p)
  else do
    let subnet ← mapErr (fun e => ⟨.errWrongInput :: e.sentinels, Sentinel.errWrongInput.text ++
        ": failed to calculate SpiderIPPool '" ++ p.name ++ "' total IP count, error: " ++ e.text⟩)
      (newCIDR p.spec.subnet p.spec.ips p.spec.excludeIPs)
    let total := subnet.totalIPInt
    if p.status.allocatedIPCount.isNone ∨ p.status.totalIPCount ≠ some total then
      return some (.status { p with status := { p.status with
        allocatedIPCount := some (p.status.allocatedIPCount.getD 0)
        totalIPCount := some total } })
    else return none

/-- A delete request that is admitted, at the time `now`. -/
def deleteIPPool (now : ℤ) (p : IPPool) : Option IPPool :=
  if p.finalizers = [] then none
  else some { p with deletionTimestamp := some (p.deletionTimestamp.getD now) }

/-- Everything a `syncHandler` that writes can do: take the finalizer from a terminating pool
without records, or set counts. -/
theorem syncHandler_ok {p : IPPool} {w : PoolWrite} (h : syncHandler p = .ok (some w)) :
    (p.deletionTimestamp.isSome ∧ p.status.allocatedIPs = none ∧
      Constant.spiderFinalizer ∈ p.finalizers ∧
      w = .object { p with finalizers := p.finalizers.filter (· ≠ Constant.spiderFinalizer) }) ∨
    ∃ total, w = .status { p with status := { p.status with
      allocatedIPCount := some (p.status.allocatedIPCount.getD 0), totalIPCount := some total } } := by
  unfold syncHandler at h
  split_ifs at h with hterm
  · left
    have hw := Except.ok.inj h
    unfold removeFinalizer at hw
    split_ifs at hw with hfin
    exact ⟨hterm.1, Option.isNone_iff_eq_none.1 hterm.2, hfin, (Option.some.inj hw).symm⟩
  · right
    obtain ⟨c, -, h⟩ := bind_eq_ok.1 h
    dsimp only at h
    split_ifs at h
    · exact ⟨_, (Option.some.inj (Except.ok.inj h)).symm⟩
    · simp [pure, Except.pure] at h

end Spiderpool
