/-
# A work queue

The queue of client-go's `util/workqueue`, with its delaying and rate-limiting layers. A key that
is added while it waits in the queue is not added again; one that is added while it is being
processed is queued when that is done. A key may also be added later, after a delay, and the
rate limiter counts how often it has been put off.

What is known of every key that is added is known of every key held (`Holds`).
-/

import Spiderpool.Base.Go

namespace Spiderpool

/-- The queue itself, the keys that are to be processed, those that are being processed, those whose
delay is not over, and how often the rate limiter has put off a key. -/
structure WorkQueue (κ : Type*) where
  queue : List κ
  dirty : List κ
  processing : List κ
  waiting : List κ
  requeues : GoMap κ ℕ

namespace WorkQueue

variable {κ : Type*} [DecidableEq κ]

/-- `NewNamedRateLimitingQueue`. -/
def empty : WorkQueue κ := ⟨[], [], [], [], ∅⟩

def len (q : WorkQueue κ) : ℕ := q.queue.length

def add (q : WorkQueue κ) (k : κ) : WorkQueue κ :=
  if k ∈ q.dirty then q
  else if k ∈ q.processing then { q with dirty := k :: q.dirty }
  else { q with dirty := k :: q.dirty, queue := q.queue ++ [k] }

/-- What `Get` does when `k` is the first in the queue. -/
def take (q : WorkQueue κ) (k : κ) : WorkQueue κ :=
  { q with
    queue := q.queue.tail
    dirty := q.dirty.erase k
    processing := k :: q.processing }

def done (q : WorkQueue κ) (k : κ) : WorkQueue κ :=
  { q with
    processing := q.processing.erase k
    queue := if k ∈ q.dirty then q.queue ++ [k] else q.queue }

def addAfter (q : WorkQueue κ) (k : κ) : WorkQueue κ := { q with waiting := k :: q.waiting }

/-- The delay of a key is over. -/
def ready (q : WorkQueue κ) (k : κ) : WorkQueue κ :=
  ({ q with waiting := q.waiting.erase k } : WorkQueue κ).add k

def numRequeues (q : WorkQueue κ) (k : κ) : ℕ := (q.requeues.lookup k).getD 0

def addRateLimited (q : WorkQueue κ) (k : κ) : WorkQueue κ :=
  ({ q with requeues := q.requeues.insert k (q.numRequeues k + 1) } : WorkQueue κ).addAfter k

def forget (q : WorkQueue κ) (k : κ) : WorkQueue κ := { q with requeues := q.requeues.erase k }

/-- The key is in one of the lists of the queue. -/
def Holds (q : WorkQueue κ) (k : κ) : Prop :=
  k ∈ q.queue ∨ k ∈ q.dirty ∨ k ∈ q.processing ∨ k ∈ q.waiting

section

variable {q : WorkQueue κ} {j k : κ}

omit [DecidableEq κ] in
theorem not_holds_empty (k : κ) : ¬(empty : WorkQueue κ).Holds k := by
  simp [Holds, empty]

theorem holds_add (h : (q.add k).Holds j) : j = k ∨ q.Holds j := by
  unfold add at h
  split_ifs at h
  · exact .inr h
  all_goals
    simp only [Holds, List.mem_cons, List.mem_append, List.not_mem_nil, or_false] at h ⊢
    tauto

theorem holds_take {rest : List κ} (hq : q.queue = k :: rest) (h : (q.take k).Holds j) :
    q.Holds j := by
  have hdirty := List.mem_of_mem_erase (l := q.dirty) (a := j) (b := k)
  simp only [Holds, take, hq, List.tail_cons, List.mem_cons] at h ⊢
  tauto

theorem holds_done (hk : q.Holds k) (h : (q.done k).Holds j) : q.Holds j := by
  have hprocessing := List.mem_of_mem_erase (l := q.processing) (a := j) (b := k)
  by_cases hj : j = k
  · exact hj ▸ hk
  · simp only [Holds, done] at h ⊢
    split_ifs at h
    · rw [List.mem_append, List.mem_singleton] at h
      tauto
    · tauto

theorem holds_ready (hk : k ∈ q.waiting) (h : (q.ready k).Holds j) : q.Holds j := by
  have hwaiting := List.mem_of_mem_erase (l := q.waiting) (a := j) (b := k)
  rcases holds_add h with rfl | h
  · exact .inr (.inr (.inr hk))
  · simp only [Holds] at h ⊢
    tauto

omit [DecidableEq κ] in
theorem holds_addAfter (h : (q.addAfter k).Holds j) : j = k ∨ q.Holds j := by
  simp only [Holds, addAfter, List.mem_cons] at h ⊢
  tauto

theorem holds_addRateLimited (h : (q.addRateLimited k).Holds j) : j = k ∨ q.Holds j :=
  holds_addAfter h

end

end WorkQueue

end Spiderpool
