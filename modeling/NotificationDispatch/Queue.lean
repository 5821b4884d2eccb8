import NotificationDispatch.Domain

/-! # The priority queue (`internal/queue/priority_queue.go`)

Three bounded FIFO buffers. `PriorityQueue.enqueue` is `Enqueue`: one non-blocking send per
tier, `ErrQueueFull` when the tier is full, `unknown priority` for any other priority.
`Dequeue` is two selects, and the dispatcher runs them as two separate steps:
`PriorityQueue.dequeueHigh` is step 1, a non-blocking receive on the high tier, and
`PriorityQueue.receive` is one ready case of step 2's blocking select.

`QueueSys` is the queue alone under any number of producers and consumers, each consumer
between its two selects when `selecting`. Go's `select` picks any ready case, so step 2 may
receive from any non-empty tier. The ghost counter `highIn` numbers the items put on the high
tier. A consumer records it in its `mark` when step 1 finds the high tier empty.

* `select_lower_only_passes_newer_high`: a consumer takes a normal or low item while the high
  tier is non-empty only when every high item then queued arrived after its own step 1.
* `select_lower_while_high_nonempty`: that does happen. A high item can arrive between the
  two selects and lose the second one to an older normal item.
-/

namespace NotificationDispatch
set_option autoImplicit false

/-! ## The buffers -/

/-- The three buffered channels of `queue.New`. -/
inductive Tier
  | high
  | normal
  | low
  deriving DecidableEq, Repr

/-- The buffer sizes of `queue.New`. -/
def Tier.capacity : Tier → Nat
  | .high => 1000
  | .normal => 5000
  | .low => 2000

/-- The arm of `Enqueue`'s `switch item.Priority` a priority selects; `none` is `default`. -/
def tierOf (p : Priority) : Option Tier :=
  if p = priorityHigh then some .high
  else if p = priorityNormal then some .normal
  else if p = priorityLow then some .low
  else none

theorem tierOf_isSome {p : Priority} (h : p.isValid) : (tierOf p).isSome := by
  simp only [Priority.isValid, Bool.or_eq_true, decide_eq_true_eq] at h
  unfold tierOf
  rcases h with (h | h) | h <;> simp [h, priorityHigh, priorityNormal, priorityLow]

/-- `queue.PriorityQueue`. -/
structure PriorityQueue where
  high : List Item
  normal : List Item
  low : List Item
  deriving DecidableEq, Repr

namespace PriorityQueue

/-- `queue.New()`: three empty buffers. -/
def empty : PriorityQueue := ⟨[], [], []⟩

def buffer (q : PriorityQueue) : Tier → List Item
  | .high => q.high
  | .normal => q.normal
  | .low => q.low

def setBuffer (q : PriorityQueue) : Tier → List Item → PriorityQueue
  | .high, l => { q with high := l }
  | .normal, l => { q with normal := l }
  | .low, l => { q with low := l }

@[simp] theorem buffer_setBuffer_self (q : PriorityQueue) (t : Tier) (l : List Item) :
    (q.setBuffer t l).buffer t = l := by
  cases t <;> rfl

theorem buffer_setBuffer_of_ne (q : PriorityQueue) {t u : Tier} (l : List Item) (h : u ≠ t) :
    (q.setBuffer t l).buffer u = q.buffer u := by
  cases t <;> cases u <;> first | rfl | exact absurd rfl h

/-- One arm of `Enqueue`: `case q.<tier> <- item` or, the buffer full, `ErrQueueFull`. -/
def offer (q : PriorityQueue) (t : Tier) (item : Item) : Except Error PriorityQueue :=
  if (q.buffer t).length < t.capacity then .ok (q.setBuffer t (q.buffer t ++ [item]))
  else .error (.domain .queueFull)

/-- `PriorityQueue.Enqueue`. -/
def enqueue (q : PriorityQueue) (item : Item) : Except Error PriorityQueue :=
  match tierOf item.priority with
  | some t => q.offer t item
  | none => .error (.unknownPriority item.priority)

/-- A receive on one tier: its oldest item and the rest. -/
def receive (q : PriorityQueue) (t : Tier) : Option (Item × PriorityQueue) :=
  match q.buffer t with
  | [] => none
  | item :: rest => some (item, q.setBuffer t rest)

/-- Step 1 of `Dequeue`: the non-blocking receive on the high tier. -/
def dequeueHigh (q : PriorityQueue) : Option (Item × PriorityQueue) :=
  q.receive .high

theorem enqueue_ok {q q' : PriorityQueue} {item : Item} (h : q.enqueue item = .ok q') :
    ∃ t, tierOf item.priority = some t ∧ q' = q.setBuffer t (q.buffer t ++ [item]) := by
  unfold enqueue offer at h
  split at h
  · rename_i t ht
    split at h
    · cases h; exact ⟨t, ht, rfl⟩
    · cases h
  · cases h

theorem receive_some {q q' : PriorityQueue} {t : Tier} {item : Item}
    (h : q.receive t = some (item, q')) :
    ∃ rest, q.buffer t = item :: rest ∧ q' = q.setBuffer t rest := by
  unfold receive at h
  split at h
  · cases h
  · rename_i it rest hb
    cases h; exact ⟨rest, hb, rfl⟩

/-- A valid priority never reaches `Enqueue`'s `unknown priority` branch. -/
theorem enqueue_ne_unknown {q : PriorityQueue} {item : Item} (h : item.priority.isValid)
    (p : Priority) : q.enqueue item ≠ .error (.unknownPriority p) := by
  obtain ⟨t, ht⟩ := Option.isSome_iff_exists.mp (tierOf_isSome h)
  simp only [enqueue, ht, offer]
  split <;> simp

theorem length_setBuffer (q : PriorityQueue) (t u : Tier) (l : List Item) :
    ((q.setBuffer t l).buffer u).length =
      if u = t then l.length else (q.buffer u).length := by
  split
  · subst u; simp
  · rw [buffer_setBuffer_of_ne _ _ ‹_›]

theorem enqueue_length {q q' : PriorityQueue} {item : Item} (h : q.enqueue item = .ok q')
    (u : Tier) : (q'.buffer u).length =
      (q.buffer u).length + if tierOf item.priority = some u then 1 else 0 := by
  obtain ⟨t, ht, rfl⟩ := enqueue_ok h
  rw [length_setBuffer, ht]
  by_cases hu : u = t
  · subst hu; simp
  · simp [hu, Ne.symm hu]

theorem receive_length {q q' : PriorityQueue} {t : Tier} {item : Item}
    (h : q.receive t = some (item, q')) (u : Tier) :
    (q'.buffer u).length + (if u = t then 1 else 0) = (q.buffer u).length := by
  obtain ⟨rest, hb, rfl⟩ := receive_some h
  rw [length_setBuffer]
  by_cases hu : u = t
  · subst hu; simp [hb]
  · simp [hu]

theorem enqueue_mem {q q' : PriorityQueue} {item it : Item} (h : q.enqueue item = .ok q')
    {u : Tier} (hit : it ∈ q'.buffer u) : it = item ∨ it ∈ q.buffer u := by
  obtain ⟨t, -, rfl⟩ := enqueue_ok h
  by_cases hu : u = t
  · subst hu
    simp only [buffer_setBuffer_self, List.mem_append, List.mem_singleton] at hit
    exact hit.symm
  · rw [buffer_setBuffer_of_ne _ _ hu] at hit
    exact .inr hit

theorem receive_mem {q q' : PriorityQueue} {t : Tier} {item : Item}
    (h : q.receive t = some (item, q')) :
    item ∈ q.buffer t ∧ ∀ u it, it ∈ q'.buffer u → it ∈ q.buffer u := by
  obtain ⟨rest, hb, rfl⟩ := receive_some h
  refine ⟨by simp [hb], fun u it hit => ?_⟩
  by_cases hu : u = t
  · subst hu; simp only [buffer_setBuffer_self] at hit; simp [hb, hit]
  · rwa [buffer_setBuffer_of_ne _ _ hu] at hit

end PriorityQueue

/-! ## The queue under concurrent producers and consumers -/

theorem getElem?_set_eq_some {α : Type} {l : List α} {i j : Nat} {c d : α}
    (h : (l.set i c)[j]? = some d) : (i = j ∧ d = c) ∨ l[j]? = some d := by
  rw [List.getElem?_set] at h
  split at h
  · split at h
    · cases h; exact .inl ⟨‹_›, rfl⟩
    · cases h
  · exact .inr h


/-- A consumer's place in `Dequeue`: about to run step 1, blocked in step 2's select (`mark` is
`highIn` when its step 1 found the high tier empty), or returned on `ctx.Done()`. -/
inductive Consumer
  | ready
  | selecting (mark : Nat)
  | stopped
  deriving DecidableEq, Repr

structure QueueSys where
  queue : PriorityQueue
  consumers : List Consumer
  done : Bool
  highIn : Nat
  deriving DecidableEq, Repr

/-- One atomic step: a producer's `Enqueue`, a consumer's step 1, one case of a consumer's
step-2 select, the context's cancellation, or a new consumer calling `Dequeue`. -/
inductive QueueAction
  | enqueue (item : Item)
  | check (i : Nat)
  | select (i : Nat) (t : Tier)
  | cancel
  | stop (i : Nat)
  | join
  deriving DecidableEq, Repr

namespace QueueSys

def init : QueueSys := ⟨PriorityQueue.empty, [], false, 0⟩

def step (s : QueueSys) : QueueAction → Option QueueSys
  | .enqueue item =>
    match s.queue.enqueue item with
    | .ok q => some { s with queue := q,
                             highIn := if tierOf item.priority = some .high then s.highIn + 1 else s.highIn }
    | .error _ => some s
  | .check i =>
    if s.consumers[i]? = some .ready then
      match s.queue.dequeueHigh with
      | some (_, q) => some { s with queue := q }
      | none => some { s with consumers := s.consumers.set i (.selecting s.highIn) }
    else none
  | .select i t =>
    match s.consumers[i]? with
    | some (.selecting _) =>
      (s.queue.receive t).map fun r => { s with queue := r.2, consumers := s.consumers.set i .ready }
    | _ => none
  | .cancel => some { s with done := true }
  | .stop i =>
    match s.consumers[i]? with
    | some (.selecting _) => if s.done then some { s with consumers := s.consumers.set i .stopped } else none
    | _ => none
  | .join => some { s with consumers := s.consumers ++ [.ready] }

def exec (s : QueueSys) : List QueueAction → Option QueueSys
  | [] => some s
  | a :: as => (s.step a).bind fun s' => exec s' as

inductive Reachable : QueueSys → Prop
  | init : Reachable init
  | step {s s' : QueueSys} {a : QueueAction} : Reachable s → s.step a = some s' → Reachable s'

theorem Reachable.exec {s s' : QueueSys} {as : List QueueAction} (hs : Reachable s)
    (h : s.exec as = some s') : Reachable s' := by
  induction as generalizing s with
  | nil => cases h; exact hs
  | cons a as ih =>
    simp only [QueueSys.exec, Option.bind_eq_some] at h
    obtain ⟨s₁, h₁, h₂⟩ := h
    exact ih (hs.step h₁) h₂

/-- The arrival number, among all items ever put on the high tier, of the `j`-th queued one. -/
def arrival (s : QueueSys) (j : Nat) : Nat := s.highIn - (s.queue.buffer .high).length + j

/-- Every queued high item arrived after the step 1 of every consumer now in step 2. -/
def MarksBehind (s : QueueSys) : Prop :=
  (s.queue.buffer .high).length ≤ s.highIn ∧
    ∀ (i m : Nat), s.consumers[i]? = some (.selecting m) →
      m + (s.queue.buffer .high).length ≤ s.highIn

theorem marksBehind_init : init.MarksBehind :=
  ⟨Nat.le_refl 0, fun i m h => by simp [init] at h⟩

theorem marksBehind_step {s s' : QueueSys} {a : QueueAction} (hi : s.MarksBehind)
    (h : s.step a = some s') : s'.MarksBehind := by
  obtain ⟨hlen, hmark⟩ := hi
  cases a with
  | enqueue item =>
    simp only [step] at h
    split at h
    · rename_i q hq
      cases h
      have hl := PriorityQueue.enqueue_length hq .high
      refine ⟨?_, fun i m hm => ?_⟩ <;> dsimp only at * <;> rw [hl] <;> split
      · omega
      · omega
      · have := hmark i m hm; omega
      · have := hmark i m hm; omega
    · cases h; exact ⟨hlen, hmark⟩
  | check i =>
    simp only [step] at h
    split at h
    · split at h
      · rename_i it q hq
        cases h
        have hl := PriorityQueue.receive_length hq .high
        simp only [if_true] at hl
        exact ⟨by dsimp only; omega, fun j m hm => by have := hmark j m hm; dsimp only; omega⟩
      · rename_i hq
        cases h
        have he : (s.queue.buffer .high).length = 0 := by
          simp only [PriorityQueue.dequeueHigh, PriorityQueue.receive] at hq
          split at hq
          · rename_i hb; simp [hb]
          · cases hq
        refine ⟨hlen, fun j m hm => ?_⟩
        rcases getElem?_set_eq_some hm with ⟨-, hc⟩ | hm
        · cases hc; dsimp only; omega
        · exact hmark j m hm
    · cases h
  | select i t =>
    simp only [step] at h
    split at h
    · obtain ⟨⟨it, q⟩, hq, rfl⟩ := Option.map_eq_some'.mp h
      have hl := PriorityQueue.receive_length hq .high
      refine ⟨by dsimp only; omega, fun j m hm => ?_⟩
      rcases getElem?_set_eq_some hm with ⟨-, hc⟩ | hm
      · cases hc
      · have := hmark j m hm; dsimp only; omega
    · cases h
  | cancel => cases h; exact ⟨hlen, hmark⟩
  | stop i =>
    simp only [step] at h
    split at h
    · split at h
      · cases h
        refine ⟨hlen, fun j m hm => ?_⟩
        rcases getElem?_set_eq_some hm with ⟨-, hc⟩ | hm
        · cases hc
        · exact hmark j m hm
      · cases h
    · cases h
  | join =>
    cases h
    refine ⟨hlen, fun j m hm => ?_⟩
    rw [List.getElem?_append] at hm
    split at hm
    · exact hmark j m hm
    · rename_i hj
      have : j - s.consumers.length = 0 ∨ 0 < j - s.consumers.length := Nat.eq_zero_or_pos _
      rcases this with h0 | h0
      · rw [h0] at hm; cases hm
      · rw [List.getElem?_eq_none (by simp; omega)] at hm; cases hm

theorem Reachable.marksBehind {s : QueueSys} (h : Reachable s) : s.MarksBehind := by
  induction h with
  | init => exact marksBehind_init
  | step _ hs ih => exact marksBehind_step ih hs

/-- A take from step 2's select finds every queued high item younger than the consumer's step 1:
a high item already queued when a consumer starts `Dequeue` is never passed over by it. -/
theorem select_lower_only_passes_newer_high {s s' : QueueSys} {i : Nat} {t : Tier}
    (hr : Reachable s) (h : s.step (.select i t) = some s') :
    ∃ m, s.consumers[i]? = some (.selecting m) ∧
      ∀ j < (s.queue.buffer .high).length, m ≤ s.arrival j := by
  simp only [step] at h
  split at h
  · rename_i m hm
    have := hr.marksBehind.2 i m hm
    exact ⟨m, hm, fun j _ => by unfold arrival; omega⟩
  · cases h

theorem select_normal_behind_late_high :
    let s : QueueSys :=
      ⟨⟨[⟨1, channelSMS, priorityHigh⟩], [⟨0, channelSMS, priorityNormal⟩], []⟩, [.selecting 0], false, 1⟩
    Reachable s ∧
      s.step (.select 0 .normal) = some ⟨⟨[⟨1, channelSMS, priorityHigh⟩], [], []⟩, [.ready], false, 1⟩ ∧
      ∃ m, s.consumers[0]? = some (.selecting m) ∧
        ∀ j < (s.queue.buffer .high).length, m ≤ s.arrival j := by
  intro s
  have hr : Reachable s := Reachable.init.exec (by decide : init.exec [.join,
    .enqueue ⟨0, channelSMS, priorityNormal⟩, .check 0, .enqueue ⟨1, channelSMS, priorityHigh⟩] = some s)
  have hs : s.step (.select 0 .normal) =
      some ⟨⟨[⟨1, channelSMS, priorityHigh⟩], [], []⟩, [.ready], false, 1⟩ := by decide
  exact ⟨hr, hs, select_lower_only_passes_newer_high hr hs⟩

/-- The window between the two selects: a normal item is queued, the consumer's step 1 finds
the high tier empty, a high item arrives, and step 2 takes the normal item. -/
theorem select_lower_while_high_nonempty :
    ¬ ∀ (s s' : QueueSys) (i : Nat) (t : Tier), Reachable s → t ≠ .high →
      s.step (.select i t) = some s' → s.queue.buffer .high = [] := by
  intro h
  have hr : init.exec [.join, .enqueue ⟨0, channelSMS, priorityNormal⟩, .check 0,
      .enqueue ⟨1, channelSMS, priorityHigh⟩] =
      some ⟨⟨[⟨1, channelSMS, priorityHigh⟩], [⟨0, channelSMS, priorityNormal⟩], []⟩,
        [.selecting 0], false, 1⟩ := by decide
  have := h _ ⟨⟨[⟨1, channelSMS, priorityHigh⟩], [], []⟩, [.ready], false, 1⟩ 0 .normal
    (Reachable.init.exec hr) (by decide) (by decide)
  exact absurd this (by decide)

end QueueSys

end NotificationDispatch
