import Mathlib
import NotificationDispatch.Idempotency
import NotificationDispatch.Lifecycle

/-! # One dispatch of a row at a time

A row is on its way to the provider while something holds it: an enqueue loop that has yet to
`Enqueue` it, an item of it in the queue, or a worker from `Dequeue` to `Send`
(`Sys.carriers`); after `Send`, the worker until it records the outcome (`Sys.settlers`).
`Sys.OneToken` says that each row has at most one such hold at a time, and that while a poller's
due query could return the row, the hold is that poller's own loop, which has yet to write
`queued` (or `workerCtx` is cancelled, and no poller runs a query again before the restart).

The second part needs every poller's `UpdateStatus(queued)` to succeed while `workerCtx` is
live (`keepsPollerMarks`). When one fails the row stays due with its item in the queue, and the
next tick enqueues it again.
-/

namespace NotificationDispatch
set_option autoImplicit false

/-! ## Sums of weights -/

/-- Replacing one element changes the sum of weights by the difference. -/
theorem sum_map_set {α : Type} (w : α → Nat) {l : List α} {i : Nat} {q : α} (h : l[i]? = some q)
    (p : α) : ((l.set i p).map w).sum + w q = (l.map w).sum + w p := by
  induction l generalizing i with
  | nil => cases h
  | cons a l ih =>
    cases i with
    | zero =>
      simp only [List.getElem?_cons_zero, Option.some.injEq] at h
      subst h
      simp only [List.set_cons_zero, List.map_cons, List.sum_cons]
      omega
    | succ i =>
      simp only [List.getElem?_cons_succ] at h
      have := ih h
      simp only [List.set_cons_succ, List.map_cons, List.sum_cons]
      omega

theorem sum_map_concat {α : Type} (w : α → Nat) (l : List α) (p : α) :
    ((l ++ [p]).map w).sum = (l.map w).sum + w p := by
  induction l with
  | nil => simp
  | cons a l ih => simp only [List.cons_append, List.map_cons, List.sum_cons, ih]; omega

theorem sum_map_eq_zero {α : Type} {w : α → Nat} {l : List α} (h : ∀ x ∈ l, w x = 0) :
    (l.map w).sum = 0 := by
  induction l <;> simp_all

theorem single_le_sum_map {α : Type} (w : α → Nat) {l : List α} {x : α} (hx : x ∈ l) :
    w x ≤ (l.map w).sum := by
  induction l with
  | nil => cases hx
  | cons a l ih =>
    rw [List.map_cons, List.sum_cons]
    rcases List.mem_cons.mp hx with rfl | hx
    · omega
    · have := ih hx; omega

/-- Rows with pairwise distinct ids hold each id at most once. -/
theorem countP_id_le_one {l : List Notification} (h : l.Pairwise (fun a b => a.id ≠ b.id))
    (j : Nat) : l.countP (·.id = j) ≤ 1 := by
  induction l with
  | nil => simp
  | cons a l ih =>
    rw [List.pairwise_cons] at h
    rw [List.countP_cons]
    by_cases ha : a.id = j
    · have : l.countP (·.id = j) = 0 :=
        List.countP_eq_zero.mpr fun b hb hbj => h.1 b hb (ha.trans (of_decide_eq_true hbj).symm)
      simp [ha, this]
    · simpa [ha] using ih h.2

/-- The rows a due query returns have distinct ids. -/
theorem Store.QueryResult.ids_distinct {st : Store} (hv : st.Valid) {p : Notification → Bool}
    {found : List Notification} (h : st.QueryResult p found) :
    found.Pairwise (fun a b => a.id ≠ b.id) :=
  h.2.1.imp_of_mem fun ha hb hne hid => hne <| by
    have ha' := hv.mem_allRows (h.mem ha).1
    rw [hid, hv.mem_allRows (h.mem hb).1] at ha'
    exact (Option.some.inj ha').symm

/-! ## Counting what holds a row -/

namespace PriorityQueue

/-- The items of row `j` in the three buffers. -/
def count (q : PriorityQueue) (j : Nat) : Nat :=
  (q.buffer .high).countP (·.notificationId = j) + (q.buffer .normal).countP (·.notificationId = j) +
    (q.buffer .low).countP (·.notificationId = j)

@[simp] theorem count_empty (j : Nat) : empty.count j = 0 := rfl

theorem count_setBuffer (q : PriorityQueue) (t : Tier) (l : List Item) (j : Nat) :
    (q.setBuffer t l).count j + (q.buffer t).countP (·.notificationId = j) =
      q.count j + l.countP (·.notificationId = j) := by
  cases t <;> simp only [count, setBuffer, buffer] <;> omega

theorem count_enqueue {q q' : PriorityQueue} {it : Item} (h : q.enqueue it = .ok q') (j : Nat) :
    q'.count j = q.count j + if it.notificationId = j then 1 else 0 := by
  obtain ⟨t, -, rfl⟩ := enqueue_ok h
  have := count_setBuffer q t (q.buffer t ++ [it]) j
  simp only [List.countP_append, List.countP_cons, List.countP_nil, decide_eq_true_eq] at this
  omega

theorem count_receive {q q' : PriorityQueue} {t : Tier} {it : Item}
    (h : q.receive t = some (it, q')) (j : Nat) :
    q'.count j + (if it.notificationId = j then 1 else 0) = q.count j := by
  obtain ⟨rest, hb, rfl⟩ := receive_some h
  have := count_setBuffer q t rest j
  simp only [hb, List.countP_cons, decide_eq_true_eq] at this
  omega

theorem count_eq_zero {q : PriorityQueue} {j : Nat}
    (h : ∀ t, ∀ it ∈ q.buffer t, it.notificationId ≠ j) : q.count j = 0 := by
  have hz : ∀ t, (q.buffer t).countP (·.notificationId = j) = 0 := fun t =>
    List.countP_eq_zero.mpr fun it hit hj => h t it hit (by simpa using hj)
  simp only [count, hz]

end PriorityQueue

/-- The holds goroutine `p` has on row `j` before its `Send`: the rows an enqueue loop has yet to
offer, and a worker's item or copy from `Dequeue` to `Send`. -/
def Proc.carries (j : Nat) : Proc → Nat
  | .enqueue _ .offer n rest => (n :: rest).countP (·.id = j)
  | .enqueue _ .mark _ rest => rest.countP (·.id = j)
  | .worker (.fetch it) => if it.notificationId = j then 1 else 0
  | .worker (.claim n) | .worker (.limit n) | .worker (.send n) => if n.id = j then 1 else 0
  | _ => 0

/-- The hold a worker has on row `j` after its `Send`, until it records the outcome. -/
def Proc.settles (j : Nat) : Proc → Nat
  | .worker (.markSent n _) | .worker (.handleFailure n _) => if n.id = j then 1 else 0
  | _ => 0

def Proc.tokens (j : Nat) (p : Proc) : Nat := p.carries j + p.settles j

/-- The rows the loop of poller `k` holds, from the one it offers or marks on. -/
def Proc.loopIds (k : PollKind) : Proc → List Nat
  | .enqueue (.poller k') _ n rest => if k' = k then (n :: rest).map (·.id) else []
  | _ => []

/-- Goroutine `p` is the poller of kind `k`: waiting, or in its enqueue loop. -/
def Proc.ofPoller (k : PollKind) : Proc → Bool
  | .poller k' _ => k' = k
  | .enqueue (.poller k') _ _ _ => k' = k
  | _ => false

theorem Proc.ofPoller_of_mem_loopIds {p : Proc} {k : PollKind} {j : Nat} (h : j ∈ p.loopIds k) :
    p.ofPoller k = true := by
  unfold loopIds at h
  split at h
  · split at h
    · simp_all [ofPoller]
    · cases h
  · cases h

/-- A goroutine whose copies and item are of rows other than `j` holds nothing of `j`. -/
theorem Proc.tokens_eq_zero {p : Proc} {j : Nat} (hc : ∀ c ∈ p.copies, c.id ≠ j)
    (hi : ∀ it, p.item? = some it → it.notificationId ≠ j) : p.tokens j = 0 := by
  have hl : ∀ l : List Notification, (∀ c ∈ l, c.id ≠ j) → l.countP (·.id = j) = 0 :=
    fun l h => List.countP_eq_zero.mpr fun c hc => by simpa using h c hc
  have hn : ∀ n ∈ p.copies, (if n.id = j then 1 else 0) = 0 := fun n h => if_neg (hc n h)
  cases p with
  | enqueue o ph n rest =>
    cases ph
    · exact hl (n :: rest) hc
    · exact hl rest fun c h => hc c (List.mem_cons_of_mem _ h)
  | worker ph =>
    cases ph <;> simp only [tokens, carries, settles, Nat.add_zero, Nat.zero_add] <;>
      first | rfl | exact if_neg (hi _ rfl) | exact hn _ (List.mem_singleton_self _)
  | _ => rfl

theorem Proc.tokens_offer (o : Owner) (n : Notification) (rest : List Notification) (j : Nat) :
    (Proc.enqueue o .offer n rest).tokens j = rest.countP (·.id = j) + if n.id = j then 1 else 0 := by
  simp [tokens, carries, settles, List.countP_cons]

@[simp] theorem Proc.tokens_mark (o : Owner) (n : Notification) (rest : List Notification) (j : Nat) :
    (Proc.enqueue o .mark n rest).tokens j = rest.countP (·.id = j) := rfl

theorem Owner.next_carries (o : Owner) (n : Notification) (rest : List Notification) (j : Nat) :
    (o.next n rest).carries j = rest.countP (·.id = j) := by
  cases rest <;> cases o <;> rfl

theorem Owner.next_settles (o : Owner) (n : Notification) (rest : List Notification) (j : Nat) :
    (o.next n rest).settles j = 0 := by
  cases rest <;> cases o <;> rfl

/-- Where an enqueue loop goes next it holds the rows after the current one. -/
@[simp] theorem Owner.next_tokens (o : Owner) (n : Notification) (rest : List Notification) (j : Nat) :
    (o.next n rest).tokens j = rest.countP (·.id = j) := by
  rw [Proc.tokens, next_carries, next_settles, Nat.add_zero]

/-- Where the loop goes next it still holds the rows after the current one. -/
theorem Owner.next_loopIds (o : Owner) (n' : Notification) {n : Notification} {rest : List Notification}
    {ph : EnqueuePhase} {k : PollKind} {j : Nat} (h : j ∈ (Proc.enqueue o ph n rest).loopIds k) :
    j = n.id ∨ j ∈ (o.next n' rest).loopIds k := by
  cases o with
  | poller k' =>
    simp only [Proc.loopIds] at h
    split at h
    · rcases List.mem_cons.mp h with h | h
      · exact .inl h
      · cases rest with
        | nil => cases h
        | cons m rest => right; simp_all [Owner.next, Proc.loopIds]
    · cases h
  | create | createBatch => cases h

namespace Sys

/-- Row `j`'s holds before `Send`, in the queue and in the goroutines. -/
def carriers (s : Sys) (j : Nat) : Nat := s.queue.count j + (s.procs.map (Proc.carries j)).sum

/-- Row `j`'s holds after `Send`. -/
def settlers (s : Sys) (j : Nat) : Nat := (s.procs.map (Proc.settles j)).sum

def tokens (s : Sys) (j : Nat) : Nat := s.carriers j + s.settlers j

/-- The calls of `Send` for row `j`. -/
def sends (s : Sys) (j : Nat) : Nat := s.sendLog.countP (·.1 = j)

/-- The loop of poller `k` holds row `j`. -/
def LoopHolds (s : Sys) (k : PollKind) (j : Nat) : Prop :=
  ∃ (i : Nat) (p : Proc), s.procs[i]? = some p ∧ j ∈ p.loopIds k

theorem carriers_setProc (s : Sys) {i : Nat} {q : Proc} (hq : s.procs[i]? = some q) (p : Proc)
    (j : Nat) : (s.setProc i p).carriers j + q.carries j = s.carriers j + p.carries j := by
  have := sum_map_set (Proc.carries j) hq p
  simp only [carriers, setProc_procs, setProc_queue]
  omega

theorem settlers_setProc (s : Sys) {i : Nat} {q : Proc} (hq : s.procs[i]? = some q) (p : Proc)
    (j : Nat) : (s.setProc i p).settlers j + q.settles j = s.settlers j + p.settles j := by
  have := sum_map_set (Proc.settles j) hq p
  simp only [settlers, setProc_procs]
  omega

theorem tokens_setProc (s : Sys) {i : Nat} {q : Proc} (hq : s.procs[i]? = some q) (p : Proc)
    (j : Nat) : (s.setProc i p).tokens j + q.tokens j = s.tokens j + p.tokens j := by
  have := carriers_setProc s hq p j
  have := settlers_setProc s hq p j
  simp only [tokens, Proc.tokens]
  omega

@[simp] theorem carriers_spawn (s : Sys) (p : Proc) (j : Nat) :
    (s.spawn p).carriers j = s.carriers j + p.carries j := by
  simp only [carriers, spawn_queue, spawn_procs, sum_map_concat]; omega

@[simp] theorem settlers_spawn (s : Sys) (p : Proc) (j : Nat) :
    (s.spawn p).settlers j = s.settlers j + p.settles j := by
  simp only [settlers, spawn_procs, sum_map_concat]

theorem tokens_spawn (s : Sys) (p : Proc) (j : Nat) :
    (s.spawn p).tokens j = s.tokens j + p.tokens j := by
  simp only [tokens, Proc.tokens, carriers_spawn, settlers_spawn]; omega

theorem carriers_withQueue (s : Sys) (q : PriorityQueue) (j : Nat) :
    (s.withQueue q).carriers j + s.queue.count j = s.carriers j + q.count j := by
  simp only [carriers, withQueue_queue, withQueue_procs]
  omega

theorem tokens_withQueue (s : Sys) (q : PriorityQueue) (j : Nat) :
    (s.withQueue q).tokens j + s.queue.count j = s.tokens j + q.count j := by
  have := carriers_withQueue s q j
  simp only [tokens, settlers, withQueue_procs]
  omega

/-- A goroutine's holds are among the state's. -/
theorem tokens_le_of_mem {s : Sys} {p : Proc} (hp : p ∈ s.procs) (j : Nat) : p.tokens j ≤ s.tokens j := by
  have hc := single_le_sum_map (Proc.carries j) hp
  have hs := single_le_sum_map (Proc.settles j) hp
  simp only [tokens, carriers, settlers, Proc.tokens]
  omega

theorem exists_settler {s : Sys} {j : Nat} (h : 1 ≤ s.settlers j) : ∃ p ∈ s.procs, 1 ≤ p.settles j := by
  by_contra hn
  push_neg at hn
  have : s.settlers j = 0 := sum_map_eq_zero fun p hp => by have := hn p hp; omega
  omega

/-- Nothing in the queue or the goroutines holds row `j`. -/
theorem tokens_eq_zero {s : Sys} {j : Nat} (hq : s.queue.count j = 0)
    (hp : ∀ p ∈ s.procs, p.tokens j = 0) : s.tokens j = 0 := by
  have hc : (s.procs.map (Proc.carries j)).sum = 0 :=
    sum_map_eq_zero fun p hp' => by have := hp p hp'; simp only [Proc.tokens] at this; omega
  have hs : (s.procs.map (Proc.settles j)).sum = 0 :=
    sum_map_eq_zero fun p hp' => by have := hp p hp'; simp only [Proc.tokens] at this; omega
  simp only [tokens, carriers, settlers, hq, hc, hs]

theorem loopHolds_setProc {s : Sys} {i : Nat} {q : Proc} (hq : s.procs[i]? = some q) {p : Proc}
    {k : PollKind} {j : Nat} (h : s.LoopHolds k j) :
    (s.setProc i p).LoopHolds k j ∨ j ∈ q.loopIds k := by
  obtain ⟨i', r, hr, hj⟩ := h
  by_cases hi : i' = i
  · subst hi; rw [hq] at hr; cases hr; exact .inr hj
  · exact .inl ⟨i', r, by simp [List.getElem?_set, Ne.symm hi, hr], hj⟩

theorem loopHolds_set_self {s : Sys} {i : Nat} {q p : Proc} (hq : s.procs[i]? = some q)
    {k : PollKind} {j : Nat} (hj : j ∈ p.loopIds k) : (s.setProc i p).LoopHolds k j :=
  ⟨i, p, List.getElem?_set_self (List.getElem?_eq_some_iff.mp hq).1, hj⟩

theorem loopHolds_spawn {s : Sys} {p : Proc} {k : PollKind} {j : Nat} (h : s.LoopHolds k j) :
    (s.spawn p).LoopHolds k j :=
  let ⟨i, r, hr, hj⟩ := h
  ⟨i, r, by rw [spawn_procs, List.getElem?_append_left (List.getElem?_eq_some_iff.mp hr).1, hr], hj⟩

end Sys

/-- A fresh id has no holds. -/
theorem Sys.Coherent.tokens_fresh {s : Sys} (hc : s.Coherent) {j : Nat} (hj : s.store.nextId ≤ j) :
    s.tokens j = 0 := by
  have hlt : ∀ {j'} {m : Notification}, s.store.rows j' = some m → j' ≠ j := fun hm h =>
    absurd (hc.store.lt_nextId hm) (by omega)
  refine Sys.tokens_eq_zero (PriorityQueue.count_eq_zero fun t it hit => ?_) fun p hp => ?_
  · obtain ⟨m, hm, -⟩ := hc.queued t it hit
    exact hlt hm
  · refine Proc.tokens_eq_zero (fun c hcp => ?_) (fun it hit => ?_)
    · obtain ⟨m, hm, -⟩ := (hc.procs p hp).1 c hcp
      exact hlt hm
    · obtain ⟨m, hm, -⟩ := (hc.procs p hp).2 it hit
      exact hlt hm

/-! ## What a poller's query admits -/

/-- Row `j` is one the due query of `k` can return, at some time. -/
def Store.Admits (st : Store) (k : PollKind) (j : Nat) : Prop :=
  ∃ n, st.rows j = some n ∧ k.admits n = true

theorem PollKind.admits_status {k : PollKind} {n : Notification} (h : k.admits n = true) :
    n.status = .failed ∨ n.status = .scheduled := by
  cases k <;> simp_all [PollKind.admits]

/-- No row is admitted by both pollers. -/
theorem PollKind.admits_unique {k k' : PollKind} {n : Notification} (h : k.admits n = true)
    (h' : k'.admits n = true) : k = k' := by
  cases k <;> cases k' <;> simp_all [PollKind.admits]

/-- An `UPDATE` that writes neither `failed` nor `scheduled` admits no new row. -/
theorem Store.admits_of_update {st : Store} {id : Nat} {f : Notification → Notification} {now : Int}
    (hf : ∀ n, (f n).status ≠ .failed ∧ (f n).status ≠ .scheduled) {k : PollKind} {j : Nat}
    (h : (st.update id f now).Admits k j) : st.Admits k j := by
  obtain ⟨m, hm, ha⟩ := h
  obtain ⟨n, hn, ⟨-, rfl⟩ | rfl⟩ := update_rows_some hm
  · exact ((PollKind.admits_status ha).elim (hf n).1 (hf n).2).elim
  · exact ⟨_, hn, ha⟩

theorem Store.admits_insert {st : Store} {n : Notification} {k : PollKind} {j : Nat}
    (h : (st.insert n).Admits k j) : (j = n.id ∧ k.admits n = true) ∨ st.Admits k j := by
  obtain ⟨m, hm, ha⟩ := h
  rcases insert_rows_some hm with ⟨rfl, rfl⟩ | hm
  exacts [.inl ⟨rfl, ha⟩, .inr ⟨m, hm, ha⟩]

theorem Store.admits_update_of_ne {st : Store} {id : Nat} {f : Notification → Notification}
    {now : Int} {k : PollKind} {j : Nat} (h : (st.update id f now).Admits k j) (hj : j ≠ id) :
    st.Admits k j := by
  obtain ⟨m, hm, ha⟩ := h
  exact ⟨m, by rwa [update_rows_of_ne _ _ _ hj] at hm, ha⟩

/-- The row an `UPDATE` writes neither `failed` nor `scheduled` into is admitted by no poller. -/
theorem Store.not_admits_update {st : Store} {id : Nat} {f : Notification → Notification}
    {now : Int} (hf : ∀ n, (f n).status ≠ .failed ∧ (f n).status ≠ .scheduled) (k : PollKind) :
    ¬ (st.update id f now).Admits k id := by
  rintro ⟨m, hm, ha⟩
  rw [update_rows_self] at hm
  obtain ⟨n, -, rfl⟩ := Option.map_eq_some'.mp hm
  exact ((PollKind.admits_status ha).elim (hf n).1 (hf n).2).elim

/-- A row built from a request without `scheduled_at` is `pending`, which no poller admits. -/
theorem Service.buildNotification_admits {req : CreateNotificationRequest} {key : String}
    {b : Option Nat} {id : Nat} {now : Int} (h : req.scheduledAt.isSome = false) (k : PollKind) :
    k.admits (buildNotification req key b id now) = false := by
  cases k <;> simp [PollKind.admits, buildNotification, h]

theorem Service.batchChildren_distinct (reqs : List CreateNotificationRequest) (b firstId : Nat)
    (now : Int) : (batchChildren reqs b firstId now).Pairwise (fun a c => a.id ≠ c.id) :=
  List.pairwise_iff_getElem.mpr fun a c ha hc hac => by
    rw [batchChildren_id _ _ _ _ a ha, batchChildren_id _ _ _ _ c hc]; omega

/-- A child `CreateBatch` enqueues (one with no `scheduled_at`) is admitted by no poller. -/
theorem Service.batchChildren_admits {reqs : List CreateNotificationRequest} {b firstId : Nat}
    {now : Int} {x : Notification} (hx : x ∈ batchChildren reqs b firstId now)
    (hs : x.scheduledAt.isNone = true) (k : PollKind) : k.admits x = false := by
  obtain ⟨i, hi, rfl⟩ := List.mem_mapIdx.mp hx
  exact buildNotification_admits (by simpa [buildNotification] using hs) k

/-! ## One poller of each kind -/

theorem Owner.next_ofPoller (k : PollKind) (o : Owner) (n : Notification) (rest : List Notification)
    (ph : EnqueuePhase) (m : Notification) :
    (o.next n rest).ofPoller k = (Proc.enqueue o ph m rest).ofPoller k := by
  cases rest <;> cases o <;> rfl

theorem countP_set_of_eq {α : Type} {f : α → Bool} {l : List α} {i : Nat} {q p : α}
    (hq : l[i]? = some q) (h : f p = f q) : (l.set i p).countP f = l.countP f := by
  obtain ⟨hi, rfl⟩ := List.getElem?_eq_some_iff.mp hq
  rw [List.countP_set _ _ _ _ hi, h]
  have := List.boole_getElem_le_countP f l i hi
  omega

theorem initProcs_ofPoller (cfg : Config) (k : PollKind) :
    (initProcs cfg).countP (Proc.ofPoller k) = 1 := by
  cases k <;> simp [initProcs, List.countP_replicate, Proc.ofPoller]

theorem initProcs_idle (cfg : Config) : ∀ p ∈ initProcs cfg, ∀ j, p.tokens j = 0 := by
  intro p hp j
  rcases List.mem_append.mp hp with hp | hp
  · rw [List.eq_of_mem_replicate hp]; rfl
  · simp only [List.mem_cons, List.mem_singleton, List.not_mem_nil, or_false] at hp
    rcases hp with rfl | rfl <;> rfl

/-- At most one goroutine is the poller of each kind, in every run. -/
theorem Sys.pollers_unique {cfg : Config} {s : Sys} (hr : Reachable cfg s) (k : PollKind) :
    s.procs.countP (Proc.ofPoller k) ≤ 1 := by
  induction hr with
  | init => exact (initProcs_ofPoller cfg k).le
  | @step s s' a _ _ hs ih =>
    have hset : ∀ {i : Nat} {q p : Proc}, s.procs[i]? = some q → p.ofPoller k = q.ofPoller k →
        (s.procs.set i p).countP (Proc.ofPoller k) ≤ 1 :=
      fun hq h => (countP_set_of_eq hq h).trans_le ih
    have hspawn : ∀ {p : Proc}, p.ofPoller k = false →
        (s.procs ++ [p]).countP (Proc.ofPoller k) ≤ 1 :=
      fun h => by simp [h, ih]
    cases step_moves hs with
    | tick | shutdown => exact ih
    | restart => exact (initProcs_ofPoller cfg k).le
    | create req key => exact hspawn (by unfold Service.startCreate; split <;> rfl)
    | createBatch reqs => exact hspawn (by (unfold Service.startCreateBatch; repeat' split) <;> rfl)
    | cancel => exact hspawn rfl
    | lookupHit | lookupMiss | insertConflict | batchFail | cancelFail | dequeueEmpty | workerStop
      | fetchSkip | fetchMissing | limitPanic | limitBurst | limitCancelled | settlePanic
      | workerFail | batchCountsFail | fetchClaim | dequeueHigh | receive | cancelWrite | claim
      | limitGranted | sendOk | sendError | settle | batchCounts | batchWrite | pollFail
      | pollerStop =>
      exact hset ‹_› (by rfl)
    | createFail i req key ph => cases ph <;> exact hset ‹_› (by rfl)
    | insertOk i req key st hp hk => exact hset hp (by split <;> rfl)
    | batchInsert i reqs hp => exact hset hp (by split <;> rfl)
    | cancelFetch i id hp => exact hset hp (by split <;> (try split) <;> rfl)
    | offerOk i o n rest q hp hq => exact hset hp (by cases o <;> rfl)
    | offerRefused i o n rest e hp | markFail i o n rest e hp =>
      exact hset hp (Owner.next_ofPoller k o n rest _ n)
    | markOk i o n rest hp hc => exact hset hp (Owner.next_ofPoller k o _ rest _ n)
    | markSent i n msgId hp hc =>
      split
      · show (s.procs.set i _ ++ [_]).countP _ ≤ 1
        rw [List.countP_append, countP_set_of_eq hp (p := .worker .dequeue) rfl]
        simpa [Proc.ofPoller] using ih
      · exact hset hp rfl
    | poll i k' found hp hc hf => exact hset hp (by cases found <;> rfl)

/-! ## The invariant -/

/-- Goroutine `p` is a poller's enqueue loop about to write `queued`. -/
def Proc.pollerMark : Proc → Bool
  | .enqueue (.poller _) .mark _ _ => true
  | _ => false

/-- The step does not make a poller's `UpdateStatus(queued)` fail while `workerCtx` is live. -/
def keepsPollerMarks (s : Sys) : Action → Bool
  | .fail i _ => s.cancelled || !(s.procs[i]?.any Proc.pollerMark)
  | _ => true

/-- The action makes a store call fail. -/
def Action.injectsFailure : Action → Bool
  | .fail _ _ => true
  | _ => false

theorem keepsPollerMarks_of_injectsFailure {a : Action} (h : a.injectsFailure = false) (s : Sys) :
    keepsPollerMarks s a = true := by
  cases a <;> first | rfl | cases h

/-- A run in which no store call fails keeps the pollers' marks. -/
theorem Reach.keepsPollerMarks_of_exec {cfg : Config} {as : List Action} {s : Sys}
    (hf : as.all (fun a => !a.injectsFailure) = true)
    (h : NotificationDispatch.exec cfg (Sys.init cfg) as = some s) :
    Reach cfg (fun s a => keepsPollerMarks s a = true) s :=
  Reach.exec_of .init (fun a ha t => keepsPollerMarks_of_injectsFailure
    (by simpa using List.all_eq_true.mp hf a ha) t) h

/-- Each row has at most one hold, and a row a poller's query admits is held, if at all, by that
poller's loop (or `workerCtx` is cancelled). -/
structure Sys.OneToken (s : Sys) : Prop where
  once : ∀ j, s.tokens j ≤ 1
  held : ∀ k j, s.store.Admits k j → 1 ≤ s.tokens j → s.LoopHolds k j ∨ s.cancelled = true

namespace Sys.OneToken

variable {s : Sys}

/-- Goroutine `i` moves from `q` to `p` and the queue becomes `Q`, with no more holds on any row;
a row the loop `q` held stays held by `p`, or lost a hold, or is not admitted. -/
theorem step_proc (h : s.OneToken) {i : Nat} {q p : Proc} (hq : s.procs[i]? = some q)
    {Q : PriorityQueue} (hle : ∀ j, Q.count j + p.tokens j ≤ s.queue.count j + q.tokens j)
    (hloop : ∀ k j, j ∈ q.loopIds k → j ∈ p.loopIds k ∨
      Q.count j + p.tokens j < s.queue.count j + q.tokens j ∨ ¬ s.store.Admits k j ∨
      s.cancelled = true) :
    ((s.withQueue Q).setProc i p).OneToken := by
  have ht : ∀ j, ((s.withQueue Q).setProc i p).tokens j + s.queue.count j + q.tokens j =
      s.tokens j + Q.count j + p.tokens j := fun j => by
    have := tokens_setProc (s.withQueue Q) hq p j
    have := tokens_withQueue s Q j
    omega
  refine ⟨fun j => by have := ht j; have := hle j; have := h.once j; omega, fun k j ha hj => ?_⟩
  rcases h.held k j ha (by have := ht j; have := hle j; omega) with hl | hc
  · rcases loopHolds_setProc (s := s.withQueue Q) hq hl with hl | hl
    · exact .inl hl
    · rcases hloop k j hl with hl | hlt | hna | hc
      · exact .inl (loopHolds_set_self (s := s.withQueue Q) hq hl)
      · have := ht j; have := h.once j; omega
      · exact absurd ha hna
      · exact .inr hc
  · exact .inr hc

theorem setProc (h : s.OneToken) {i : Nat} {q p : Proc} (hq : s.procs[i]? = some q)
    (hle : ∀ j, p.tokens j ≤ q.tokens j)
    (hloop : ∀ k j, j ∈ q.loopIds k → j ∈ p.loopIds k ∨ p.tokens j < q.tokens j ∨
      ¬ s.store.Admits k j ∨ s.cancelled = true) :
    (s.setProc i p).OneToken :=
  h.step_proc hq (Q := s.queue) (fun j => Nat.add_le_add_left (hle j) _)
    fun k j hj => (hloop k j hj).imp_right (Or.imp_left (Nat.add_lt_add_left · _))

/-- A goroutine that held nothing moves to one that holds nothing. -/
theorem setIdle (h : s.OneToken) {i : Nat} {q p : Proc} (hq : s.procs[i]? = some q)
    (hp : ∀ j, p.tokens j = 0) (hql : ∀ k, q.loopIds k = []) : (s.setProc i p).OneToken :=
  h.setProc hq (fun j => by rw [hp]; exact Nat.zero_le _) fun k j hj => by rw [hql] at hj; cases hj

/-- A goroutine that held nothing takes rows nothing held, each once, and its loop holds every
one of them a poller admits. -/
theorem setProc_take (h : s.OneToken) {i : Nat} {q p : Proc} (hq : s.procs[i]? = some q)
    (hq0 : ∀ j, q.tokens j = 0) (hql : ∀ k, q.loopIds k = [])
    (hp : ∀ j, 1 ≤ p.tokens j →
      s.tokens j = 0 ∧ p.tokens j ≤ 1 ∧ ∀ k, s.store.Admits k j → j ∈ p.loopIds k) :
    (s.setProc i p).OneToken := by
  have ht : ∀ j, (s.setProc i p).tokens j = s.tokens j + p.tokens j := fun j => by
    have := tokens_setProc s hq p j
    rw [hq0] at this
    omega
  refine ⟨fun j => ?_, fun k j ha hj => ?_⟩
  · rw [ht]
    by_cases h1 : 1 ≤ p.tokens j
    · have := hp j h1; omega
    · have := h.once j; omega
  · by_cases h1 : 1 ≤ p.tokens j
    · exact .inl (loopHolds_set_self hq ((hp j h1).2.2 k ha))
    · rw [ht] at hj
      rcases h.held k j ha (by omega) with hl | hc
      · rcases loopHolds_setProc hq hl with hl | hl
        · exact .inl hl
        · rw [hql] at hl; cases hl
      · exact .inr hc

/-- Goroutine `i` gives up its hold on row `j`; then nothing holds `j`. -/
theorem tokens_drop (h : s.OneToken) {i : Nat} {q p : Proc} (hq : s.procs[i]? = some q)
    (hp : ∀ j, p.tokens j = 0) {j : Nat} (hj : 1 ≤ q.tokens j) : (s.setProc i p).tokens j = 0 := by
  have ht := tokens_setProc s hq p j
  have := h.once j
  rw [hp] at ht
  omega

theorem withStore (h : s.OneToken) {st : Store}
    (hadm : ∀ k j, st.Admits k j → 1 ≤ s.tokens j → s.store.Admits k j) :
    (s.withStore st).OneToken :=
  ⟨h.once, fun k j ha hj => h.held k j (hadm k j ha hj) hj⟩

/-- An `UPDATE` that writes neither `failed` nor `scheduled`. -/
theorem update (h : s.OneToken) {id : Nat} {f : Notification → Notification} {now : Int}
    (hf : ∀ n, (f n).status ≠ .failed ∧ (f n).status ≠ .scheduled) :
    (s.withStore (s.store.update id f now)).OneToken :=
  h.withStore fun _ _ ha _ => Store.admits_of_update hf ha

theorem spawn (h : s.OneToken) {p : Proc} (hp : ∀ j, p.tokens j = 0) : (s.spawn p).OneToken := by
  refine ⟨fun j => by rw [tokens_spawn, hp]; exact h.once j, fun k j ha hj => ?_⟩
  rw [tokens_spawn, hp] at hj
  exact (h.held k j ha hj).imp_left loopHolds_spawn

/-- While the poller of kind `k` waits for its tick and `workerCtx` is live, nothing holds a row
its query admits. -/
theorem tokens_of_poll (h : s.OneToken) {k : PollKind} (hu : s.procs.countP (Proc.ofPoller k) ≤ 1)
    {i : Nat} (hp : s.procs[i]? = some (.poller k .wait)) (hc : s.cancelled = false) {j : Nat}
    (ha : s.store.Admits k j) : s.tokens j = 0 := by
  by_contra hj
  rcases h.held k j ha (by omega) with ⟨i', p', hp', hl⟩ | hc'
  · have hi := index_eq_of_countP_le_one hu hp hp' (by simp [Proc.ofPoller])
      (Proc.ofPoller_of_mem_loopIds hl)
    subst hi
    rw [hp] at hp'
    cases hp'
    cases hl
  · rw [hc] at hc'; cases hc'

/-- A state in which nothing holds any row. -/
theorem of_idle (hq : ∀ j, s.queue.count j = 0) (hp : ∀ p ∈ s.procs, ∀ j, p.tokens j = 0) :
    s.OneToken := by
  have h0 : ∀ j, s.tokens j = 0 := fun j => tokens_eq_zero (hq j) fun p hp' => hp p hp' j
  exact ⟨fun j => by rw [h0]; exact Nat.zero_le _, fun k j _ hj => by rw [h0] at hj; cases hj⟩

theorem init (cfg : Config) : (Sys.init cfg).OneToken :=
  of_idle PriorityQueue.count_empty (initProcs_idle cfg)

/-- Every step of a run that keeps the pollers' marks keeps one hold per row. -/
theorem step (h : s.OneToken) (hco : s.Coherent) (hu : ∀ k, s.procs.countP (Proc.ofPoller k) ≤ 1)
    {cfg : Config} {a : Action} {s' : Sys} (hP : keepsPollerMarks s a = true)
    (hm : Moves cfg s a s') : s'.OneToken := by
  cases hm with
  | tick => exact ⟨h.once, h.held⟩
  | shutdown => exact ⟨h.once, fun _ _ _ _ => .inr rfl⟩
  | restart => exact of_idle PriorityQueue.count_empty (initProcs_idle cfg)
  | create req key => exact h.spawn fun _ => by unfold Service.startCreate; split <;> rfl
  | createBatch reqs =>
    exact h.spawn fun _ => by (unfold Service.startCreateBatch; repeat' split) <;> rfl
  | cancel => exact h.spawn fun _ => rfl
  | lookupHit | lookupMiss | insertConflict | batchFail | cancelFail | dequeueEmpty | workerStop
    | fetchSkip | fetchMissing | limitPanic | limitBurst | limitCancelled | settlePanic
    | workerFail | batchCounts | batchCountsFail | pollFail | pollerStop =>
    exact h.setIdle ‹_› (by intro; rfl) (by intro; rfl)
  | createFail i req key ph => cases ph <;> exact h.setIdle ‹_› (by intro; rfl) (by intro; rfl)
  | cancelFetch i id hp =>
    exact h.setIdle hp (fun _ => by split <;> (try split) <;> rfl) (by intro; rfl)
  | insertOk i req key st hp hk =>
    obtain ⟨rfl, -⟩ := Store.create_ok hk
    set n := Service.buildNotification req key none s.store.nextId s.now with hn
    have hs : (s.withStore (s.store.insert n)).OneToken := h.withStore fun k j ha hj => by
      rcases Store.admits_insert ha with ⟨rfl, -⟩ | ha
      · have := hco.tokens_fresh (j := n.id) (Nat.le_refl _); omega
      · exact ha
    split
    · exact hs.setIdle hp (by intro; rfl) (by intro; rfl)
    · rename_i hsch
      refine hs.setProc_take hp (by intro; rfl) (by intro; rfl) fun j hj => ?_
      simp only [Proc.tokens, Proc.carries, Proc.settles, List.countP_singleton,
        decide_eq_true_eq, Nat.add_zero] at hj ⊢
      split at hj
      · rename_i hj'
        subst hj'
        refine ⟨hco.tokens_fresh (Nat.le_refl _), by simp, fun k ⟨m, hm, ha⟩ => ?_⟩
        simp only [withStore_store, Store.insert_rows, if_true, Option.some.injEq] at hm
        subst hm
        rw [Service.buildNotification_admits (Bool.eq_false_iff.mpr hsch)] at ha
        cases ha
      · cases hj
  | batchInsert i reqs hp =>
    have hid := Service.batchChildren_id reqs s.store.nextBatchId s.store.nextId s.now
    have hge := Service.batchChildren_id_ge reqs s.store.nextBatchId s.store.nextId s.now
    have hv := hco.store.createBatch (Service.newBatch s.store.nextBatchId reqs.length s.now) hid
    have hs : (s.withStore (s.store.createBatch (Service.newBatch s.store.nextBatchId reqs.length s.now)
        (Service.batchChildren reqs s.store.nextBatchId s.store.nextId s.now))).OneToken :=
      h.withStore fun k j ⟨m, hm, ha⟩ hj => by
        rcases Store.createBatch_rows_some hm with hmn | hm'
        · have hjm := hv.ids j m hm
          rw [hco.tokens_fresh (hjm ▸ hge m hmn)] at hj; cases hj
        · exact ⟨m, hm', ha⟩
    refine hs.setProc_take hp (by intro; rfl) (by intro; rfl) ?_
    split
    · intro j hj; cases hj
    · rename_i m rest hf
      intro j hj
      simp only [Proc.tokens, Proc.settles, Nat.add_zero] at hj ⊢
      obtain ⟨x, hx, hxj⟩ := List.countP_pos_iff.mp hj
      simp only [decide_eq_true_eq] at hxj
      subst hxj
      have hx' : x ∈ (Service.batchChildren reqs s.store.nextBatchId s.store.nextId s.now).filter
          (·.scheduledAt.isNone) := hf ▸ hx
      rw [List.mem_filter] at hx'
      refine ⟨hco.tokens_fresh (hge x hx'.1), ?_, fun k ⟨y, hy, ha⟩ => ?_⟩
      · exact countP_id_le_one (hf ▸ (Service.batchChildren_distinct _ _ _ _).filter _) x.id
      · rw [withStore_store, Store.createBatch_rows_mem _ hid hx'.1] at hy
        cases hy
        rw [Service.batchChildren_admits hx'.1 hx'.2] at ha
        cases ha
  | cancelWrite i id n hp =>
    exact (h.update fun _ => ⟨by simp, by simp⟩).setIdle hp (by intro; rfl) (by intro; rfl)
  | offerOk i o n rest q hp hq =>
    refine h.step_proc hp (fun j => ?_) fun k j hj => .inl (by cases o <;> exact hj)
    have := PriorityQueue.count_enqueue hq j
    simp only [Proc.tokens_mark, Proc.tokens_offer, Notification.item] at this ⊢
    omega
  | offerRefused i o n rest e hp hq =>
    refine h.setProc hp (fun j => ?_) fun k j hj => ?_
    · simp only [Owner.next_tokens, Proc.tokens_offer]
      omega
    · rcases Owner.next_loopIds o n hj with rfl | hj
      · exact .inr (.inl (by simp [Proc.tokens_offer]))
      · exact .inl hj
  | markOk i o n rest hp hc =>
    have hf : ∀ m : Notification, ({ m with status := .queued } : Notification).status ≠ .failed ∧
        ({ m with status := .queued } : Notification).status ≠ .scheduled := fun _ => ⟨by simp, by simp⟩
    refine (h.update hf).setProc hp (fun j => by simp) fun k j hj => ?_
    · rcases Owner.next_loopIds o _ hj with rfl | hj
      · exact .inr (.inr (.inl (Store.not_admits_update hf k)))
      · exact .inl hj
  | markFail i o n rest msg hp =>
    refine h.setProc hp (fun j => by simp) fun k j hj => ?_
    · cases o with
      | poller k' =>
        have hcan : s.cancelled = true := by
          simpa [keepsPollerMarks, hp, Proc.pollerMark] using hP
        exact .inr (.inr (.inr hcan))
      | create | createBatch => cases hj
  | dequeueHigh i it q hp hq | receive i t it q hp hq =>
    refine h.step_proc hp (fun j => ?_) (by intro _ _ hj; cases hj)
    have := PriorityQueue.count_receive hq j
    simp only [Proc.tokens, Proc.carries, Proc.settles]
    omega
  | fetchClaim i it n hp hc hn hs =>
    refine h.setProc hp (fun j => ?_) (by intro _ _ hj; cases hj)
    simp only [Proc.tokens, Proc.carries, Proc.settles, hco.store.ids _ _ hn, Nat.le_refl]
  | claim i n hp hc =>
    exact (h.update fun _ => ⟨by simp, by simp⟩).setProc hp (fun _ => Nat.le_refl _)
      (by intro _ _ hj; cases hj)
  | limitGranted i n hp => exact h.setProc hp (fun _ => Nat.le_refl _) (by intro _ _ hj; cases hj)
  | sendOk i n msgId hp | sendError i n err hp =>
    have h' : { s with sendLog := s.sendLog ++ [(n.id, s.now)] }.OneToken := ⟨h.once, h.held⟩
    refine h'.setProc hp (fun j => ?_) (by intro _ _ hj; cases hj)
    simp only [Proc.tokens, Proc.carries, Proc.settles]
    omega
  | markSent i n msgId hp hc =>
    have h' : ((s.withStore (s.store.markSent n.id msgId s.now s.now)).setProc i
        (.worker .dequeue)).OneToken :=
      (h.update fun _ => ⟨by simp, by simp⟩).setIdle hp (by intro; rfl) (by intro; rfl)
    split
    · exact h'.spawn fun _ => rfl
    · exact h'
  | settle i n err st hp hc hf =>
    have h1 := h.setIdle hp (p := .worker .dequeue) (by intro; rfl) (by intro; rfl)
    have h0 : (s.setProc i (.worker .dequeue)).tokens n.id = 0 :=
      h.tokens_drop hp (by intro; rfl) (by simp [Proc.tokens, Proc.carries, Proc.settles])
    rcases Worker.handleFailure_some hf with ⟨-, rfl⟩ | ⟨-, d, -, rfl⟩ <;>
      exact h1.withStore fun k j ha hj => Store.admits_update_of_ne ha fun hjn => by
        subst hjn; omega
  | batchWrite i b c t hp =>
    have hb : (s.withStore (s.store.writeBatchCounts b c t)).OneToken :=
      h.withStore fun _ _ ha _ => ha
    exact hb.setIdle hp (by intro; rfl) (by intro; rfl)
  | poll i k found hp hcan hf =>
    cases found with
    | nil => exact h.setIdle hp (by intro; rfl) (by intro; rfl)
    | cons m rest =>
      refine h.setProc_take hp (by intro; rfl) (by intro; rfl) fun j hj => ?_
      simp only [Poller.enqueueAll, Proc.tokens, Proc.carries, Proc.settles, Nat.add_zero] at hj ⊢
      obtain ⟨x, hx, hxj⟩ := List.countP_pos_iff.mp hj
      simp only [decide_eq_true_eq] at hxj
      subst hxj
      obtain ⟨hrow, hdue⟩ := hf.mem hx
      have hrow' := hco.store.mem_allRows hrow
      refine ⟨h.tokens_of_poll (hu k) hp hcan ⟨x, hrow', PollKind.admits_of_due hdue⟩,
        countP_id_le_one (hf.ids_distinct hco.store) x.id, fun k' ⟨y, hy, ha⟩ => ?_⟩
      rw [hrow'] at hy
      cases hy
      cases PollKind.admits_unique (PollKind.admits_of_due hdue) ha
      simp only [Proc.loopIds, if_true]
      exact List.mem_map_of_mem _ hx

theorem of_reach {cfg : Config} (hr : Reach cfg (fun s a => keepsPollerMarks s a = true) s) :
    s.OneToken := by
  induction hr with
  | init => exact init cfg
  | step hr hP hs ih =>
    exact ih.step (Sys.Coherent.of_reach hr) (Sys.pollers_unique hr.reachable) hP (step_moves hs)

end Sys.OneToken

/-! ## A row with no hold

Only a hold moves a `pending` or `queued` row on, since no due query selects those statuses.
An enqueue loop's `UpdateStatus(queued)` is blind, and can land after a worker has dispatched
and settled the row, which is then `queued` with no hold left. -/

/-- Create's item is dequeued and sent before Create writes `queued`. -/
def lateMark : List Action :=
  [.create ⟨channelSMS, "+905551234567", "Hello", priorityHigh, none⟩ "", .step 17, .step 17,
    .step 0, .step 0, .step 0, .step 0, .reply 0 (.ok "msg-1"), .step 0, .step 17]

theorem late_mark_strands_row :
    Reachable Config.default (reached Config.default lateMark) ∧
      (reached Config.default lateMark).sendLog = [(0, 0)] ∧
      ((reached Config.default lateMark).store.rows 0).map (·.status) = some .queued ∧
      (reached Config.default lateMark).tokens 0 = 0 ∧
      ∀ k, ¬ (reached Config.default lateMark).store.Admits k 0 := by
  have hq : ((reached Config.default lateMark).store.rows 0).map (·.status) = some .queued := by
    decide
  refine ⟨Reachable.reached (by decide), by decide, hq, by decide, fun k ⟨n, hn, ha⟩ => ?_⟩
  rw [hn] at hq
  rcases PollKind.admits_status ha with h | h <;> simp_all

end NotificationDispatch
