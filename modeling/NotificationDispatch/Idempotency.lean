import NotificationDispatch.Coherence

/-! # Idempotency keys

`Create` with a key looks the key up (`GetByIdempotencyKey`) and inserts only on a miss. Two
calls can both miss; the `idempotency_key UNIQUE` index then rejects the later insert, and
`Create` returns that as `persist notification: conflict: ...`. `Sys.KeyOnce K` is what this
gives in every run in which each `Create` with key `K` carries a valid body (`validBodies K`):

* `Store.keyAt` reads a row's key, and at most one row has key `K`;
* every id a goroutine of such a call holds as the key's row (its enqueue loop's rows, the
  notification it returned: `Proc.keyed`) is that row's;
* the call whose insert succeeded, in its enqueue loop or returned with `duplicate = false`
  (`Proc.createdBy`), is one goroutine at most;
* every error such a call returned is `ErrConflict` or a failed lookup or insert
  (`Service.createError`).
-/

namespace NotificationDispatch
set_option autoImplicit false

/-! ## Keys in the store -/

namespace Store

/-- The key of the row at `j`, if there is a row. -/
def keyAt (st : Store) (j : Nat) : Option (Option String) := (st.rows j).map (·.idempotencyKey)

/-- At most one row has key `K`. -/
def KeyUnique (st : Store) (K : String) : Prop :=
  ∀ j j', st.keyAt j = some (some K) → st.keyAt j' = some (some K) → j = j'

theorem keyAt_update (st : Store) (id : Nat) (f : Notification → Notification) (now : Int)
    (hf : ∀ n, (f n).idempotencyKey = n.idempotencyKey) : (st.update id f now).keyAt = st.keyAt := by
  funext j
  unfold keyAt
  rw [update_rows]
  split
  · subst j; cases st.rows id <;> simp [hf]
  · rfl

@[simp] theorem keyAt_updateStatus (st : Store) (id : Nat) (status : Status) (now : Int) :
    (st.updateStatus id status now).keyAt = st.keyAt :=
  keyAt_update _ _ _ _ fun _ => rfl

@[simp] theorem keyAt_markSent (st : Store) (id : Nat) (msgId : String) (sentAt now : Int) :
    (st.markSent id msgId sentAt now).keyAt = st.keyAt :=
  keyAt_update _ _ _ _ fun _ => rfl

@[simp] theorem keyAt_cancel (st : Store) (id : Nat) (now : Int) :
    (st.cancel id now).keyAt = st.keyAt :=
  keyAt_update _ _ _ _ fun _ => rfl

@[simp] theorem keyAt_writeBatchCounts (st : Store) (b : Nat) (c : BatchCounts) (now : Int) :
    (st.writeBatchCounts b c now).keyAt = st.keyAt := rfl

theorem keyAt_insert (st : Store) (n : Notification) (j : Nat) :
    (st.insert n).keyAt j = if j = n.id then some n.idempotencyKey else st.keyAt j := by
  simp only [keyAt, insert_rows]
  split <;> rfl

theorem Keeps.keyAt {st st' : Store} (hk : st.Keeps st') {j : Nat} {x : Option String}
    (h : st.keyAt j = some x) : st'.keyAt j = some x := by
  obtain ⟨n, hn, rfl⟩ := Option.map_eq_some'.mp h
  obtain ⟨n', hn', hf⟩ := hk j n hn
  simp only [Store.keyAt, hn', Option.map_some']
  exact congrArg (fun x => some x.2.2.2.2.1) hf

/-- A row with key `k` makes the unique index hold `k`. -/
theorem Valid.keyTaken {st : Store} (hv : st.Valid) {j : Nat} {k : String}
    (h : st.keyAt j = some (some k)) : st.keyTaken k = true := by
  obtain ⟨n, hn, hk⟩ := Option.map_eq_some'.mp h
  simp only [Store.keyTaken, List.any_eq_true, decide_eq_true_eq]
  exact ⟨n, Store.mem_allRows.mpr ⟨j, hv.lt_nextId hn, hn⟩, hk⟩

theorem KeyUnique.insert {st : Store} {K : String} (hu : st.KeyUnique K) {n : Notification}
    (hn : n.idempotencyKey = some K → ∀ j, st.keyAt j ≠ some (some K)) :
    (st.insert n).KeyUnique K := by
  intro j j' hj hj'
  rw [keyAt_insert] at hj hj'
  split_ifs at hj hj' with h1 h2 h2
  · exact h1.trans h2.symm
  · exact absurd hj' (hn (Option.some.inj hj) j')
  · exact absurd hj (hn (Option.some.inj hj') j)
  · exact hu j j' hj hj'

/-- The transaction of `CreateBatch` adds no keyed row when its children carry no key. -/
theorem keyAt_createBatch {st : Store} {b : Batch} {ns : List Notification}
    (hns : ∀ m ∈ ns, m.idempotencyKey = none) {j : Nat} {k : String}
    (h : (st.createBatch b ns).keyAt j = some (some k)) : st.keyAt j = some (some k) := by
  obtain ⟨m, hm, hk⟩ := Option.map_eq_some'.mp h
  rcases createBatch_rows_some hm with hm' | hm'
  · rw [hns m hm'] at hk; cases hk
  · exact Option.map_eq_some'.mpr ⟨m, hm', hk⟩

end Store

theorem Worker.keyAt_handleFailure {backoff : List Int} {st st' : Store} {n : Notification}
    {err : String} {now : Int} (hf : handleFailure backoff st n err now = some st') :
    st'.keyAt = st.keyAt := by
  rcases handleFailure_some hf with ⟨-, rfl⟩ | ⟨-, d, -, rfl⟩ <;>
    exact Store.keyAt_update _ _ _ _ fun _ => rfl

theorem Service.batchChildren_key (reqs : List CreateNotificationRequest) (b firstId : Nat)
    (now : Int) : ∀ m ∈ batchChildren reqs b firstId now, m.idempotencyKey = none := by
  intro m hm
  obtain ⟨k, -, rfl⟩ := List.mem_mapIdx.mp hm
  simp [buildNotification]

/-! ## What the goroutines of a `Create` with key `K` hold -/

/-- The call whose insert succeeded: its enqueue loop, or its return with `duplicate = false`. -/
def Proc.createdBy (K : String) : Proc → Bool
  | .enqueue (.create k) _ _ _ => k = K
  | .returned (.created k (.ok (_, false))) => k = K
  | _ => false

/-- The ids a goroutine of a `Create` with key `K` holds as the key's row: its enqueue loop's
rows, or the notification it returned. -/
def Proc.keyed (K : String) : Proc → List Nat
  | .enqueue (.create k) _ n rest => if k = K then (n :: rest).map (·.id) else []
  | .returned (.created k (.ok (m, _))) => if k = K then [m.id] else []
  | _ => []

/-- The error a `Create` with key `K` returned. -/
def Proc.failure (K : String) : Proc → Option Error
  | .returned (.created k (.error e)) => if k = K then some e else none
  | _ => none

/-- A goroutine that holds nothing of a `Create` with key `K`. -/
def Proc.Neutral (K : String) (p : Proc) : Prop :=
  p.keyed K = [] ∧ p.failure K = none ∧ p.createdBy K = false

/-- The errors `Create` returns for a valid body: the unique index's `ErrConflict`, or the
driver error of the lookup or of the insert, wrapped as the service and the repository wrap
them. -/
def Service.createError (e : Error) : Prop :=
  e.is .conflict ∨ ∃ msg, e = .wrap "idempotency lookup" (.store msg) ∨
    e = .wrap "persist notification" (.wrap "insert notification" (.store msg))

theorem Proc.keyed_of_createdBy {K : String} {p : Proc} (h : p.createdBy K = true) :
    ∃ j, j ∈ p.keyed K := by
  unfold createdBy at h
  split at h
  · simp_all [keyed]
  · simp_all [keyed]
  · cases h

theorem Owner.next_createdBy (K : String) (o : Owner) (n : Notification) (rest : List Notification)
    (ph : EnqueuePhase) (m : Notification) :
    (o.next n rest).createdBy K = (Proc.enqueue o ph m rest).createdBy K := by
  cases rest <;> cases o <;> rfl

theorem Owner.next_keyed (K : String) (o : Owner) {n n' : Notification} (hid : n'.id = n.id)
    (rest : List Notification) (ph : EnqueuePhase) :
    ∀ j ∈ (o.next n' rest).keyed K, j ∈ (Proc.enqueue o ph n rest).keyed K := by
  cases rest <;> cases o <;> simp [Owner.next, Owner.finish, Proc.keyed, hid]
  tauto

theorem Owner.next_failure (K : String) (o : Owner) (n : Notification) (rest : List Notification) :
    (o.next n rest).failure K = none := by
  cases rest <;> cases o <;> rfl

theorem Service.startCreate_keyed {K key : String} {req : CreateNotificationRequest}
    (hv : key = K → req.validate = .ok ()) :
    (startCreate req key).keyed K = [] ∧ (∀ e, (startCreate req key).failure K = some e → False) ∧
      (startCreate req key).createdBy K = false := by
  unfold startCreate
  split
  · rename_i e he
    refine ⟨rfl, fun e' h => ?_, rfl⟩
    simp only [Proc.failure, ite_eq_left_iff, Option.some.injEq] at h
    by_cases hk : key = K
    · rw [hv hk] at he; cases he
    · simp [hk] at h
  · exact ⟨rfl, (fun _ h => by cases h), rfl⟩

theorem Service.startCreateBatch_neutral (K : String) (reqs : List CreateNotificationRequest) :
    (startCreateBatch reqs).Neutral K := by
  unfold startCreateBatch
  repeat' split
  all_goals exact ⟨rfl, rfl, rfl⟩

theorem initProcs_neutral (K : String) (cfg : Config) : ∀ p ∈ initProcs cfg, p.Neutral K := by
  intro p hp
  rcases List.mem_append.mp hp with hp | hp
  · rw [List.eq_of_mem_replicate hp]; exact ⟨rfl, rfl, rfl⟩
  · simp only [List.mem_cons, List.mem_singleton, List.not_mem_nil, or_false] at hp
    rcases hp with rfl | rfl <;> exact ⟨rfl, rfl, rfl⟩

/-- Two goroutines that both satisfy a test at most one goroutine satisfies are one. -/
theorem index_eq_of_countP_le_one {α : Type} {f : α → Bool} {l : List α} (h : l.countP f ≤ 1)
    {i i' : Nat} {p p' : α} (hp : l[i]? = some p) (hp' : l[i']? = some p') (hf : f p = true)
    (hf' : f p' = true) : i = i' := by
  induction l generalizing i i' with
  | nil => cases hp
  | cons a l ih =>
    rw [List.countP_cons] at h
    have hpos : ∀ {k : Nat} {x : α}, l[k]? = some x → f x = true → 0 < l.countP f :=
      fun hx hfx => List.countP_pos_iff.mpr ⟨_, List.getElem?_mem hx, hfx⟩
    cases i <;> cases i' <;> simp only [List.getElem?_cons_zero, List.getElem?_cons_succ,
      Option.some.injEq] at hp hp'
    · rfl
    · subst hp; have := hpos hp' hf'; simp only [hf, if_true] at h; omega
    · subst hp'; have := hpos hp hf; simp only [hf', if_true] at h; omega
    · exact congrArg (· + 1) (ih (by split at h <;> omega) hp hp')

/-! ## The invariant -/

/-- Every `Create` with key `K` carries a body that passes `Validate`. -/
def validBodies (K : String) : Action → Prop
  | .create req key => key = K → req.validate = .ok ()
  | _ => True

instance (K : String) (a : Action) : Decidable (validBodies K a) :=
  match a with
  | .create req key => inferInstanceAs (Decidable (key = K → req.validate = .ok ()))
  | .tick _ | .createBatch _ | .cancel _ | .step _ | .fail _ _ | .receive _ _ | .stop _
  | .reply _ _ | .poll _ _ | .shutdown | .restart => isTrue trivial

/-- What the unique index and `Create`'s code keep about key `K`. -/
structure Sys.KeyOnce (K : String) (s : Sys) : Prop where
  unique : s.store.KeyUnique K
  keyed : ∀ p ∈ s.procs, ∀ j ∈ p.keyed K, s.store.keyAt j = some (some K)
  failures : ∀ p ∈ s.procs, ∀ e, p.failure K = some e → Service.createError e
  creators : s.procs.countP (Proc.createdBy K) ≤ 1

namespace Sys.KeyOnce

variable {K : String} {s : Sys}

/-- No goroutine holds the creating call while no row has the key. -/
theorem no_creator (h : s.KeyOnce K) (hv : s.store.Valid) (hk : s.store.keyTaken K = false) :
    s.procs.countP (Proc.createdBy K) = 0 := by
  rw [List.countP_eq_zero]
  intro p hp hc
  obtain ⟨j, hj⟩ := Proc.keyed_of_createdBy hc
  rw [hv.keyTaken (h.keyed p hp j hj)] at hk
  cases hk

theorem withStore (h : s.KeyOnce K) {st : Store} (hu : st.KeyUnique K)
    (hk : ∀ j x, s.store.keyAt j = some x → st.keyAt j = some x) : (s.withStore st).KeyOnce K :=
  ⟨hu, fun p hp j hj => hk _ _ (h.keyed p hp j hj), h.failures, h.creators⟩

/-- Goroutine `i` moves from `q` to `p`; the keys of the store stay. -/
theorem set (h : s.KeyOnce K) {s' : Sys} {i : Nat} {p q : Proc}
    (hk : s'.store.keyAt = s.store.keyAt) (hs : s'.procs = s.procs.set i p)
    (hq : s.procs[i]? = some q) (hkeyed : ∀ j ∈ p.keyed K, s.store.keyAt j = some (some K))
    (hf : ∀ e, p.failure K = some e → Service.createError e)
    (hc : p.createdBy K = false ∨ q.createdBy K = true ∨ s.procs.countP (Proc.createdBy K) = 0) :
    s'.KeyOnce K := by
  refine ⟨fun j j' => ?_, fun r hr => ?_, fun r hr => ?_, ?_⟩
  · rw [hk]; exact h.unique j j'
  · rw [hs] at hr; rw [hk]
    exact (List.mem_or_eq_of_mem_set hr).elim (h.keyed r) (· ▸ hkeyed)
  · rw [hs] at hr
    exact (List.mem_or_eq_of_mem_set hr).elim (h.failures r) (· ▸ hf)
  · obtain ⟨hi, hqi⟩ := List.getElem?_eq_some_iff.mp hq
    have := h.creators
    rw [hs, List.countP_set _ _ _ _ hi, hqi]
    rcases hc with hc | hc | hc <;> simp [hc] <;> split <;> omega

/-- Goroutine `i` moves on holding no more of key `K` than it did. -/
theorem keep (h : s.KeyOnce K) {s' : Sys} {i : Nat} {p q : Proc}
    (hk : s'.store.keyAt = s.store.keyAt) (hs : s'.procs = s.procs.set i p)
    (hq : s.procs[i]? = some q) (hkeyed : ∀ j ∈ p.keyed K, j ∈ q.keyed K)
    (hf : p.failure K = none) (hc : p.createdBy K = q.createdBy K) : s'.KeyOnce K :=
  h.set hk hs hq (fun j hj => h.keyed q (List.getElem?_mem hq) j (hkeyed j hj))
    (fun e he => by rw [hf] at he; cases he) (by cases hb : q.createdBy K <;> simp [hc, hb])

theorem setNeutral (h : s.KeyOnce K) {s' : Sys} {i : Nat} {p q : Proc}
    (hk : s'.store.keyAt = s.store.keyAt) (hs : s'.procs = s.procs.set i p)
    (hq : s.procs[i]? = some q) (hp : p.Neutral K) : s'.KeyOnce K :=
  h.set hk hs hq (fun j hj => by rw [hp.1] at hj; cases hj)
    (fun e he => by rw [hp.2.1] at he; cases he) (.inl hp.2.2)

theorem spawn (h : s.KeyOnce K) {s' : Sys} {p : Proc} (hk : s'.store.keyAt = s.store.keyAt)
    (hs : s'.procs = s.procs ++ [p]) (hkeyed : p.keyed K = [])
    (hf : ∀ e, p.failure K = some e → Service.createError e) (hc : p.createdBy K = false) :
    s'.KeyOnce K := by
  refine ⟨fun j j' => ?_, fun r hr => ?_, fun r hr => ?_, ?_⟩
  · rw [hk]; exact h.unique j j'
  · rw [hs] at hr; rw [hk]
    rcases List.mem_append.mp hr with hr | hr
    · exact h.keyed r hr
    · rw [List.mem_singleton.mp hr, hkeyed]; exact fun _ hj => (nomatch hj)
  · rw [hs] at hr
    rcases List.mem_append.mp hr with hr | hr
    · exact h.failures r hr
    · exact List.mem_singleton.mp hr ▸ hf
  · rw [hs, List.countP_append]
    have := h.creators
    simp [hc, this]

/-- A state whose goroutines hold nothing of key `K`. -/
theorem of_neutral (hu : s.store.KeyUnique K) (hn : ∀ p ∈ s.procs, p.Neutral K) : s.KeyOnce K := by
  refine ⟨hu, fun p hp j hj => ?_, fun p hp e he => ?_, ?_⟩
  · rw [(hn p hp).1] at hj; cases hj
  · rw [(hn p hp).2.1] at he; cases he
  · rw [List.countP_eq_zero.mpr fun p hp => by rw [(hn p hp).2.2]; simp]
    exact Nat.zero_le _

theorem init (K : String) (cfg : Config) : (Sys.init cfg).KeyOnce K :=
  of_neutral (fun _ _ h => (nomatch h)) (initProcs_neutral K cfg)

/-- Every step of a run in which each `Create` with key `K` carries a valid body keeps
`KeyOnce K`. -/
theorem step (h : s.KeyOnce K) (hc : s.Coherent) (hK : K ≠ "") {cfg : Config} {a : Action}
    {s' : Sys} (hP : validBodies K a) (hm : Moves cfg s a s') : s'.KeyOnce K := by
  cases hm with
  | tick | shutdown => exact ⟨h.unique, h.keyed, h.failures, h.creators⟩
  | create req key =>
    obtain ⟨hk, hf, hcb⟩ := Service.startCreate_keyed hP
    exact h.spawn rfl rfl hk (fun e he => (hf e he).elim) hcb
  | createBatch reqs =>
    obtain ⟨hk, hf, hcb⟩ := Service.startCreateBatch_neutral K reqs
    exact h.spawn rfl rfl hk (fun e he => by rw [hf] at he; cases he) hcb
  | cancel => exact h.spawn rfl rfl rfl (fun e he => by cases he) rfl
  | restart => exact of_neutral h.unique (initProcs_neutral K cfg)
  | lookupHit i req key existing hp hk =>
    refine h.set rfl rfl hp (fun j hj => ?_) (fun e he => by cases he) (.inl rfl)
    obtain ⟨hmem, hkey⟩ := Store.getByIdempotencyKey_ok hk
    simp only [Proc.keyed] at hj
    split at hj
    · subst key
      rw [List.mem_singleton.mp hj]
      simp [Store.keyAt, hc.store.mem_allRows hmem, hkey]
    · cases hj
  | lookupMiss | batchFail | cancelFail | dequeueEmpty | workerStop | fetchSkip | fetchMissing
    | limitPanic | limitBurst | limitCancelled | limitGranted | settlePanic | workerFail
    | batchCounts | batchCountsFail | pollFail | pollerStop | fetchClaim | dequeueHigh | receive =>
    exact h.setNeutral rfl rfl ‹_› ⟨rfl, rfl, rfl⟩
  | insertConflict i req key e hp hk =>
    refine h.set rfl rfl hp (fun j hj => by cases hj) (fun e' he => ?_) (.inl rfl)
    simp only [Proc.failure, ite_eq_left_iff, Option.some.injEq] at he
    split at he
    · cases he; rw [Store.create_error hk]; exact .inl rfl
    · cases he
  | createFail i req key ph msg hp =>
    cases ph <;> refine h.set rfl rfl hp (fun j hj => by cases hj) (fun e he => ?_) (.inl rfl) <;>
      simp only [Proc.failure] at he <;> split at he <;> cases he
    · exact .inr ⟨msg, .inl rfl⟩
    · exact .inr ⟨msg, .inr rfl⟩
  | insertOk i req key st hp hk =>
    obtain ⟨rfl, hfree⟩ := Store.create_ok hk
    set n := Service.buildNotification req key none s.store.nextId s.now with hn
    have hnid : n.id = s.store.nextId := rfl
    have hnkey : n.idempotencyKey = if key = "" then none else some key := rfl
    have hins : (s.withStore (s.store.insert n)).KeyOnce K := by
      refine h.withStore (h.unique.insert fun hkK j hj => ?_)
        fun j x hx => Store.Keeps.keyAt (Store.keeps_insert hc.store n hnid) hx
      have := hfree K hkK
      rw [hc.store.keyTaken hj] at this
      cases this
    have hrow : key = K → (s.store.insert n).keyAt n.id = some (some K) := by
      rintro rfl
      rw [Store.keyAt_insert, if_pos rfl, hnkey, if_neg hK]
    refine hins.set rfl rfl (q := .create req key .insert) hp ?_ ?_ ?_
    · intro j hj
      split at hj <;>
        simp only [Owner.finish, Proc.keyed, List.map_cons, List.map_nil] at hj <;>
        split at hj <;> simp_all
    · intro e he
      split at he <;> simp [Owner.finish, Proc.failure] at he
    · by_cases hkK : key = K
      · subst hkK
        refine .inr (.inr (h.no_creator hc.store (hfree key ?_)))
        rw [hnkey, if_neg hK]
      · left
        split <;> simp [Owner.finish, Proc.createdBy, hkK]
  | batchInsert i reqs hp =>
    have hns := Service.batchChildren_key reqs s.store.nextBatchId s.store.nextId s.now
    have hb : (s.withStore (s.store.createBatch (Service.newBatch s.store.nextBatchId reqs.length
        s.now) (Service.batchChildren reqs s.store.nextBatchId s.store.nextId s.now))).KeyOnce K :=
      h.withStore (fun j j' hj hj' => h.unique j j' (Store.keyAt_createBatch hns hj)
        (Store.keyAt_createBatch hns hj'))
        fun j x hx => Store.Keeps.keyAt (Store.keeps_createBatch hc.store _
          (Service.batchChildren_id_ge _ _ _ _)) hx
    refine hb.setNeutral rfl rfl hp ?_
    split <;> exact ⟨rfl, rfl, rfl⟩
  | cancelFetch i id hp =>
    refine h.setNeutral rfl rfl hp ?_
    split
    · exact ⟨rfl, rfl, rfl⟩
    · split <;> exact ⟨rfl, rfl, rfl⟩
  | cancelWrite i id n hp => exact h.setNeutral (Store.keyAt_cancel _ _ _) rfl hp ⟨rfl, rfl, rfl⟩
  | offerOk i o n rest q hp hq =>
    exact h.keep rfl rfl hp (fun j hj => by cases o <;> exact hj) rfl (by cases o <;> rfl)
  | offerRefused i o n rest e hp =>
    exact h.keep rfl rfl hp (Owner.next_keyed K o rfl rest .offer) (Owner.next_failure K o n rest)
      (Owner.next_createdBy K o n rest .offer n)
  | markFail i o n rest e hp =>
    exact h.keep rfl rfl hp (Owner.next_keyed K o rfl rest .mark) (Owner.next_failure K o n rest)
      (Owner.next_createdBy K o n rest .mark n)
  | markOk i o n rest hp =>
    exact h.keep (Store.keyAt_updateStatus _ _ _ _) rfl hp (Owner.next_keyed K o (by rfl) rest .mark)
      (Owner.next_failure K o _ rest) (Owner.next_createdBy K o _ rest .mark n)
  | claim i n hp => exact h.setNeutral (Store.keyAt_updateStatus _ _ _ _) rfl hp ⟨rfl, rfl, rfl⟩
  | sendOk i n msgId hp | sendError i n err hp => exact h.setNeutral rfl rfl hp ⟨rfl, rfl, rfl⟩
  | markSent i n msgId hp =>
    have h' : ((s.withStore (s.store.markSent n.id msgId s.now s.now)).setProc i
        (.worker .dequeue)).KeyOnce K :=
      h.setNeutral (Store.keyAt_markSent _ _ _ _ _) rfl hp ⟨rfl, rfl, rfl⟩
    split
    · exact h'.spawn rfl rfl rfl (fun e he => by cases he) rfl
    · exact h'
  | settle i n err st hp hcan hf =>
    exact h.setNeutral (Worker.keyAt_handleFailure hf) rfl hp ⟨rfl, rfl, rfl⟩
  | batchWrite i b c t hp =>
    exact h.setNeutral (Store.keyAt_writeBatchCounts _ _ _ _) rfl hp ⟨rfl, rfl, rfl⟩
  | poll i k found hp =>
    exact h.setNeutral rfl rfl hp (by cases found <;> exact ⟨rfl, rfl, rfl⟩)

theorem of_reach (hK : K ≠ "") {cfg : Config} (hr : Reach cfg (fun _ => validBodies K) s) :
    s.KeyOnce K := by
  induction hr with
  | init => exact init K cfg
  | step hr hP hs ih => exact ih.step (Sys.Coherent.of_reach hr) hK hP (step_moves hs)

end Sys.KeyOnce

/-! ## The key's row -/

/-- Over every run in which each `Create` with key `K` carries a valid body: at most one row has
key `K`; every call with key `K` that returned a notification returned that row; the call whose
insert succeeded is one goroutine at most, and its enqueue loop holds only that row; and every
call with key `K` that failed returned `ErrConflict` or the driver error of its lookup or its
insert. -/
theorem create_with_key_keeps_one_row {K : String} (hK : K ≠ "") {cfg : Config} {s : Sys}
    (hr : Reach cfg (fun _ => validBodies K) s) :
    (∀ j j' (n n' : Notification), s.store.rows j = some n → s.store.rows j' = some n' →
      n.idempotencyKey = some K → n'.idempotencyKey = some K → j = j') ∧
    (∀ (i : Nat) (m : Notification) (dup : Bool),
      s.procs[i]? = some (.returned (.created K (.ok (m, dup)))) →
      ∃ n, s.store.rows m.id = some n ∧ n.idempotencyKey = some K) ∧
    (∀ (i : Nat) (ph : EnqueuePhase) (m : Notification) (rest : List Notification),
      s.procs[i]? = some (.enqueue (.create K) ph m rest) →
      ∀ x ∈ m :: rest, ∃ n, s.store.rows x.id = some n ∧ n.idempotencyKey = some K) ∧
    (∀ (i i' : Nat) (p p' : Proc), s.procs[i]? = some p → s.procs[i']? = some p' →
      p.createdBy K = true → p'.createdBy K = true → i = i') ∧
    (∀ (i : Nat) (e : Error), s.procs[i]? = some (.returned (.created K (.error e))) →
      e.is .conflict = true ∨ ∃ msg, e = .wrap "idempotency lookup" (.store msg) ∨
        e = .wrap "persist notification" (.wrap "insert notification" (.store msg))) := by
  have h := Sys.KeyOnce.of_reach hK hr
  have hrow : ∀ j, s.store.keyAt j = some (some K) →
      ∃ n, s.store.rows j = some n ∧ n.idempotencyKey = some K :=
    fun j hj => Option.map_eq_some'.mp hj
  refine ⟨fun j j' n n' hn hn' hk hk' => h.unique j j' (by simp [Store.keyAt, hn, hk])
      (by simp [Store.keyAt, hn', hk']),
    fun i m dup hp => hrow _ (h.keyed _ (List.getElem?_mem hp) m.id (by simp [Proc.keyed])),
    fun i ph m rest hp x hx => hrow _ (h.keyed _ (List.getElem?_mem hp) x.id ?_),
    fun i i' p p' hp hp' hc hc' => index_eq_of_countP_le_one h.creators hp hp' hc hc',
    fun i e hp => h.failures _ (List.getElem?_mem hp) e (by simp [Proc.failure])⟩
  simp only [Proc.keyed, if_pos rfl]
  exact List.mem_map_of_mem _ hx

/-- Two `Create`s with one key, both past their lookups before either inserts; then a third. -/
def keyRace : List Action :=
  [.create ⟨channelSMS, "+905551234567", "Hello", priorityNormal, none⟩ "key-1",
    .create ⟨channelSMS, "+905551234567", "Hello", priorityNormal, none⟩ "key-1",
    .step 17, .step 18, .step 17, .step 18, .step 17, .step 17,
    .create ⟨channelSMS, "+905551234567", "Hello", priorityNormal, none⟩ "key-1", .step 19]

/-- In that race the second insert gets `ErrConflict`, and one call alone created the row. -/
theorem key_race_has_one_creator :
    Reach Config.default (fun _ => validBodies "key-1") (reached Config.default keyRace) ∧
      (reached Config.default keyRace).procs[18]? = some (.returned (.created "key-1"
        (.error (.wrap "persist notification" (.domain .conflict))))) ∧
      ∀ (i i' : Nat) (p p' : Proc), (reached Config.default keyRace).procs[i]? = some p →
        (reached Config.default keyRace).procs[i']? = some p' →
        p.createdBy "key-1" = true → p'.createdBy "key-1" = true → i = i' := by
  have hr : Reach Config.default (fun _ => validBodies "key-1") (reached Config.default keyRace) :=
    Reach.exec_of .init (fun a ha _ => (by decide : ∀ a ∈ keyRace, validBodies "key-1" a) a ha)
      (exec_eq_reached (by decide))
  exact ⟨hr, by decide, (create_with_key_keeps_one_row (by decide) hr).2.2.2.1⟩

/-- `Create` with a key whose lookup fails at the store. -/
def lookupFails : List Action :=
  [.create ⟨channelSMS, "+905551234567", "Hello", priorityNormal, none⟩ "key-1",
    .fail 17 "connection refused"]

/-- A call with a valid body can fail with an error that does not wrap `ErrConflict`: the
lookup's driver error goes back to the caller. -/
theorem failed_lookup_is_no_conflict :
    ¬ ∀ (s : Sys) (i : Nat) (e : Error), Reach Config.default (fun _ => validBodies "key-1") s →
      s.procs[i]? = some (.returned (.created "key-1" (.error e))) → e.is .conflict = true := by
  intro h
  have hr : Reach Config.default (fun _ => validBodies "key-1") (reached Config.default lookupFails) :=
    Reach.exec_of .init (fun a ha _ => (by decide : ∀ a ∈ lookupFails, validBodies "key-1" a) a ha)
      (exec_eq_reached (by decide))
  exact absurd (h _ 17 (.wrap "idempotency lookup" (.store "connection refused")) hr (by decide))
    (by decide)

end NotificationDispatch
