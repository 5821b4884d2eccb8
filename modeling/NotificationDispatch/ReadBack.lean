import NotificationDispatch.Frozen
import NotificationDispatch.Reads

/-! # A created notification can be read back

Whatever a goroutine read from the store, or got back from it, is still a row of the store with
the same request columns: the copies it works on (`Proc.copies`) and the notification a returned
`Create` answered with (`Proc.reads`). New reads come from the store itself (a lookup, a due
query, `GetByID`) or from the row just inserted, and `Store.Preserves` carries every read across
the writes that follow (`Sys.ReadsHeld`, which holds in every reachable state).

So once `POST /api/v1/notifications` has answered with a notification, new or a duplicate, every
later `GET /api/v1/notifications/{id}` for its id answers `200` with a row of the same request,
on every run that follows, restarts included (`created_notification_readable`). The request
leaves out `scheduled_at` and `created_at`: `Create` answers with its copy in memory, whose
timestamps PostgreSQL keeps only to the microsecond.
-/

namespace NotificationDispatch
set_option autoImplicit false

/-- The rows goroutine `p` holds a copy of, and the notification a returned `Create` answered
with. -/
def Proc.reads : Proc → List Notification
  | .returned (.created _ (.ok (n, _))) => [n]
  | p => p.copies

/-- `st` has a row at `n`'s id with `n`'s request columns. -/
def Store.HasRequest (st : Store) (n : Notification) : Prop :=
  ∃ n', st.rows n.id = some n' ∧ n'.request = n.request

theorem Store.Preserves.hasRequest {st st' : Store} (hp : st.Preserves st') {n : Notification}
    (h : st.HasRequest n) : st'.HasRequest n :=
  let ⟨_, hm, he⟩ := h
  let ⟨m', hm', he'⟩ := hp.rows _ _ hm
  ⟨m', hm', he'.trans he⟩

theorem Store.hasRequest_of_row {st : Store} {n : Notification} (h : st.rows n.id = some n) :
    st.HasRequest n :=
  ⟨n, h, rfl⟩

/-- A row found under any key is found under its own id. -/
theorem Store.Valid.hasRequest {st : Store} (hv : st.Valid) {j : Nat} {n : Notification}
    (h : st.rows j = some n) : st.HasRequest n :=
  Store.hasRequest_of_row (by rw [hv.ids j n h]; exact h)

/-- The request columns name the row: two copies with the same request have the same id. -/
theorem Store.HasRequest.congr {st : Store} {m n : Notification} (h : st.HasRequest m)
    (he : m.request = n.request) : st.HasRequest n := by
  obtain ⟨m', hm', hreq⟩ := h
  have hid : m.id = n.id := congrArg Prod.fst he
  exact ⟨m', hid ▸ hm', hreq.trans he⟩

/-- Every read a goroutine holds is a row of the store with the same request. -/
def Sys.ReadsHeld (s : Sys) : Prop := ∀ p ∈ s.procs, ∀ n ∈ p.reads, s.store.HasRequest n

/-- Where an enqueue loop goes next, it reads only rows it read before, or its own copy. -/
theorem Owner.next_reads (o : Owner) (n : Notification) (rest : List Notification) :
    ∀ m ∈ (o.next n rest).reads, m = n ∨ m ∈ rest := by
  cases rest with
  | nil => cases o <;> simp [Owner.next, Owner.finish, Proc.reads, Proc.copies]
  | cons r rest =>
    intro m hm
    exact .inr (by simpa [Owner.next, Proc.reads, Proc.copies] using hm)

namespace Sys.ReadsHeld

variable {s : Sys}

/-- A step that keeps the store's rows, and whose goroutines are old ones or hold only reads of
the new store. -/
theorem of_procs (h : s.ReadsHeld) {s' : Sys} (hst : s.store.Preserves s'.store)
    (hprocs : ∀ p ∈ s'.procs, p ∈ s.procs ∨ ∀ n ∈ p.reads, s'.store.HasRequest n) :
    s'.ReadsHeld :=
  fun p hp n hn => (hprocs p hp).elim (fun hp' => hst.hasRequest (h p hp' n hn)) fun hnew => hnew n hn

theorem read (h : s.ReadsHeld) {i : Nat} {p : Proc} (hp : s.procs[i]? = some p) {n : Notification}
    (hn : n ∈ p.reads) : s.store.HasRequest n :=
  h p (List.getElem?_mem hp) n hn

/-- The goroutines of `procs.set i p`: the old ones and `p`. -/
theorem set_cases {procs : List Proc} {i : Nat} {p : Proc} {P : Proc → Prop} (hp : P p) :
    ∀ q ∈ procs.set i p, q ∈ procs ∨ P q := by
  intro q hq
  rcases List.mem_or_eq_of_mem_set hq with hq | rfl
  exacts [.inl hq, .inr hp]

theorem spawn_cases {procs : List Proc} {p : Proc} {P : Proc → Prop} (hp : P p) :
    ∀ q ∈ procs ++ [p], q ∈ procs ∨ P q := by
  intro q hq
  rcases List.mem_append.mp hq with hq | hq
  · exact .inl hq
  · rw [List.mem_singleton.mp hq]; exact .inr hp

theorem initProcs_reads (cfg : Config) : ∀ p ∈ initProcs cfg, p.reads = [] := by
  intro p hp
  rcases List.mem_append.mp hp with hp | hp
  · rw [List.eq_of_mem_replicate hp]; rfl
  · simp only [List.mem_cons, List.mem_singleton, List.not_mem_nil, or_false] at hp
    rcases hp with rfl | rfl <;> rfl

theorem init (cfg : Config) : (Sys.init cfg).ReadsHeld := fun p hp n hn => by
  rw [initProcs_reads cfg p hp] at hn; cases hn

/-- Every step keeps every read a row of the store with the same request. -/
theorem step (h : s.ReadsHeld) (hv : s.store.Valid) (hb : s.store.BatchesCounted) {cfg : Config}
    {a : Action} {s' : Sys} (hm : Moves cfg s a s') : s'.ReadsHeld := by
  refine h.of_procs (hm.preserves hv hb) ?_
  have none_read : ∀ {st : Store} {p : Proc}, p.reads = [] → ∀ n ∈ p.reads, st.HasRequest n :=
    fun hr n hn => by rw [hr] at hn; cases hn
  cases hm with
  | tick | shutdown => exact fun p hp => .inl hp
  | create req key =>
    refine spawn_cases (none_read ?_)
    unfold Service.startCreate; split <;> rfl
  | createBatch reqs =>
    refine spawn_cases (none_read ?_)
    unfold Service.startCreateBatch; repeat' split
    all_goals rfl
  | cancel => exact spawn_cases (none_read rfl)
  | restart => exact fun p hp => .inr (none_read (initProcs_reads cfg p hp))
  | lookupHit i req key existing hp hk =>
    refine set_cases fun n hn => ?_
    simp only [Proc.reads, List.mem_singleton] at hn
    subst hn
    exact Store.hasRequest_of_row (hv.mem_allRows (Store.getByIdempotencyKey_ok hk).1)
  | insertOk i req key st hp hk =>
    obtain ⟨rfl, -⟩ := Store.create_ok hk
    refine set_cases fun n hn => Store.hasRequest_of_row ?_
    have hn' : n = Service.buildNotification req key none s.store.nextId s.now := by
      split at hn <;> simpa [Owner.finish, Proc.reads, Proc.copies] using hn
    subst hn'
    simp [Store.insert, Service.buildNotification]
  | batchInsert i reqs hp =>
    have hid := Service.batchChildren_id reqs s.store.nextBatchId s.store.nextId s.now
    refine set_cases fun n hn => Store.hasRequest_of_row ?_
    refine Store.createBatch_rows_mem _ hid (List.mem_of_mem_filter (p := (·.scheduledAt.isNone)) ?_)
    split at hn
    · cases hn
    · rename_i m rest hf
      simp only [Service.newBatch] at hf
      rw [hf]
      simpa [Proc.reads, Proc.copies] using hn
  | cancelFetch i id hp =>
    refine set_cases fun n hn => ?_
    split at hn
    · cases hn
    · rename_i m hm
      split at hn
      · cases hn
      · simp only [Proc.reads, Proc.copies, List.mem_singleton] at hn
        subst hn
        exact hv.hasRequest (Store.getById_ok hm)
  | offerOk i o n rest q hp hq =>
    exact set_cases fun m hm => h.read hp hm
  | offerRefused i o n rest e hp | markFail i o n rest msg hp =>
    refine set_cases fun m hm => h.read hp ?_
    rcases Owner.next_reads o n rest m hm with rfl | hm
    · exact List.mem_cons_self _ _
    · exact List.mem_cons_of_mem _ hm
  | markOk i o n rest hp =>
    refine set_cases fun m hm => ?_
    have hst := Store.preserves_update s.store n.id (fun n => { n with status := .queued }) s.now
      fun _ => rfl
    rcases Owner.next_reads o _ rest m hm with rfl | hm
    · exact hst.hasRequest ((h.read hp (List.mem_cons_self _ _)).congr rfl)
    · exact hst.hasRequest (h.read hp (List.mem_cons_of_mem _ hm))
  | fetchClaim i it n hp hc hn hs =>
    refine set_cases fun m hm => ?_
    simp only [Proc.reads, Proc.copies, List.mem_singleton] at hm
    subst hm
    exact hv.hasRequest hn
  | claim i n hp =>
    refine set_cases fun m hm => ?_
    simp only [Proc.reads, Proc.copies, List.mem_singleton] at hm
    subst hm
    exact (Store.preserves_update s.store m.id (fun n => { n with status := .processing }) s.now
      fun _ => rfl).hasRequest (h.read hp (List.mem_singleton_self _))
  | limitGranted i n hp | sendOk i n _ hp | sendError i n _ hp =>
    refine set_cases fun m hm => ?_
    simp only [Proc.reads, Proc.copies, List.mem_singleton] at hm
    subst hm
    exact h.read hp (List.mem_singleton_self _)
  | markSent i n msgId hp hc =>
    have hd : ∀ q ∈ s.procs.set i (.worker .dequeue), q ∈ s.procs ∨
        ∀ m ∈ q.reads, (s.store.markSent n.id msgId s.now s.now).HasRequest m :=
      set_cases (none_read rfl)
    split
    · intro q hq
      rcases List.mem_append.mp hq with hq | hq
      · exact hd q hq
      · rw [List.mem_singleton.mp hq]; exact .inr (none_read rfl)
    · exact hd
  | poll i k found hp hc hf =>
    refine set_cases fun m hm => ?_
    have hm' : m ∈ found := by
      cases found <;> simp_all [Poller.enqueueAll, Proc.reads, Proc.copies]
    exact Store.hasRequest_of_row (hv.mem_allRows (hf.mem hm').1)
  | createFail i req key ph => cases ph <;> exact set_cases (none_read rfl)
  | _ => exact set_cases (none_read rfl)

theorem of_reachable {cfg : Config} {s : Sys} (hr : Reachable cfg s) : s.ReadsHeld := by
  induction hr with
  | init => exact init cfg
  | step hr _ hs ih =>
    exact ih.step (Sys.Coherent.of_reach hr).store (Sys.batchesCounted_of_reachable hr)
      (step_moves hs)

end Sys.ReadsHeld

/-- Once `Create` has answered with a notification, new or a duplicate, every later
`GET /api/v1/notifications/{id}` for its id (a text PostgreSQL takes, with no NUL byte) answers
`200` with a row of the same request, on every run that follows. -/
theorem created_notification_readable {cfg : Config} {s s' : Sys} {as : List Action}
    (hr : Reachable cfg s) {i : Nat} {key : String} {n : Notification} {duplicate : Bool}
    (hp : s.procs[i]? = some (.returned (.created key (.ok (n, duplicate)))))
    (he : exec cfg s as = some s') (idOf : String → Option Nat) {id : String}
    (hnul : hasNul id = false) (hid : idOf id = some n.id) :
    ∃ n', NotificationHandler.getById idOf s'.store id = ⟨200, .notification n'⟩ ∧
      n'.request = n.request := by
  obtain ⟨n', hn', hreq⟩ :=
    (hr.preserves_exec he).hasRequest ((Sys.ReadsHeld.of_reachable hr).read hp (List.mem_singleton_self n))
  exact ⟨n', getById_of_row idOf hnul hid hn', hreq⟩

/-- `Create` through its enqueue loop, answered `201`. -/
def answeredCreate : List Action :=
  [.create ⟨channelSMS, "+905551234567", "Hello", priorityNormal, none⟩ "", .step 17, .step 17,
    .step 17]

/-- Worker 0 delivers the row: `Dequeue`, `GetByID`, `processing`, the limiter, `Send` and
`MarkSent`. -/
def deliverRun : List Action :=
  [.step 0, .receive 0 .normal, .step 0, .step 0, .step 0, .reply 0 (.ok "msg-1"), .step 0]

/-- The notification `Create` answered with. -/
def answeredRow : Notification :=
  { Service.buildNotification ⟨channelSMS, "+905551234567", "Hello", priorityNormal, none⟩ "" none 0 0
    with status := .queued }

/-- After the row is delivered, its `GET` still answers `200` with the request `Create` took. -/
theorem delivered_notification_still_readable :
    Reachable Config.default (reached Config.default answeredCreate) ∧
      (reached Config.default answeredCreate).procs[17]? =
        some (.returned (.created "" (.ok (answeredRow, false)))) ∧
      exec Config.default (reached Config.default answeredCreate) deliverRun =
        some (reached Config.default (answeredCreate ++ deliverRun)) ∧
      hasNul "0" = false ∧ (fun _ => some 0 : String → Option Nat) "0" = some answeredRow.id ∧
      ∃ n', NotificationHandler.getById (fun _ => some 0)
          (reached Config.default (answeredCreate ++ deliverRun)).store "0" = ⟨200, .notification n'⟩ ∧
        n'.request = answeredRow.request :=
  have h₁ : (exec Config.default (Sys.init Config.default) answeredCreate).isSome := by decide
  have h₂ : (exec Config.default (Sys.init Config.default) (answeredCreate ++ deliverRun)).isSome := by
    decide
  have hp : (reached Config.default answeredCreate).procs[17]? =
      some (.returned (.created "" (.ok (answeredRow, false)))) := by decide
  have he : exec Config.default (reached Config.default answeredCreate) deliverRun =
      some (reached Config.default (answeredCreate ++ deliverRun)) := by
    rw [← exec_eq_reached h₂, exec_append, exec_eq_reached h₁, Option.some_bind]
  have hnul : hasNul "0" = false := by decide
  ⟨Reachable.reached h₁, hp, he, hnul, rfl,
    created_notification_readable (Reachable.reached h₁) hp he (fun _ => some 0) hnul rfl⟩

end NotificationDispatch
