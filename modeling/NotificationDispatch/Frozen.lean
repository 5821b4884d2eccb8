import NotificationDispatch.Batches

/-! # What no statement rewrites

After the `INSERT`, the repository's `UPDATE`s write a row's `status`, `retry_count`,
`next_retry_at`, `sent_at`, `provider_msg_id`, `error_message` and `updated_at`, and a batch's
four counters and `updated_at`; no statement deletes a row or a batch. So along every run from a
reachable state, each row keeps the request it was created from (`Notification.request`) and
each batch its id, `total` and `created_at` (`Batch.frozen`): `Reachable.preserves_exec`.

PostgreSQL keeps timestamps to the microsecond, and `Create` answers with the copy it built in
memory, so its `scheduled_at` and `created_at` need not be the ones a later read returns;
`Notification.request` leaves them out.
-/

namespace NotificationDispatch
set_option autoImplicit false

/-- The columns of a row that no `UPDATE` writes, but for its two timestamps. -/
def Notification.request (n : Notification) :
    Nat × Option Nat × Channel × String × String × Priority × Option String × Nat :=
  (n.id, n.batchId, n.channel, n.recipient, n.content, n.priority, n.idempotencyKey, n.maxRetries)

/-- The columns of a batch that `UpdateBatchCounts` leaves alone. -/
def Batch.frozen (b : Batch) : Nat × Nat × Int := (b.id, b.total, b.createdAt)

namespace Store

/-- Every row and every batch of `st` is still in `st'`, with the same request columns and the
same total. -/
structure Preserves (st st' : Store) : Prop where
  rows : ∀ j n, st.rows j = some n → ∃ n', st'.rows j = some n' ∧ n'.request = n.request
  batches : ∀ b bt, st.batches b = some bt →
    ∃ bt', st'.batches b = some bt' ∧ bt'.frozen = bt.frozen

namespace Preserves

theorem refl (st : Store) : st.Preserves st :=
  ⟨fun _ n h => ⟨n, h, rfl⟩, fun _ bt h => ⟨bt, h, rfl⟩⟩

theorem trans {st₁ st₂ st₃ : Store} (h₁ : st₁.Preserves st₂) (h₂ : st₂.Preserves st₃) :
    st₁.Preserves st₃ := by
  refine ⟨fun j n hn => ?_, fun b bt hb => ?_⟩
  · obtain ⟨n₂, hn₂, e₂⟩ := h₁.rows j n hn
    obtain ⟨n₃, hn₃, e₃⟩ := h₂.rows j n₂ hn₂
    exact ⟨n₃, hn₃, e₃.trans e₂⟩
  · obtain ⟨b₂, hb₂, e₂⟩ := h₁.batches b bt hb
    obtain ⟨b₃, hb₃, e₃⟩ := h₂.batches b b₂ hb₂
    exact ⟨b₃, hb₃, e₃.trans e₂⟩

/-- A store whose old rows and batches are all still there, as they were. -/
theorem of_old {st st' : Store} (hrows : ∀ j n, st.rows j = some n → st'.rows j = some n)
    (hbatches : ∀ b bt, st.batches b = some bt → st'.batches b = some bt) : st.Preserves st' :=
  ⟨fun j n hn => ⟨n, hrows j n hn, rfl⟩, fun b bt hb => ⟨bt, hbatches b bt hb, rfl⟩⟩

end Preserves

/-- An `UPDATE` of one row that writes none of its request columns. -/
theorem preserves_update (st : Store) (id : Nat) (f : Notification → Notification) (now : Int)
    (hf : ∀ n, (f n).request = n.request) : st.Preserves (st.update id f now) := by
  refine ⟨fun j n hn => ?_, fun b bt hb => ⟨bt, hb, rfl⟩⟩
  rw [update_rows]
  split
  · subst j; exact ⟨{ f n with updatedAt := now }, by simp [hn], hf n⟩
  · exact ⟨n, hn, rfl⟩

theorem preserves_insert {st : Store} (h : st.Valid) (n : Notification) (hn : n.id = st.nextId) :
    st.Preserves (st.insert n) := by
  refine .of_old (fun j m hm => ?_) fun _ _ hb => hb
  have hj : j ≠ n.id := fun hj => by rw [h.fresh j (by omega)] at hm; cases hm
  simpa [insert, hj] using hm

theorem preserves_createBatch {st : Store} (h : st.Valid) (hb : st.BatchesCounted)
    (reqs : List CreateNotificationRequest) (now : Int) :
    st.Preserves (st.createBatch (Service.newBatch st.nextBatchId reqs.length now)
      (Service.batchChildren reqs st.nextBatchId st.nextId now)) := by
  refine .of_old (fun j n hn => ?_) fun b bt hbt => ?_
  · rw [createBatch_rows_of_lt _ (Service.batchChildren_id_ge _ _ _ _) (h.lt_nextId hn)]
    exact hn
  · have hne : b ≠ st.nextBatchId := fun e => by rw [hb.fresh b e.ge] at hbt; cases hbt
    rw [createBatch, foldl_insert_batches]
    simpa [Service.newBatch, Function.update, hne] using hbt

theorem preserves_writeBatchCounts (st : Store) (b : Nat) (c : BatchCounts) (now : Int) :
    st.Preserves (st.writeBatchCounts b c now) := by
  refine ⟨fun j n hn => ⟨n, hn, rfl⟩, fun b' bt hbt => ?_⟩
  by_cases hb : b' = b
  · subst hb
    simp only [writeBatchCounts, eq_self_iff_true, if_true, hbt, Option.map_some',
      Option.some.injEq, exists_eq_left']
    rfl
  · exact ⟨bt, by simp [writeBatchCounts, hb, hbt], rfl⟩

end Store

/-- What one step does to the store: nothing, or one of the writes above. -/
theorem Moves.preserves {cfg : Config} {s s' : Sys} {a : Action} (hm : Moves cfg s a s')
    (hv : s.store.Valid) (hb : s.store.BatchesCounted) : s.store.Preserves s'.store := by
  cases hm with
  | insertOk i req key st hp hk =>
    obtain ⟨rfl, -⟩ := Store.create_ok hk
    exact Store.preserves_insert hv _ rfl
  | batchInsert i reqs hp => exact Store.preserves_createBatch hv hb reqs s.now
  | cancelWrite | markOk | claim => exact Store.preserves_update _ _ _ _ fun _ => rfl
  | markSent i n msgId hp hc =>
    have h : s.store.Preserves (s.store.markSent n.id msgId s.now s.now) :=
      Store.preserves_update _ _ _ _ fun _ => rfl
    split <;> exact h
  | settle i n err st hp hc hf =>
    rcases Worker.handleFailure_some hf with ⟨-, rfl⟩ | ⟨-, d, -, rfl⟩ <;>
      exact Store.preserves_update _ _ _ _ fun _ => rfl
  | batchWrite i b c t hp => exact Store.preserves_writeBatchCounts _ _ _ _
  | createFail i req key ph => cases ph <;> exact .refl _
  | _ => exact .refl _

/-- Along every run from a reachable state no row and no batch disappears, no row's request
columns change, and no batch's id, `total` or `created_at` changes. -/
theorem Reachable.preserves_exec {cfg : Config} {s s' : Sys} {as : List Action}
    (hr : Reachable cfg s) (he : exec cfg s as = some s') : s.store.Preserves s'.store := by
  induction as generalizing s with
  | nil => cases he; exact .refl _
  | cons a as ih =>
    simp only [exec, Option.bind_eq_some] at he
    obtain ⟨s₁, h₁, h₂⟩ := he
    have hstep := (step_moves h₁).preserves (Sys.Coherent.of_reach hr).store
      (Sys.batchesCounted_of_reachable hr)
    exact hstep.trans (ih (.step hr trivial h₁) h₂)

end NotificationDispatch
