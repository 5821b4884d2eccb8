import NotificationDispatch.Service
import NotificationDispatch.Worker

/-! # The retry schedule of one notification

`Worker.handleFailure` decides on `RetryCount >= MaxRetries`, and `FindDueRetries` selects on
`retry_count < max_retries`. After the failure of an attempt made with `retry_count = k - 1`
the row is `failed` with `retry_count = k` and `next_retry_at = t + B[min (k - 1) (|B| - 1)]`;
the due query selects it from then on when `k < m`, but not when `k = m`: the `m`-th failure
leaves `next_retry_at` set on a row that is never selected again, so a notification whose
every send fails is attempted `m` times, not `m + 1`.
-/

namespace NotificationDispatch
set_option autoImplicit false

namespace Worker

/-- `handleFailure`'s index, clamped to the last entry, is `min r (|B| - 1)`. -/
theorem backoffFor_eq (B : List Int) (r : Nat) : backoffFor B r = B[min r (B.length - 1)]? := by
  unfold backoffFor
  congr 1
  split <;> omega

theorem backoffFor_isSome {B : List Int} (hB : B ≠ []) (r : Nat) : (backoffFor B r).isSome := by
  rw [backoffFor_eq, Option.isSome_iff_exists]
  exact ⟨_, List.getElem?_eq_getElem (by
    have := List.length_pos.mpr hB
    omega)⟩

/-- The row after `handleFailure`, read from the row the worker fetched. -/
theorem handleFailure_row {B : List Int} {st st' : Store} {n : Notification} {err : String}
    {t : Int} (hn : st.rows n.id = some n) (hf : handleFailure B st n err t = some st') :
    (n.maxRetries ≤ n.retryCount ∧ st'.rows n.id = some { n with
      status := .failed, errorMessage := some err, nextRetryAt := none, updatedAt := t }) ∨
    (n.retryCount < n.maxRetries ∧ ∃ d, backoffFor B n.retryCount = some d ∧
      st'.rows n.id = some { n with
        status := .failed, retryCount := n.retryCount + 1, nextRetryAt := some (t + d),
        errorMessage := some err, updatedAt := t }) := by
  rcases handleFailure_some hf with ⟨hle, rfl⟩ | ⟨hlt, d, hd, rfl⟩
  · exact .inl ⟨hle, by simp [Store.markFailed, hn]⟩
  · exact .inr ⟨hlt, d, hd, by simp [Store.scheduleRetry, hn]⟩

theorem handleFailure_isSome {B : List Int} (hB : B ≠ []) (st : Store) (n : Notification)
    (err : String) (t : Int) : (handleFailure B st n err t).isSome := by
  unfold handleFailure
  split
  · rfl
  · exact Option.isSome_map.trans (backoffFor_isSome hB _)

end Worker

/-- The failure of the attempt made with `retry_count = m - 1` writes `retry_count = m` and a
`next_retry_at`, and the due query, which asks for `retry_count < m`, never selects the row:
the `m`-th retry is never made. -/
theorem last_retry_never_selected {B : List Int} {st : Store} {n : Notification}
    {err : String} {t : Int} (hB : B ≠ []) (hn : st.rows n.id = some n)
    (hk : n.retryCount + 1 = n.maxRetries) :
    ∃ st' m d, Worker.handleFailure B st n err t = some st' ∧ st'.rows n.id = some m ∧
      m.status = .failed ∧ m.retryCount = n.maxRetries ∧
      B[min n.retryCount (B.length - 1)]? = some d ∧ m.nextRetryAt = some (t + d) ∧
      ∀ now, Store.dueRetry now m = false := by
  obtain ⟨st', hf⟩ := Option.isSome_iff_exists.mp (Worker.handleFailure_isSome hB st n err t)
  rcases Worker.handleFailure_row hn hf with ⟨hle, -⟩ | ⟨-, d, hd, hrow⟩
  · omega
  · refine ⟨st', _, d, hf, hrow, rfl, hk, Worker.backoffFor_eq B _ ▸ hd, rfl, fun now => ?_⟩
    simp [Store.dueRetry, hk]

/-- The default schedule: the third failure of a notification leaves it unselected for good. -/
theorem third_failure_leaves_row_unselected :
    let n : Notification := { Service.buildNotification
      ⟨channelSMS, "+905551234567", "Hello", priorityNormal, none⟩ "" none 0 0 with
        status := .processing, retryCount := 2 }
    let st := Store.empty.insert n
    ([5, 30, 120] : List Int) ≠ [] ∧ st.rows n.id = some n ∧ n.retryCount + 1 = n.maxRetries ∧
    ∃ st' m d, Worker.handleFailure [5, 30, 120] st n "provider returned 500" 0 = some st' ∧
      st'.rows n.id = some m ∧ m.status = .failed ∧ m.retryCount = n.maxRetries ∧
      ([5, 30, 120] : List Int)[min n.retryCount (3 - 1)]? = some d ∧
      m.nextRetryAt = some (0 + d) ∧ ∀ now, Store.dueRetry now m = false := by
  intro n st
  have hB : [(5 : Int), 30, 120] ≠ [] := by decide
  have hn : st.rows n.id = some n := by simp [st]
  exact ⟨hB, hn, rfl, last_retry_never_selected hB hn rfl⟩

end NotificationDispatch
