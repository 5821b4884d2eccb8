import Mathlib.Data.List.Basic

/-! # The domain package: channels, priorities, statuses, notifications, requests, errors

`internal/domain` as data. The choices a reader has to check against the Go source:

* `Channel` and `Priority` are strings, as `type Channel string` is: a request may carry any
  text, and `CreateNotificationRequest.validate` is what keeps `"fax"` out of the store.
* `Status` is an enumeration: its seven values are the store's `notification_status` enum and
  the only constants any code path writes.
* Identifiers (`uuid.New()`) are naturals handed out fresh by the store; batch ids likewise.
* Timestamps and durations are integers (`time.Time`, `time.Duration`), so a negative backoff
  read from the environment is representable.
* Errors are the sentinels of `errors.go` with their texts, wrapped as `fmt.Errorf("...: %w")`
  wraps them; `Error.is` is `errors.Is`.
-/

namespace NotificationDispatch
set_option autoImplicit false

/-! ## Channels, priorities, statuses -/

/-- `domain.Channel`. -/
abbrev Channel := String

/-- `domain.Priority`. -/
abbrev Priority := String

def channelSMS : Channel := "sms"
def channelEmail : Channel := "email"
def channelPush : Channel := "push"

def priorityHigh : Priority := "high"
def priorityNormal : Priority := "normal"
def priorityLow : Priority := "low"

/-- `Channel.IsValid`. -/
def Channel.isValid (c : Channel) : Bool :=
  c = channelSMS || c = channelEmail || c = channelPush

/-- `Priority.IsValid`. -/
def Priority.isValid (p : Priority) : Bool :=
  p = priorityHigh || p = priorityNormal || p = priorityLow

/-- `domain.Status`, the store's `notification_status` enum. -/
inductive Status
  | pending
  | queued
  | processing
  | sent
  | failed
  | cancelled
  | scheduled
  deriving DecidableEq, Repr

/-! ## Records -/

/-- `domain.Notification`. -/
structure Notification where
  id : Nat
  batchId : Option Nat
  channel : Channel
  recipient : String
  content : String
  priority : Priority
  status : Status
  idempotencyKey : Option String
  retryCount : Nat
  maxRetries : Nat
  nextRetryAt : Option Int
  scheduledAt : Option Int
  sentAt : Option Int
  providerMsgId : Option String
  errorMessage : Option String
  createdAt : Int
  updatedAt : Int
  deriving DecidableEq, Repr

/-- `domain.Batch`. -/
structure Batch where
  id : Nat
  total : Nat
  pending : Nat
  sent : Nat
  failed : Nat
  cancelled : Nat
  createdAt : Int
  updatedAt : Int
  deriving DecidableEq, Repr

/-- The four counters of a batch row, as `UpdateBatchCounts` computes them. -/
structure BatchCounts where
  pending : Nat
  sent : Nat
  failed : Nat
  cancelled : Nat
  deriving DecidableEq, Repr

/-- `domain.CreateNotificationRequest`. -/
structure CreateNotificationRequest where
  channel : Channel
  recipient : String
  content : String
  priority : Priority
  scheduledAt : Option Int
  deriving DecidableEq, Repr

/-- `queue.Item`: what travels through the priority queue. -/
structure Item where
  notificationId : Nat
  channel : Channel
  priority : Priority
  deriving DecidableEq, Repr

/-- The queue item `enqueue` and both pollers build from a notification. -/
def Notification.item (n : Notification) : Item :=
  ⟨n.id, n.channel, n.priority⟩

/-! ## Errors -/

/-- The sentinel errors of `errors.go`. -/
inductive DomainError
  | notFound
  | conflict
  | invalidChannel
  | invalidPriority
  | invalidRecipient
  | invalidContent
  | batchTooLarge
  | batchEmpty
  | alreadyCancelled
  | notCancellable
  | queueFull
  deriving DecidableEq, Repr

def DomainError.message : DomainError → String
  | .notFound => "not found"
  | .conflict => "conflict: idempotency key already exists"
  | .invalidChannel => "invalid channel: must be sms, email, or push"
  | .invalidPriority => "invalid priority: must be high, normal, or low"
  | .invalidRecipient => "recipient must not be empty"
  | .invalidContent => "content must be between 1 and 4096 characters"
  | .batchTooLarge => "batch exceeds maximum of 1000 notifications"
  | .batchEmpty => "batch must contain at least one notification"
  | .alreadyCancelled => "notification is already cancelled"
  | .notCancellable => "notification cannot be cancelled in its current status"
  | .queueFull => "queue is at capacity, try again later"

/-- An error value as the code builds it: a sentinel, an error the store's driver reported,
the queue's `unknown priority %q`, or one of these wrapped by `fmt.Errorf("<context>: %w")`. -/
inductive Error
  | domain (e : DomainError)
  | store (msg : String)
  | unknownPriority (p : Priority)
  | wrap (context : String) (inner : Error)
  deriving DecidableEq, Repr

/-- `errors.Is(err, target)` for a sentinel `target`. -/
def Error.is : Error → DomainError → Bool
  | .domain e, t => e = t
  | .wrap _ inner, t => inner.is t
  | _, _ => false

/-- `err.Error()`. -/
def Error.message : Error → String
  | .domain e => e.message
  | .store msg => msg
  | .unknownPriority p => "unknown priority " ++ p.quote
  | .wrap context inner => context ++ ": " ++ inner.message

/-! ## Validation -/

/-- `CreateNotificationRequest.Validate`: the first rule that fails, in the source's order.
`len(r.Content)` counts UTF-8 bytes. -/
def CreateNotificationRequest.validate (r : CreateNotificationRequest) : Except Error Unit :=
  if !r.channel.isValid then .error (.domain .invalidChannel)
  else if !r.priority.isValid then .error (.domain .invalidPriority)
  else if r.recipient = "" then .error (.domain .invalidRecipient)
  else if r.content = "" || r.content.utf8ByteSize > 4096 then .error (.domain .invalidContent)
  else .ok ()

/-- A request that passes `validate` has a known channel and priority. -/
theorem CreateNotificationRequest.valid_of_validate {r : CreateNotificationRequest}
    (h : r.validate = .ok ()) : r.channel.isValid ∧ r.priority.isValid := by
  unfold validate at h
  split at h
  · cases h
  · split at h
    · cases h
    · rename_i hc hp
      simp only [Bool.not_eq_true', Bool.not_eq_false] at hc hp
      exact ⟨hc, hp⟩

end NotificationDispatch
