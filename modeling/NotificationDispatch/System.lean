import NotificationDispatch.Worker
import NotificationDispatch.Poller

/-! # The dispatcher as a transition system

`step cfg s a` is one atomic step `a` of the running dispatcher, or `none` when `a` is not
enabled. Environment steps are the clock (`tick`), a new HTTP request (`create`,
`createBatch`, `cancel`), the shutdown of `main` (`shutdown`: the server stops accepting and
`workerCtx` is cancelled) and the restart after it (`restart`: once `pool2.Wait()` has
returned, the process exits, taking the queue and every goroutine with it, and a new process
starts from the same store). Every other step belongs to one goroutine.

`Reach cfg P` holds of the states reached from `Sys.init cfg` by steps that each satisfy `P`.
A theorem about some runs only states its restriction as such a `P`. `Reachable cfg` allows
every step. `exec` runs a list of actions and gives the concrete runs.
-/

namespace NotificationDispatch
set_option autoImplicit false

/-- The goroutines `main` starts: the worker pool, the retry poller, the scheduler. -/
def initProcs (cfg : Config) : List Proc :=
  List.replicate cfg.workers (.worker .dequeue) ++ [.poller .retry .wait, .poller .scheduled .wait]

namespace Sys

def init (cfg : Config) : Sys := ⟨Store.empty, PriorityQueue.empty, initProcs cfg, 0, false, 0, []⟩

/-- `pool2.Wait()` has returned: every worker's `Run` is over. -/
def workersExited (s : Sys) : Bool :=
  s.procs.all fun p =>
    match p with
    | .worker .exited => true
    | .worker _ => false
    | _ => true

end Sys

/-- The next step of goroutine `i`, its store call succeeding. -/
def Proc.step (cfg : Config) (s : Sys) (i : Nat) : Proc → Option Sys
  | .create req key ph => some (Service.createStep s i req key ph)
  | .createBatch reqs => some (Service.createBatchStep s i reqs)
  | .cancel id ph => some (Service.cancelStep s i id ph)
  | .enqueue o ph n rest => Service.enqueueStep s i o n rest ph
  | .worker ph => Worker.step cfg s i ph
  | .batchCounts b => some (Worker.batchCountsRead s i b)
  | .batchWrite b c t => some (Worker.batchCountsWrite s i b c t)
  | .poller _ _ => none
  | .returned _ => none

/-- The next step of goroutine `i`, its store call failing with `msg`. -/
def Proc.fail (cfg : Config) (s : Sys) (i : Nat) (msg : String) : Proc → Option Sys
  | .create _ key ph => some (Service.createFail s i key msg ph)
  | .createBatch _ => some (Service.createBatchFail s i msg)
  | .cancel id _ => some (Service.cancelFail s i id msg)
  | .enqueue o ph n rest => Service.enqueueFail s i o n rest ph
  | .worker ph => Worker.fail cfg s i ph
  | .poller k ph => Poller.fail k s i ph
  | .batchCounts _ => none
  | .batchWrite _ _ _ => some (s.setProc i (.returned .finished))
  | .returned _ => none

def step (cfg : Config) (s : Sys) : Action → Option Sys
  | .tick t => if s.now ≤ t then some { s with now := t } else none
  | .create req key => if s.cancelled then none else some (s.spawn (Service.startCreate req key))
  | .createBatch reqs =>
    if s.cancelled then none else some (s.spawn (Service.startCreateBatch reqs))
  | .cancel id => if s.cancelled then none else some (s.spawn (.cancel id .fetch))
  | .step i => s.procs[i]?.bind (Proc.step cfg s i)
  | .fail i msg => s.procs[i]?.bind (Proc.fail cfg s i msg)
  | .receive i t =>
    match s.procs[i]? with
    | some (.worker ph) => Worker.receive s i t ph
    | _ => none
  | .stop i =>
    match s.procs[i]? with
    | some (.worker ph) => Worker.stop s i ph
    | some (.poller k ph) => Poller.stop k s i ph
    | _ => none
  | .reply i r =>
    match s.procs[i]? with
    | some (.worker ph) => Worker.reply s i r ph
    | _ => none
  | .poll i found =>
    match s.procs[i]? with
    | some (.poller k .wait) => Poller.poll k s i found
    | _ => none
  | .shutdown => if s.cancelled then none else some { s with cancelled := true }
  | .restart =>
    if s.cancelled && s.workersExited then
      some { s with queue := .empty, procs := initProcs cfg, cancelled := false, startedAt := s.now }
    else none

/-- The states reached from `Sys.init cfg` by steps `(s, a)` that each satisfy `P s a`. -/
inductive Reach (cfg : Config) (P : Sys → Action → Prop) : Sys → Prop
  | init : Reach cfg P (Sys.init cfg)
  | step {s s' : Sys} {a : Action} : Reach cfg P s → P s a → step cfg s a = some s' → Reach cfg P s'

/-- The states of every run. -/
def Reachable (cfg : Config) (s : Sys) : Prop := Reach cfg (fun _ _ => True) s

theorem Reach.mono {cfg : Config} {P Q : Sys → Action → Prop} (hPQ : ∀ s a, P s a → Q s a)
    {s : Sys} (h : Reach cfg P s) : Reach cfg Q s := by
  induction h with
  | init => exact .init
  | step _ hp hs ih => exact .step ih (hPQ _ _ hp) hs

theorem Reach.reachable {cfg : Config} {P : Sys → Action → Prop} {s : Sys} (h : Reach cfg P s) :
    Reachable cfg s :=
  h.mono fun _ _ _ => trivial

/-- An invariant of every step satisfying `P` holds on every state such steps reach. -/
theorem Reach.induct {cfg : Config} {P : Sys → Action → Prop} {I : Sys → Prop}
    (h0 : I (Sys.init cfg)) (hstep : ∀ s a s', I s → P s a → NotificationDispatch.step cfg s a = some s' → I s')
    {s : Sys} (h : Reach cfg P s) : I s := by
  induction h with
  | init => exact h0
  | step _ hp hs ih => exact hstep _ _ _ ih hp hs

/-- Run a list of actions. -/
def exec (cfg : Config) (s : Sys) : List Action → Option Sys
  | [] => some s
  | a :: as => (step cfg s a).bind fun s' => exec cfg s' as

theorem exec_append (cfg : Config) (s : Sys) (as bs : List Action) :
    exec cfg s (as ++ bs) = (exec cfg s as).bind fun s' => exec cfg s' bs := by
  induction as generalizing s with
  | nil => rfl
  | cons a as ih =>
    show (step cfg s a).bind (fun s' => exec cfg s' (as ++ bs)) =
      ((step cfg s a).bind fun s' => exec cfg s' as).bind fun s' => exec cfg s' bs
    cases step cfg s a with
    | none => rfl
    | some s' => exact ih s'

/-- The state a list of actions reaches from the start (the start itself if one of them is not
enabled). -/
def reached (cfg : Config) (as : List Action) : Sys := (exec cfg (Sys.init cfg) as).getD (Sys.init cfg)

theorem exec_eq_reached {cfg : Config} {as : List Action} (h : (exec cfg (Sys.init cfg) as).isSome) :
    exec cfg (Sys.init cfg) as = some (reached cfg as) := by
  unfold reached
  revert h
  cases exec cfg (Sys.init cfg) as <;> simp

/-- The last step of a run that is enabled throughout, between the states it reaches. -/
theorem step_reached {cfg : Config} {as : List Action} {a : Action}
    (h : (exec cfg (Sys.init cfg) as).isSome) (h' : (exec cfg (Sys.init cfg) (as ++ [a])).isSome) :
    step cfg (reached cfg as) a = some (reached cfg (as ++ [a])) := by
  rw [← exec_eq_reached h', exec_append, exec_eq_reached h]
  simp only [Option.some_bind, NotificationDispatch.exec]
  cases step cfg _ a <;> rfl

/-- A run each of whose actions satisfies `P` in every state stays in `Reach cfg P`. -/
theorem Reach.exec_of {cfg : Config} {P : Sys → Action → Prop} {s s' : Sys} {as : List Action}
    (hs : Reach cfg P s) (hP : ∀ a ∈ as, ∀ t, P t a) (h : exec cfg s as = some s') :
    Reach cfg P s' := by
  induction as generalizing s with
  | nil => cases h; exact hs
  | cons a as ih =>
    simp only [NotificationDispatch.exec, Option.bind_eq_some] at h
    obtain ⟨s₁, h₁, h₂⟩ := h
    exact ih (.step hs (hP a (List.mem_cons_self _ _) s) h₁)
      (fun b hb => hP b (List.mem_cons_of_mem _ hb)) h₂

theorem Reach.exec {cfg : Config} {s s' : Sys} {as : List Action} (hs : Reachable cfg s)
    (h : exec cfg s as = some s') : Reachable cfg s' :=
  Reach.exec_of hs (fun _ _ _ => trivial) h

theorem Reachable.reached {cfg : Config} {as : List Action} (h : (exec cfg (Sys.init cfg) as).isSome) :
    Reachable cfg (reached cfg as) :=
  Reach.exec .init (exec_eq_reached h)

end NotificationDispatch
