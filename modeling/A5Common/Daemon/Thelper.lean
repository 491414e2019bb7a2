import A5Common.Run.Progress

set_option autoImplicit false

namespace A5Common.Daemon

open A5Common.Run

/-- The functions that the thread calls. -/
inductive ThreadProc where
  | init
  | pre
  | proc
  | post
deriving DecidableEq

/-- Which of the functions are not NULL. -/
structure ThreadProcs where
  thread_proc_init : Bool
  thread_proc_pre : Bool
  thread_proc : Bool
  thread_proc_post : Bool

def ThreadProcs.given (procs : ThreadProcs) : ThreadProc → Bool
  | .init => procs.thread_proc_init
  | .pre => procs.thread_proc_pre
  | .proc => procs.thread_proc
  | .post => procs.thread_proc_post

inductive Party where
  | launcher
  | main
deriving DecidableEq

/-- The next access of the launching thread, in `thelper_signal_wait` and behind it. -/
inductive LauncherAt where
  | locks
  | testsReady
  | testsExit
  | waits
  | relocks
  | readsExit
  | unlocks
  | returns
  | launched
  | joined
deriving DecidableEq

/-- The next access of `thelper_main`: the call of a function, its end, or what follows a
failure of it, and the accesses of `thelper_signal_ready`, behind which it ends or goes on. -/
inductive MainAt where
  | calls (callback : ThreadProc)
  | runs (callback : ThreadProc)
  | setsExit (callback : ThreadProc)
  | locks (ends : Bool)
  | setsReady (ends : Bool)
  | signals (ends : Bool)
  | unlocks (ends : Bool)
  | testsExit
  | ended
deriving DecidableEq

/-- A `loc_eng_dmn_conn_thelper` after the thread has been created, and where both threads
are. Records are what launching has returned, the functions that have been called and those
that have failed, the last one first, and how often `thread_proc` has been called with
`thread_exit` set. -/
structure Thelper where
  thread_exit : Bool
  thread_ready : Bool
  thread_mutex : Option Party
  launcher : LauncherAt
  main : MainAt
  result : Option Bool
  called : List ThreadProc
  failed : List ThreadProc
  late : Nat
deriving DecidableEq

namespace Thelper

def created : Thelper where
  thread_exit := false
  thread_ready := false
  thread_mutex := none
  launcher := .locks
  main := .calls .init
  result := none
  called := []
  failed := []
  late := 0

/-- Where a thread that takes the mutex goes on, if the mutex is free. -/
def take (party : Party) (next : Thelper → Thelper) (σ : Thelper) : Option Thelper :=
  if σ.thread_mutex = none then some { next σ with thread_mutex := some party } else none

/-- `thelper_signal_wait`, then the calls of the thread that has launched: `join` tells whether
the next one is to join or to unblock. -/
def launcherStep (join : Bool) (σ : Thelper) : Option Thelper :=
  match σ.launcher with
  | .locks => σ.take .launcher (fun σ => { σ with launcher := .testsReady })
  | .testsReady =>
      some { σ with launcher := if σ.thread_ready then .readsExit else .testsExit }
  | .testsExit =>
      if σ.thread_exit then some { σ with launcher := .readsExit }
      else some { σ with launcher := .waits, thread_mutex := none }
  | .waits => none
  | .relocks => σ.take .launcher (fun σ => { σ with launcher := .readsExit })
  | .readsExit => some { σ with launcher := .unlocks }
  | .unlocks => some { σ with launcher := .returns, thread_mutex := none }
  | .returns => some { σ with launcher := .launched, result := some σ.thread_exit }
  | .launched =>
      if join then
        if σ.main = .ended then some { σ with launcher := .joined } else none
      else some { σ with thread_exit := true }
  | .joined => none

/-- What follows a function that is NULL or has not failed. -/
def afterProc : ThreadProc → MainAt
  | .init => .locks false
  | .pre => .calls .proc
  | .proc => .testsExit
  | .post => .ended

/-- What follows a function that has failed. -/
def afterFailure : ThreadProc → MainAt
  | .init => .locks true
  | .pre => .ended
  | .proc => .testsExit
  | .post => .ended

/-- `thelper_main`; `fails` tells whether a function that ends returns a negative number. -/
def mainStep (procs : ThreadProcs) (fails : Bool) (σ : Thelper) : Option Thelper :=
  match σ.main with
  | .calls callback =>
      if procs.given callback then
        some { σ with
          main := .runs callback
          called := callback :: σ.called
          late := σ.late + (if callback = .proc ∧ σ.thread_exit = true then 1 else 0) }
      else some { σ with main := afterProc callback }
  | .runs callback =>
      -- the result of `thread_proc_post` is logged and nothing else
      if fails = true ∧ callback ≠ .post then
        some { σ with main := .setsExit callback, failed := callback :: σ.failed }
      else some { σ with main := afterProc callback }
  | .setsExit callback => some { σ with main := afterFailure callback, thread_exit := true }
  | .locks ends => σ.take .main (fun σ => { σ with main := .setsReady ends })
  | .setsReady ends => some { σ with main := .signals ends, thread_ready := true }
  | .signals ends =>
      some { σ with
        main := .unlocks ends
        launcher := if σ.launcher = .waits then .relocks else σ.launcher }
  | .unlocks ends =>
      some { σ with main := if ends then .ended else .calls .pre, thread_mutex := none }
  | .testsExit => some { σ with main := if σ.thread_exit then .calls .post else .calls .proc }
  | .ended => none

end Thelper

inductive ThelperStep where
  | launcher (join : Bool)
  | main (fails : Bool)
  | spurious
deriving DecidableEq

def Thelper.step (procs : ThreadProcs) (σ : Thelper) : ThelperStep → Option Thelper
  | .launcher join => σ.launcherStep join
  | .main fails => σ.mainStep procs fails
  -- `pthread_cond_wait` returns without a signal
  | .spurious => if σ.launcher = .waits then some { σ with launcher := .relocks } else none

/-- Both threads in any order. -/
def thelper (procs : ThreadProcs) : System Thelper ThelperStep where
  initial σ := σ = .created
  step := Thelper.step procs

namespace MainAt

/-- The mutex is held. -/
def holds : MainAt → Bool
  | .setsReady _ | .signals _ | .unlocks _ => true
  | _ => false

/-- `thread_ready` has been set. -/
def announced : MainAt → Bool
  | .calls .init | .runs .init | .setsExit .init | .locks _ | .setsReady _ => false
  | _ => true

/-- The initialization has ended, and its failure can be seen. -/
def initialized : MainAt → Bool
  | .calls .init | .runs .init | .setsExit .init => false
  | _ => true

/-- How many accesses there are at most up to the signal. -/
def untilSignal : MainAt → Nat
  | .calls .init => 6
  | .runs .init => 5
  | .setsExit .init => 4
  | .locks _ => 3
  | .setsReady _ => 2
  | .signals _ => 1
  | _ => 0

end MainAt

namespace LauncherAt

/-- The mutex is held. -/
def holds : LauncherAt → Bool
  | .testsReady | .testsExit | .readsExit | .unlocks => true
  | _ => false

/-- There has been no need to wait, or the wait is over. -/
def released : LauncherAt → Bool
  | .relocks | .readsExit | .unlocks | .returns | .launched | .joined => true
  | _ => false

end LauncherAt

namespace Thelper

/-- What holds while the threads meet, without a wake-up that is spurious. -/
structure Handshake (σ : Thelper) : Prop where
  mutex : σ.thread_mutex =
    if σ.launcher.holds then some .launcher else if σ.main.holds then some .main else none
  exclusive : σ.launcher.holds = true → σ.main.holds = false
  ready : σ.thread_ready = σ.main.announced
  unready : σ.launcher = .testsExit → σ.main.announced = false
  asleep : σ.launcher = .waits → 0 < σ.main.untilSignal
  released : σ.launcher.released = true → σ.main.initialized = true
  exit : σ.result = none → σ.thread_exit = true → σ.main.initialized = true ∧ σ.failed ≠ []
  failure : .init ∈ σ.failed → σ.main = .setsExit .init ∨ σ.thread_exit = true
  setsExit : ∀ callback, σ.main = .setsExit callback → callback ∈ σ.failed
  returned : σ.result = none ↔ σ.launcher ≠ .launched ∧ σ.launcher ≠ .joined
  result : ∀ failed, σ.result = some failed →
    (failed = true → σ.failed ≠ []) ∧ (.init ∈ σ.failed → failed = true)

theorem created_handshake : created.Handshake where
  mutex := rfl
  exclusive := by decide
  ready := rfl
  unready := by decide
  asleep := by decide
  released := by decide
  exit := by decide
  failure := by decide
  setsExit _ other := by cases other
  returned := by decide
  result _ other := by cases other

variable {procs : ThreadProcs} {σ after : Thelper}

theorem take_eq_some {party : Party} {next : Thelper → Thelper}
    (taken : σ.take party next = some after) :
    σ.thread_mutex = none ∧ after = { next σ with thread_mutex := some party } := by
  unfold take at taken
  split at taken
  · rename_i free
    cases taken
    exact ⟨free, rfl⟩
  · cases taken

/-- Nobody holds the mutex when it is free. -/
theorem Handshake.free (meets : σ.Handshake) (free : σ.thread_mutex = none) :
    σ.launcher.holds = false ∧ σ.main.holds = false := by
  have mutex := meets.mutex
  rw [free] at mutex
  cases launcher : σ.launcher.holds with
  | true =>
      rw [launcher] at mutex
      cases mutex
  | false =>
      rw [launcher] at mutex
      cases main : σ.main.holds with
      | true =>
          rw [main] at mutex
          cases mutex
      | false => exact ⟨rfl, rfl⟩

/-- The launching thread goes on, before launching returns. -/
theorem Handshake.toLauncher (meets : σ.Handshake) (next : LauncherAt)
    {thread_mutex : Option Party} (running : σ.result = none)
    (behind : next ≠ .launched ∧ next ≠ .joined)
    (mutex : thread_mutex =
      if next.holds then some .launcher else if σ.main.holds then some .main else none)
    (exclusive : next.holds = true → σ.main.holds = false)
    (unready : next = .testsExit → σ.main.announced = false)
    (asleep : next = .waits → 0 < σ.main.untilSignal)
    (released : next.released = true → σ.main.initialized = true) :
    ({ σ with launcher := next, thread_mutex := thread_mutex } : Thelper).Handshake :=
  { meets with
    mutex := mutex
    exclusive := exclusive
    unready := unready
    asleep := asleep
    released := released
    returned := iff_of_true running behind }

/-- What the main thread has not announced it will. -/
theorem untilSignal_pos {main : MainAt} (quiet : main.announced = false) :
    0 < main.untilSignal := by
  revert quiet
  cases main with
  | calls callback | runs callback | setsExit callback => cases callback <;> decide
  | locks ends | setsReady ends | signals ends | unlocks ends => cases ends <;> decide
  | testsExit | ended => decide

theorem quiet_of_untilSignal {main : MainAt} (ahead : 0 < main.untilSignal)
    (outside : main.holds = false) : main.announced = false := by
  revert ahead outside
  cases main with
  | calls callback | runs callback | setsExit callback => cases callback <;> decide
  | locks ends | setsReady ends | signals ends | unlocks ends => cases ends <;> decide
  | testsExit | ended => decide

theorem initialized_of_announced {main : MainAt} (announced : main.announced = true) :
    main.initialized = true := by
  revert announced
  cases main with
  | calls callback | runs callback | setsExit callback => cases callback <;> decide
  | locks ends | setsReady ends | signals ends | unlocks ends => cases ends <;> decide
  | testsExit | ended => decide

theorem Handshake.launcherStep (meets : σ.Handshake) {join : Bool}
    (taken : σ.launcherStep join = some after) : after.Handshake := by
  have mutex := meets.mutex
  have exclusive := meets.exclusive
  have released := meets.released
  have returned := meets.returned
  unfold Thelper.launcherStep at taken
  cases launcher : σ.launcher with
  | locks =>
      rw [launcher] at taken returned
      obtain ⟨free, rfl⟩ := take_eq_some taken
      have idle := (meets.free free).2
      exact meets.toLauncher .testsReady (returned.mpr (by decide)) (by decide) rfl
        (fun _ => idle) (fun other => by cases other) (fun other => by cases other)
        (fun other => by cases other)
  | testsReady =>
      rw [launcher] at taken returned mutex exclusive
      have idle := exclusive rfl
      cases taken
      cases ready : σ.thread_ready with
      | true =>
          have announced := meets.ready.symm.trans ready
          have moved := meets.toLauncher .readsExit (returned.mpr (by decide)) (by decide) mutex
            (fun _ => idle) (fun other => by cases other) (fun other => by cases other)
            (fun _ => initialized_of_announced announced)
          rw [ready] at moved
          exact moved
      | false =>
          have moved := meets.toLauncher .testsExit (returned.mpr (by decide)) (by decide) mutex
            (fun _ => idle) (fun _ => meets.ready.symm.trans ready) (fun other => by cases other)
            (fun other => by cases other)
          rw [ready] at moved
          exact moved
  | testsExit =>
      rw [launcher] at taken returned mutex exclusive
      have idle := exclusive rfl
      have running := returned.mpr (by decide)
      simp only at taken
      split at taken
      · rename_i exit
        cases taken
        exact meets.toLauncher .readsExit running (by decide) mutex (fun _ => idle)
          (fun other => by cases other) (fun other => by cases other)
          (fun _ => (meets.exit running exit).1)
      · cases taken
        have no_holder : (none : Option Party) =
            if LauncherAt.waits.holds then some .launcher
            else if σ.main.holds then some .main else none := by
          rw [idle]
          rfl
        exact meets.toLauncher .waits running (by decide) no_holder (fun _ => idle)
          (fun other => by cases other) (fun _ => untilSignal_pos (meets.unready launcher))
          (fun other => by cases other)
  | waits =>
      rw [launcher] at taken
      cases taken
  | relocks =>
      rw [launcher] at taken returned released
      obtain ⟨free, rfl⟩ := take_eq_some taken
      have idle := (meets.free free).2
      exact meets.toLauncher .readsExit (returned.mpr (by decide)) (by decide) rfl
        (fun _ => idle) (fun other => by cases other) (fun other => by cases other) released
  | readsExit =>
      rw [launcher] at taken returned mutex exclusive released
      cases taken
      exact meets.toLauncher .unlocks (returned.mpr (by decide)) (by decide) mutex exclusive
        (fun other => by cases other) (fun other => by cases other) released
  | unlocks =>
      rw [launcher] at taken returned exclusive released
      cases taken
      have no_holder : (none : Option Party) =
          if LauncherAt.returns.holds then some .launcher
          else if σ.main.holds then some .main else none := by
        rw [exclusive rfl]
        rfl
      exact meets.toLauncher .returns (returned.mpr (by decide)) (by decide) no_holder
        (fun other => by cases other) (fun other => by cases other) (fun other => by cases other)
        released
  | returns =>
      rw [launcher] at taken returned mutex released
      cases taken
      have running := returned.mpr (by decide)
      have past := released rfl
      exact { meets with
        mutex := mutex
        exclusive := fun holds => by cases holds
        unready := fun other => by cases other
        asleep := fun other => by cases other
        released := fun _ => past
        exit := fun none_yet => by cases none_yet
        returned := iff_of_false (Option.some_ne_none _) (fun both => both.1 rfl)
        result := by
          intro failed same
          cases same
          refine ⟨fun exit => (meets.exit running exit).2, fun init => ?_⟩
          refine (meets.failure init).resolve_left (fun here => ?_)
          rw [here] at past
          cases past }
  | launched =>
      rw [launcher] at taken returned mutex exclusive
      have some_result : σ.result ≠ none := fun running => (returned.mp running).1 rfl
      have past : σ.main.initialized = true := meets.released (launcher ▸ rfl)
      cases join with
      | true =>
          simp only [if_true] at taken
          split at taken
          · cases taken
            exact { meets with
              mutex := mutex
              exclusive := fun holds => by cases holds
              unready := fun other => by cases other
              asleep := fun other => by cases other
              released := fun _ => past
              returned := iff_of_false some_result (fun both => both.2 rfl) }
          · cases taken
      | false =>
          cases taken
          exact { meets with
            mutex := mutex
            exclusive := exclusive
            unready := fun other => by cases other
            asleep := fun other => by cases other
            released := fun _ => past
            exit := fun running => absurd running some_result
            failure := fun _ => Or.inr rfl
            returned := iff_of_false some_result (fun both => both.1 rfl) }
  | joined =>
      rw [launcher] at taken
      cases taken

/-- The main thread goes on outside `thelper_signal_ready`. -/
theorem Handshake.toMain (meets : σ.Handshake) (next : MainAt) {thread_exit : Bool}
    {called failed : List ThreadProc} {late : Nat} (outside : σ.main.holds = false)
    (stays : next.holds = false) (announced : next.announced = σ.main.announced)
    (initialized : σ.main.initialized = true → next.initialized = true)
    (exit : σ.result = none → thread_exit = true → next.initialized = true ∧ failed ≠ [])
    (failure : .init ∈ failed → next = .setsExit .init ∨ thread_exit = true)
    (setsExit : ∀ callback, next = .setsExit callback → callback ∈ failed)
    (result : ∀ launched, σ.result = some launched →
      (launched = true → failed ≠ []) ∧ (.init ∈ failed → launched = true)) :
    ({ σ with
      main := next, thread_exit := thread_exit, called := called, failed := failed
      late := late } : Thelper).Handshake :=
  { meets with
    mutex := by
      have mutex := meets.mutex
      rw [outside] at mutex
      simp only [stays]
      exact mutex
    exclusive := fun _ => stays
    ready := meets.ready.trans announced.symm
    unready := fun tests => announced.trans (meets.unready tests)
    asleep := by
      intro waits
      have quiet := quiet_of_untilSignal (meets.asleep waits) outside
      exact untilSignal_pos (announced.trans quiet)
    released := fun released => initialized (meets.released released)
    exit := exit
    failure := failure
    setsExit := setsExit
    result := result }

/-- Behind a function that is NULL or has not failed. -/
theorem afterProc_spec (callback : ThreadProc) :
    (afterProc callback).holds = false ∧
      (afterProc callback).announced = (MainAt.calls callback).announced ∧
      (afterProc callback).announced = (MainAt.runs callback).announced ∧
      (afterProc callback).initialized = true ∧
      ∀ other, afterProc callback ≠ .setsExit other := by
  cases callback with
  | init | pre | proc | post => exact ⟨rfl, rfl, rfl, rfl, fun _ same => by cases same⟩

theorem afterFailure_spec (callback : ThreadProc) :
    (afterFailure callback).holds = false ∧
      (afterFailure callback).announced = (MainAt.setsExit callback).announced ∧
      (afterFailure callback).initialized = true ∧
      ∀ other, afterFailure callback ≠ .setsExit other := by
  cases callback with
  | init | pre | proc | post => exact ⟨rfl, rfl, rfl, fun _ same => by cases same⟩

theorem Handshake.idle (meets : σ.Handshake) (holds : σ.main.holds = true) :
    σ.launcher.holds = false := by
  cases launcher : σ.launcher.holds with
  | false => rfl
  | true =>
      have idle := meets.exclusive launcher
      rw [holds] at idle
      cases idle

/-- Launching returns behind the initialization. -/
theorem Handshake.past (meets : σ.Handshake) (some_result : σ.result ≠ none) :
    σ.main.initialized = true := by
  apply meets.released
  by_cases launched : σ.launcher = .launched
  · rw [launched]
    rfl
  · by_cases joined : σ.launcher = .joined
    · rw [joined]
      rfl
    · exact absurd (meets.returned.mpr ⟨launched, joined⟩) some_result

theorem Handshake.mainStep (meets : σ.Handshake) {fails : Bool}
    (taken : σ.mainStep procs fails = some after) : after.Handshake := by
  have exit := meets.exit
  have failure := meets.failure
  have past := meets.past
  have mutex := meets.mutex
  have exclusive := meets.exclusive
  unfold Thelper.mainStep at taken
  cases main : σ.main with
  | calls callback =>
      rw [main] at taken exit failure
      simp only at taken
      have outside : σ.main.holds = false := by
        rw [main]
        rfl
      have failed : .init ∈ σ.failed → σ.thread_exit = true :=
        fun init => (failure init).resolve_left (fun same => by cases same)
      split at taken
      · cases taken
        have same : (MainAt.runs callback).announced = (MainAt.calls callback).announced ∧
            (MainAt.runs callback).initialized = (MainAt.calls callback).initialized := by
          cases callback <;> decide
        refine meets.toMain (.runs callback) outside rfl (main ▸ same.1) (fun before => ?_)
          (fun running set => ?_) (fun init => Or.inr (failed init)) (fun _ other => by cases other)
          meets.result
        · rw [main, ← same.2] at before
          exact before
        · rw [same.2]
          exact exit running set
      · cases taken
        obtain ⟨stays, announced, _, initialized, other⟩ := afterProc_spec callback
        exact meets.toMain (afterProc callback) outside stays (main ▸ announced)
          (fun _ => initialized) (fun running set => ⟨initialized, (exit running set).2⟩)
          (fun init => Or.inr (failed init)) (fun _ same => absurd same (other _)) meets.result
  | runs callback =>
      rw [main] at taken exit failure past
      simp only at taken
      have outside : σ.main.holds = false := by
        rw [main]
        rfl
      have failed : .init ∈ σ.failed → σ.thread_exit = true :=
        fun init => (failure init).resolve_left (fun same => by cases same)
      split at taken
      · cases taken
        have same : (MainAt.setsExit callback).announced = (MainAt.runs callback).announced ∧
            (MainAt.setsExit callback).initialized = (MainAt.runs callback).initialized := by
          cases callback <;> decide
        refine meets.toMain (.setsExit callback) outside rfl (main ▸ same.1) (fun before => ?_)
          (fun running set => ?_) (fun init => ?_) (fun other here => ?_)
          (fun launched some_result => ?_)
        · rw [main, ← same.2] at before
          exact before
        · rw [same.2]
          exact ⟨(exit running set).1, List.cons_ne_nil _ _⟩
        · rcases List.mem_cons.mp init with here | before
          · exact Or.inl (here ▸ rfl)
          · exact Or.inr (failed before)
        · cases here
          exact List.mem_cons_self
        · refine ⟨fun _ => List.cons_ne_nil _ _, fun init => ?_⟩
          rcases List.mem_cons.mp init with here | before
          · rw [← here] at past
            exact absurd (past (some_result ▸ Option.some_ne_none _)) (by decide)
          · exact (meets.result launched some_result).2 before
      · cases taken
        obtain ⟨stays, _, announced, initialized, other⟩ := afterProc_spec callback
        exact meets.toMain (afterProc callback) outside stays (main ▸ announced)
          (fun _ => initialized) (fun running set => ⟨initialized, (exit running set).2⟩)
          (fun init => Or.inr (failed init)) (fun _ same => absurd same (other _)) meets.result
  | setsExit callback =>
      rw [main] at taken
      cases taken
      have outside : σ.main.holds = false := by
        rw [main]
        rfl
      obtain ⟨stays, announced, initialized, other⟩ := afterFailure_spec callback
      have failed : σ.failed ≠ [] := List.ne_nil_of_mem (meets.setsExit callback main)
      exact meets.toMain (afterFailure callback) outside stays (main ▸ announced)
        (fun _ => initialized) (fun _ _ => ⟨initialized, failed⟩) (fun _ => Or.inr rfl)
        (fun _ same => absurd same (other _)) meets.result
  | locks ends =>
      rw [main] at taken
      obtain ⟨free, rfl⟩ := take_eq_some taken
      have idle := (meets.free free).1
      have ready := meets.ready
      rw [main] at exit failure ready
      exact { meets with
        mutex := by
          simp only [idle]
          rfl
        exclusive := fun holds => by
          rw [idle] at holds
          cases holds
        ready := ready
        unready := fun _ => rfl
        asleep := fun _ => Nat.succ_pos 1
        released := fun _ => rfl
        exit := fun running set => ⟨rfl, (exit running set).2⟩
        failure := fun init => Or.inr ((failure init).resolve_left (fun same => by cases same))
        setsExit := fun _ other => by cases other }
  | setsReady ends =>
      rw [main] at taken exit failure mutex
      cases taken
      have idle := meets.idle (by rw [main]; rfl)
      exact { meets with
        mutex := mutex
        exclusive := fun holds => absurd holds (ne_true_of_eq_false idle)
        ready := rfl
        unready := fun tests => absurd idle (by rw [tests]; decide)
        asleep := fun _ => Nat.succ_pos 0
        released := fun _ => rfl
        exit := fun running set => ⟨rfl, (exit running set).2⟩
        failure := fun init => Or.inr ((failure init).resolve_left (fun same => by cases same))
        setsExit := fun _ other => by cases other }
  | signals ends =>
      rw [main] at taken exit failure mutex
      cases taken
      have idle := meets.idle (by rw [main]; rfl)
      have ready := meets.ready
      rw [main] at ready
      by_cases waits : σ.launcher = .waits
      · rw [if_pos waits]
        rw [idle] at mutex
        have running := meets.returned.mpr (by rw [waits]; decide)
        exact { meets with
          mutex := mutex
          exclusive := fun holds => by cases holds
          ready := ready
          unready := fun other => by cases other
          asleep := fun other => by cases other
          released := fun _ => rfl
          exit := fun running set => ⟨rfl, (exit running set).2⟩
          failure := fun init => Or.inr ((failure init).resolve_left (fun same => by cases same))
          setsExit := fun _ other => by cases other
          returned := iff_of_true running
            ⟨(fun other => by cases other), (fun other => by cases other)⟩ }
      · rw [if_neg waits]
        exact { meets with
          mutex := mutex
          exclusive := fun holds => absurd holds (ne_true_of_eq_false idle)
          ready := ready
          unready := fun tests => absurd idle (by rw [tests]; decide)
          asleep := fun other => absurd other waits
          released := fun _ => rfl
          exit := fun running set => ⟨rfl, (exit running set).2⟩
          failure := fun init => Or.inr ((failure init).resolve_left (fun same => by cases same))
          setsExit := fun _ other => by cases other }
  | unlocks ends =>
      rw [main] at taken exit failure
      cases taken
      have idle := meets.idle (by rw [main]; rfl)
      have ready := meets.ready
      rw [main] at ready
      have next : ∀ ends : Bool, (if ends then MainAt.ended else .calls .pre).holds = false ∧
          (if ends then MainAt.ended else .calls .pre).announced = true ∧
          (if ends then MainAt.ended else .calls .pre).initialized = true ∧
          ∀ callback, (if ends then MainAt.ended else .calls .pre) ≠ .setsExit callback := by
        intro ends
        cases ends with
        | true | false => exact ⟨rfl, rfl, rfl, fun _ other => by cases other⟩
      obtain ⟨outside, announced, initialized, other⟩ := next ends
      exact { meets with
        mutex := by
          simp only [idle, outside]
          rfl
        exclusive := fun _ => outside
        ready := ready.trans announced.symm
        unready := fun tests => absurd idle (by rw [tests]; decide)
        asleep := fun waits => absurd (meets.asleep waits) (by rw [main]; exact Nat.lt_irrefl 0)
        released := fun _ => initialized
        exit := fun running set => ⟨initialized, (exit running set).2⟩
        failure := fun init => Or.inr ((failure init).resolve_left (fun same => by cases same))
        setsExit := fun _ same => absurd same (other _) }
  | testsExit =>
      rw [main] at taken exit failure
      cases taken
      have outside : σ.main.holds = false := by
        rw [main]
        rfl
      have failed : .init ∈ σ.failed → σ.thread_exit = true :=
        fun init => (failure init).resolve_left (fun same => by cases same)
      have next : ∀ set : Bool, (if set then MainAt.calls .post else .calls .proc).holds = false ∧
          (if set then MainAt.calls .post else .calls .proc).announced = true ∧
          (if set then MainAt.calls .post else .calls .proc).initialized = true ∧
          ∀ callback, (if set then MainAt.calls .post else .calls .proc) ≠ .setsExit callback := by
        intro set
        cases set with
        | true | false => exact ⟨rfl, rfl, rfl, fun _ other => by cases other⟩
      obtain ⟨stays, announced, initialized, other⟩ := next σ.thread_exit
      exact meets.toMain _ outside stays (main ▸ announced) (fun _ => initialized)
        (fun running set => ⟨initialized, (exit running set).2⟩) (fun init => Or.inr (failed init))
        (fun _ same => absurd same (other _)) meets.result
  | ended =>
      rw [main] at taken
      cases taken

theorem reachable_handshake
    (run : (thelper procs).ReachableUnder (fun _ step => step ≠ .spurious) σ) : σ.Handshake := by
  refine run.invariant Handshake ?_ ?_
  · rintro _ rfl
    exact created_handshake
  · intro before step after _ meets signalled taken
    cases step with
    | launcher join => exact meets.launcherStep taken
    | main fails => exact meets.mainStep taken
    | spurious => exact absurd rfl signalled

/-- A step of the main thread while the other one waits. -/
theorem Handshake.mainStep_waits (meets : σ.Handshake) (waits : σ.launcher = .waits)
    (fails : Bool) :
    ∃ after, σ.mainStep procs fails = some after ∧
      (after.launcher = .relocks ∨
        (after.Handshake ∧ after.launcher = .waits) ∧
          after.main.untilSignal < σ.main.untilSignal) := by
  have ahead := meets.asleep waits
  have free : σ.main.holds = false → σ.thread_mutex = none := by
    intro outside
    have mutex := meets.mutex
    rw [waits, outside] at mutex
    exact mutex
  have closer : ∀ after, σ.mainStep procs fails = some after → after.launcher = .waits →
      after.main.untilSignal < σ.main.untilSignal → ∃ after, σ.mainStep procs fails = some after ∧
      (after.launcher = .relocks ∨ (after.Handshake ∧ after.launcher = .waits) ∧
        after.main.untilSignal < σ.main.untilSignal) :=
    fun after taken still less => ⟨after, taken, Or.inr ⟨⟨meets.mainStep taken, still⟩, less⟩⟩
  cases main : σ.main with
  | calls callback =>
      rw [main] at ahead closer
      cases callback with
      | init =>
          cases given : procs.given .init with
          | true =>
              refine closer { σ with main := .runs .init, called := .init :: σ.called } ?_ waits
                (show 5 < 6 by decide)
              rw [Thelper.mainStep, main]
              exact if_pos given
          | false =>
              refine closer { σ with main := .locks false } ?_ waits (show 3 < 6 by decide)
              rw [Thelper.mainStep, main]
              exact if_neg (ne_true_of_eq_false given)
      | pre | proc | post => exact absurd ahead (by decide)
  | runs callback =>
      rw [main] at ahead closer
      cases callback with
      | init =>
          cases fails with
          | true =>
              refine closer { σ with main := .setsExit .init, failed := .init :: σ.failed } ?_ waits
                (show 4 < 5 by decide)
              rw [Thelper.mainStep, main]
              exact if_pos (by decide)
          | false =>
              refine closer { σ with main := .locks false } ?_ waits (show 3 < 5 by decide)
              rw [Thelper.mainStep, main]
              exact if_neg (by decide)
      | pre | proc | post => exact absurd ahead (by decide)
  | setsExit callback =>
      rw [main] at ahead closer
      cases callback with
      | init =>
          refine closer { σ with main := .locks true, thread_exit := true } ?_ waits (show 3 < 4 by decide)
          rw [Thelper.mainStep, main]
          rfl
      | pre | proc | post => exact absurd ahead (by decide)
  | locks ends =>
      rw [main] at closer
      refine closer { σ with main := .setsReady ends, thread_mutex := some .main } ?_ waits (show 2 < 3 by decide)
      rw [Thelper.mainStep, main]
      exact if_pos (free (by rw [main]; rfl))
  | setsReady ends =>
      rw [main] at closer
      refine closer { σ with main := .signals ends, thread_ready := true } ?_ waits (show 1 < 2 by decide)
      rw [Thelper.mainStep, main]
  | signals ends =>
      refine ⟨{ σ with main := .unlocks ends, launcher := .relocks }, ?_, Or.inl rfl⟩
      rw [Thelper.mainStep, main]
      simp only [waits, if_true]
  | unlocks ends | testsExit | ended =>
      rw [main] at ahead
      exact absurd ahead (Nat.lt_irrefl 0)

end Thelper

variable {procs : ThreadProcs} {σ : Thelper}

/-- Launching returns when the initialization has ended, and fails if that has; if it fails, a
function has. While it waits no wake-up is lost: whatever its functions return, the thread
wakes it with its next seven accesses. -/
theorem launch_thelper
    (run : (thelper procs).ReachableUnder (fun _ step => step ≠ .spurious) σ) :
    (∀ failed, σ.result = some failed → σ.main.initialized = true ∧
      (.init ∈ σ.failed → failed = true) ∧ (failed = true → σ.failed ≠ [])) ∧
    (σ.launcher = .waits → ∀ fails : List Bool, fails.length = 7 →
      ∃ count after, (thelper procs).exec σ ((fails.take count).map .main) = some after ∧
        after.launcher = .relocks) := by
  have meets := Thelper.reachable_handshake run
  constructor
  · intro failed some_result
    exact ⟨meets.past (some_result ▸ Option.some_ne_none _), (meets.result failed some_result).2,
      (meets.result failed some_result).1⟩
  · intro waits fails enough
    have within : ∀ main : MainAt, main.untilSignal < 7 := by
      intro main
      cases main with
      | calls callback | runs callback | setsExit callback => cases callback <;> decide
      | locks ends | setsReady ends | signals ends | unlocks ends => cases ends <;> decide
      | testsExit | ended => decide
    exact @System.exec_reaches _ _ _ (thelper procs) ThelperStep.main
      (fun σ => σ.Handshake ∧ σ.launcher = .waits) (fun σ => σ.launcher = .relocks)
      (fun σ => σ.main.untilSignal)
      (fun σ fails waiting => waiting.1.mainStep_waits waiting.2 fails)
      σ ⟨meets, waits⟩ fails (enough ▸ within σ.main)

/-- The initialization fails while launching waits. -/
theorem launch_thelper_failure :
    ∃ σ, (thelper ⟨true, true, true, true⟩).execUnder (fun _ step => step ≠ .spurious) .created
        [.main false, .launcher false, .launcher false, .launcher false, .main true, .main true,
          .main true, .main true, .main true, .main true, .launcher false, .launcher false,
          .launcher false, .launcher false] = some σ ∧
      σ.result = some true ∧
      (∀ failed, σ.result = some failed → σ.main.initialized = true ∧
        (.init ∈ σ.failed → failed = true) ∧ (failed = true → σ.failed ≠ [])) := by
  have first : (thelper ⟨true, true, true, true⟩).initial .created := rfl
  exact System.execUnder_then first (fun σ run _ => (launch_thelper run).1) (by decide)

end A5Common.Daemon
