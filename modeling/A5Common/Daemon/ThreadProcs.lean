import A5Common.Daemon.Thelper

set_option autoImplicit false

namespace A5Common.Daemon

open A5Common.Run

namespace ThreadProcs

/-- A call of a function, if it is not NULL. -/
def once (procs : ThreadProcs) (callback : ThreadProc) : List ThreadProc :=
  if procs.given callback then [callback] else []

/-- The calls up to the loop, after so many rounds of it, and all of them. -/
def untilLoop (procs : ThreadProcs) : List ThreadProc :=
  procs.once .init ++ procs.once .pre

def inLoop (procs : ThreadProcs) (rounds : Nat) : List ThreadProc :=
  procs.untilLoop ++ (List.replicate rounds (procs.once .proc)).flatten

def all (procs : ThreadProcs) (rounds : Nat) : List ThreadProc :=
  procs.inLoop rounds ++ procs.once .post

end ThreadProcs

namespace MainAt

/-- The calls that have been made here, if nothing has failed before the loop. A function that
runs is counted among them. -/
def made (procs : ThreadProcs) (rounds : Nat) : MainAt → List ThreadProc
  | .calls .init => []
  | .runs .init => [.init]
  | .setsExit .init | .locks _ | .setsReady _ | .signals _ | .unlocks _ | .calls .pre =>
      procs.once .init
  | .runs .pre => procs.once .init ++ [.pre]
  | .setsExit .pre => procs.untilLoop
  | .calls .proc => procs.inLoop rounds
  | .runs .proc => procs.inLoop rounds ++ [.proc]
  | .setsExit .proc | .testsExit | .calls .post => procs.inLoop (rounds + 1)
  | .runs .post => procs.inLoop (rounds + 1) ++ [.post]
  | .setsExit .post | .ended => procs.all (rounds + 1)

/-- Behind a call of `thread_proc`, before the next one. -/
def behindCall : MainAt → Bool
  | .runs .proc | .setsExit .proc | .testsExit | .calls .post | .runs .post | .setsExit .post
  | .ended => true
  | _ => false

/-- The initialization has failed, and this is on the way out. -/
def leaves : MainAt → Bool
  | .setsExit .init | .locks true | .setsReady true | .signals true | .unlocks true => true
  | _ => false

end MainAt

namespace ThreadProcs

variable {procs : ThreadProcs}

theorem once_given {callback : ThreadProc} (given : procs.given callback = true) :
    procs.once callback = [callback] :=
  if_pos given

theorem once_null {callback : ThreadProc} (null : procs.given callback = false) :
    procs.once callback = [] :=
  if_neg (ne_true_of_eq_false null)

theorem inLoop_zero : procs.inLoop 0 = procs.untilLoop :=
  List.append_nil _

theorem inLoop_succ (rounds : Nat) :
    procs.inLoop (rounds + 1) = procs.inLoop rounds ++ procs.once .proc := by
  unfold inLoop
  rw [List.replicate_succ', List.flatten_append, List.flatten_singleton, List.append_assoc]

end ThreadProcs

namespace MainAt

variable {procs : ThreadProcs}

/-- A function that is NULL adds no call. -/
theorem made_null {callback : ThreadProc} (null : procs.given callback = false) (rounds : Nat) :
    ∃ next, (Thelper.afterProc callback).made procs next = (calls callback).made procs rounds := by
  cases callback with
  | init => exact ⟨rounds, ThreadProcs.once_null null⟩
  | pre =>
      refine ⟨0, ?_⟩
      show procs.inLoop 0 = procs.once .init
      rw [ThreadProcs.inLoop_zero, ThreadProcs.untilLoop, ThreadProcs.once_null null,
        List.append_nil]
  | proc =>
      refine ⟨rounds, ?_⟩
      show procs.inLoop (rounds + 1) = procs.inLoop rounds
      rw [ThreadProcs.inLoop_succ, ThreadProcs.once_null null, List.append_nil]
  | post =>
      refine ⟨rounds, ?_⟩
      show procs.all (rounds + 1) = procs.inLoop (rounds + 1)
      rw [ThreadProcs.all, ThreadProcs.once_null null, List.append_nil]

theorem made_runs (callback : ThreadProc) (rounds : Nat) :
    (runs callback).made procs rounds = (calls callback).made procs rounds ++ [callback] := by
  cases callback <;> rfl

/-- A function that has run has been called. -/
theorem made_after {callback : ThreadProc} (given : procs.given callback = true) (rounds : Nat) :
    ∃ next, (Thelper.afterProc callback).made procs next = (runs callback).made procs rounds := by
  cases callback with
  | init => exact ⟨rounds, ThreadProcs.once_given given⟩
  | pre =>
      refine ⟨0, ?_⟩
      show procs.inLoop 0 = procs.once .init ++ [.pre]
      rw [ThreadProcs.inLoop_zero, ThreadProcs.untilLoop, ThreadProcs.once_given given]
  | proc =>
      refine ⟨rounds, ?_⟩
      show procs.inLoop (rounds + 1) = procs.inLoop rounds ++ [.proc]
      rw [ThreadProcs.inLoop_succ, ThreadProcs.once_given given]
  | post =>
      refine ⟨rounds, ?_⟩
      show procs.all (rounds + 1) = procs.inLoop (rounds + 1) ++ [.post]
      rw [ThreadProcs.all, ThreadProcs.once_given given]

end MainAt

namespace Thelper

/-- What is recorded about the functions, wherever the threads are. -/
structure Traced (procs : ThreadProcs) (σ : Thelper) : Prop where
  called : ∃ rounds, σ.called.reverse =
    if .init ∈ σ.failed then [.init]
    else if .pre ∈ σ.failed then procs.untilLoop
    else σ.main.made procs rounds
  given : ∀ callback, σ.main = .runs callback → procs.given callback = true
  initGiven : .init ∈ σ.failed → procs.given .init = true
  apart : .pre ∈ σ.failed → .init ∉ σ.failed
  initFailed : .init ∈ σ.failed → σ.main.leaves = true ∨ σ.main = .ended
  leaves : σ.main.leaves = true → .init ∈ σ.failed
  preFailed : .pre ∈ σ.failed → σ.main = .setsExit .pre ∨ σ.main = .ended
  setsExit : ∀ callback, σ.main = .setsExit callback → callback ∈ σ.failed
  late : σ.late ≤ 1
  lateExit : 0 < σ.late → σ.thread_exit = true ∧ σ.main.behindCall = true
  joined : σ.launcher = .joined → σ.main = .ended

theorem created_traced (procs : ThreadProcs) : created.Traced procs where
  called := ⟨0, rfl⟩
  given _ other := by cases other
  initGiven other := by cases other
  apart other := by cases other
  initFailed := by decide
  leaves := by decide
  preFailed := by decide
  setsExit _ other := by cases other
  late := Nat.zero_le _
  lateExit := by decide
  joined := by decide

variable {procs : ThreadProcs} {σ after : Thelper}

/-- The main thread stands still. -/
theorem Traced.frame (traced : σ.Traced procs) (main : after.main = σ.main)
    (called : after.called = σ.called) (failed : after.failed = σ.failed)
    (late : after.late = σ.late) (exit : σ.thread_exit = true → after.thread_exit = true)
    (joined : after.launcher = .joined → σ.main = .ended) : after.Traced procs where
  called := by
    rw [main, called, failed]
    exact traced.called
  given := main ▸ traced.given
  initGiven := failed ▸ traced.initGiven
  apart := failed ▸ traced.apart
  initFailed := by
    rw [main, failed]
    exact traced.initFailed
  leaves := by
    rw [main, failed]
    exact traced.leaves
  preFailed := by
    rw [main, failed]
    exact traced.preFailed
  setsExit := by
    rw [main, failed]
    exact traced.setsExit
  late := late ▸ traced.late
  lateExit := by
    rw [main, late]
    exact fun once => (traced.lateExit once).imp_left exit
  joined joins := main.trans (joined joins)

theorem Traced.launcherStep (traced : σ.Traced procs) {join : Bool}
    (taken : σ.launcherStep join = some after) : after.Traced procs := by
  have joined := traced.joined
  unfold Thelper.launcherStep at taken
  cases launcher : σ.launcher with
  | locks | relocks =>
      rw [launcher] at taken
      obtain ⟨_, rfl⟩ := take_eq_some taken
      exact traced.frame rfl rfl rfl rfl id (fun other => by cases other)
  | testsReady =>
      rw [launcher] at taken
      cases taken
      refine traced.frame rfl rfl rfl rfl id (fun other => ?_)
      have never : ∀ ready : Bool, (if ready then LauncherAt.readsExit else .testsExit) ≠ .joined := by
        decide
      exact absurd other (never _)
  | testsExit =>
      rw [launcher] at taken
      simp only at taken
      split at taken
      · cases taken
        exact traced.frame rfl rfl rfl rfl id (fun other => by cases other)
      · cases taken
        exact traced.frame rfl rfl rfl rfl id (fun other => by cases other)
  | waits | joined =>
      rw [launcher] at taken
      cases taken
  | readsExit | unlocks | returns =>
      rw [launcher] at taken
      cases taken
      exact traced.frame rfl rfl rfl rfl id (fun other => by cases other)
  | launched =>
      rw [launcher] at taken
      cases join with
      | true =>
          simp only [if_true] at taken
          split at taken
          · rename_i ended
            cases taken
            exact traced.frame rfl rfl rfl rfl id (fun _ => ended)
          · cases taken
      | false =>
          cases taken
          exact traced.frame rfl rfl rfl rfl (fun _ => rfl) (fun other => by cases other)

/-- Nothing has failed before the loop. -/
theorem Traced.clean (traced : σ.Traced procs) (stays : σ.main.leaves = false)
    (goes : σ.main ≠ .ended) (other : σ.main ≠ .setsExit .pre) :
    .init ∉ σ.failed ∧ .pre ∉ σ.failed ∧
      ∃ rounds, σ.called.reverse = σ.main.made procs rounds := by
  have init : .init ∉ σ.failed := by
    intro failed
    rcases traced.initFailed failed with leaves | ended
    · exact ne_true_of_eq_false stays leaves
    · exact goes ended
  have pre : .pre ∉ σ.failed := fun failed => (traced.preFailed failed).elim other goes
  obtain ⟨rounds, called⟩ := traced.called
  rw [if_neg init, if_neg pre] at called
  exact ⟨init, pre, rounds, called⟩

/-- The main thread goes on where nothing has failed before the loop. -/
theorem Traced.goesOn (traced : σ.Traced procs) (init : .init ∉ σ.failed) (pre : .pre ∉ σ.failed)
    (next : MainAt) {thread_exit : Bool} {called : List ThreadProc} {late : Nat}
    (made : ∃ rounds, called.reverse = next.made procs rounds)
    (given : ∀ callback, next = .runs callback → procs.given callback = true)
    (leaves : next.leaves = false) (setsExit : ∀ callback, next ≠ .setsExit callback)
    (once : late ≤ 1)
    (lateExit : 0 < late → thread_exit = true ∧ next.behindCall = true)
    (running : σ.main ≠ .ended) :
    ({ σ with main := next, thread_exit := thread_exit, called := called, late := late }
      : Thelper).Traced procs where
  called := made.imp (fun rounds same => by rw [if_neg init, if_neg pre]; exact same)
  given := given
  initGiven := traced.initGiven
  apart := traced.apart
  initFailed failed := absurd failed init
  leaves here := absurd here (ne_true_of_eq_false leaves)
  preFailed failed := absurd failed pre
  setsExit callback here := absurd here (setsExit callback)
  late := once
  lateExit := lateExit
  joined joins := absurd (traced.joined joins) running

theorem afterProc_plain (callback : ThreadProc) :
    (afterProc callback).leaves = false ∧ (∀ other, afterProc callback ≠ .runs other) ∧
      (∀ other, afterProc callback ≠ .setsExit other) ∧
      ((MainAt.calls callback).behindCall = true → (afterProc callback).behindCall = true) ∧
      ((MainAt.runs callback).behindCall = true → (afterProc callback).behindCall = true) := by
  cases callback with
  | init | pre | proc | post =>
      exact ⟨rfl, (fun _ other => by cases other), (fun _ other => by cases other), by decide,
        by decide⟩

theorem Traced.calls (traced : σ.Traced procs) {callback : ThreadProc}
    (main : σ.main = .calls callback) (given : procs.given callback = true) :
    ({ σ with
      main := .runs callback
      called := callback :: σ.called
      late := σ.late + (if callback = .proc ∧ σ.thread_exit = true then 1 else 0) }
      : Thelper).Traced procs := by
  have late := traced.late
  have lateExit := traced.lateExit
  obtain ⟨init, pre, rounds, called⟩ := traced.clean (by rw [main]; rfl)
    (fun ended => by rw [main] at ended; cases ended)
    (fun other => by rw [main] at other; cases other)
  rw [main] at called lateExit
  have running : σ.main ≠ .ended := fun ended => by rw [main] at ended; cases ended
  refine traced.goesOn init pre (.runs callback) ⟨rounds, ?_⟩ ?_ rfl
    (fun _ other => by cases other) ?_ ?_ running
  · rw [List.reverse_cons, called, MainAt.made_runs]
  · intro other here
    cases here
    exact given
  · split
    · rename_i again
      rcases Nat.eq_zero_or_pos σ.late with zero | positive
      · omega
      · rw [again.1] at lateExit
        exact absurd (lateExit positive).2 (by decide)
    · exact late
  · intro positive
    split at positive
    · rename_i again
      exact ⟨again.2, by rw [again.1]; rfl⟩
    · have ⟨exit, behind⟩ := lateExit positive
      refine ⟨exit, ?_⟩
      cases callback with
      | init | pre | proc => exact absurd behind (by decide)
      | post => rfl

/-- A function ends without a failure, or is NULL. -/
theorem Traced.ends (traced : σ.Traced procs) {callback : ThreadProc}
    (main : σ.main = .calls callback ∧ procs.given callback = false ∨
      σ.main = .runs callback) :
    ({ σ with main := afterProc callback } : Thelper).Traced procs := by
  have lateExit := traced.lateExit
  obtain ⟨leaves, runs, sets, behind_calls, behind_runs⟩ := afterProc_plain callback
  rcases main with ⟨main, null⟩ | main
  · obtain ⟨init, pre, rounds, called⟩ := traced.clean (by rw [main]; rfl)
      (fun ended => by rw [main] at ended; cases ended)
      (fun other => by rw [main] at other; cases other)
    rw [main] at called lateExit
    obtain ⟨next, same⟩ := MainAt.made_null null rounds
    exact traced.goesOn init pre (afterProc callback) ⟨next, called.trans same.symm⟩
      (fun other here => absurd here (runs other)) leaves sets traced.late
      (fun positive => (lateExit positive).imp_right behind_calls)
      (fun ended => by rw [main] at ended; cases ended)
  · have given := traced.given callback main
    obtain ⟨init, pre, rounds, called⟩ := traced.clean (by rw [main]; rfl)
      (fun ended => by rw [main] at ended; cases ended)
      (fun other => by rw [main] at other; cases other)
    rw [main] at called lateExit
    obtain ⟨next, same⟩ := MainAt.made_after given rounds
    exact traced.goesOn init pre (afterProc callback) ⟨next, called.trans same.symm⟩
      (fun other here => absurd here (runs other)) leaves sets traced.late
      (fun positive => (lateExit positive).imp_right behind_runs)
      (fun ended => by rw [main] at ended; cases ended)

/-- A function fails. -/
theorem Traced.fails (traced : σ.Traced procs) {callback : ThreadProc}
    (main : σ.main = .runs callback) (other : callback ≠ .post) :
    ({ σ with main := .setsExit callback, failed := callback :: σ.failed } : Thelper).Traced
      procs := by
  have given := traced.given callback main
  have lateExit := traced.lateExit
  obtain ⟨init, pre, rounds, called⟩ := traced.clean (by rw [main]; rfl)
    (fun ended => by rw [main] at ended; cases ended)
    (fun other => by rw [main] at other; cases other)
  rw [main] at called lateExit
  refine
    { called := ⟨rounds, ?_⟩
      given := fun _ here => by cases here
      initGiven := fun failed => ?_
      apart := fun failed => ?_
      initFailed := fun failed => ?_
      leaves := fun here => ?_
      preFailed := fun failed => ?_
      setsExit := fun _ here => by cases here; exact List.mem_cons_self
      late := traced.late
      lateExit := fun positive => ?_
      joined := fun joins => by rw [traced.joined joins] at main; cases main }
  · cases callback with
    | init => exact called.trans (if_pos List.mem_cons_self).symm
    | pre =>
        have still : .init ∉ ThreadProc.pre :: σ.failed :=
          List.not_mem_cons_of_ne_of_not_mem (by decide) init
        rw [if_neg still, if_pos List.mem_cons_self, ThreadProcs.untilLoop,
          ThreadProcs.once_given given]
        exact called
    | proc =>
        have still : .init ∉ ThreadProc.proc :: σ.failed :=
          List.not_mem_cons_of_ne_of_not_mem (by decide) init
        have still_pre : .pre ∉ ThreadProc.proc :: σ.failed :=
          List.not_mem_cons_of_ne_of_not_mem (by decide) pre
        rw [if_neg still, if_neg still_pre]
        have same : (MainAt.setsExit .proc).made procs rounds =
            procs.inLoop rounds ++ [.proc] := by
          rw [← ThreadProcs.once_given given]
          exact ThreadProcs.inLoop_succ rounds
        exact called.trans same.symm
    | post => exact absurd rfl other
  · rcases List.mem_cons.mp failed with here | before
    · rw [here]
      exact given
    · exact absurd before init
  · rcases List.mem_cons.mp failed with here | before
    · rw [← here]
      exact List.not_mem_cons_of_ne_of_not_mem (by decide) init
    · exact absurd before pre
  · rcases List.mem_cons.mp failed with here | before
    · exact Or.inl (here ▸ rfl)
    · exact absurd before init
  · cases callback with
    | init => exact List.mem_cons_self
    | pre | proc | post => cases here
  · rcases List.mem_cons.mp failed with here | before
    · exact Or.inl (here ▸ rfl)
    · exact absurd before pre
  · have ⟨exit, behind⟩ := lateExit positive
    refine ⟨exit, ?_⟩
    cases callback with
    | init | pre => exact absurd behind (by decide)
    | proc | post => rfl

theorem Traced.setExit (traced : σ.Traced procs) {callback : ThreadProc}
    (main : σ.main = .setsExit callback) :
    ({ σ with main := afterFailure callback, thread_exit := true } : Thelper).Traced procs := by
  have failed := traced.setsExit callback main
  have lateExit := traced.lateExit
  have running : σ.main ≠ .ended := fun ended => by rw [main] at ended; cases ended
  rw [main] at lateExit
  cases callback with
  | init =>
      have not_pre : .pre ∉ σ.failed := fun pre => traced.apart pre failed
      exact
        { called := traced.called.imp (fun _ same => by
            rw [if_pos failed] at same ⊢
            exact same)
          given := fun _ other => by cases other
          initGiven := traced.initGiven
          apart := traced.apart
          initFailed := fun _ => Or.inl rfl
          leaves := fun _ => failed
          preFailed := fun pre => absurd pre not_pre
          setsExit := fun _ other => by cases other
          late := traced.late
          lateExit := fun positive => absurd (lateExit positive).2 (by decide)
          joined := fun joins => absurd (traced.joined joins) running }
  | pre =>
      exact
        { called := traced.called.imp (fun _ same => by
            rw [if_pos failed] at same ⊢
            exact same)
          given := fun _ other => by cases other
          initGiven := traced.initGiven
          apart := traced.apart
          initFailed := fun _ => Or.inr rfl
          leaves := fun other => by cases other
          preFailed := fun _ => Or.inr rfl
          setsExit := fun _ other => by cases other
          late := traced.late
          lateExit := fun positive => absurd (lateExit positive).2 (by decide)
          joined := fun _ => rfl }
  | proc =>
      obtain ⟨init, pre, rounds, called⟩ := traced.clean (by rw [main]; rfl) running
        (fun other => by rw [main] at other; cases other)
      rw [main] at called
      exact traced.goesOn init pre .testsExit ⟨rounds, called⟩ (fun _ other => by cases other) rfl
        (fun _ other => by cases other) traced.late (fun _ => ⟨rfl, rfl⟩) running
  | post =>
      obtain ⟨init, pre, rounds, called⟩ := traced.clean (by rw [main]; rfl) running
        (fun other => by rw [main] at other; cases other)
      rw [main] at called
      exact traced.goesOn init pre .ended ⟨rounds, called⟩ (fun _ other => by cases other) rfl
        (fun _ other => by cases other) traced.late (fun _ => ⟨rfl, rfl⟩) running

/-- The initialization has failed, and the main thread goes on to its end. -/
theorem Traced.leavesOn (traced : σ.Traced procs) (leaves : σ.main.leaves = true)
    (next : MainAt) (out : next.leaves = true ∨ next = .ended)
    (setsExit : ∀ callback, next ≠ .setsExit callback)
    (quiet : σ.main.behindCall = false) : ({ σ with main := next } : Thelper).Traced procs := by
  have failed := traced.leaves leaves
  have running : σ.main ≠ .ended := fun ended => by rw [ended] at leaves; cases leaves
  have not_pre : .pre ∉ σ.failed := fun pre => traced.apart pre failed
  exact
    { called := traced.called.imp (fun _ same => by
        rw [if_pos failed] at same ⊢
        exact same)
      given := fun _ other => by
        rcases out with leaves | ended
        · rw [show next = _ from other] at leaves
          cases leaves
        · cases ended.symm.trans other
      initGiven := traced.initGiven
      apart := traced.apart
      initFailed := fun _ => out
      leaves := fun _ => failed
      preFailed := fun pre => absurd pre not_pre
      setsExit := fun callback other => absurd other (setsExit callback)
      late := traced.late
      lateExit := fun positive =>
        absurd (traced.lateExit positive).2 (ne_true_of_eq_false quiet)
      joined := fun joins => absurd (traced.joined joins) running }

/-- The next access in `thelper_signal_ready`. -/
def readyNext : MainAt → Option MainAt
  | .locks ends => some (.setsReady ends)
  | .setsReady ends => some (.signals ends)
  | .signals ends => some (.unlocks ends)
  | .unlocks ends => some (if ends then .ended else .calls .pre)
  | _ => none

/-- In `thelper_signal_ready` no function is called. -/
theorem Traced.moves (traced : σ.Traced procs) {next : MainAt} {launcher : LauncherAt}
    {thread_mutex : Option Party} {thread_ready : Bool} (here : readyNext σ.main = some next)
    (joined : launcher = .joined → σ.launcher = .joined) :
    ({ σ with
      main := next, launcher := launcher, thread_mutex := thread_mutex
      thread_ready := thread_ready } : Thelper).Traced procs := by
  have facts : ∀ main, readyNext main = some next → main.behindCall = false ∧ main ≠ .ended ∧
      main ≠ .setsExit .pre ∧ (∀ callback, next ≠ .setsExit callback) ∧
      (∀ callback, next ≠ .runs callback) ∧
      (main.leaves = true → next.leaves = true ∨ next = .ended) ∧
      (main.leaves = false → next.leaves = false ∧
        ∀ rounds, next.made procs rounds = main.made procs rounds) := by
    intro main same
    cases main with
    | locks ends | setsReady ends | signals ends | unlocks ends =>
        cases same
        cases ends with
        | true | false =>
            refine ⟨rfl, (fun other => by cases other), (fun other => by cases other),
              (fun _ other => by cases other), (fun _ other => by cases other), ?_, ?_⟩
            · decide
            · exact fun other => ⟨by revert other; decide, fun _ => by first | rfl | cases other⟩
    | calls callback | runs callback | setsExit callback | testsExit | ended => cases same
  obtain ⟨quiet, running, other, sets, runs, out, stays⟩ := facts σ.main here
  have moved : ({ σ with main := next } : Thelper).Traced procs := by
    cases leaves : σ.main.leaves with
    | true => exact traced.leavesOn leaves next (out leaves) sets quiet
    | false =>
        obtain ⟨init, pre, rounds, called⟩ := traced.clean leaves running other
        obtain ⟨stays, same⟩ := stays leaves
        exact traced.goesOn init pre next ⟨rounds, called.trans (same rounds).symm⟩
          (fun callback here => absurd here (runs callback)) stays sets traced.late
          (fun positive => absurd (traced.lateExit positive).2 (ne_true_of_eq_false quiet)) running
  exact moved.frame rfl rfl rfl rfl id
    (fun joins => absurd (traced.joined (joined joins)) running)

theorem Traced.mainStep (traced : σ.Traced procs) {fails : Bool}
    (taken : σ.mainStep procs fails = some after) : after.Traced procs := by
  unfold Thelper.mainStep at taken
  cases main : σ.main with
  | calls callback =>
      rw [main] at taken
      simp only at taken
      split at taken
      · rename_i given
        cases taken
        exact traced.calls main given
      · rename_i null
        cases taken
        exact traced.ends (Or.inl ⟨main, eq_false_of_ne_true null⟩)
  | runs callback =>
      rw [main] at taken
      simp only at taken
      split at taken
      · rename_i failed
        cases taken
        exact traced.fails main failed.2
      · cases taken
        exact traced.ends (Or.inr main)
  | setsExit callback =>
      rw [main] at taken
      cases taken
      exact traced.setExit main
  | locks ends =>
      rw [main] at taken
      obtain ⟨_, rfl⟩ := take_eq_some taken
      exact traced.moves (congrArg readyNext main) id
  | setsReady ends =>
      rw [main] at taken
      cases taken
      exact traced.moves (congrArg readyNext main) id
  | signals ends =>
      rw [main] at taken
      cases taken
      refine traced.moves (congrArg readyNext main) (fun joins => ?_)
      split at joins
      · cases joins
      · exact joins
  | unlocks ends =>
      rw [main] at taken
      cases taken
      exact traced.moves (congrArg readyNext main) id
  | testsExit =>
      have running : σ.main ≠ .ended := fun ended => by rw [main] at ended; cases ended
      have lateExit := traced.lateExit
      obtain ⟨init, pre, rounds, called⟩ := traced.clean (by rw [main]; rfl) running
        (fun other => by rw [main] at other; cases other)
      rw [main] at taken called lateExit
      cases taken
      cases exit : σ.thread_exit with
      | true =>
          have moved := traced.goesOn init pre (.calls .post) ⟨rounds, called⟩
            (fun _ other => by cases other) rfl (fun _ other => by cases other) traced.late
            (fun _ => ⟨exit, rfl⟩) running
          rw [exit] at moved
          exact moved
      | false =>
          have moved := @Traced.goesOn procs σ traced init pre (.calls .proc) false σ.called σ.late
            ⟨rounds + 1, called⟩ (fun _ other => by cases other) rfl
            (fun _ other => by cases other) traced.late
            (fun positive => absurd (lateExit positive).1 (ne_true_of_eq_false exit)) running
          exact moved
  | ended =>
      rw [main] at taken
      cases taken

theorem reachable_traced (run : (thelper procs).Reachable σ) : σ.Traced procs := by
  refine run.invariant (Traced procs) ?_ ?_
  · rintro _ rfl
    exact created_traced procs
  · intro before step after _ traced _ taken
    cases step with
    | launcher join => exact traced.launcherStep taken
    | main fails => exact traced.mainStep taken
    | spurious =>
        unfold thelper Thelper.step at taken
        simp only at taken
        split at taken
        · cases taken
          exact traced.frame rfl rfl rfl rfl id (fun other => by cases other)
        · cases taken

end Thelper

variable {procs : ThreadProcs}

/-- The calls up to some point are a beginning of all calls. -/
theorem made_prefix {main : MainAt}
    (given : ∀ callback, main = .runs callback → procs.given callback = true) (rounds : Nat) :
    main.made procs rounds <+: procs.all (rounds + 1) := by
  have all_eq : procs.all (rounds + 1) = procs.once .init ++ (procs.once .pre ++
      ((List.replicate (rounds + 1) (procs.once .proc)).flatten ++ procs.once .post)) := by
    unfold ThreadProcs.all ThreadProcs.inLoop ThreadProcs.untilLoop
    rw [List.append_assoc, List.append_assoc]
  have init : procs.once .init <+: procs.all (rounds + 1) := all_eq ▸ List.prefix_append _ _
  have until_loop : procs.untilLoop <+: procs.all (rounds + 1) := by
    unfold ThreadProcs.all ThreadProcs.inLoop
    rw [List.append_assoc]
    exact List.prefix_append _ _
  have in_loop : procs.inLoop (rounds + 1) <+: procs.all (rounds + 1) := List.prefix_append _ _
  cases main with
  | calls callback =>
      cases callback with
      | init => exact List.nil_prefix
      | pre => exact init
      | proc =>
          refine List.IsPrefix.trans ?_ in_loop
          rw [ThreadProcs.inLoop_succ]
          exact List.prefix_append _ _
      | post => exact in_loop
  | runs callback =>
      have once := ThreadProcs.once_given (given callback rfl)
      cases callback with
      | init =>
          have same : (MainAt.runs .init).made procs rounds = procs.once .init := once.symm
          exact same ▸ init
      | pre =>
          have same : (MainAt.runs .pre).made procs rounds = procs.untilLoop := by
            rw [ThreadProcs.untilLoop, once]
            rfl
          exact same ▸ until_loop
      | proc =>
          have same : (MainAt.runs .proc).made procs rounds = procs.inLoop (rounds + 1) := by
            rw [ThreadProcs.inLoop_succ, once]
            rfl
          exact same ▸ in_loop
      | post =>
          have same : (MainAt.runs .post).made procs rounds = procs.all (rounds + 1) := by
            rw [ThreadProcs.all, once]
            rfl
          exact same ▸ List.prefix_rfl
  | setsExit callback =>
      cases callback with
      | init => exact init
      | pre => exact until_loop
      | proc => exact in_loop
      | post => exact List.prefix_rfl
  | locks ends | setsReady ends | signals ends | unlocks ends => exact init
  | testsExit => exact in_loop
  | ended => exact List.prefix_rfl

/-- Wherever the threads are, and with wake-ups that are spurious: the functions have been
called in their order, the third in at least one round; a failed initialization or a failed
function before the loop has been the last one, and else all have been called when the thread
has ended. At most one round begins with `thread_exit` set. Joining waits for the end. -/
theorem thread_procs_ordered {σ : Thelper} (run : (thelper procs).Reachable σ) :
    (∃ rounds, σ.called.reverse <+: procs.all rounds) ∧
    (.init ∈ σ.failed → σ.called.reverse = [.init]) ∧
    (.pre ∈ σ.failed → σ.called.reverse = procs.untilLoop) ∧
    (σ.main = .ended → .init ∉ σ.failed → .pre ∉ σ.failed →
      ∃ rounds, σ.called.reverse = procs.all (rounds + 1)) ∧
    σ.late ≤ 1 ∧ (σ.launcher = .joined → σ.main = .ended) := by
  have traced := Thelper.reachable_traced run
  obtain ⟨rounds, called⟩ := traced.called
  refine ⟨⟨rounds + 1, ?_⟩, fun init => ?_, fun pre => ?_, fun ended init pre => ?_, traced.late,
    traced.joined⟩
  · rw [called]
    split
    · rename_i init
      rw [← ThreadProcs.once_given (traced.initGiven init)]
      unfold ThreadProcs.all ThreadProcs.inLoop ThreadProcs.untilLoop
      rw [List.append_assoc, List.append_assoc]
      exact List.prefix_append _ _
    · split
      · unfold ThreadProcs.all ThreadProcs.inLoop
        rw [List.append_assoc]
        exact List.prefix_append _ _
      · exact made_prefix traced.given rounds
  · rw [called, if_pos init]
  · rw [called, if_neg (traced.apart pre), if_pos pre]
  · rw [if_neg init, if_neg pre, ended] at called
    exact ⟨rounds, called⟩

/-- Unblocked in front of the first round, the thread begins this one and no other. -/
theorem thread_procs_ordered_unblocked :
    ∃ σ, (thelper ⟨true, true, true, true⟩).exec .created
        [.main false, .main false, .main false, .main false, .main false, .main false, .main false,
          .launcher false, .launcher false, .launcher false, .launcher false, .launcher false,
          .main false, .launcher false, .main false, .main false, .main false, .main false,
          .main false, .launcher true] = some σ ∧
      (σ.launcher = .joined ∧ σ.late = 1) ∧ σ.late ≤ 1 := by
  have first : (thelper ⟨true, true, true, true⟩).initial .created := rfl
  exact System.execUnder_then first (fun σ run _ => (thread_procs_ordered run).2.2.2.2.1)
    (by decide)

end A5Common.Daemon
