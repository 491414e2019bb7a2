import A5Common.Timer.Steps

set_option autoImplicit false

namespace A5Common.Timer

open A5Common.Run

namespace LocTimerContainer

/-- The descriptor cannot fire, or the poll thread has still to disarm it or to
unregister it. -/
def Defused (σ : LocTimerContainer) : Prop :=
  match σ.pollTask with
  | .woken | .disarmed => True
  | .waiting | .unregistered => σ.polled = false ∨ σ.it_value = none

instance (σ : LocTimerContainer) : Decidable σ.Defused :=
  match place : σ.pollTask with
  | .woken | .disarmed => .isTrue (by
      unfold Defused
      rw [place]
      trivial)
  | .waiting | .unregistered => decidable_of_iff (σ.polled = false ∨ σ.it_value = none) (by
      unfold Defused
      rw [place])

/-- An update with no prior top that finds the heap empty, be it when the only
timer is removed or when an expiry has popped the last one. -/
def EmptiedDefused (σ : LocTimerContainer) : MsgTask → List LocMsg → Prop
  | .idle, .remove timer :: _ => σ.mTree.toList = [timer] → σ.Defused
  | .popping _, _ => σ.mTree.toList = [] → σ.Defused
  | _, _ => True

instance (σ : LocTimerContainer) (task : MsgTask) (queue : List LocMsg) :
    Decidable (σ.EmptiedDefused task queue) :=
  match task, queue with
  | .idle, .remove timer :: _ =>
      inferInstanceAs (Decidable (σ.mTree.toList = [timer] → σ.Defused))
  | .popping _, _ => inferInstanceAs (Decidable (σ.mTree.toList = [] → σ.Defused))
  | .idle, [] | .idle, .push _ :: _ | .idle, .expire :: _ | .updating .., _ | .expiring .., _
  | .stopping .., _ | .callingBack .., _ => inferInstanceAs (Decidable True)

/-- The heap is emptied only when the descriptor is defused. -/
def emptiedDefused (σ : LocTimerContainer) : Label → Prop
  | .msgTask => σ.EmptiedDefused σ.msgTask σ.queue
  | _ => True

instance (σ : LocTimerContainer) (label : Label) : Decidable (σ.emptiedDefused label) :=
  match label with
  | .msgTask => inferInstanceAs (Decidable (σ.EmptiedDefused σ.msgTask σ.queue))
  | .tick _ | .start .. | .stop _ | .pollTask => inferInstanceAs (Decidable True)

/-- What is known at a place of the message thread of a heap that is empty. -/
def AtRest (σ : LocTimerContainer) : MsgTask → Prop
  | .idle => σ.Defused
  | .updating calls _ => calls = [] ∧ σ.Defused
  | .popping _ | .expiring .. | .stopping .. | .callingBack .. => True

def Rests (σ : LocTimerContainer) : Prop :=
  σ.mTree.toList = [] → σ.AtRest σ.msgTask

theorem AtRest.imp {σ τ : LocTimerContainer} {task : MsgTask} (rests : σ.AtRest task)
    (keep : σ.Defused → τ.Defused) : τ.AtRest task := by
  cases task with
  | idle => exact keep rests
  | updating calls mTimer => exact ⟨rests.1, keep rests.2⟩
  | popping now => trivial
  | expiring now timer => trivial
  | stopping now timer client => trivial
  | callingBack now timer client stopped => trivial

theorem Rests.aside {σ τ : LocTimerContainer} (rests : σ.Rests) (mTree : τ.mTree = σ.mTree)
    (msgTask : τ.msgTask = σ.msgTask) (keep : σ.Defused → τ.Defused) : τ.Rests := by
  unfold Rests
  rw [mTree, msgTask]
  exact fun empty => (rests empty).imp keep

theorem Defused.frame {σ τ : LocTimerContainer} (defused : σ.Defused)
    (polled : τ.polled = σ.polled) (armed : τ.it_value = σ.it_value)
    (pollTask : τ.pollTask = σ.pollTask) : τ.Defused := by
  unfold Defused at defused ⊢
  rw [polled, armed, pollTask]
  exact defused

theorem Rests.posts {σ τ : LocTimerContainer} {msgs : List LocMsg} (rests : σ.Rests)
    (posts : σ.Posts τ msgs) : τ.Rests :=
  rests.aside posts.mTree posts.msgTask
    (fun defused => defused.frame posts.polled posts.it_value posts.pollTask)

theorem Rests.stop {σ : LocTimerContainer} (rests : σ.Rests) (client : Nat) :
    (σ.stop client).2.Rests := by
  rcases stop_posts client σ with posts | ⟨timer, -, posts⟩
  · exact rests.posts posts
  · exact rests.posts posts

/-- The poll thread defuses the descriptor on its way. -/
theorem Rests.stepPollTask {σ τ : LocTimerContainer} (rests : σ.Rests)
    (taken : σ.stepPollTask = some τ) : τ.Rests := by
  rcases stepPollTask_cases taken with ⟨-, -, -, rfl⟩ | ⟨-, rfl⟩ | ⟨-, rfl⟩ | ⟨place, rfl⟩
  · exact rests.aside rfl rfl (fun _ => trivial)
  · exact rests.aside rfl rfl (fun _ => trivial)
  · exact rests.aside rfl rfl (fun _ => .inl rfl)
  · apply Rests.aside rests
    · rfl
    · rfl
    · intro defused
      unfold Defused at defused
      rw [place] at defused
      exact defused

/-- With no prior top and an empty heap nothing is called: the two are equal. -/
theorem updateSoonestTime_empty {σ : LocTimerContainer} (empty : σ.mTree.toList = []) :
    σ.updateSoonestTime none = [] := by
  have none : σ.getSoonestTimer = Option.none := by
    unfold getSoonestTimer
    cases tree : σ.mTree with
    | null => rfl
    | node mSize mLeft mRight mData =>
        rw [tree] at empty
        cases empty
  exact if_pos none

theorem rests_expireNext {σ : LocTimerContainer} (now : Timespec)
    {popped : Option LocTimerDelegate × LocHeapNode LocTimerDelegate}
    (defused : popped.1 = none → popped.2.toList = [] → σ.Defused) :
    (expireNext now popped σ).Rests := by
  intro empty
  rcases expireNext_cases now popped σ with ⟨timer, -, next⟩ | ⟨none, next⟩
  · rw [next]
    trivial
  · rw [next] at empty ⊢
    exact ⟨updateSoonestTime_empty empty, (defused none empty).frame rfl rfl rfl⟩

theorem Rests.remove {σ : LocTimerContainer} (rests : σ.Rests) (place : σ.msgTask = .idle)
    {mTimer : LocTimerDelegate} (rest : List LocMsg)
    (only : σ.mTree.toList = [mTimer] → σ.Defused) :
    (proc { σ with queue := rest } (.remove mTimer)).Rests := by
  intro empty
  have left : (σ.mTree.remove LocTimerDelegate.outRanks mTimer).2.toList = [] := empty
  have defused : σ.Defused := by
    have contents := LocHeapNode.remove_contents LocTimerDelegate.outRanks σ.mTree mTimer
    rw [left, List.append_nil] at contents
    cases returned : (σ.mTree.remove LocTimerDelegate.outRanks mTimer).1 with
    | none =>
        rw [returned] at contents
        have before := rests contents.eq_nil
        rw [place] at before
        exact before
    | some other =>
        rw [returned] at contents
        have same := LocHeapNode.remove_returns returned
        rw [same] at contents
        exact only (List.perm_singleton.mp contents)
  refine ⟨?_, defused.frame rfl rfl rfl⟩
  dsimp only
  split
  · exact updateSoonestTime_empty left
  · rfl

theorem Rests.stepMsgTask {σ τ : LocTimerContainer} (rests : σ.Rests)
    (emptied : σ.EmptiedDefused σ.msgTask σ.queue) (taken : σ.stepMsgTask = some τ) :
    τ.Rests := by
  cases stepMsgTask_cases taken with
  | handle place queue =>
      rename_i msg rest
      rw [place, queue] at emptied
      cases msg with
      | push mTimer =>
          intro empty
          have pushed : mTimer ∈ (σ.mTree.push LocTimerDelegate.outRanks mTimer).toList :=
            LocHeapNode.mem_push.mpr (.inl rfl)
          have none : (σ.mTree.push LocTimerDelegate.outRanks mTimer).toList = [] := empty
          rw [none] at pushed
          cases pushed
      | remove mTimer => exact rests.remove place rest emptied
      | expire =>
          apply rests_expireNext
          intro none _
          have empty : σ.mTree.toList = [] := by
            cases tree : σ.mTree with
            | null => rfl
            | node mSize mLeft mRight mData =>
                rw [tree] at none
                cases none
          have before := rests empty
          rw [place] at before
          exact before.frame rfl rfl rfl
  | call place =>
      rename_i next calls mTimer
      intro empty
      have same : (σ.call next).mTree = σ.mTree := by
        cases next <;> rfl
      have before := rests (same ▸ empty)
      rw [place] at before
      cases before.1
  | delete place =>
      intro empty
      have before := rests empty
      rw [place] at before
      exact before.2.frame rfl rfl rfl
  | pop place =>
      rename_i now
      rw [place] at emptied
      apply rests_expireNext
      intro none left
      apply emptied
      have contents := popIfOutRanks_contents σ now
      rw [none, left] at contents
      exact contents.eq_nil
  | skip place unset => exact fun _ => trivial
  | read place owner => exact fun _ => trivial
  | late place none => exact fun _ => trivial
  | stop place running => exact fun _ => trivial
  | callBack place => exact fun _ => trivial

theorem rests_new (clock : Timespec) : (new clock).Rests :=
  fun _ => .inl rfl

end LocTimerContainer

theorem timers_rest {σ : LocTimerContainer}
    (run : timers.ReachableUnder LocTimerContainer.emptiedDefused σ) : σ.Rests := by
  apply run.invariant LocTimerContainer.Rests
  · intro σ first
    obtain ⟨clock, rfl⟩ := first
    exact LocTimerContainer.rests_new clock
  · intro before label after _ rests emptied taken
    cases label with
    | tick clock =>
        simp only [timers, LocTimerContainer.step] at taken
        split at taken
        · obtain rfl := Option.some.inj taken
          exact rests.aside rfl rfl (fun defused => defused.frame rfl rfl rfl)
        · cases taken
    | start client timeOutInMs =>
        obtain rfl := Option.some.inj taken
        rcases LocTimerContainer.start_posts client timeOutInMs before with
          ⟨timer, -, same⟩ | ⟨-, posts⟩
        · rw [same]
          exact rests
        · exact rests.posts posts
    | stop client =>
        obtain rfl := Option.some.inj taken
        exact rests.stop client
    | msgTask => exact rests.stepMsgTask emptied taken
    | pollTask => exact rests.stepPollTask taken

/-- Where the last timer leaves the heap only with the descriptor defused, an
empty heap at rest has no alarm set. -/
theorem no_alarm_left {σ : LocTimerContainer}
    (run : timers.ReachableUnder LocTimerContainer.emptiedDefused σ)
    (empty : σ.mTree.toList = []) (idle : σ.msgTask = .idle ∧ σ.queue = [])
    (waiting : σ.pollTask = .waiting) : σ.it_value = none ∨ σ.polled = false := by
  have rests := timers_rest run empty
  rw [idle.1] at rests
  have defused : σ.Defused := rests
  unfold LocTimerContainer.Defused at defused
  rw [waiting] at defused
  exact defused.symm

open LocTimerContainer.Label

/-- One timer that expires, and leaves the heap with the descriptor disarmed. -/
theorem no_alarm_left_expired :
    ∃ σ, timers.execUnder LocTimerContainer.emptiedDefused (.new .zero)
        ([start 1 1000#32] ++ List.replicate 4 msgTask ++ [tick (.seconds 1)] ++
          List.replicate 4 pollTask ++ List.replicate 8 msgTask) = some σ ∧
      (σ.mTree.toList = [] ∧ (σ.msgTask = .idle ∧ σ.queue = []) ∧ σ.pollTask = .waiting) ∧
      (σ.it_value = none ∨ σ.polled = false) := by
  refine ⟨_, rfl, ⟨rfl, ⟨rfl, rfl⟩, rfl⟩, ?_⟩
  have run : timers.ReachableUnder LocTimerContainer.emptiedDefused _ :=
    System.ReachableUnder.exec (.start ⟨.zero, rfl⟩)
      ([start 1 1000#32] ++ List.replicate 4 msgTask ++ [tick (.seconds 1)] ++
        List.replicate 4 pollTask ++ List.replicate 8 msgTask) rfl
  exact no_alarm_left run rfl ⟨rfl, rfl⟩ rfl

/-- The only timer is stopped, and its alarm stays set. -/
theorem alarm_left :
    ¬ ∀ σ, timers.Reachable σ → σ.mTree.toList = [] → σ.msgTask = .idle ∧ σ.queue = [] →
      σ.pollTask = .waiting → σ.it_value = none ∨ σ.polled = false := by
  intro noAlarm
  have run : timers.Reachable _ :=
    System.ReachableUnder.exec (.start ⟨.seconds 1, rfl⟩)
      ([start 1 1000#32] ++ List.replicate 4 msgTask ++ [stop 1] ++ List.replicate 2 msgTask)
      rfl
  rcases noAlarm _ run rfl ⟨rfl, rfl⟩ rfl with disarmed | unregistered
  · cases disarmed
  · cases unregistered

end A5Common.Timer
