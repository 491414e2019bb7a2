import A5Common.Timer.Wrapper

set_option autoImplicit false

namespace A5Common.Timer

open A5Common.Run

/-- The client in whose `timeOutCallback` the message thread is. -/
def MsgTask.calls : MsgTask → Option Nat
  | .callingBack _ _ client _ => some client
  | .idle | .updating .. | .popping _ | .expiring .. | .stopping .. => none

/-- All that concerns one wrapper. -/
@[ext] structure View where
  made : Bool
  running : Bool
  /-- The fields that `destroy` tests. -/
  intact : Bool
  stopTask : StopTask
  /-- The message thread has read the wrapper, and is about to stop it. -/
  aimed : Bool
  expiryTask : Option ExpiryTask
  deleted : Bool

/-- Where `destroy` goes on. -/
def Destroy.next (intact : Bool) : Destroy → Option Destroy
  | .entering => some .locked
  | .locked => if intact then some .clearing else some .unlocking
  | .clearing => some .stopping
  | .stopping => some .dropping
  | .dropping => some .unlocking
  | .unlocking => none

/-- The places at which `destroy` uses the wrapper. -/
def Destroy.uses : Destroy → Bool
  | .locked | .clearing | .stopping | .dropping => true
  | .entering | .unlocking => false

namespace View

def destroy (v : View) : Destroy → View
  | .clearing => { v with intact := false }
  | .stopping => { v with running := false }
  | .dropping => { v with deleted := true }
  | .entering | .locked | .unlocking => v

/-- The life of a wrapper whose handle is stopped in order. -/
inductive Life : View → Prop where
  | unmade {intact : Bool} : Life ⟨false, false, intact, .uncalled, false, none, false⟩
  | running {stop : StopTask} {aimed : Bool} (early : stop.early = true) :
      Life ⟨true, true, true, stop, aimed, none, false⟩
  | deleting {place : Destroy} {intact aimed : Bool}
      (inside : place = .clearing ∨ place = .stopping) :
      Life ⟨true, true, intact, .destroying place, aimed, none, false⟩
  | stopped {intact aimed : Bool} :
      Life ⟨true, false, intact, .destroying .dropping, aimed, none, false⟩
  | gone {intact aimed : Bool} {stop : StopTask}
      (past : stop = .destroying .unlocking ∨ stop = .returned) :
      Life ⟨true, false, intact, stop, aimed, none, true⟩
  | expiring {intact : Bool} {stop : StopTask} {task : ExpiryTask} (early : stop.early = true)
      (before : task ≠ .destroying .unlocking)
      (whole : intact = true ∨ task = .destroying .stopping ∨ task = .destroying .dropping) :
      Life ⟨true, false, intact, stop, false, some task, false⟩
  | leaving {intact : Bool} {stop : StopTask} (early : stop.early = true) :
      Life ⟨true, false, intact, stop, false, some (.destroying .unlocking), true⟩
  | expired {intact : Bool} {stop : StopTask} (early : stop.early = true) :
      Life ⟨true, false, intact, stop, false, none, true⟩

namespace Life

variable {v : View}

/-- A call of `loc_timer_stop` that tests the wrapper while the timer runs goes through. -/
theorem stop (life : v.Life) {place : Destroy} (here : v.stopTask = .destroying place)
    (runs : place = .locked → v.running = true) :
    Life { v.destroy place with
      stopTask := (place.next v.intact).elim .returned .destroying } := by
  cases life with
  | unmade => cases here
  | running early =>
      dsimp only at here
      subst here
      cases place with
      | entering => exact .running rfl
      | locked => exact .deleting (.inl rfl)
      | clearing | stopping | dropping | unlocking => cases early
  | deleting inside =>
      cases here
      rcases inside with rfl | rfl
      · exact .deleting (.inr rfl)
      · exact .stopped
  | stopped =>
      cases here
      exact .gone (.inl rfl)
  | gone past =>
      dsimp only at here
      subst here
      rcases past with past | past
      · cases past
        exact .gone (.inr rfl)
      · cases past
  | expiring early before whole =>
      dsimp only at here
      subst here
      cases place with
      | entering => exact .expiring rfl before whole
      | locked => cases runs rfl
      | clearing | stopping | dropping | unlocking => cases early
  | leaving early =>
      dsimp only at here
      subst here
      cases place with
      | entering => exact .leaving rfl
      | locked => cases runs rfl
      | clearing | stopping | dropping | unlocking => cases early
  | expired early =>
      dsimp only at here
      subst here
      cases place with
      | entering => exact .expired rfl
      | locked => cases runs rfl
      | clearing | stopping | dropping | unlocking => cases early

/-- No call has deleted the wrapper whose fields it uses. -/
theorem stop_uses (life : v.Life) {place : Destroy} (here : v.stopTask = .destroying place)
    (runs : place = .locked → v.running = true) (uses : place.uses = true) :
    v.deleted = false := by
  cases life with
  | unmade | running | deleting | stopped | expiring => rfl
  | gone past =>
      dsimp only at here
      subst here
      rcases past with past | past
      · cases past
        cases uses
      · cases past
  | leaving early | expired early =>
      dsimp only at here
      subst here
      cases place with
      | locked => cases runs rfl
      | entering => cases uses
      | clearing | stopping | dropping | unlocking => cases early

theorem expiry (life : v.Life) {place : Destroy}
    (here : v.expiryTask = some (.destroying place)) :
    Life { v.destroy place with
      expiryTask := (place.next v.intact).map ExpiryTask.destroying } := by
  cases life with
  | unmade | running | deleting | stopped | gone | expired => cases here
  | expiring early before whole =>
      cases here
      cases place with
      | unlocking => exact absurd rfl before
      | entering => exact .expiring early (by decide) (.inl (whole.resolve_right (by decide)))
      | locked =>
          have intact := whole.resolve_right (by decide)
          subst intact
          exact .expiring early (by decide) (.inl rfl)
      | clearing => exact .expiring early (by decide) (.inr (.inl rfl))
      | stopping => exact .expiring early (by decide) (.inr (.inr rfl))
      | dropping => exact .leaving early
  | leaving early =>
      cases here
      exact .expired early

theorem expiry_uses (life : v.Life) {task : ExpiryTask} (here : v.expiryTask = some task)
    (before : task ≠ .destroying .unlocking) : v.deleted = false := by
  cases life with
  | unmade | running | deleting | stopped | expiring => rfl
  | gone | expired => cases here
  | leaving early =>
      cases here
      exact absurd rfl before

theorem tested (life : v.Life) (here : v.expiryTask = some (.destroying .locked)) :
    v.intact = true := by
  cases life with
  | unmade | running | deleting | stopped | gone | expired => cases here
  | leaving early => cases here
  | expiring early before whole =>
      cases here
      exact whole.resolve_right (by decide)

theorem unlocked (life : v.Life) (here : v.expiryTask = some (.destroying .unlocking)) :
    v.deleted = true := by
  cases life with
  | unmade | running | deleting | stopped => cases here
  | gone | leaving | expired => rfl
  | expiring early before whole =>
      cases here
      exact absurd rfl before

/-- The call for a wrapper that is called back has not come to its test. -/
theorem calling (life : v.Life) {task : ExpiryTask} (here : v.expiryTask = some task) :
    v.stopTask.early = true := by
  cases life with
  | unmade | running | deleting | stopped | gone | expired => cases here
  | expiring early | leaving early => exact early

/-- On its way through the callback the message thread leaves the wrapper alone. -/
theorem goOn (life : v.Life) {task : ExpiryTask} (here : v.expiryTask = some task)
    {after : ExpiryTask} (before : task = .reading ∨ task = .calling ∨ task = .running)
    (later : after ≠ .destroying .unlocking) : Life { v with expiryTask := some after } := by
  cases life with
  | unmade | running | deleting | stopped | gone | expired => cases here
  | leaving early =>
      cases here
      simp at before
  | expiring early _ whole =>
      cases here
      refine .expiring early later (.inl ?_)
      rcases before with rfl | rfl | rfl <;> simpa using whole

/-- The message thread reads the wrapper of a timer that runs. -/
theorem aim (life : v.Life) (runs : v.running = true) : Life { v with aimed := true } := by
  cases life with
  | unmade | stopped | gone | expiring | leaving | expired => cases runs
  | running early => exact .running early
  | deleting inside => exact .deleting inside

theorem miss (life : v.Life) : Life { v with aimed := false } := by
  cases life with
  | unmade => exact .unmade
  | running early => exact .running early
  | deleting inside => exact .deleting inside
  | stopped => exact .stopped
  | gone past => exact .gone past
  | expiring early before whole => exact .expiring early before whole
  | leaving early => exact .leaving early
  | expired early => exact .expired early

/-- The expiry stops the timer before the call has tested the wrapper. -/
theorem expire (life : v.Life) (runs : v.running = true)
    (orderly : v.stopTask.early = true ∨ v.stopTask = .destroying .dropping) :
    Life { v with running := false, aimed := false, expiryTask := some .reading } := by
  cases life with
  | unmade | stopped | gone | expiring | leaving | expired => cases runs
  | running early => exact .expiring early (by decide) (.inl rfl)
  | deleting inside => rcases inside with rfl | rfl <;> simp [StopTask.early] at orderly

/-- An expiry at hand uses a wrapper that is there. -/
theorem aimed_uses (life : v.Life) (aimed : v.aimed = true)
    (orderly : v.stopTask.early = true ∨ v.stopTask = .destroying .dropping) :
    v.deleted = false := by
  cases life with
  | unmade | running | deleting | stopped | expiring => rfl
  | gone past => rcases past with rfl | rfl <;> simp [StopTask.early] at orderly
  | leaving | expired => cases aimed

theorem call (life : v.Life) (uncalled : v.stopTask = .uncalled) (made : v.made = true) :
    Life { v with stopTask := .destroying .entering } := by
  cases life with
  | unmade => cases made
  | running early => exact .running rfl
  | deleting | stopped => cases uncalled
  | gone past =>
      dsimp only at uncalled
      subst uncalled
      simp at past
  | expiring early before whole => exact .expiring rfl before whole
  | leaving early => exact .leaving rfl
  | expired early => exact .expired rfl

theorem idle (life : v.Life) (unmade : v.made = false) : v.running = false := by
  cases life with
  | unmade => rfl
  | running | deleting | stopped | gone | expiring | leaving | expired => cases unmade

theorem start (life : v.Life) (unmade : v.made = false) :
    Life { v with made := true, running := true, intact := true } := by
  cases life with
  | unmade => exact .running rfl
  | running | deleting | stopped | gone | expiring | leaving | expired => cases unmade

/-- A call that has returned has deleted the wrapper. -/
theorem returned (life : v.Life) (done : v.stopTask = .returned) : v.deleted = true := by
  cases life with
  | unmade | deleting | stopped => cases done
  | gone | leaving | expired => rfl
  | running early | expiring early =>
      dsimp only at done
      subst done
      cases early

end Life
end View
end A5Common.Timer
