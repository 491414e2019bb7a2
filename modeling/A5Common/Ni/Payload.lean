import A5Common.Ni.Handled

set_option autoImplicit false

namespace A5Common.Ni

open A5Common.Run

/-- The payload that the message thread has in hand. -/
def Main.held (main : Main) : Option Nat :=
  main.unsaved.bind Request.passThrough

/-- A sum over both sessions. -/
def total (f : SessionKind → Nat) : Nat :=
  f .session + f .sessionEs

theorem total_of_ne (f g : SessionKind → Nat) (kind : SessionKind)
    (same : ∀ other, other ≠ kind → f other = g other) : total f + g kind = total g + f kind := by
  cases kind with
  | session =>
      have other := same .sessionEs (by decide)
      simp only [total]
      omega
  | sessionEs =>
      have other := same .session (by decide)
      simp only [total]
      omega

namespace LocEngNi

/-- The payload that a session answers for: not one that a reset has freed. -/
def pending (σ : LocEngNi) (kind : SessionKind) : Option Nat :=
  if σ.main.freed = some kind then none else (σ.sessions kind).rawRequest

/-- The payloads that are still to be disposed of. -/
def custody (σ : LocEngNi) : List Nat :=
  σ.main.held.toList ++ (σ.pending .session).toList ++ (σ.pending .sessionEs).toList

/-- The payloads of the messages that have been made. -/
def handed (σ : LocEngNi) : List Nat :=
  (σ.threads.filterMap NiThread.msg ++ σ.sent).map LocEngInformNiResponse.mPayload

/-- How often a payload is found in any place. -/
def tally (σ : LocEngNi) (payload : Nat) : Nat :=
  σ.main.held.toList.count payload + total (fun kind => (σ.pending kind).toList.count payload) +
    σ.freed.count payload + σ.handed.count payload

theorem count_places (σ : LocEngNi) (payload : Nat) :
    (σ.custody ++ σ.freed ++ σ.handed).count payload = σ.tally payload := by
  simp only [custody, tally, total, List.count_append]
  omega

/-- A payload moves between the places of one session, the message thread and what
has been freed or handed on. -/
theorem tally_move {σ τ : LocEngNi} (kind : SessionKind) (payload : Nat)
    (others : ∀ other, other ≠ kind → τ.pending other = σ.pending other)
    (moved : τ.main.held.toList.count payload + (τ.pending kind).toList.count payload +
        τ.freed.count payload + τ.handed.count payload =
      σ.main.held.toList.count payload + (σ.pending kind).toList.count payload +
        σ.freed.count payload + σ.handed.count payload) :
    τ.tally payload = σ.tally payload := by
  have sums := total_of_ne (fun kind => (τ.pending kind).toList.count payload)
    (fun kind => (σ.pending kind).toList.count payload) kind
    (fun other apart => congrArg (fun found => found.toList.count payload) (others other apart))
  simp only [tally]
  omega

theorem pending_eq {σ : LocEngNi} (kept : σ.main.freed = none) (kind : SessionKind) :
    σ.pending kind = (σ.sessions kind).rawRequest := by
  simp only [pending, kept, reduceCtorEq, if_false]

/-- Nothing moves. -/
theorem tally_same {σ τ : LocEngNi} {main : Main} (payload : Nat) (here : σ.main = main)
    (held : τ.main.held = main.held) (before : main.freed = none) (after : τ.main.freed = none)
    (kept : ∀ kind, (τ.sessions kind).rawRequest = (σ.sessions kind).rawRequest)
    (freed : τ.freed = σ.freed) (handed : τ.handed = σ.handed) :
    τ.tally payload = σ.tally payload := by
  subst here
  have same : ∀ kind, τ.pending kind = σ.pending kind := by
    intro kind
    rw [pending_eq before, pending_eq after, kept]
  apply tally_move .session
  · exact fun other _ => same other
  · rw [held, freed, handed, same]

theorem tally_answer {σ : LocEngNi} {sessions : SessionKind → NiSession}
    {responders : List Responder}
    (kept : ∀ kind, (sessions kind).rawRequest = (σ.sessions kind).rawRequest) (payload : Nat) :
    LocEngNi.tally { σ with sessions := sessions, responders := responders } payload =
      σ.tally payload := by
  simp only [tally, pending, kept]
  rfl

theorem afterReset_idle (kind : SessionKind) :
    (afterReset kind).held = none ∧ (afterReset kind).freed = none := by
  cases kind <;> exact ⟨rfl, rfl⟩

theorem MainStep.tally {σ τ : LocEngNi} {created : Bool} (handled : σ.Handled)
    (step : σ.MainStep created τ) (payload : Nat) : τ.tally payload = σ.tally payload := by
  have main := handled.main
  cases step with
  | @ignore request here =>
      have before : σ.main.freed = none ∧ σ.main.held = request.passThrough := by
        rcases here with here | here <;> rw [here] <;> exact ⟨rfl, rfl⟩
      apply tally_move .session
      · intro other _
        rw [pending_eq before.1]
        rfl
      · have after : (σ.ignoreRequest request).pending .session =
            (σ.sessions .session).rawRequest := rfl
        rw [pending_eq before.1, before.2, after]
        simp only [ignoreRequest, Main.held, Main.unsaved, handed, Option.bind_none,
          Option.toList_none, List.count_nil, List.count_append]
        omega
  | passSession here unused => exact tally_same payload here rfl rfl rfl (fun _ => rfl) rfl rfl
  | passEs here unused => exact tally_same payload here rfl rfl rfl (fun _ => rfl) rfl rfl
  | @save request here =>
      rw [here] at main
      have unused := main.unused request rfl
      apply tally_move request.kind
      · intro other apart
        simp only [pending, here, Main.freed, Function.update_of_ne apart]
      · simp only [pending, here, Main.freed, Main.held, Main.unsaved, Function.update_self, handed,
          unused, reduceCtorEq, if_false, Option.bind_none, Option.bind_some, Option.toList_none,
          List.count_nil]
        omega
  | number here =>
      refine tally_same payload here rfl rfl rfl ?_ rfl rfl
      apply update_same
      rfl
  | fill here =>
      refine tally_same payload here rfl rfl rfl ?_ rfl rfl
      apply update_same
      rfl
  | time here respTimeLeft =>
      refine tally_same payload here rfl rfl rfl ?_ rfl rfl
      apply update_same
      rfl
  | create here =>
      refine tally_same payload here rfl rfl rfl (fun _ => rfl) rfl ?_
      cases created <;> rfl
  | notify here => exact tally_same payload here rfl rfl rfl (fun _ => rfl) rfl rfl
  | reset here => exact tally_same payload here rfl rfl rfl (fun _ => rfl) rfl rfl
  | @skip kind here =>
      have idle := afterReset_idle kind
      exact tally_same payload here idle.1 rfl idle.2 (fun _ => rfl) rfl rfl
  | @free kind here =>
      apply tally_move kind
      · intro other apart
        have ne : ¬ some kind = some other := fun same => apart (Option.some.inj same).symm
        simp only [pending, here, Main.freed, ne, if_false, reduceCtorEq]
      · simp only [pending, here, Main.freed, Main.held, Main.unsaved, handed, reduceCtorEq,
          if_false, if_true, Option.bind_none, Option.toList_none, List.count_nil,
          List.count_append]
        omega
  | @clear kind here =>
      apply tally_move kind
      · intro other apart
        have ne : ¬ some kind = some other := fun same => apart (Option.some.inj same).symm
        simp only [pending, here, Main.freed, ne, if_false, reduceCtorEq,
          Function.update_of_ne apart]
      · simp only [pending, here, Main.freed, Main.held, Main.unsaved, handed, reduceCtorEq,
          if_false, if_true, Function.update_self]
  | @signal kind here =>
      have idle := afterReset_idle kind
      refine tally_same payload here idle.1 rfl idle.2 ?_ rfl rfl
      apply update_same
      rfl

theorem MainStep.payloads {σ τ : LocEngNi} {created : Bool} (step : σ.MainStep created τ) :
    τ.payloads = σ.payloads := by
  cases step <;> rfl

/-- No thread takes a payload that a reset has freed and not cleared yet. -/
def Unraced (σ : LocEngNi) (timedOut : Bool) : Option NiThread → Prop
  | some thread =>
      σ.main.freed = some thread.kind → σ.Ends timedOut thread →
        (σ.sessions thread.kind).rawRequest = none
  | none => True

instance (σ : LocEngNi) (timedOut : Bool) (thread : Option NiThread) :
    Decidable (σ.Unraced timedOut thread) :=
  match thread with
  | some _ => inferInstanceAs (Decidable (_ → _ → _ = _))
  | none => inferInstanceAs (Decidable True)

theorem count_handed {σ : LocEngNi} {next : Option NiThread} {rest : List NiThread}
    (listed : σ.threads.Perm (next.toList ++ rest)) (payload : Nat) :
    σ.handed.count payload =
      ((next.bind NiThread.msg).map LocEngInformNiResponse.mPayload).toList.count payload +
        ((rest.filterMap NiThread.msg ++ σ.sent).map LocEngInformNiResponse.mPayload).count
          payload := by
  have moved := ((listed.filterMap NiThread.msg).append_right σ.sent).map
    LocEngInformNiResponse.mPayload
  rw [handed, moved.count_eq, List.filterMap_append, List.append_assoc, List.map_append,
    List.count_append]
  congr 2
  cases next with
  | none => rfl
  | some thread =>
      simp only [Option.toList_some, Option.bind_some, List.filterMap_cons, List.filterMap_nil]
      cases thread.msg <;> rfl

theorem pending_congr {σ τ : LocEngNi} {kind : SessionKind} (main : τ.main = σ.main)
    (kept : (τ.sessions kind).rawRequest = (σ.sessions kind).rawRequest) :
    τ.pending kind = σ.pending kind := by
  rw [pending, pending, main, kept]

theorem pending_unraced {σ : LocEngNi} {kind : SessionKind}
    (unraced : σ.main.freed = some kind → (σ.sessions kind).rawRequest = none) :
    σ.pending kind = (σ.sessions kind).rawRequest := by
  unfold pending
  split
  · rename_i freed
    exact (unraced freed).symm
  · rfl

theorem msg_of_waits {thread : NiThread} {waiter : SessionKind × Option Nat}
    (waits : thread.waits = some waiter) : thread.msg = none := by
  obtain ⟨kind, request, point⟩ := thread
  cases point with
  | starting | waiting => rfl
  | clearTime | clearId | sending => cases waits

theorem ThreadStep.others {σ after : LocEngNi} {timedOut : Bool} {thread : NiThread}
    {next : Option NiThread} (step : σ.ThreadStep timedOut thread next after)
    {other : SessionKind} (apart : other ≠ thread.kind) :
    after.sessions other = σ.sessions other := by
  cases step with
  | wait | send => rfl
  | finish | clearTime | clearId => exact Function.update_of_ne apart ..

/-- Where the payloads of the thread and of its session go in a step. -/
theorem ThreadStep.balance {σ after : LocEngNi} {timedOut : Bool} {thread : NiThread}
    {next : Option NiThread} (step : σ.ThreadStep timedOut thread next after)
    (unraced : σ.Unraced timedOut (some thread)) (payload : Nat) :
    (after.pending thread.kind).toList.count payload + after.freed.count payload +
        ((next.bind NiThread.msg).map LocEngInformNiResponse.mPayload).toList.count payload +
        (after.sent.map LocEngInformNiResponse.mPayload).count payload =
      (σ.pending thread.kind).toList.count payload + σ.freed.count payload +
        (thread.msg.map LocEngInformNiResponse.mPayload).toList.count payload +
        (σ.sent.map LocEngInformNiResponse.mPayload).count payload := by
  cases step with
  | wait waits =>
      rw [msg_of_waits waits]
      rfl
  | @finish waits ends s msg freed cleared numbered disposed =>
      have here : σ.pending thread.kind = (σ.sessions thread.kind).rawRequest :=
        pending_unraced (fun freed => unraced freed ends)
      have gone : LocEngNi.pending { σ with
          sessions := Function.update σ.sessions thread.kind s, freed := freed } thread.kind =
          none := by
        simp only [pending, Function.update_self, cleared, ite_self]
      rw [gone, here, msg_of_waits waits]
      rcases disposed with ⟨rfl, rfl⟩ | ⟨made, rfl⟩
      · simp only [Option.bind_some, NiThread.msg, Option.map_none, Option.toList_none,
          List.count_nil, List.count_append]
        omega
      · simp only [Option.bind_some, NiThread.msg, made, Option.map_none, Option.toList_none,
          List.count_nil]
        omega
  | @clearTime msg here =>
      have kept : LocEngNi.pending { σ with
          sessions := Function.update σ.sessions thread.kind
            { σ.sessions thread.kind with respTimeLeft := 0 } } thread.kind =
          σ.pending thread.kind := by
        simp only [pending, Function.update_self]
      rw [kept, NiThread.msg, here]
      rfl
  | @clearId msg here =>
      have kept : LocEngNi.pending { σ with
          sessions := Function.update σ.sessions thread.kind
            { σ.sessions thread.kind with reqID := 0 } } thread.kind =
          σ.pending thread.kind := by
        simp only [pending, Function.update_self]
      rw [kept, NiThread.msg, here]
      cases msg <;> rfl
  | @send msg here =>
      rw [NiThread.msg, here]
      simp only [pending, Option.bind_none, Option.map_none, Option.toList_none, List.count_nil,
        List.map_append, List.count_append, Option.map_some, Option.toList_some, List.map_cons,
        List.map_nil]
      omega

theorem stepThread_tally {σ τ : LocEngNi} {position : Nat} {timedOut : Bool}
    (taken : σ.stepThread position timedOut = some τ)
    (unraced : σ.Unraced timedOut σ.threads[position]?) (payload : Nat) :
    τ.tally payload = σ.tally payload := by
  obtain ⟨thread, rest, next, after, found, listed, step, rfl⟩ := stepThread_cases taken
  rw [found] at unraced
  obtain ⟨-, -, main, -⟩ := step.main
  have balance := step.balance unraced payload
  have before : σ.threads.Perm ((some thread).toList ++ rest) := listed
  have was := count_handed before payload
  have now : (LocEngNi.handed { after with threads := next.toList ++ rest }).count payload = _ :=
    count_handed (.refl _) payload
  apply tally_move thread.kind
  · intro other apart
    apply pending_congr main
    exact congrArg NiSession.rawRequest (step.others apart)
  · simp only [List.map_append, List.count_append, Option.bind_some] at was now
    rw [was, now]
    simp only [pending, main] at balance ⊢
    omega

theorem init_tally {σ : LocEngNi} (handled : σ.Handled) (notify_cb : Bool) (payload : Nat) :
    (σ.init notify_cb).tally payload = σ.tally payload := by
  unfold LocEngNi.init
  split
  · rename_i first
    simp only [Bool.and_eq_true, Bool.not_eq_true'] at first
    have before := handled.unset first.2
    refine tally_same payload before.1 ?_ rfl ?_ (fun kind => (before.2 kind).symm) rfl rfl
    · rw [← before.1]
    · rw [before.1]
      rfl
  · rfl

/-- A request that the handler looks at is in its hands. -/
theorem request_tally {σ : LocEngNi} (idle : σ.main = .idle) (kind : SessionKind)
    (privacyOverride : Bool) (timeout : Int) (passThrough : Bool)
    (introduced : passThrough = true → σ.ni_notify_cb = true) (payload : Nat) :
    (σ.request kind privacyOverride timeout passThrough).tally payload =
      σ.tally payload + (if passThrough then [σ.payloads] else []).count payload := by
  have held : ((if passThrough then some σ.payloads else none).toList.count payload) =
      (if passThrough then [σ.payloads] else []).count payload := by
    cases passThrough <;> rfl
  unfold LocEngNi.request
  dsimp only
  split
  · cases kind with
    | session =>
        simp only [tally, pending, idle, Main.held, Main.unsaved, Main.freed, handed,
          Option.bind_some, Option.bind_none, Option.toList_none, List.count_nil, held,
          reduceCtorEq, if_false]
        omega
    | sessionEs =>
        simp only [tally, pending, idle, Main.held, Main.unsaved, Main.freed, handed,
          Option.bind_some, Option.bind_none, Option.toList_none, List.count_nil, held,
          reduceCtorEq, if_false]
        omega
  · rename_i unset
    cases passThrough with
    | false => rfl
    | true => exact absurd (introduced rfl) unset

end LocEngNi

/-- The request for which the message thread is still to create a thread. -/
def Main.creating : Main → Option Request
  | .number request | .fill request | .time request _ | .create request _ => some request
  | .idle | .checkSession _ | .checkEs _ | .save _ | .notify .. | .check _ | .free _ | .clear _
  | .signal _ => none

/-- The payload whose thread is created next. -/
def Main.threadFor : Main → Option Nat
  | .create request _ => request.passThrough
  | .idle | .checkSession _ | .checkEs _ | .save _ | .number _ | .fill _ | .time .. | .notify ..
  | .check _ | .free _ | .clear _ | .signal _ => none

namespace LocEngNi

/-- A pending request has a thread that will answer it, or is about to get one. -/
def Attended (σ : LocEngNi) : Prop :=
  ∀ kind payload, (σ.sessions kind).rawRequest = some payload →
    (∃ request, σ.main.creating = some request ∧ request.kind = kind) ∨
      Busy (waiting σ.threads) kind

theorem Attended.moved {σ τ : LocEngNi} (attended : σ.Attended)
    {main : Main} (here : σ.main = main)
    (kept : ∀ kind, (τ.sessions kind).rawRequest = (σ.sessions kind).rawRequest ∨
      (τ.sessions kind).rawRequest = none)
    (creating : main.creating = none ∨ τ.main.creating = main.creating)
    (threads : ∀ kind payload, (τ.sessions kind).rawRequest = some payload →
      Busy (waiting σ.threads) kind → Busy (waiting τ.threads) kind) :
    τ.Attended := by
  subst here
  intro kind payload pending
  have before : (σ.sessions kind).rawRequest = some payload := by
    rcases kept kind with same | cleared
    · rw [← same, pending]
    · rw [cleared] at pending
      cases pending
  rcases attended kind payload before with ⟨request, at_request, same⟩ | busy
  · rcases creating with none | goes
    · rw [none] at at_request
      cases at_request
    · rw [← goes] at at_request
      exact .inl ⟨request, at_request, same⟩
  · exact .inr (threads kind payload pending busy)

theorem MainStep.attended {σ τ : LocEngNi} {created : Bool}
    (handled : σ.Handled) (attended : σ.Attended) (step : σ.MainStep created τ)
    (threaded : σ.main.threadFor.isSome = true → created = true) : τ.Attended := by
  have main := handled.main
  cases step with
  | ignore here =>
      rcases here with here | here
      · exact attended.moved here (fun _ => .inl rfl) (.inl rfl) (fun _ _ _ busy => busy)
      · exact attended.moved here (fun _ => .inl rfl) (.inl rfl) (fun _ _ _ busy => busy)
  | passSession here unused =>
      exact attended.moved here (fun _ => .inl rfl) (.inl rfl) (fun _ _ _ busy => busy)
  | passEs here unused =>
      exact attended.moved here (fun _ => .inl rfl) (.inl rfl) (fun _ _ _ busy => busy)
  | @save request here =>
      intro kind payload pending
      by_cases same : kind = request.kind
      · exact .inl ⟨request, rfl, same.symm⟩
      · simp only [Function.update_of_ne same] at pending
        rcases attended kind payload pending with ⟨other, creating, -⟩ | busy
        · rw [here] at creating
          cases creating
        · exact .inr busy
  | number here =>
      refine attended.moved here ?_ (.inr rfl) (fun _ _ _ busy => busy)
      apply update_kept
      rfl
  | fill here =>
      refine attended.moved here ?_ (.inr rfl) (fun _ _ _ busy => busy)
      apply update_kept
      rfl
  | time here respTimeLeft =>
      refine attended.moved here ?_ (.inr rfl) (fun _ _ _ busy => busy)
      apply update_kept
      rfl
  | @create request id here =>
      rw [here] at main threaded
      intro kind payload pending
      rcases attended kind payload pending with ⟨other, creating, same⟩ | busy
      · rw [here] at creating
        cases creating
        subst same
        have own := main.saved request rfl payload pending
        have made : created = true := threaded (by rw [Main.threadFor, own, Option.isSome_some])
        subst made
        exact .inr List.mem_cons_self
      · cases created with
        | true => exact .inr (List.mem_cons_of_mem _ busy)
        | false => exact .inr busy
  | notify here => exact attended.moved here (fun _ => .inl rfl) (.inl rfl) (fun _ _ _ busy => busy)
  | reset here => exact attended.moved here (fun _ => .inl rfl) (.inl rfl) (fun _ _ _ busy => busy)
  | @skip kind here =>
      exact attended.moved here (fun _ => .inl rfl) (.inl rfl) (fun _ _ _ busy => busy)
  | @free kind here =>
      exact attended.moved here (fun _ => .inl rfl) (.inl rfl) (fun _ _ _ busy => busy)
  | @clear kind here =>
      refine attended.moved here ?_ (.inl rfl) (fun _ _ _ busy => busy)
      apply update_cleared
      rfl
  | @signal kind here =>
      refine attended.moved here ?_ (.inl rfl) (fun _ _ _ busy => busy)
      apply update_kept
      rfl

/-- A session's last waiting thread takes the pending request with it. -/
theorem ThreadStep.busy {σ after : LocEngNi} {timedOut : Bool} {thread : NiThread}
    {next : Option NiThread} {rest : List NiThread} (step : σ.ThreadStep timedOut thread next after)
    (listed : σ.threads.Perm (thread :: rest)) {kind : SessionKind} {payload : Nat}
    (pending : (after.sessions kind).rawRequest = some payload)
    (busy : Busy (waiting σ.threads) kind) : Busy (waiting (next.toList ++ rest)) kind := by
  have split : Busy (waiting (thread :: rest)) kind :=
    ((waiting_perm listed).map Prod.fst).mem_iff.mp busy
  have behind : ∀ first : List NiThread, Busy (waiting rest) kind →
      Busy (waiting (first ++ rest)) kind := by
    intro first waits
    simp only [Busy, waiting, List.filterMap_append, List.map_append]
    exact List.mem_append_right _ waits
  unfold Busy waiting at split
  cases waits : thread.waits with
  | none =>
      rw [List.filterMap_cons_none waits] at split
      exact behind _ split
  | some waiter =>
      rw [List.filterMap_cons_some waits] at split
      rcases List.mem_cons.mp split with first | later
      · cases step with
        | wait here =>
            rw [here] at waits
            obtain rfl := Option.some.inj waits
            subst first
            exact List.mem_cons_self
        | finish here ends cleared numbered disposed =>
            rw [here] at waits
            obtain rfl := Option.some.inj waits
            subst first
            simp only [Function.update_self, cleared] at pending
            cases pending
        | clearTime here | clearId here | send here =>
            rw [NiThread.waits, here] at waits
            cases waits
      · exact behind _ later

theorem stepThread_attended {σ τ : LocEngNi} (attended : σ.Attended) {position : Nat}
    {timedOut : Bool} (taken : σ.stepThread position timedOut = some τ) : τ.Attended := by
  obtain ⟨thread, rest, next, after, -, listed, step, rfl⟩ := stepThread_cases taken
  obtain ⟨-, -, main, -⟩ := step.main
  refine attended.moved rfl step.kept ?_ (fun kind payload => step.busy listed)
  rw [main]
  exact .inr rfl

end LocEngNi

/-- The sessions, with the payloads that were given to `loc_eng_ni_request_handler`. -/
structure NiPayloads where
  ni : LocEngNi
  given : List Nat

namespace NiPayloads

def new : NiPayloads :=
  ⟨.new, []⟩

/-- The payload that comes with a step. -/
def brings (s : NiPayloads) : LocEngNi.Label → List Nat
  | .request _ _ _ passThrough => if passThrough then [s.ni.payloads] else []
  | .init _ | .restart | .main _ | .respond .. | .responder _ | .thread .. => []

def step (s : NiPayloads) (label : LocEngNi.Label) : Option NiPayloads :=
  (s.ni.step label).map (fun ni =>
    ⟨ni, s.given ++ s.brings label⟩)

/-- Every payload that was given is in one place, once: with the message thread or
a session, freed, or in a message. With a session it has a thread. -/
structure Disposed (s : NiPayloads) : Prop where
  given : s.given.Nodup
  once : (s.ni.custody ++ s.ni.freed ++ s.ni.handed).Perm s.given
  attended : s.ni.Attended

/-- A payload comes after `loc_eng_ni_init`. -/
def introduced (s : NiPayloads) : LocEngNi.Label → Prop
  | .request _ _ _ passThrough => passThrough = true → s.ni.ni_notify_cb = true
  | .init _ | .restart | .main _ | .respond .. | .responder _ | .thread .. => True

instance (s : NiPayloads) (label : LocEngNi.Label) : Decidable (s.introduced label) :=
  match label with
  | .request .. => inferInstanceAs (Decidable (_ → _))
  | .init _ | .restart | .main _ | .respond .. | .responder _ | .thread .. =>
      inferInstanceAs (Decidable True)

/-- No thread ends its locked section with a payload that a reset has freed. -/
def unraced (s : NiPayloads) : LocEngNi.Label → Prop
  | .thread position timedOut => s.ni.Unraced timedOut s.ni.threads[position]?
  | .init _ | .request .. | .restart | .main _ | .respond .. | .responder _ => True

instance (s : NiPayloads) (label : LocEngNi.Label) : Decidable (s.unraced label) :=
  match label with
  | .thread position timedOut =>
      inferInstanceAs (Decidable (s.ni.Unraced timedOut s.ni.threads[position]?))
  | .init _ | .request .. | .restart | .main _ | .respond .. | .responder _ =>
      inferInstanceAs (Decidable True)

/-- The thread for a payload can be created. -/
def threaded (s : NiPayloads) : LocEngNi.Label → Prop
  | .main created => s.ni.main.threadFor.isSome = true → created = true
  | .init _ | .request .. | .restart | .respond .. | .responder _ | .thread .. => True

instance (s : NiPayloads) (label : LocEngNi.Label) : Decidable (s.threaded label) :=
  match label with
  | .main created => inferInstanceAs (Decidable (_ → created = true))
  | .init _ | .request .. | .restart | .respond .. | .responder _ | .thread .. =>
      inferInstanceAs (Decidable True)

def orderly (s : NiPayloads) (label : LocEngNi.Label) : Prop :=
  s.introduced label ∧ s.unraced label ∧ s.threaded label

instance (s : NiPayloads) (label : LocEngNi.Label) : Decidable (s.orderly label) :=
  inferInstanceAs (Decidable (_ ∧ _))

structure Sound (s : NiPayloads) : Prop where
  tally : ∀ payload, s.given.count payload = s.ni.tally payload
  older : ∀ payload ∈ s.given, payload < s.ni.payloads
  given : s.given.Nodup
  attended : s.ni.Attended

end NiPayloads

/-- The network-initiated sessions, with the payloads of their requests. -/
def payloads : System NiPayloads LocEngNi.Label where
  initial s := s = .new
  step := NiPayloads.step

theorem payloads_ni {guard : NiPayloads → LocEngNi.Label → Prop} {s : NiPayloads}
    (run : payloads.ReachableUnder guard s) : ni.Reachable s.ni := by
  apply run.project NiPayloads.ni
  · intro s first
    rw [first]
    rfl
  · intro before label after _ taken
    obtain ⟨next, moved, rfl⟩ := Option.map_eq_some_iff.mp taken
    exact .inr ⟨label, moved⟩

namespace NiPayloads

/-- A step that brings no payload. -/
theorem Sound.keep {s : NiPayloads} (sound : s.Sound) {ni : LocEngNi}
    (tally : ∀ payload, ni.tally payload = s.ni.tally payload)
    (older : ni.payloads = s.ni.payloads) (attended : ni.Attended) :
    Sound ⟨ni, s.given ++ []⟩ where
  tally := by
    intro payload
    rw [List.append_nil, tally, sound.tally]
  older := by
    intro payload given
    rw [List.append_nil] at given
    rw [older]
    exact sound.older payload given
  given := by
    rw [List.append_nil]
    exact sound.given
  attended := attended

theorem Sound.request {s : NiPayloads} (sound : s.Sound) (idle : s.ni.main = .idle)
    (kind : SessionKind) (privacyOverride : Bool) (timeout : Int) (passThrough : Bool)
    (introduced : passThrough = true → s.ni.ni_notify_cb = true) :
    Sound ⟨s.ni.request kind privacyOverride timeout passThrough,
      s.given ++ if passThrough then [s.ni.payloads] else []⟩ := by
  have counted : (s.ni.request kind privacyOverride timeout passThrough).payloads =
      s.ni.payloads + 1 := by
    unfold LocEngNi.request
    dsimp only
    split
    · cases kind <;> rfl
    · rfl
  refine ⟨?_, ?_, ?_, ?_⟩
  · intro payload
    rw [List.count_append, sound.tally,
      LocEngNi.request_tally idle kind privacyOverride timeout passThrough introduced]
  · intro payload given
    rw [counted]
    rcases List.mem_append.mp given with before | new
    · have older := sound.older payload before
      omega
    · split at new
      · rw [List.mem_singleton.mp new]
        omega
      · cases new
  · apply List.nodup_append.mpr
    refine ⟨sound.given, ?_, ?_⟩
    · split
      · exact List.pairwise_singleton _ _
      · exact List.nodup_nil
    · intro payload before other new
      have older := sound.older payload before
      split at new
      · rw [List.mem_singleton.mp new]
        omega
      · cases new
  · refine sound.attended.moved idle ?_ (.inl rfl) ?_
    · intro other
      unfold LocEngNi.request
      dsimp only
      split
      · cases kind <;> exact .inl rfl
      · exact .inl rfl
    · intro other payload _ busy
      unfold LocEngNi.request
      dsimp only
      split
      · cases kind <;> exact busy
      · exact busy

theorem Sound.step {s t : NiPayloads} {label : LocEngNi.Label} (sound : s.Sound)
    (handled : s.ni.Handled) (orderly : s.orderly label) (taken : s.step label = some t) :
    t.Sound := by
  obtain ⟨next, moved, rfl⟩ := Option.map_eq_some_iff.mp taken
  obtain ⟨introduced, unraced, threaded⟩ := orderly
  have attended := sound.attended
  cases label with
  | init notify_cb =>
      obtain rfl := Option.some.inj moved
      refine sound.keep (LocEngNi.init_tally handled notify_cb) ?_ ?_
      · unfold LocEngNi.init
        split <;> rfl
      · unfold LocEngNi.init
        split
        · exact fun _ _ pending => (by cases pending)
        · exact attended
  | request kind privacyOverride timeout passThrough =>
      obtain ⟨idle, rfl⟩ := LocEngNi.request_cases moved
      exact sound.request idle kind privacyOverride timeout passThrough introduced
  | restart =>
      obtain ⟨idle, rfl | ⟨-, rfl⟩⟩ := LocEngNi.restart_cases moved
      · exact sound.keep (fun _ => rfl) rfl attended
      · refine sound.keep ?_ rfl ?_
        · exact fun payload =>
            LocEngNi.tally_same payload idle rfl rfl rfl (fun _ => rfl) rfl rfl
        · exact attended.moved idle (fun _ => .inl rfl) (.inl rfl) (fun _ _ _ busy => busy)
  | main created =>
      have step := LocEngNi.stepMain_cases moved
      exact sound.keep (step.tally handled) step.payloads
        (step.attended handled attended threaded)
  | respond notif_id user_response =>
      obtain ⟨responders, rfl⟩ := LocEngNi.respond_cases moved
      exact sound.keep (fun _ => rfl) rfl attended
  | responder position =>
      obtain ⟨sessions, responders, rfl, kept⟩ := LocEngNi.stepResponder_cases moved
      refine sound.keep ?_ rfl ?_
      · exact LocEngNi.tally_answer (fun kind => (kept kind).1)
      · exact attended.moved rfl (fun kind => .inl (kept kind).1) (.inr rfl)
          (fun _ _ _ busy => busy)
  | thread position timedOut =>
      refine sound.keep (LocEngNi.stepThread_tally moved unraced) ?_ ?_
      · obtain ⟨thread, rest, next, after, -, -, step, rfl⟩ := LocEngNi.stepThread_cases moved
        exact step.main.2.1
      · exact LocEngNi.stepThread_attended attended moved

end NiPayloads

theorem payloads_sound {s : NiPayloads} (run : payloads.ReachableUnder NiPayloads.orderly s) :
    s.Sound := by
  apply run.invariant NiPayloads.Sound
  · intro s first
    rw [first]
    refine ⟨fun _ => rfl, nofun, List.nodup_nil, nofun⟩
  · intro before label after reached sound orderly taken
    exact sound.step (ni_handled (payloads_ni reached)) orderly taken

/-- In every orderly run, each payload is freed, in one message, or still to be
disposed of by the thread of its request. -/
theorem payload_disposed {s : NiPayloads} (run : payloads.ReachableUnder NiPayloads.orderly s) :
    s.Disposed := by
  have sound := payloads_sound run
  refine ⟨sound.given, ?_, sound.attended⟩
  apply List.perm_iff_count.mpr
  intro payload
  rw [LocEngNi.count_places, sound.tally]

open LocEngNi.Label

/-- A request that is answered, an ignored one, and one that ends with a restart. -/
theorem payload_disposed_thrice :
    ∃ s, payloads.execUnder NiPayloads.orderly .new
        ([init true, request .session false 0 true] ++ List.replicate 8 (main true) ++
          [request .session false 0 true, main true, respond 1 GPS_NI_RESPONSE_ACCEPT] ++
          List.replicate 4 (responder 0) ++ List.replicate 4 (thread 0 false) ++
          [request .sessionEs false 0 true] ++ List.replicate 7 (main true) ++
          [restart] ++ List.replicate 5 (main true)) = some s ∧
      (s.ni.freed, s.ni.handed) = ([1, 2], [0]) ∧ s.Disposed := by
  apply System.execUnder_then rfl
  · intro s run _
    exact payload_disposed run
  · decide +kernel

/-- A restart frees the payload of a request as that times out, and the thread then
makes a message of it; the payload of a request before `loc_eng_ni_init` is lost; and
nothing takes care of one whose thread could not be created. -/
theorem payload_mislaid :
    (¬ ∀ s, payloads.ReachableUnder (fun s label => s.introduced label ∧ s.threaded label) s →
        s.Disposed) ∧
      (¬ ∀ s, payloads.ReachableUnder (fun s label => s.unraced label ∧ s.threaded label) s →
        s.Disposed) ∧
      ¬ ∀ s, payloads.ReachableUnder (fun s label => s.introduced label ∧ s.unraced label) s →
        s.Disposed := by
  have start : payloads.initial .new := rfl
  refine ⟨fun disposed => ?_, fun disposed => ?_, fun disposed => ?_⟩
  · obtain ⟨s, run, seen⟩ := System.reachableUnder_of_exec
      (fun s label => s.introduced label ∧ s.threaded label) start
      ([init true, request .session false 0 true] ++ List.replicate 8 (main true) ++
        [thread 0 false, restart] ++ List.replicate 3 (main true) ++ [thread 0 true])
      (fun s => decide ((s.ni.custody ++ s.ni.freed ++ s.ni.handed).length ≠ s.given.length))
      (by decide +kernel)
    exact of_decide_eq_true seen (disposed s run).once.length_eq
  · obtain ⟨s, run, seen⟩ := System.reachableUnder_of_exec
      (fun s label => s.unraced label ∧ s.threaded label) start [request .session false 0 true]
      (fun s => decide ((s.ni.custody ++ s.ni.freed ++ s.ni.handed).length ≠ s.given.length))
      (by decide +kernel)
    exact of_decide_eq_true seen (disposed s run).once.length_eq
  · obtain ⟨s, run, seen⟩ := System.reachableUnder_of_exec
      (fun s label => s.introduced label ∧ s.unraced label) start
      ([init true, request .session false 0 true] ++ List.replicate 6 (main true) ++ [main false])
      (fun s => decide ((s.ni.sessions .session).rawRequest = some 0 ∧
        s.ni.main.creating.isNone = true ∧ waiting s.ni.threads = []))
      (by decide +kernel)
    obtain ⟨pending, notifying, unattended⟩ := of_decide_eq_true seen
    rcases (disposed s run).attended .session 0 pending with ⟨request, creating, -⟩ | busy
    · rw [creating] at notifying
      cases notifying
    · rw [Busy, unattended] at busy
      cases busy

end A5Common.Ni
