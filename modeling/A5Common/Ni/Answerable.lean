import A5Common.Ni.Handled

set_option autoImplicit false

namespace A5Common.Ni

open A5Common.Run

/-- The request that is saved and has no id yet. -/
def Main.unnumbered : Main → Option Request
  | .number request => some request
  | .idle | .checkSession _ | .checkEs _ | .save _ | .fill _ | .time .. | .create .. | .notify ..
  | .check _ | .free _ | .clear _ | .signal _ => none

/-- The largest value of `reqIDCounter`, an `int`. -/
def INT_MAX : Nat := 2147483647

/-- The request that has its id, with the id it will be notified with. -/
def Main.announces : Main → Option (Request × BitVec 32)
  | .time request id | .create request id | .notify request id => some (request, id)
  | .idle | .checkSession _ | .checkEs _ | .save _ | .number _ | .fill _ | .check _ | .free _
  | .clear _ | .signal _ => none

/-- The request that the handler works on. -/
def Main.inHand (main : Main) : Option Request :=
  main.unsaved.or main.saved

namespace LocEngNi

/-- The session that a call of `loc_eng_ni_respond` answers if nothing comes in
between its accesses. -/
def selects : Nat → Responder → LocEngNi → Option SessionKind
  | 0, _, _ => none
  | fuel + 1, responder, σ =>
      match responder.point with
      | .respond kind => some kind
      | .checkEsId | .checkEs | .checkOther | .ignoreOther | .checkId | .check =>
          (σ.niRespond responder).1.bind (fun next =>
            selects fuel next (σ.niRespond responder).2)

/-- The id of the session is the one that the user was notified with, and a
response with that id finds the session. -/
structure Answerable (σ : LocEngNi) (kind : SessionKind) (payload : Nat) : Prop where
  notified : ∀ id, (some payload, id) ∈ σ.notified ↔ id = (σ.sessions kind).reqID
  found : ∀ user_response,
    σ.selects 5 ⟨(σ.sessions kind).reqID, user_response, .checkEsId⟩ = some kind

/-- The handler is not in the middle of setting the session up. -/
def Settled (σ : LocEngNi) (kind : SessionKind) : Prop :=
  ∀ request, σ.main.saved = some request → request.kind ≠ kind

/-- Every pending request can be answered. -/
def AllAnswerable (σ : LocEngNi) : Prop :=
  ∀ kind payload, (σ.sessions kind).rawRequest = some payload → σ.Settled kind →
    σ.Answerable kind payload

/-- A thread that has unlocked its session does not zero the id that a request
there has been given. -/
def Spares (σ : LocEngNi) : Option NiThread → Prop
  | some ⟨kind, _, .clearId _⟩ =>
      (σ.sessions kind).rawRequest = none ∨ σ.main.unnumbered.map Request.kind = some kind
  | _ => True

instance (σ : LocEngNi) (thread : Option NiThread) : Decidable (σ.Spares thread) :=
  match thread with
  | some ⟨_, _, .clearId _⟩ => inferInstanceAs (Decidable (_ ∨ _))
  | some ⟨_, _, .starting⟩ | some ⟨_, _, .waiting⟩ | some ⟨_, _, .clearTime _⟩
  | some ⟨_, _, .sending _⟩ | none => inferInstanceAs (Decidable True)

/-- The counter of the ids does not overflow. -/
def Counts (σ : LocEngNi) : Main → Prop
  | .number _ => σ.reqIDCounter.toNat < INT_MAX
  | _ => True

instance (σ : LocEngNi) (main : Main) : Decidable (σ.Counts main) :=
  match main with
  | .number _ => inferInstanceAs (Decidable (_ < _))
  | .idle | .checkSession _ | .checkEs _ | .save _ | .fill _ | .time .. | .create .. | .notify ..
  | .check _ | .free _ | .clear _ | .signal _ => inferInstanceAs (Decidable True)

def keepsIds (σ : LocEngNi) : Label → Prop
  | .thread position _ => σ.Spares σ.threads[position]?
  | .main _ => σ.Counts σ.main
  | .init _ | .request .. | .restart | .respond .. | .responder _ => True

instance (σ : LocEngNi) (label : Label) : Decidable (σ.keepsIds label) :=
  match label with
  | .thread position _ => inferInstanceAs (Decidable (σ.Spares σ.threads[position]?))
  | .main _ => inferInstanceAs (Decidable (σ.Counts σ.main))
  | .init _ | .request .. | .restart | .respond .. | .responder _ =>
      inferInstanceAs (Decidable True)

/-- The requests that have been notified are pending with the ids they were
notified with, and those are not zero and differ. -/
structure Numbered (σ : LocEngNi) : Prop where
  settled : ∀ kind payload, (σ.sessions kind).rawRequest = some payload → σ.Settled kind →
    ∀ id, (some payload, id) ∈ σ.notified ↔ id = (σ.sessions kind).reqID
  announces : ∀ request id, σ.main.announces = some (request, id) →
    (σ.sessions request.kind).rawRequest ≠ none → (σ.sessions request.kind).reqID = id
  inHand : ∀ request, σ.main.inHand = some request → ∀ payload, request.passThrough = some payload →
    ∀ id, (some payload, id) ∉ σ.notified
  older : ∀ payload id, (some payload, id) ∈ σ.notified → payload < σ.payloads
  positive : ∀ kind, (σ.sessions kind).rawRequest ≠ none →
    σ.main.unnumbered.map Request.kind ≠ some kind → (σ.sessions kind).reqID ≠ 0
  counted : ∀ kind, (σ.sessions kind).reqID.toNat ≤ σ.reqIDCounter.toNat
  distinct : (σ.sessions .session).reqID = (σ.sessions .sessionEs).reqID →
    (σ.sessions .session).reqID = 0

end LocEngNi

theorem Main.saved_of_unnumbered {main : Main} {request : Request}
    (unnumbered : main.unnumbered = some request) : main.saved = some request := by
  cases main with
  | number => exact unnumbered
  | _ => cases unnumbered

theorem Main.unnumbered_of_announces {main : Main} {announced : Request × BitVec 32}
    (announces : main.announces = some announced) : main.unnumbered = none := by
  cases main with
  | time | create | notify => rfl
  | _ => cases announces

namespace LocEngNi

/-- A step that writes no id, but for a zero where no request has one. -/
theorem Numbered.moved {σ τ : LocEngNi} (numbered : σ.Numbered) {main : Main}
    (here : σ.main = main) (notified : τ.notified = σ.notified)
    (payloads : τ.payloads = σ.payloads) (counter : τ.reqIDCounter = σ.reqIDCounter)
    (saved : main.saved = none ∨ τ.main.saved = main.saved)
    (announces : τ.main.announces = none ∨ τ.main.announces = main.announces)
    (inHand : τ.main.inHand = none ∨ τ.main.inHand = main.inHand)
    (unnumbered : τ.main.unnumbered = main.unnumbered)
    (kept : ∀ kind, (τ.sessions kind).rawRequest = none ∨
      (τ.sessions kind).rawRequest = (σ.sessions kind).rawRequest ∧
        ((τ.sessions kind).reqID = (σ.sessions kind).reqID ∨
          τ.main.unnumbered.map Request.kind = some kind))
    (ids : ∀ kind, (τ.sessions kind).reqID = (σ.sessions kind).reqID ∨
      (τ.sessions kind).reqID = 0) : τ.Numbered := by
  subst here
  -- what is known of a pending request whose id is not about to be written
  have before : ∀ kind, (τ.sessions kind).rawRequest ≠ none →
      τ.main.unnumbered.map Request.kind ≠ some kind →
      (τ.sessions kind).rawRequest = (σ.sessions kind).rawRequest ∧
        (τ.sessions kind).reqID = (σ.sessions kind).reqID := by
    intro kind pending elsewhere
    rcases kept kind with cleared | ⟨same, number | here⟩
    · exact absurd cleared pending
    · exact ⟨same, number⟩
    · exact absurd here elsewhere
  refine ⟨?_, ?_, ?_, ?_, ?_, ?_, ?_⟩
  · intro kind payload pending settled
    have elsewhere : τ.main.unnumbered.map Request.kind ≠ some kind := by
      intro here
      obtain ⟨request, numbers, same⟩ := Option.map_eq_some_iff.mp here
      exact settled request (Main.saved_of_unnumbered numbers) same
    have same := before kind (by simp only [pending, ne_eq, reduceCtorEq, not_false_eq_true])
      elsewhere
    have settled : σ.Settled kind := by
      intro request here
      rcases saved with none | saved
      · rw [none] at here
        cases here
      · exact settled request (saved.trans here)
    rw [notified, same.2]
    exact numbered.settled kind payload (same.1 ▸ pending) settled
  · intro request id here pending
    have none := Main.unnumbered_of_announces here
    have same := before request.kind pending (by simp only [none, Option.map_none, ne_eq,
      reduceCtorEq, not_false_eq_true])
    rcases announces with quiet | announces
    · rw [quiet] at here
      cases here
    · rw [same.2]
      exact numbered.announces request id (announces ▸ here) (same.1 ▸ pending)
  · intro request here
    rw [notified]
    rcases inHand with none | inHand
    · rw [none] at here
      cases here
    · exact numbered.inHand request (inHand ▸ here)
  · rw [notified, payloads]
    exact numbered.older
  · intro kind pending elsewhere
    have same := before kind pending elsewhere
    rw [same.2]
    exact numbered.positive kind (same.1 ▸ pending) (unnumbered ▸ elsewhere)
  · intro kind
    rw [counter]
    rcases ids kind with same | zero
    · rw [same]
      exact numbered.counted kind
    · rw [zero]
      exact Nat.zero_le _
  · intro same
    rcases ids .session with session | zero
    · rcases ids .sessionEs with sessionEs | zero
      · rw [session] at same ⊢
        exact numbered.distinct (same.trans sessionEs)
      · rw [same, zero]
    · exact zero

theorem update_ids {sessions : SessionKind → NiSession} {kind : SessionKind} {s : NiSession}
    (kept : s.reqID = (sessions kind).reqID) (other : SessionKind) :
    (Function.update sessions kind s other).reqID = (sessions other).reqID := by
  by_cases same : other = kind
  · subst same
    rw [Function.update_self, kept]
  · rw [Function.update_of_ne same]

/-- A change of one session that leaves its id, and keeps or takes away its
pending request. -/
theorem Numbered.setUp {σ τ : LocEngNi} (numbered : σ.Numbered) {main : Main}
    (here : σ.main = main) {kind : SessionKind} {s : NiSession}
    (sessions : τ.sessions = Function.update σ.sessions kind s)
    (notified : τ.notified = σ.notified)
    (payloads : τ.payloads = σ.payloads) (counter : τ.reqIDCounter = σ.reqIDCounter)
    (saved : main.saved = none ∨ τ.main.saved = main.saved)
    (announces : τ.main.announces = none ∨ τ.main.announces = main.announces)
    (inHand : τ.main.inHand = none ∨ τ.main.inHand = main.inHand)
    (unnumbered : τ.main.unnumbered = main.unnumbered)
    (kept : s.rawRequest = none ∨ s.rawRequest = (σ.sessions kind).rawRequest)
    (number : s.reqID = (σ.sessions kind).reqID) : τ.Numbered := by
  refine numbered.moved here notified payloads counter saved announces inHand unnumbered ?_ ?_
  · intro other
    rw [sessions, update_ids number]
    rcases kept with cleared | kept
    · rcases update_cleared cleared other with same | none
      · exact .inr ⟨same, .inl rfl⟩
      · exact .inl none
    · exact .inr ⟨update_same kept other, .inl rfl⟩
  · intro other
    rw [sessions]
    exact .inl (update_ids number other)

/-- The message thread goes on without a write to a session. -/
theorem Numbered.goOn {σ τ : LocEngNi} (numbered : σ.Numbered) {main : Main}
    (here : σ.main = main) (sessions : τ.sessions = σ.sessions)
    (notified : τ.notified = σ.notified)
    (payloads : τ.payloads = σ.payloads) (counter : τ.reqIDCounter = σ.reqIDCounter)
    (saved : main.saved = none ∨ τ.main.saved = main.saved)
    (announces : τ.main.announces = none ∨ τ.main.announces = main.announces)
    (inHand : τ.main.inHand = none ∨ τ.main.inHand = main.inHand)
    (unnumbered : τ.main.unnumbered = main.unnumbered) : τ.Numbered := by
  refine numbered.moved here notified payloads counter saved announces inHand unnumbered ?_ ?_
  · intro kind
    rw [sessions]
    exact .inr ⟨rfl, .inl rfl⟩
  · intro kind
    rw [sessions]
    exact .inl rfl

theorem settled_of_saved {σ : LocEngNi} {main : Main} {request : Request} {kind : SessionKind}
    (here : σ.main = main) (saved : main.saved = none ∨ main.saved = some request)
    (other : kind ≠ request.kind) : σ.Settled kind := by
  subst here
  intro found here same
  rcases saved with none | saved
  · rw [none] at here
    cases here
  · rw [saved] at here
    cases here
    exact other same.symm

/-- The request that is saved has not been notified. -/
theorem Numbered.save {σ : LocEngNi} (numbered : σ.Numbered) {request : Request}
    (here : σ.main = .save request) :
    Numbered { σ with
      sessions := Function.update σ.sessions request.kind
        { σ.sessions request.kind with rawRequest := request.passThrough, asked := none }
      main := .number request } := by
  have number : ∀ other, (Function.update σ.sessions request.kind
      { σ.sessions request.kind with rawRequest := request.passThrough, asked := none }
      other).reqID = (σ.sessions other).reqID := update_ids rfl
  refine ⟨?_, nofun, ?_, numbered.older, ?_, ?_, ?_⟩
  · intro kind payload pending settled
    have other : kind ≠ request.kind := (settled request rfl).symm
    simp only [Function.update_of_ne other] at pending ⊢
    exact numbered.settled kind payload pending (settled_of_saved here (.inl rfl) other)
  · rintro other ⟨⟩
    apply numbered.inHand
    rw [here]
    rfl
  · intro kind pending elsewhere
    have other : kind ≠ request.kind := fun same => elsewhere (congrArg some same.symm)
    simp only [Function.update_of_ne other] at pending ⊢
    apply numbered.positive kind pending
    rw [here]
    exact nofun
  · intro kind
    rw [number]
    exact numbered.counted kind
  · rw [number, number]
    exact numbered.distinct

theorem toNat_next {counter : BitVec 32} (counts : counter.toNat < INT_MAX) :
    (counter + 1).toNat = counter.toNat + 1 := by
  unfold INT_MAX at counts
  rw [BitVec.toNat_add]
  have one : (1 : BitVec 32).toNat = 1 := rfl
  omega

/-- The id that a request gets is that of no other session. -/
theorem Numbered.number {σ : LocEngNi} (numbered : σ.Numbered) {request : Request}
    (here : σ.main = .number request) (counts : σ.reqIDCounter.toNat < INT_MAX) :
    Numbered { σ with
      sessions := Function.update σ.sessions request.kind
        { σ.sessions request.kind with reqID := σ.reqIDCounter + 1 }
      reqIDCounter := σ.reqIDCounter + 1
      main := .fill request } := by
  have next := toNat_next counts
  have new : ∀ kind, (σ.sessions kind).reqID ≠ σ.reqIDCounter + 1 := by
    intro kind same
    have counted := numbered.counted kind
    rw [same] at counted
    omega
  refine ⟨?_, nofun, ?_, numbered.older, ?_, ?_, ?_⟩
  · intro kind payload pending settled
    have other : kind ≠ request.kind := (settled request rfl).symm
    simp only [Function.update_of_ne other] at pending ⊢
    exact numbered.settled kind payload pending (settled_of_saved here (.inr rfl) other)
  · rintro other ⟨⟩
    apply numbered.inHand
    rw [here]
    rfl
  · intro kind pending _
    by_cases same : kind = request.kind
    · subst same
      simp only [Function.update_self]
      intro zero
      rw [zero] at next
      cases next
    · simp only [Function.update_of_ne same] at pending ⊢
      apply numbered.positive kind pending
      rw [here]
      exact fun other => same (Option.some.inj other).symm
  · intro kind
    by_cases same : kind = request.kind
    · subst same
      simp only [Function.update_self]
      exact Nat.le_of_eq rfl
    · simp only [Function.update_of_ne same]
      have counted := numbered.counted kind
      omega
  · cases kind : request.kind with
    | session =>
        intro same
        simp only [Function.update_self, ne_eq, reduceCtorEq, not_false_eq_true,
          Function.update_of_ne] at same
        exact absurd same.symm (new .sessionEs)
    | sessionEs =>
        intro same
        simp only [Function.update_self, ne_eq, reduceCtorEq, not_false_eq_true,
          Function.update_of_ne] at same
        exact absurd same (new .session)

/-- A request is notified with the id it has. -/
theorem Numbered.fill {σ : LocEngNi} (numbered : σ.Numbered) {request : Request}
    (here : σ.main = .fill request) (mute_session_state : Bool) :
    Numbered { σ with
      sessions := Function.update σ.sessions request.kind
        { σ.sessions request.kind with asked := some (σ.sessions request.kind).reqID }
      mute_session_state := mute_session_state
      main := .time request (σ.sessions request.kind).reqID } := by
  have filled : Numbered { σ with
      sessions := Function.update σ.sessions request.kind
        { σ.sessions request.kind with asked := some (σ.sessions request.kind).reqID }
      mute_session_state := mute_session_state
      main := .fill request } :=
    numbered.setUp here rfl rfl rfl rfl (.inr rfl) (.inr rfl) (.inr rfl) rfl (.inr rfl) rfl
  refine ⟨filled.settled, ?_, filled.inHand, filled.older, filled.positive, filled.counted,
    filled.distinct⟩
  rintro other id ⟨⟩ _
  simp only [Function.update_self]

theorem Numbered.notify {σ : LocEngNi} (numbered : σ.Numbered) (handled : σ.Handled)
    {request : Request} {id : BitVec 32} (here : σ.main = .notify request id) :
    Numbered { σ with notified := σ.notified ++ [(request.passThrough, id)], main := .idle } := by
  have main := handled.main
  rw [here] at main
  refine ⟨?_, nofun, nofun, ?_, ?_, numbered.counted, numbered.distinct⟩
  · intro kind payload pending _ found
    by_cases same : kind = request.kind
    · subst same
      have own := main.saved request rfl payload pending
      have number := numbered.announces request id (by rw [here]; rfl)
        (by rw [pending]; exact nofun)
      have unannounced := numbered.inHand request (by rw [here]; rfl) payload own found
      simp only [List.mem_append, unannounced, List.mem_singleton, own, number, Prod.mk.injEq,
        true_and, false_or]
    · have settled := settled_of_saved here (.inr rfl) same
      have foreign : request.passThrough ≠ some payload :=
        fun own => (main.apart request rfl payload own).2 kind same pending
      have apart : ¬ some payload = request.passThrough := fun own => foreign own.symm
      simp only [List.mem_append, List.mem_singleton, Prod.mk.injEq, apart, false_and, or_false]
      exact numbered.settled kind payload pending settled found
  · intro payload found member
    rcases List.mem_append.mp member with before | new
    · exact numbered.older payload found before
    · have own := congrArg Prod.fst (List.mem_singleton.mp new)
      exact (main.apart request rfl payload own.symm).1
  · intro kind pending _
    apply numbered.positive kind pending
    rw [here]
    exact nofun

theorem Numbered.stepMain {σ τ : LocEngNi} {created : Bool} (numbered : σ.Numbered)
    (handled : σ.Handled) (counts : σ.Counts σ.main) (step : σ.MainStep created τ) :
    τ.Numbered := by
  cases step with
  | ignore here =>
      rcases here with here | here
      · exact numbered.goOn here rfl rfl rfl rfl (.inl rfl) (.inl rfl) (.inl rfl) rfl
      · exact numbered.goOn here rfl rfl rfl rfl (.inl rfl) (.inl rfl) (.inl rfl) rfl
  | passSession here unused =>
      exact numbered.goOn here rfl rfl rfl rfl (.inl rfl) (.inl rfl) (.inr rfl) rfl
  | passEs here unused =>
      exact numbered.goOn here rfl rfl rfl rfl (.inl rfl) (.inl rfl) (.inr rfl) rfl
  | save here => exact numbered.save here
  | number here =>
      rw [here] at counts
      exact numbered.number here counts
  | fill here => exact numbered.fill here _
  | time here respTimeLeft =>
      exact numbered.setUp here rfl rfl rfl rfl (.inr rfl) (.inr rfl) (.inr rfl) rfl (.inr rfl) rfl
  | create here => exact numbered.goOn here rfl rfl rfl rfl (.inr rfl) (.inr rfl) (.inr rfl) rfl
  | notify here => exact numbered.notify handled here
  | reset here => exact numbered.goOn here rfl rfl rfl rfl (.inl rfl) (.inl rfl) (.inl rfl) rfl
  | @skip kind here =>
      cases kind with
      | session => exact numbered.goOn here rfl rfl rfl rfl (.inl rfl) (.inl rfl) (.inl rfl) rfl
      | sessionEs => exact numbered.goOn here rfl rfl rfl rfl (.inl rfl) (.inl rfl) (.inl rfl) rfl
  | free here => exact numbered.goOn here rfl rfl rfl rfl (.inl rfl) (.inl rfl) (.inl rfl) rfl
  | clear here =>
      exact numbered.setUp here rfl rfl rfl rfl (.inl rfl) (.inl rfl) (.inl rfl) rfl (.inl rfl) rfl
  | @signal kind here =>
      cases kind with
      | session =>
          exact numbered.setUp here rfl rfl rfl rfl (.inl rfl) (.inl rfl) (.inl rfl) rfl (.inr rfl)
            rfl
      | sessionEs =>
          exact numbered.setUp here rfl rfl rfl rfl (.inl rfl) (.inl rfl) (.inl rfl) rfl (.inr rfl)
            rfl

theorem Numbered.stepThread {σ τ : LocEngNi} (numbered : σ.Numbered) {position : Nat}
    {timedOut : Bool} (spares : σ.Spares σ.threads[position]?)
    (taken : σ.stepThread position timedOut = some τ) : τ.Numbered := by
  obtain ⟨thread, rest, next, after, found, -, step, rfl⟩ := stepThread_cases taken
  rw [found] at spares
  cases step with
  | wait waits => exact numbered.goOn rfl rfl rfl rfl rfl (.inr rfl) (.inr rfl) (.inr rfl) rfl
  | finish waits ends cleared number disposed =>
      exact numbered.setUp rfl rfl rfl rfl rfl (.inr rfl) (.inr rfl) (.inr rfl) rfl (.inl cleared)
        number
  | clearTime here =>
      exact numbered.setUp rfl rfl rfl rfl rfl (.inr rfl) (.inr rfl) (.inr rfl) rfl (.inr rfl) rfl
  | clearId here =>
      obtain ⟨kind, request, point⟩ := thread
      cases here
      refine numbered.moved rfl rfl rfl rfl (.inr rfl) (.inr rfl) (.inr rfl) rfl ?_ ?_
      · intro other
        by_cases same : other = kind
        · subst same
          simp only [Function.update_self]
          rcases spares with none | here
          · exact .inl none
          · exact .inr ⟨trivial, .inr here⟩
        · simp only [Function.update_of_ne same]
          exact .inr ⟨trivial, .inl trivial⟩
      · intro other
        by_cases same : other = kind
        · subst same
          simp only [Function.update_self]
          exact .inr trivial
        · simp only [Function.update_of_ne same]
          exact .inl trivial
  | send here => exact numbered.goOn rfl rfl rfl rfl rfl (.inr rfl) (.inr rfl) (.inr rfl) rfl

theorem Numbered.init {σ : LocEngNi} (numbered : σ.Numbered) (handled : σ.Handled)
    (notify_cb : Bool) : (σ.init notify_cb).Numbered := by
  unfold LocEngNi.init
  split
  · rename_i first
    simp only [Bool.and_eq_true, Bool.not_eq_true'] at first
    have idle := (handled.unset first.2).1
    have quiet : σ.main.announces = none ∧ σ.main.inHand = none := by
      rw [idle]
      exact ⟨rfl, rfl⟩
    exact numbered.moved idle rfl rfl rfl (.inl rfl) (.inl quiet.1) (.inl quiet.2)
      (congrArg Main.unnumbered idle) (fun _ => .inl rfl) (fun _ => .inr rfl)
  · exact numbered

theorem Numbered.request {σ : LocEngNi} (numbered : σ.Numbered) (idle : σ.main = .idle)
    (kind : SessionKind) (privacyOverride : Bool) (timeout : Int) (passThrough : Bool) :
    (σ.request kind privacyOverride timeout passThrough).Numbered := by
  have older : ∀ payload id, (some payload, id) ∈ σ.notified → payload < σ.payloads + 1 := by
    intro payload id member
    have before := numbered.older payload id member
    omega
  have fresh : ∀ payload, (if passThrough then some σ.payloads else none) = some payload →
      ∀ id, (some payload, id) ∉ σ.notified := by
    intro payload own id member
    have before := numbered.older payload id member
    split at own
    · obtain rfl := Option.some.inj own
      omega
    · cases own
  have settled : ∀ kind, σ.Settled kind := by
    intro kind request here
    rw [idle] at here
    cases here
  have positive : ∀ kind, (σ.sessions kind).rawRequest ≠ none → (σ.sessions kind).reqID ≠ 0 := by
    intro kind pending
    apply numbered.positive kind pending
    rw [idle]
    exact nofun
  unfold LocEngNi.request
  dsimp only
  split
  · cases kind with
    | session =>
        refine ⟨fun kind payload pending _ => numbered.settled kind payload pending (settled kind),
          nofun, ?_, older, fun kind pending _ => positive kind pending, numbered.counted,
          numbered.distinct⟩
        rintro request ⟨⟩
        exact fresh
    | sessionEs => 
        refine ⟨fun kind payload pending _ => numbered.settled kind payload pending (settled kind),
          nofun, ?_, older, fun kind pending _ => positive kind pending, numbered.counted,
          numbered.distinct⟩
        rintro request ⟨⟩
        exact fresh
  · exact ⟨numbered.settled, numbered.announces, numbered.inHand, older, numbered.positive,
      numbered.counted, numbered.distinct⟩

theorem numbered_new : new.Numbered :=
  ⟨nofun, nofun, nofun, nofun, fun _ pending => absurd rfl pending, fun _ => Nat.le_of_eq rfl,
    fun _ => rfl⟩

/-- A pending request is found by its id. -/
theorem Numbered.found {σ : LocEngNi} (numbered : σ.Numbered) {kind : SessionKind} {payload : Nat}
    (pending : (σ.sessions kind).rawRequest = some payload) (settled : σ.Settled kind)
    (user_response : GpsUserResponseType) :
    σ.selects 5 ⟨(σ.sessions kind).reqID, user_response, .checkEsId⟩ = some kind := by
  have positive : (σ.sessions kind).reqID ≠ 0 := by
    apply numbered.positive kind
    · rw [pending]
      exact nofun
    · intro here
      obtain ⟨request, numbers, same⟩ := Option.map_eq_some_iff.mp here
      exact settled request (Main.saved_of_unnumbered numbers) same
  cases kind with
  | session =>
      have other : (σ.sessions .session).reqID ≠ (σ.sessions .sessionEs).reqID :=
        fun same => positive (numbered.distinct same)
      simp [selects, niRespond, other, pending]
  | sessionEs =>
      by_cases accepted : user_response = GPS_NI_RESPONSE_ACCEPT
      · by_cases waiting : (σ.sessions .session).rawRequest.isSome = true
        · simp [selects, niRespond, pending, accepted, waiting]
        · simp [selects, niRespond, pending, accepted, waiting]
      · simp [selects, niRespond, pending, accepted]

end LocEngNi

theorem ni_numbered {σ : LocEngNi} (run : ni.ReachableUnder LocEngNi.keepsIds σ) : σ.Numbered := by
  apply run.invariant LocEngNi.Numbered
  · intro σ first
    rw [first]
    exact LocEngNi.numbered_new
  · intro before label after reached numbered keeps taken
    have handled := ni_handled reached.unguarded
    cases label with
    | init notify_cb =>
        obtain rfl := Option.some.inj taken
        exact numbered.init handled notify_cb
    | request kind privacyOverride timeout passThrough =>
        obtain ⟨idle, rfl⟩ := LocEngNi.request_cases taken
        exact numbered.request idle kind privacyOverride timeout passThrough
    | restart =>
        obtain ⟨idle, rfl | ⟨-, rfl⟩⟩ := LocEngNi.restart_cases taken
        · exact numbered
        · exact numbered.goOn idle rfl rfl rfl rfl (.inl rfl) (.inl rfl) (.inl rfl) rfl
    | main created => exact numbered.stepMain handled keeps (LocEngNi.stepMain_cases taken)
    | respond notif_id user_response =>
        obtain ⟨responders, rfl⟩ := LocEngNi.respond_cases taken
        exact numbered.goOn rfl rfl rfl rfl rfl (.inr rfl) (.inr rfl) (.inr rfl) rfl
    | responder position =>
        obtain ⟨sessions, responders, rfl, kept⟩ := LocEngNi.stepResponder_cases taken
        exact numbered.moved rfl rfl rfl rfl (.inr rfl) (.inr rfl) (.inr rfl) rfl
          (fun kind => .inr ⟨(kept kind).1, .inl (kept kind).2⟩) (fun kind => .inl (kept kind).2)
    | thread position timedOut => exact numbered.stepThread keeps taken

/-- In every run in which no thread zeroes the id of a request that comes after its
own, a pending request can be answered. -/
theorem pending_answerable {σ : LocEngNi} (run : ni.ReachableUnder LocEngNi.keepsIds σ) :
    σ.AllAnswerable := by
  have numbered := ni_numbered run
  intro kind payload pending settled
  exact ⟨numbered.settled kind payload pending settled, numbered.found pending settled⟩

open LocEngNi.Label

/-- The next request of a session, pending with its id. -/
theorem pending_answerable_next :
    ∃ σ, ni.execUnder LocEngNi.keepsIds .new
        ([init true, request .session false 0 true] ++ List.replicate 8 (main true) ++
          List.replicate 4 (thread 0 true) ++
          [request .session false 0 true] ++ List.replicate 8 (main true)) = some σ ∧
      (σ.sessions .session).rawRequest = some 1 ∧ (σ.sessions .session).reqID = 2 ∧
      σ.AllAnswerable := by
  refine Exists.imp (fun σ => And.imp_right and_assoc.mp) ?_
  apply System.execUnder_then rfl
  · intro σ run _
    exact pending_answerable run
  · decide +kernel

/-- The next request of the session comes before the thread of the first one has
zeroed the id. -/
theorem pending_unanswerable : ¬ ∀ σ, ni.Reachable σ → σ.AllAnswerable := by
  intro answerable
  have start : ni.initial .new := rfl
  obtain ⟨σ, run, seen⟩ := System.reachable_of_exec start
    ([init true, request .session false 0 true] ++ List.replicate 8 (main true) ++
      List.replicate 3 (thread 0 true) ++
      [request .session false 0 true] ++ List.replicate 8 (main true) ++ [thread 1 true])
    (fun σ => decide ((σ.sessions .session).rawRequest = some 1) && σ.main.saved.isNone &&
      decide ((some 1, (σ.sessions .session).reqID) ∉ σ.notified)) (by decide +kernel)
  simp only [Bool.and_eq_true, decide_eq_true_eq, Option.isNone_iff_eq_none] at seen
  obtain ⟨⟨pending, idle⟩, unnotified⟩ := seen
  have settled : σ.Settled .session := by
    intro request here
    rw [idle] at here
    cases here
  have answers := answerable σ run .session 1 pending settled
  exact unnotified ((answers.notified _).mpr rfl)

end A5Common.Ni
