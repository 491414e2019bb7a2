import A5Common.Ni.Session

set_option autoImplicit false

namespace A5Common.Ni

open A5Common.Run

/-- The response a message carries was given with the id of the request whose
payload it carries, while that was pending, or is the timeout of that request. -/
def LocEngInformNiResponse.Own (msg : LocEngInformNiResponse) : Prop :=
  match msg.origin with
  | .user notif_id user_response pending asked =>
      msg.mResponse = user_response ∧ pending = some msg.mPayload ∧ asked = some notif_id
  | .timeout request => msg.mResponse = GPS_NI_RESPONSE_NORESP ∧ request = some msg.mPayload
  | .unset | .ignored => False

instance (msg : LocEngInformNiResponse) : Decidable msg.Own :=
  match msg with
  | ⟨_, _, .user ..⟩ => inferInstanceAs (Decidable (_ ∧ _ ∧ _))
  | ⟨_, _, .timeout _⟩ => inferInstanceAs (Decidable (_ ∧ _))
  | ⟨_, _, .unset⟩ | ⟨_, _, .ignored⟩ => inferInstanceAs (Decidable False)

namespace NiThread

/-- A thread that has yet to end its locked section, by its session and request. -/
def waits (thread : NiThread) : Option (SessionKind × Option Nat) :=
  match thread.point with
  | .starting | .waiting => some (thread.kind, thread.request)
  | .clearTime _ | .clearId _ | .sending _ => none

def msg (thread : NiThread) : Option LocEngInformNiResponse :=
  match thread.point with
  | .starting | .waiting => none
  | .clearTime msg | .clearId msg => msg
  | .sending msg => some msg

end NiThread

def waiting (threads : List NiThread) : List (SessionKind × Option Nat) :=
  threads.filterMap NiThread.waits

theorem waiting_perm {threads others : List NiThread} (listed : threads.Perm others) :
    (waiting threads).Perm (waiting others) :=
  listed.filterMap NiThread.waits

/-- A thread of the session has yet to end its locked section. -/
def Busy (waiters : List (SessionKind × Option Nat)) (kind : SessionKind) : Prop :=
  kind ∈ waiters.map Prod.fst

instance (waiters : List (SessionKind × Option Nat)) (kind : SessionKind) :
    Decidable (Busy waiters kind) :=
  inferInstanceAs (Decidable (_ ∈ _))

namespace LocEngNi

/-- What the message thread finds: a session that is saved has no thread left,
and one that is signalled has the thread to wake. -/
def MainMeets (σ : LocEngNi) : Main → Prop
  | .save request => ¬ Busy (waiting σ.threads) request.kind
  | .signal kind => Busy (waiting σ.threads) kind
  | _ => True

instance (σ : LocEngNi) (main : Main) : Decidable (σ.MainMeets main) :=
  match main with
  | .save request => inferInstanceAs (Decidable (¬ Busy (waiting σ.threads) request.kind))
  | .signal kind => inferInstanceAs (Decidable (Busy (waiting σ.threads) kind))
  | .idle | .checkSession _ | .checkEs _ | .number _ | .fill _ | .time .. | .create ..
  | .notify .. | .check _ | .free _ | .clear _ => inferInstanceAs (Decidable True)

/-- The session is as the call has found it: its pending request is the one
notified with the id, or has a thread that will take no notice. -/
def AnswerMeets (σ : LocEngNi) (notif_id : BitVec 32) (kind : SessionKind) : Prop :=
  ((σ.sessions kind).rawRequest.isSome = true → (σ.sessions kind).asked = some notif_id) ∧
  ((σ.sessions kind).rawRequest = none → Busy (waiting σ.threads) kind)

instance (σ : LocEngNi) (notif_id : BitVec 32) (kind : SessionKind) :
    Decidable (σ.AnswerMeets notif_id kind) :=
  inferInstanceAs (Decidable (_ ∧ _))

/-- The response is handed to the request that it was given for. -/
def RespondMeets (σ : LocEngNi) : Option Responder → Prop
  | some ⟨notif_id, _, .respond kind⟩ => σ.AnswerMeets notif_id kind
  | _ => True

instance (σ : LocEngNi) (responder : Option Responder) : Decidable (σ.RespondMeets responder) :=
  match responder with
  | some ⟨notif_id, _, .respond kind⟩ => inferInstanceAs (Decidable (σ.AnswerMeets notif_id kind))
  | some ⟨_, _, .checkEsId⟩ | some ⟨_, _, .checkEs⟩ | some ⟨_, _, .checkOther⟩
  | some ⟨_, _, .ignoreOther⟩ | some ⟨_, _, .checkId⟩ | some ⟨_, _, .check⟩ | none =>
      inferInstanceAs (Decidable True)

/-- No access finds the session in the hands of another request than the check
before it did. -/
def undisturbed (σ : LocEngNi) : Label → Prop
  | .main _ => σ.MainMeets σ.main
  | .responder position => σ.RespondMeets σ.responders[position]?
  | _ => True

instance (σ : LocEngNi) (label : Label) : Decidable (σ.undisturbed label) :=
  match label with
  | .main _ => inferInstanceAs (Decidable (σ.MainMeets σ.main))
  | .responder position => inferInstanceAs (Decidable (σ.RespondMeets σ.responders[position]?))
  | .init _ | .request .. | .restart | .respond .. | .thread .. => inferInstanceAs (Decidable True)

end LocEngNi

/-- A response that is set belongs to the request that is pending, or is to be
ignored; without a request, the thread that will reset it is still there. -/
structure SessionSound (main : Main) (waiters : List (SessionKind × Option Nat))
    (kind : SessionKind) (s : NiSession) : Prop where
  owned : ∀ payload, s.rawRequest = some payload → s.respRecvd = true →
    s.resp = GPS_NI_RESPONSE_IGNORE ∨ LocEngInformNiResponse.Own ⟨s.resp, payload, s.origin⟩
  quiet : s.rawRequest = none → s.respRecvd = true →
    s.resp = GPS_NI_RESPONSE_IGNORE ∨ Busy waiters kind ∨ main = .signal kind
  thread : ∀ request, (kind, request) ∈ waiters →
    ∀ payload, s.rawRequest = some payload → request = some payload

/-- What the message thread has established about the session it works on. -/
def MainSound (sessions : SessionKind → NiSession) (waiters : List (SessionKind × Option Nat)) :
    Main → Prop
  | .checkEs request => request.kind = .session → (sessions .session).rawRequest = none
  | .save request => (sessions request.kind).rawRequest = none
  | .number request | .fill request | .time request _ | .create request _ =>
      (sessions request.kind).rawRequest = request.passThrough ∧ ¬ Busy waiters request.kind
  | .signal kind => (sessions kind).rawRequest = none
  | _ => True

/-- The message thread works, and not at the signal of a reset. -/
def Main.Settled : Main → Prop
  | .idle | .signal _ => False
  | _ => True

namespace LocEngNi

structure Sound (σ : LocEngNi) : Prop where
  unset : σ.ni_notify_cb = false → σ.main = .idle
  sessions : ∀ kind, SessionSound σ.main (waiting σ.threads) kind (σ.sessions kind)
  main : MainSound σ.sessions (waiting σ.threads) σ.main
  held : ∀ thread ∈ σ.threads, ∀ msg, thread.msg = some msg → msg.Own
  sent : ∀ msg ∈ σ.sent, msg.Own

end LocEngNi

theorem SessionSound.leave {main after : Main} {waiters : List (SessionKind × Option Nat)}
    {kind : SessionKind} {s : NiSession} (sound : SessionSound main waiters kind s)
    (other : main ≠ .signal kind) : SessionSound after waiters kind s where
  owned := sound.owned
  quiet := by
    intro none received
    rcases sound.quiet none received with ignored | busy | signal
    · exact .inl ignored
    · exact .inr (.inl busy)
    · exact absurd signal other
  thread := sound.thread

/-- The fields of a session that no response depends on. -/
theorem SessionSound.aside {main : Main} {waiters : List (SessionKind × Option Nat)}
    {kind : SessionKind} {s : NiSession} (sound : SessionSound main waiters kind s)
    (respTimeLeft : Int) (reqID : BitVec 32) (asked : Option (BitVec 32)) :
    SessionSound main waiters kind
      { s with respTimeLeft := respTimeLeft, reqID := reqID, asked := asked } :=
  ⟨sound.owned, sound.quiet, sound.thread⟩

/-- Fewer waiting threads, of other sessions. -/
theorem SessionSound.waiters {main : Main} {waiters fewer : List (SessionKind × Option Nat)}
    {kind : SessionKind} {s : NiSession} (sound : SessionSound main waiters kind s)
    (same : ∀ request, (kind, request) ∈ fewer ↔ (kind, request) ∈ waiters) :
    SessionSound main fewer kind s where
  owned := sound.owned
  quiet := by
    intro none received
    rcases sound.quiet none received with ignored | busy | signal
    · exact .inl ignored
    · obtain ⟨⟨k, request⟩, member, rfl⟩ := List.mem_map.mp busy
      exact .inr (.inl (List.mem_map_of_mem ((same request).mpr member)))
    · exact .inr (.inr signal)
  thread := by
    intro request member
    exact sound.thread request ((same request).mp member)

/-- A pending request is kept, or taken from a session with a waiting thread. -/
theorem MainSound.release {sessions after : SessionKind → NiSession}
    {waiters fewer : List (SessionKind × Option Nat)} {main : Main}
    (sound : MainSound sessions waiters main)
    (kept : ∀ kind, (after kind).rawRequest = (sessions kind).rawRequest ∨
      ((after kind).rawRequest = none ∧ Busy waiters kind))
    (less : ∀ kind, Busy fewer kind → Busy waiters kind) : MainSound after fewer main := by
  have none : ∀ kind, (sessions kind).rawRequest = none → (after kind).rawRequest = none := by
    intro kind before
    rcases kept kind with same | ⟨cleared, -⟩
    · rw [same, before]
    · exact cleared
  have given : ∀ request : Request,
      (sessions request.kind).rawRequest = request.passThrough ∧ ¬ Busy waiters request.kind →
      (after request.kind).rawRequest = request.passThrough ∧ ¬ Busy fewer request.kind := by
    intro request before
    refine ⟨?_, fun busy => before.2 (less _ busy)⟩
    rcases kept request.kind with same | ⟨-, busy⟩
    · rw [same, before.1]
    · exact absurd busy before.2
  cases main with
  | checkEs request => exact fun same => none _ (sound same)
  | save request => exact none _ sound
  | number request => exact given request sound
  | fill request => exact given request sound
  | time request id => exact given request sound
  | create request id => exact given request sound
  | signal kind => exact none _ sound
  | _ => trivial

namespace LocEngNi

/-- A write to one session that leaves the pending request. -/
theorem Sound.write {σ : LocEngNi} (sound : σ.Sound) {kind : SessionKind}
    {change : NiSession → NiSession}
    (kept : (change (σ.sessions kind)).rawRequest = (σ.sessions kind).rawRequest)
    (changed : SessionSound σ.main (waiting σ.threads) kind (change (σ.sessions kind))) :
    (σ.write kind change).Sound where
  unset := sound.unset
  sessions := by
    intro other
    by_cases same : other = kind
    · subst same
      simpa only [LocEngNi.write, Function.update_self] using changed
    · simpa only [LocEngNi.write, Function.update_of_ne same] using sound.sessions other
  main := by
    apply sound.main.release
    · intro other
      apply Or.inl
      by_cases same : other = kind
      · subst same
        simpa only [LocEngNi.write, Function.update_self] using kept
      · simp only [LocEngNi.write, Function.update_of_ne same]
    · exact fun _ busy => busy
  held := sound.held
  sent := sound.sent

/-- A write of the fields that no response depends on. -/
theorem Sound.writeAside {σ : LocEngNi} (sound : σ.Sound) (kind : SessionKind)
    (respTimeLeft : Int) (reqID : BitVec 32) (asked : Option (BitVec 32)) :
    (σ.write kind (fun s =>
      { s with respTimeLeft := respTimeLeft, reqID := reqID, asked := asked })).Sound :=
  sound.write rfl ((sound.sessions kind).aside _ _ _)

theorem Sound.inited {σ : LocEngNi} (sound : σ.Sound) {here : Main} (at_here : σ.main = here)
    (working : here ≠ .idle) : σ.ni_notify_cb ≠ false := by
  intro unset
  apply working
  rw [← at_here]
  exact sound.unset unset

/-- The message thread at its next access, which is not after a signal. -/
theorem Sound.withMain {σ : LocEngNi} (sound : σ.Sound) {here : Main}
    (at_here : σ.main = here) (settled : here.Settled) (after : Main)
    (established : MainSound σ.sessions (waiting σ.threads) after) :
    Sound { σ with main := after } where
  unset := by
    intro unset
    have working : here ≠ .idle := by
      rintro rfl
      exact settled
    exact absurd unset (sound.inited at_here working)
  sessions := by
    intro kind
    apply (sound.sessions kind).leave
    rw [at_here]
    rintro rfl
    exact settled
  main := established
  held := sound.held
  sent := sound.sent

/-- Nothing of the sessions' depends on the counter, the mute, the payloads that
are freed or the notifications made. -/
theorem Sound.aside {σ : LocEngNi} (sound : σ.Sound) (reqIDCounter : BitVec 32)
    (mute_session_state : Bool) (payloads : Nat) (freed : List Nat)
    (notified : List (Option Nat × BitVec 32)) :
    Sound { σ with
      reqIDCounter := reqIDCounter, mute_session_state := mute_session_state
      payloads := payloads, freed := freed, notified := notified } :=
  ⟨sound.unset, sound.sessions, sound.main, sound.held, sound.sent⟩

end LocEngNi

end A5Common.Ni
