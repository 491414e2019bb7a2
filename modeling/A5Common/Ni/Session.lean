import A5Common.Run.System
import Mathlib.Logic.Function.Basic

set_option autoImplicit false

namespace A5Common.Ni

open A5Common.Run

abbrev GpsUserResponseType := BitVec 32

def GPS_NI_RESPONSE_ACCEPT : GpsUserResponseType := 1

def GPS_NI_RESPONSE_NORESP : GpsUserResponseType := 3

def GPS_NI_RESPONSE_IGNORE : GpsUserResponseType := 4

def LOC_NI_NO_RESPONSE_TIME : Int := 20

/-- The two sessions of `loc_eng_ni_data_s_type`. -/
inductive SessionKind where
  | session
  | sessionEs
deriving DecidableEq

/-- Who wrote the response of a session last. A user's response is kept with the
request that was pending then, and the id that request had been notified with. -/
inductive Origin where
  | unset
  | user (notif_id : BitVec 32) (user_response : GpsUserResponseType) (pending : Option Nat)
      (asked : Option (BitVec 32))
  | timeout (request : Option Nat)
  | ignored

/-- A session. The last two fields are a record of what happened, not data of the code. -/
structure NiSession where
  respTimeLeft : Int
  respRecvd : Bool
  rawRequest : Option Nat
  reqID : BitVec 32
  resp : GpsUserResponseType
  origin : Origin
  asked : Option (BitVec 32)

structure LocEngInformNiResponse where
  mResponse : GpsUserResponseType
  mPayload : Nat
  origin : Origin

/-- What the handler reads of a notification, and the payload that comes with it. -/
structure Request where
  kind : SessionKind
  privacyOverride : Bool
  timeout : Int
  passThrough : Option Nat

/-- The next access of the engine's message thread, in the request handler or in
the reset on an engine restart. -/
inductive Main where
  | idle
  | checkSession (request : Request)
  | checkEs (request : Request)
  | save (request : Request)
  | number (request : Request)
  | fill (request : Request)
  | time (request : Request) (notification_id : BitVec 32)
  | create (request : Request) (notification_id : BitVec 32)
  | notify (request : Request) (notification_id : BitVec 32)
  | check (kind : SessionKind)
  | free (kind : SessionKind)
  | clear (kind : SessionKind)
  | signal (kind : SessionKind)

/-- The next access of `ni_thread_proc`. -/
inductive ThreadPoint where
  | starting
  | waiting
  | clearTime (msg : Option LocEngInformNiResponse)
  | clearId (msg : Option LocEngInformNiResponse)
  | sending (msg : LocEngInformNiResponse)

/-- A thread, with the payload of the request it was created for. -/
structure NiThread where
  kind : SessionKind
  request : Option Nat
  point : ThreadPoint

/-- The next access of `loc_eng_ni_respond`. -/
inductive RespondPoint where
  | checkEsId
  | checkEs
  | checkOther
  | ignoreOther
  | checkId
  | check
  | respond (kind : SessionKind)

structure Responder where
  notif_id : BitVec 32
  user_response : GpsUserResponseType
  point : RespondPoint

structure LocEngNi where
  ni_notify_cb : Bool
  sessions : SessionKind → NiSession
  reqIDCounter : BitVec 32
  mute_session_state : Bool
  main : Main
  threads : List NiThread
  responders : List Responder
  payloads : Nat
  freed : List Nat
  notified : List (Option Nat × BitVec 32)
  sent : List LocEngInformNiResponse

namespace LocEngNi

def new : LocEngNi where
  ni_notify_cb := false
  sessions := fun _ => ⟨0, false, none, 0, 0, .unset, none⟩
  reqIDCounter := 0
  mute_session_state := false
  main := .idle
  threads := []
  responders := []
  payloads := 0
  freed := []
  notified := []
  sent := []

def write (kind : SessionKind) (change : NiSession → NiSession) (σ : LocEngNi) : LocEngNi :=
  { σ with sessions := Function.update σ.sessions kind (change (σ.sessions kind)) }

/-- `loc_eng_ni_init`, which works once. -/
def init (notify_cb : Bool) (σ : LocEngNi) : LocEngNi :=
  if notify_cb && !σ.ni_notify_cb then
    { σ with
      ni_notify_cb := true
      sessions := fun kind => { σ.sessions kind with
        respTimeLeft := 0, respRecvd := false, rawRequest := none, reqID := 0 } }
  else σ

/-- A request that comes while another is in progress. -/
def ignoreRequest (request : Request) (σ : LocEngNi) : LocEngNi :=
  { σ with freed := σ.freed ++ request.passThrough.toList, main := .idle }

/-- The call of `loc_eng_ni_request_handler` with a payload of its own. -/
def request (kind : SessionKind) (privacyOverride : Bool) (timeout : Int) (passThrough : Bool)
    (σ : LocEngNi) : LocEngNi :=
  let payload := if passThrough then some σ.payloads else none
  let request : Request := ⟨kind, privacyOverride, timeout, payload⟩
  let given := { σ with payloads := σ.payloads + 1 }
  if σ.ni_notify_cb then
    match kind with
    | .sessionEs => { given with main := .checkEs request }
    | .session => { given with main := .checkSession request }
  else given

/-- The order in which the reset goes through the sessions. -/
def afterReset : SessionKind → Main
  | .sessionEs => .check .session
  | .session => .idle

def stepMain (created : Bool) (σ : LocEngNi) : Option LocEngNi :=
  match σ.main with
  | .idle => none
  | .checkSession request =>
      if (σ.sessions .session).rawRequest.isSome then some (σ.ignoreRequest request)
      else some { σ with main := .checkEs request }
  | .checkEs request =>
      if (σ.sessions .sessionEs).rawRequest.isSome then some (σ.ignoreRequest request)
      else some { σ with main := .save request }
  | .save request =>
      let save (s : NiSession) := { s with rawRequest := request.passThrough, asked := none }
      some { σ.write request.kind save with main := .number request }
  | .number request =>
      let next := σ.reqIDCounter + 1
      let number (s : NiSession) := { s with reqID := next }
      some { σ.write request.kind number with reqIDCounter := next, main := .fill request }
  | .fill request =>
      let notification_id := (σ.sessions request.kind).reqID
      let ask (s : NiSession) := { s with asked := some notification_id }
      some { σ.write request.kind ask with
        mute_session_state := σ.mute_session_state || request.privacyOverride
        main := .time request notification_id }
  | .time request notification_id =>
      let respTimeLeft :=
        5 + if request.timeout ≠ 0 then request.timeout else LOC_NI_NO_RESPONSE_TIME
      let time (s : NiSession) := { s with respTimeLeft := respTimeLeft }
      some { σ.write request.kind time with main := .create request notification_id }
  | .create request notification_id =>
      let thread : NiThread := ⟨request.kind, request.passThrough, .starting⟩
      some { σ with
        threads := if created then thread :: σ.threads else σ.threads
        main := .notify request notification_id }
  | .notify request notification_id =>
      some { σ with
        notified := σ.notified ++ [(request.passThrough, notification_id)]
        main := .idle }
  | .check kind =>
      if (σ.sessions kind).rawRequest.isSome then some { σ with main := .free kind }
      else some { σ with main := afterReset kind }
  | .free kind =>
      some { σ with
        freed := σ.freed ++ (σ.sessions kind).rawRequest.toList
        main := .clear kind }
  | .clear kind =>
      let clear (s : NiSession) := { s with rawRequest := none }
      some { σ.write kind clear with main := .signal kind }
  | .signal kind =>
      let signal (s : NiSession) := { s with respRecvd := true }
      some { σ.write kind signal with main := afterReset kind }

/-- The end of the locked section of `ni_thread_proc`: the flag is reset, and the
payload goes into a message or, if the response is to be ignored, is freed. -/
def finish (kind : SessionKind) (σ : LocEngNi) : Option LocEngInformNiResponse × LocEngNi :=
  let s := σ.sessions kind
  let done (s : NiSession) := { s with respRecvd := false, rawRequest := none }
  if s.resp = GPS_NI_RESPONSE_IGNORE then
    (none, { σ.write kind done with freed := σ.freed ++ s.rawRequest.toList })
  else
    (s.rawRequest.map (fun payload => ⟨s.resp, payload, s.origin⟩), σ.write kind done)

/-- One step of `ni_thread_proc`, with what is left of the thread. The wait ends
with a timeout, with a response, or for no reason. -/
def niThreadProc (timedOut : Bool) (thread : NiThread) (σ : LocEngNi) :
    Option NiThread × LocEngNi :=
  match thread.point with
  | .starting =>
      if (σ.sessions thread.kind).respRecvd then
        let finished := σ.finish thread.kind
        (some { thread with point := .clearTime finished.1 }, finished.2)
      else (some { thread with point := .waiting }, σ)
  | .waiting =>
      -- a timeout counts even if a response has come in before the lock is taken again
      if timedOut then
        let timeOut (s : NiSession) :=
          { s with resp := GPS_NI_RESPONSE_NORESP, origin := .timeout thread.request }
        let finished := (σ.write thread.kind timeOut).finish thread.kind
        (some { thread with point := .clearTime finished.1 }, finished.2)
      else if (σ.sessions thread.kind).respRecvd then
        let finished := σ.finish thread.kind
        (some { thread with point := .clearTime finished.1 }, finished.2)
      else (some thread, σ)
  | .clearTime msg =>
      let clear (s : NiSession) := { s with respTimeLeft := 0 }
      (some { thread with point := .clearId msg }, σ.write thread.kind clear)
  | .clearId msg =>
      let clear (s : NiSession) := { s with reqID := 0 }
      (msg.map (fun msg => { thread with point := .sending msg }), σ.write thread.kind clear)
  | .sending msg => (none, { σ with sent := σ.sent ++ [msg] })

def stepThread (position : Nat) (timedOut : Bool) (σ : LocEngNi) : Option LocEngNi :=
  σ.threads[position]?.map (fun thread =>
    let next := σ.niThreadProc timedOut thread
    { next.2 with threads := next.1.toList ++ σ.threads.eraseIdx position })

/-- The locked section that hands a user's response to a session. -/
def answer (notif_id : BitVec 32) (user_response : GpsUserResponseType) (s : NiSession) :
    NiSession :=
  { s with
    resp := user_response
    respRecvd := true
    origin := .user notif_id user_response s.rawRequest s.asked }

/-- The locked section that ends the other session when an emergency is accepted. -/
def ignoreOther (s : NiSession) : NiSession :=
  { s with resp := GPS_NI_RESPONSE_IGNORE, respRecvd := true, origin := .ignored }

/-- One step of `loc_eng_ni_respond`, with what is left of the call. -/
def niRespond (responder : Responder) (σ : LocEngNi) : Option Responder × LocEngNi :=
  let goto (point : RespondPoint) : Option Responder := some { responder with point := point }
  match responder.point with
  | .checkEsId =>
      (goto (if responder.notif_id = (σ.sessions .sessionEs).reqID then .checkEs else .checkId), σ)
  | .checkEs =>
      if (σ.sessions .sessionEs).rawRequest.isSome then
        (goto (if responder.user_response = GPS_NI_RESPONSE_ACCEPT then .checkOther
          else .respond .sessionEs), σ)
      else (goto .checkId, σ)
  | .checkOther =>
      (goto (if (σ.sessions .session).rawRequest.isSome then .ignoreOther
        else .respond .sessionEs), σ)
  | .ignoreOther => (goto (.respond .sessionEs), σ.write .session ignoreOther)
  | .checkId =>
      (if responder.notif_id = (σ.sessions .session).reqID then goto .check else none, σ)
  | .check =>
      (if (σ.sessions .session).rawRequest.isSome then goto (.respond .session) else none, σ)
  | .respond kind =>
      (none, σ.write kind (answer responder.notif_id responder.user_response))

def stepResponder (position : Nat) (σ : LocEngNi) : Option LocEngNi :=
  σ.responders[position]?.map (fun responder =>
    let next := σ.niRespond responder
    { next.2 with responders := next.1.toList ++ σ.responders.eraseIdx position })

inductive Label where
  | init (notify_cb : Bool)
  | request (kind : SessionKind) (privacyOverride : Bool) (timeout : Int) (passThrough : Bool)
  | restart
  | main (created : Bool)
  | respond (notif_id : BitVec 32) (user_response : GpsUserResponseType)
  | responder (position : Nat)
  | thread (position : Nat) (timedOut : Bool)

/-- A request or a restart is taken up when the message thread is free. -/
def step (σ : LocEngNi) : Label → Option LocEngNi
  | .init notify_cb => some (σ.init notify_cb)
  | .request kind privacyOverride timeout passThrough =>
      match σ.main with
      | .idle => some (σ.request kind privacyOverride timeout passThrough)
      | _ => none
  | .restart =>
      match σ.main with
      | .idle => some (if σ.ni_notify_cb then { σ with main := .check .sessionEs } else σ)
      | _ => none
  | .main created => σ.stepMain created
  | .respond notif_id user_response =>
      some (if σ.ni_notify_cb then
        { σ with responders := ⟨notif_id, user_response, .checkEsId⟩ :: σ.responders }
      else σ)
  | .responder position => σ.stepResponder position
  | .thread position timedOut => σ.stepThread position timedOut

end LocEngNi

/-- The network-initiated sessions, with the threads that use them. -/
def ni : System LocEngNi LocEngNi.Label where
  initial σ := σ = .new
  step := LocEngNi.step

end A5Common.Ni
