import A5Common.Daemon.RoundTrip
import A5Common.Run.System

set_option autoImplicit false

namespace A5Common.Daemon

open A5Common.Run

def GPSONE_LOC_API_IF_REQUEST : Nat := 0xF0

def GPSONE_LOC_API_IF_RELEASE : Nat := 0xF1

inductive AGpsExtType where
  | any
  | supl
  | wifi
deriving DecidableEq

inductive SenderId where
  | quipc
  | msapm
  | msapu
deriving DecidableEq

def SSID_BUF_SIZE : Nat := 32 + 1

namespace Abi

/-- Where the fields of `struct ctrl_msgbuf` lie, and its size. -/
def ctrlTypeOffset (abi : Abi) : Nat :=
  abi.sizeofSizeT + 8

def cmsgOffset : Abi → Nat
  | .ilp32 => 16
  | .lp64 => 24

def sizeofCtrlMsgbuf : Abi → Nat
  | .ilp32 => 112
  | .lp64 => 128

/-- The size of the buffer that the server receives into. -/
def sz (abi : Abi) : Nat :=
  abi.sizeofCtrlMsgbuf + 256

end Abi

/-- The messages to the location engine that requests are turned into. -/
inductive LocEngMsg where
  | reqRelWifi (type : AGpsExtType) (sender_id : SenderId) (ssid password : List UInt8)
      (isReq : Bool)
  | reqRelBIT (type : AGpsExtType) (ipv4 : BitVec 32) (ipv6 : List UInt8) (isReq : Bool)
deriving DecidableEq

def bytesAt (msgp : List UInt8) (offset size : Nat) : List UInt8 :=
  (msgp.drop offset).take size

/-- The text that `strlcpy` takes from a buffer of the size of an SSID. -/
def ssidAt (msgp : List UInt8) (offset : Nat) : List UInt8 :=
  (bytesAt msgp offset (SSID_BUF_SIZE - 1)).takeWhile (fun byte => byte ≠ 0)

section

variable (abi : Abi)

def ifRequestType (msgp : List UInt8) : Option AGpsExtType :=
  match leValue (bytesAt msgp abi.cmsgOffset 4) with
  | 0 => some .supl
  | 1 => some .wifi
  | 2 => some .any
  | _ => none

/-- What the handlers of requests and releases have in common. -/
def ifHandler (isReq : Bool) (msgp : List UInt8) : Int × Option LocEngMsg :=
  let ipv4_addr := abi.cmsgOffset + 8
  let ipv6_addr := ipv4_addr + abi.sizeofSizeT
  let ssid := ipv6_addr + 16
  let password := ssid + SSID_BUF_SIZE
  let wifi (type : AGpsExtType) (sender_id : SenderId) : Int × Option LocEngMsg :=
    (0, some (.reqRelWifi type sender_id (ssidAt msgp ssid) (ssidAt msgp password) isReq))
  match ifRequestType abi msgp with
  | none => (-1, none)
  | some type =>
      match leValue (bytesAt msgp (abi.cmsgOffset + 4) 4) with
      | 0 => wifi type .quipc
      | 1 => wifi type .msapm
      | 2 => wifi type .msapu
      | 3 =>
          let ipv4 := BitVec.ofNat 32 (leValue (bytesAt msgp ipv4_addr abi.sizeofSizeT))
          (0, some (.reqRelBIT type ipv4 (bytesAt msgp ipv6_addr 16) isReq))
      | _ => (-1, none)

/-- `loc_eng_dmn_conn_loc_api_server_if_request_handler` -/
def ifRequestHandler (loc_api_handle : Bool) (msgp : List UInt8) : Int × Option LocEngMsg :=
  if !loc_api_handle then (1, none) else ifHandler abi true msgp

/-- `loc_eng_dmn_conn_loc_api_server_if_release_handler` -/
def ifReleaseHandler (msgp : List UInt8) : Int × Option LocEngMsg :=
  ifHandler abi false msgp

/-- A message that was received, and what was sent to the location engine for it. -/
structure Handled where
  message : List UInt8
  sent : Option LocEngMsg
deriving DecidableEq

def handle (loc_api_handle : Bool) (msgp : List UInt8) : Handled :=
  let ctrl_type := leValue (bytesAt msgp abi.ctrlTypeOffset 1)
  let sent :=
    if ctrl_type = GPSONE_LOC_API_IF_REQUEST then (ifRequestHandler abi loc_api_handle msgp).2
    else if ctrl_type = GPSONE_LOC_API_IF_RELEASE then (ifReleaseHandler abi msgp).2
    -- a message of another type, GPSONE_UNBLOCK too, is only logged
    else none
  ⟨msgp.take (msgszOf abi msgp), sent⟩

/-- `loc_api_server_proc`: its result, the pipe, and the message that it has handled. The
memory is what `malloc` gives, with whatever it contains. -/
def serverProc (loc_api_handle : Bool) (memory : Option (List UInt8)) (header body : Transfer)
    (pipe : List UInt8) : Int × List UInt8 × Option Handled :=
  match memory with
  | none => (-1, pipe, none)
  | some p_cmsgbuf =>
      let received := msgrcv abi header body abi.sz p_cmsgbuf pipe
      if received.result ≤ 0 then (-1, received.pipe, none)
      else (0, received.pipe, some (handle abi loc_api_handle received.msgp))

end

/-- The thread of the server and its pipe. The frames that arrived, the messages that were
handled, the rounds of the loop and the call of unblock are a record. -/
structure Server where
  loc_api_handle : Bool
  pipe : List UInt8
  thread_exit : Bool
  looping : Bool
  arrived : List (List UInt8)
  handled : List Handled
  rounds : Nat
  unblocked : Bool
deriving DecidableEq

namespace Server

def new (loc_api_handle : Bool) : Server where
  loc_api_handle := loc_api_handle
  pipe := []
  thread_exit := false
  looping := true
  arrived := []
  handled := []
  rounds := 0
  unblocked := false

inductive Label where
  | arrive (msgp : List UInt8)
  | round (memory : Option (List UInt8)) (header body : Transfer)
  | unblock
deriving DecidableEq

variable (abi : Abi)

def step (σ : Server) : Label → Option Server
  | .arrive msgp =>
      if abi.sizeofSizeT ≤ msgp.length ∧ msgp.length < abi.sizeModulus then
        some { σ with
          pipe := σ.pipe ++ stamped abi msgp
          arrived := σ.arrived ++ [msgp] }
      else none
  | .round memory header body =>
      -- a round of the loop of thelper_main
      if σ.looping then
        let (result, pipe, handled) :=
          serverProc abi σ.loc_api_handle memory header body σ.pipe
        let thread_exit := σ.thread_exit || result < 0
        some { σ with
          pipe := pipe
          thread_exit := thread_exit
          looping := !thread_exit
          handled := σ.handled ++ handled.toList
          rounds := σ.rounds + 1 }
      else none
  | .unblock => some { σ with thread_exit := true, unblocked := true }

/-- A frame that the server's buffer has room for. -/
def fits (msgp : List UInt8) : Bool :=
  msgp.length ≤ abi.sz

/-- The two reads of a receive bring what they ask for. -/
def completeReads (header body : Transfer) (pipe : List UInt8) : Bool :=
  match headerSize abi header pipe, body with
  | some msgsz, .moves limit => msgsz ≤ abi.sizeofSizeT + limit && msgsz ≤ pipe.length
  | _, _ => false

/-- The frames that arrive fit the buffer, there is memory for it, and no read fails. -/
def smooth (σ : Server) : Label → Prop
  | .arrive msgp => fits abi msgp = true
  | .round memory header body =>
      memory.isSome = true ∧ completeReads abi header body σ.pipe = true
  | .unblock => True

instance (σ : Server) (label : Label) : Decidable (σ.smooth abi label) :=
  match label with
  | .arrive _ => inferInstanceAs (Decidable (_ = _))
  | .round _ _ _ => inferInstanceAs (Decidable (_ ∧ _))
  | .unblock => inferInstanceAs (Decidable True)

end Server

namespace Server

/-- What the frames that have arrived are, until the server is unblocked: handled, or whole
in the pipe. -/
structure Serving (abi : Abi) (σ : Server) (consumed pending : List (List UInt8)) : Prop where
  looping : σ.looping = true
  thread_exit : σ.thread_exit = false
  arrived : σ.arrived = consumed ++ pending
  sizes : ∀ msgp ∈ σ.arrived, abi.sizeofSizeT ≤ msgp.length ∧ msgp.length ≤ abi.sz
  pipe : σ.pipe = pending.flatMap (stamped abi)
  handled : σ.handled.map Handled.message = consumed.map (stamped abi)
  rounds : σ.rounds = σ.handled.length

variable {abi : Abi}

theorem sz_lt_modulus (abi : Abi) : abi.sz < abi.sizeModulus := by
  cases abi <;> decide

theorem Serving.arrive {σ τ : Server} {consumed pending : List (List UInt8)}
    (serving : σ.Serving abi consumed pending) {msgp : List UInt8}
    (small : fits abi msgp = true) (taken : σ.step abi (.arrive msgp) = some τ) :
    τ.Serving abi consumed (pending ++ [msgp]) := by
  unfold step at taken
  dsimp only at taken
  split at taken
  · rename_i framed
    obtain rfl := Option.some.inj taken
    refine ⟨serving.looping, serving.thread_exit, ?_, ?_, ?_, serving.handled, serving.rounds⟩
    · dsimp only
      rw [serving.arrived, List.append_assoc]
    · intro other member
      rcases List.mem_append.mp member with member | member
      · exact serving.sizes other member
      · rw [List.mem_singleton.mp member]
        exact ⟨framed.1, of_decide_eq_true small⟩
    · dsimp only
      rw [serving.pipe, List.flatMap_append, List.flatMap_singleton]
  · cases taken

theorem completeReads_stamped {msgp : List UInt8} (least : abi.sizeofSizeT ≤ msgp.length)
    (framed : msgp.length < abi.sizeModulus) (rest : List UInt8) {header body : Transfer}
    (complete : completeReads abi header body (stamped abi msgp ++ rest) = true) :
    ∃ header_limit body_limit, header = .moves header_limit ∧ body = .moves body_limit ∧
      abi.sizeofSizeT ≤ header_limit ∧ msgp.length - abi.sizeofSizeT ≤ body_limit := by
  unfold completeReads at complete
  cases header with
  | fails => cases body <;> cases complete
  | moves header_limit =>
      cases body with
      | fails =>
          split at complete
          · rename_i body_moves
            cases body_moves
          · cases complete
      | moves body_limit =>
          by_cases header_whole : abi.sizeofSizeT ≤ header_limit
          · rw [headerSize_stamped least framed header_whole rest] at complete
            simp only [Bool.and_eq_true, decide_eq_true_eq] at complete
            exact ⟨header_limit, body_limit, rfl, rfl, header_whole, by omega⟩
          · have unread : headerSize abi (.moves header_limit) (stamped abi msgp ++ rest) =
                none := if_neg (fun both => header_whole both.1)
            rw [unread] at complete
            cases complete

/-- The first frame in the pipe is received whole, and handled. -/
theorem serverProc_stamped {msgp : List UInt8} (least : abi.sizeofSizeT ≤ msgp.length)
    (small : msgp.length ≤ abi.sz) {header body : Transfer} (rest : List UInt8)
    (complete : completeReads abi header body (stamped abi msgp ++ rest) = true)
    (loc_api_handle : Bool) (p_cmsgbuf : List UInt8) :
    ∃ sent, serverProc abi loc_api_handle (some p_cmsgbuf) header body
      (stamped abi msgp ++ rest) = (0, rest, some ⟨stamped abi msgp, sent⟩) := by
  have representable := sz_lt_modulus abi
  have framed : msgp.length < abi.sizeModulus := by omega
  obtain ⟨header_limit, body_limit, rfl, rfl, header_whole, body_whole⟩ :=
    completeReads_stamped least framed rest complete
  obtain ⟨reads, left, received⟩ :=
    msgrcv_stamped least small representable header_whole body_whole p_cmsgbuf rest
  have int_sized : abi.sz < 2147483648 := by cases abi <;> decide
  have width_positive : 0 < abi.sizeofSizeT := by cases abi <;> decide
  have positive : ¬ int32 msgp.length ≤ 0 := by
    rw [int32_of_lt (by omega)]
    omega
  unfold serverProc
  dsimp only
  rw [received]
  dsimp only
  rw [if_neg positive]
  unfold handle
  dsimp only
  rw [msgszOf_stamped framed, List.take_left' (length_stamped least)]
  exact ⟨_, rfl⟩

theorem Serving.round {σ τ : Server} {consumed pending : List (List UInt8)}
    (serving : σ.Serving abi consumed pending) {memory : Option (List UInt8)}
    {header body : Transfer} (smooth : σ.smooth abi (.round memory header body))
    (taken : σ.step abi (.round memory header body) = some τ) :
    ∃ consumed pending, τ.Serving abi consumed pending := by
  obtain ⟨allocated, complete⟩ := smooth
  obtain ⟨p_cmsgbuf, rfl⟩ := Option.isSome_iff_exists.mp allocated
  rw [serving.pipe] at complete
  cases pending with
  | nil =>
      have unread : headerSize abi header [] = none := by
        cases header with
        | fails => rfl
        | moves limit => exact if_neg (fun both => by cases abi <;> exact absurd both.2 (by decide))
      rw [List.flatMap_nil] at complete
      unfold completeReads at complete
      rw [unread] at complete
      cases complete
  | cons msgp rest =>
      have inside : msgp ∈ σ.arrived := by
        rw [serving.arrived]
        exact List.mem_append_right _ List.mem_cons_self
      obtain ⟨least, small⟩ := serving.sizes msgp inside
      rw [List.flatMap_cons] at complete
      obtain ⟨sent, proc⟩ := serverProc_stamped least small _ complete σ.loc_api_handle p_cmsgbuf
      simp only [step, serving.looping, if_true, serving.pipe, List.flatMap_cons, proc] at taken
      obtain rfl := Option.some.inj taken
      refine ⟨consumed ++ [msgp], rest, ?_, ?_, ?_, serving.sizes, rfl, ?_, ?_⟩
      · simp [serving.thread_exit]
      · simp [serving.thread_exit]
      · simp [serving.arrived]
      · simp [serving.handled]
      · simp [serving.rounds]

theorem round_unblocked {σ τ : Server} {memory : Option (List UInt8)} {header body : Transfer}
    (taken : σ.step abi (.round memory header body) = some τ) : τ.unblocked = σ.unblocked := by
  simp only [step] at taken
  split at taken
  · obtain rfl := Option.some.inj taken
    rfl
  · cases taken

/-- A call either fails, with nothing handled, or handles a message. -/
theorem serverProc_cases (abi : Abi) (loc_api_handle : Bool) (memory : Option (List UInt8))
    (header body : Transfer) (pipe : List UInt8) :
    (∃ left, serverProc abi loc_api_handle memory header body pipe = (-1, left, none)) ∨
      ∃ left handled,
        serverProc abi loc_api_handle memory header body pipe = (0, left, some handled) := by
  unfold serverProc
  cases memory with
  | none => exact .inl ⟨_, rfl⟩
  | some p_cmsgbuf =>
      dsimp only
      split
      · exact .inl ⟨_, rfl⟩
      · exact .inr ⟨_, _, rfl⟩

/-- Until the server is unblocked, its loop has ended exactly if a round has failed. -/
structure Counted (σ : Server) : Prop where
  thread_exit : σ.thread_exit = !σ.looping
  going : σ.looping = true → σ.rounds = σ.handled.length
  ended : σ.looping = false → σ.rounds = σ.handled.length + 1

theorem Counted.round {σ τ : Server} (counted : σ.Counted) {memory : Option (List UInt8)}
    {header body : Transfer} (taken : σ.step abi (.round memory header body) = some τ) :
    τ.Counted := by
  unfold step at taken
  dsimp only at taken
  split at taken
  · rename_i looping
    have going := counted.going looping
    have exit := counted.thread_exit
    rw [looping] at exit
    rcases serverProc_cases abi σ.loc_api_handle memory header body σ.pipe with
      ⟨left, failed⟩ | ⟨left, handled, served⟩
    · rw [failed] at taken
      obtain rfl := Option.some.inj taken
      refine ⟨?_, ?_, ?_⟩ <;> simp [exit, going]
    · rw [served] at taken
      obtain rfl := Option.some.inj taken
      refine ⟨?_, ?_, ?_⟩ <;> simp [exit, going]
  · cases taken

end Server

/-- The thread that serves the loc_api pipe, from any sender of frames. -/
def server (abi : Abi) : System Server Server.Label where
  initial σ := ∃ loc_api_handle, σ = .new loc_api_handle
  step := Server.step abi

/-- In every run, until it is unblocked the server goes on with its loop exactly if each
round has handled a message. -/
theorem server_looping_iff {abi : Abi} {σ : Server} (run : (server abi).Reachable σ)
    (blocked : σ.unblocked = false) : σ.looping = true ↔ σ.rounds = σ.handled.length := by
  have counted : σ.unblocked = false → σ.Counted := by
    apply run.invariant (fun σ => σ.unblocked = false → σ.Counted)
    · rintro σ ⟨loc_api_handle, rfl⟩ _
      exact ⟨rfl, fun _ => rfl, nofun⟩
    · intro before label after _ ih _ taken blocked
      cases label with
      | arrive msgp =>
          simp only [server, Server.step] at taken
          split at taken
          · obtain rfl := Option.some.inj taken
            obtain ⟨exit, going, ended⟩ := ih blocked
            exact ⟨exit, going, ended⟩
          · cases taken
      | round memory header body =>
          have same := Server.round_unblocked taken
          exact (ih (same.symm.trans blocked)).round taken
      | unblock =>
          obtain rfl := Option.some.inj taken
          cases blocked
  obtain ⟨_, going, ended⟩ := counted blocked
  constructor
  · exact going
  · intro all
    cases loop : σ.looping with
    | true => rfl
    | false =>
        have more := ended loop
        omega

/-- A release of a connection of the GPS daemon, as it is sent. -/
def release : List UInt8 :=
  List.replicate 12 0 ++ [0xF1, 0, 0, 0] ++ [0, 0, 0, 0, 3, 0, 0, 0] ++ List.replicate 88 0

end A5Common.Daemon
