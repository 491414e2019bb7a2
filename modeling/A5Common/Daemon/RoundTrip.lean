import A5Common.Daemon.Glue

set_option autoImplicit false

namespace A5Common.Daemon

open A5Common.Run

variable (abi : Abi)

/-- The messages that are sent one after the other, when every write is complete. -/
def sendAll : List (List UInt8) → List UInt8 → List Int × List UInt8
  | [], pipe => ([], pipe)
  | msgp :: rest, pipe =>
      let (result, pipe) := msgsnd abi (.moves msgp.length) msgp pipe
      let (results, pipe) := sendAll rest pipe
      (result :: results, pipe)

/-- A receive into each of some buffers, when every read is complete. -/
def receiveAll (msgbufsz : Nat) : List (List UInt8) → List UInt8 → List Received × List UInt8
  | [], pipe => ([], pipe)
  | msgp :: rest, pipe =>
      let received := msgrcv abi (.moves abi.sizeofSizeT) (.moves msgbufsz) msgbufsz msgp pipe
      let (more, pipe) := receiveAll msgbufsz rest received.pipe
      (received :: more, pipe)

/-- What a message is received as: its result, its `msgsz` field and its bytes. -/
def Received.message (received : Received) : Int × Nat × List UInt8 :=
  (received.result, msgszOf abi received.msgp, received.msgp.take (msgszOf abi received.msgp))

variable {abi}

theorem stamped_eq (msgp : List UInt8) :
    stamped abi msgp = leBytes abi.sizeofSizeT msgp.length ++ msgp.drop abi.sizeofSizeT := by
  unfold stamped
  rw [overwrite_zero, length_leBytes]

theorem length_stamped {msgp : List UInt8} (least : abi.sizeofSizeT ≤ msgp.length) :
    (stamped abi msgp).length = msgp.length := by
  rw [stamped_eq, List.length_append, length_leBytes, List.length_drop]
  omega

theorem msgsnd_whole {msgp : List UInt8} (least : abi.sizeofSizeT ≤ msgp.length)
    (pipe : List UInt8) :
    msgsnd abi (.moves msgp.length) msgp pipe =
      (int32 msgp.length, pipe ++ stamped abi msgp) := by
  have length := length_stamped least
  unfold msgsnd pipewrite
  dsimp only
  rw [length, Nat.min_self, List.take_of_length_le (Nat.le_of_eq length),
    if_neg (fun differs => differs rfl)]

theorem headerSize_stamped {msgp : List UInt8} (least : abi.sizeofSizeT ≤ msgp.length)
    (representable : msgp.length < abi.sizeModulus) {limit : Nat}
    (whole : abi.sizeofSizeT ≤ limit) (rest : List UInt8) :
    headerSize abi (.moves limit) (stamped abi msgp ++ rest) = some msgp.length := by
  have length := length_stamped least
  have enough : abi.sizeofSizeT ≤ (stamped abi msgp ++ rest).length := by
    rw [List.length_append, length]
    omega
  unfold headerSize
  dsimp only
  rw [if_pos ⟨whole, enough⟩, stamped_eq, List.append_assoc,
    List.take_left' (length_leBytes _ _), leValue_leBytes representable]

/-- A message that fits the buffer is received, and nothing of what follows it. -/
theorem msgrcv_stamped {msgp : List UInt8} (least : abi.sizeofSizeT ≤ msgp.length)
    {msgbufsz : Nat} (fits : msgp.length ≤ msgbufsz) (representable : msgbufsz < abi.sizeModulus)
    {header body : Nat} (header_whole : abi.sizeofSizeT ≤ header)
    (body_whole : msgp.length - abi.sizeofSizeT ≤ body) (buffer rest : List UInt8) :
    ∃ reads left, msgrcv abi (.moves header) (.moves body) msgbufsz buffer
        (stamped abi msgp ++ rest) =
      ⟨int32 msgp.length, stamped abi msgp ++ left, rest, reads⟩ := by
  have small := Nat.lt_of_le_of_lt fits representable
  have length := length_leBytes abi.sizeofSizeT msgp.length
  have body_length : (msgp.drop abi.sizeofSizeT).length = msgp.length - abi.sizeofSizeT :=
    List.length_drop
  have body_read : piperead (.moves body) (msgp.length - abi.sizeofSizeT)
      (msgp.drop abi.sizeofSizeT ++ rest) =
      (int32 (msgp.length - abi.sizeofSizeT), msgp.drop abi.sizeofSizeT, rest) := by
    have all : min body (min (msgp.length - abi.sizeofSizeT)
        (msgp.drop abi.sizeofSizeT ++ rest).length) = msgp.length - abi.sizeofSizeT := by
      rw [List.length_append, body_length]
      omega
    unfold piperead
    dsimp only
    rw [all, List.take_left' body_length, List.drop_left' body_length]
  rw [msgrcv_whole abi (headerSize_stamped least small header_whole rest)]
  dsimp only
  rw [if_neg (Nat.not_lt.mpr fits), sizeSub_eq abi least small, stamped_eq, List.append_assoc,
    List.take_left' length, List.drop_left' length, body_read]
  dsimp only
  rw [if_neg (fun differs => differs rfl), overwrite_zero]
  unfold overwrite
  rw [length, List.take_left' length]
  exact ⟨_, _, rfl⟩

theorem msgszOf_stamped {msgp : List UInt8} (representable : msgp.length < abi.sizeModulus)
    (left : List UInt8) : msgszOf abi (stamped abi msgp ++ left) = msgp.length := by
  unfold msgszOf
  rw [stamped_eq, List.append_assoc, List.take_left' (length_leBytes _ _),
    leValue_leBytes representable]

theorem sendAll_eq (messages : List (List UInt8))
    (least : ∀ msgp ∈ messages, abi.sizeofSizeT ≤ msgp.length) (pipe : List UInt8) :
    sendAll abi messages pipe =
      (messages.map (fun msgp => int32 msgp.length),
        pipe ++ messages.flatMap (stamped abi)) := by
  induction messages generalizing pipe with
  | nil =>
      rw [List.flatMap_nil, List.append_nil]
      rfl
  | cons msgp rest ih =>
      unfold sendAll
      rw [msgsnd_whole (least msgp List.mem_cons_self)]
      dsimp only
      rw [ih (fun other member => least other (List.mem_cons_of_mem _ member)),
        List.flatMap_cons, List.append_assoc]
      rfl

theorem receiveAll_eq {msgbufsz : Nat} (representable : msgbufsz < abi.sizeModulus)
    (messages : List (List UInt8))
    (sizes : ∀ msgp ∈ messages, abi.sizeofSizeT ≤ msgp.length ∧ msgp.length ≤ msgbufsz)
    (buffers : List (List UInt8)) (count : buffers.length = messages.length)
    (rest : List UInt8) :
    ((receiveAll abi msgbufsz buffers (messages.flatMap (stamped abi) ++ rest)).1.map
        (Received.message abi) =
      messages.map (fun msgp => (int32 msgp.length, msgp.length, stamped abi msgp))) ∧
    (receiveAll abi msgbufsz buffers (messages.flatMap (stamped abi) ++ rest)).2 = rest := by
  induction messages generalizing buffers with
  | nil =>
      rw [List.length_eq_zero_iff.mp count]
      exact ⟨rfl, rfl⟩
  | cons msgp others ih =>
      obtain ⟨buffer, more, rfl⟩ := List.exists_cons_of_length_eq_add_one count
      obtain ⟨least, fits⟩ := sizes msgp List.mem_cons_self
      have body_whole : msgp.length - abi.sizeofSizeT ≤ msgbufsz := by omega
      obtain ⟨reads, left, received⟩ := msgrcv_stamped least fits representable
        (Nat.le_refl abi.sizeofSizeT) body_whole buffer (others.flatMap (stamped abi) ++ rest)
      obtain ⟨messages_same, pipe_same⟩ := ih
        (fun other member => sizes other (List.mem_cons_of_mem _ member)) more
        (Nat.succ.inj count)
      have size := msgszOf_stamped (Nat.lt_of_le_of_lt fits representable) left
      unfold receiveAll
      rw [List.flatMap_cons, List.append_assoc, received]
      dsimp only
      refine ⟨?_, pipe_same⟩
      rw [List.map_cons, List.map_cons, messages_same]
      unfold Received.message
      dsimp only
      rw [size, List.take_left' (length_stamped least)]

/-- Messages that fit the buffer are received as they were sent, in order, and leave the
pipe empty. -/
theorem messages_round_trip {msgbufsz : Nat} (representable : msgbufsz < abi.sizeModulus)
    (messages : List (List UInt8))
    (sizes : ∀ msgp ∈ messages, abi.sizeofSizeT ≤ msgp.length ∧ msgp.length ≤ msgbufsz)
    (buffers : List (List UInt8)) (count : buffers.length = messages.length) :
    ((receiveAll abi msgbufsz buffers (sendAll abi messages []).2).1.map
        (Received.message abi) =
      messages.map (fun msgp => (int32 msgp.length, msgp.length, stamped abi msgp))) ∧
    (receiveAll abi msgbufsz buffers (sendAll abi messages []).2).2 = [] := by
  have sent := sendAll_eq messages (fun msgp member => (sizes msgp member).1) []
  have received := receiveAll_eq representable messages sizes buffers count []
  rw [List.append_nil] at received
  rw [sent, List.nil_append]
  exact received

/-- Two messages, the second of them with nothing but its size. -/
theorem messages_round_trip_two :
    ((receiveAll .ilp32 16 [List.replicate 16 7, List.replicate 16 8]
        (sendAll .ilp32 [[0, 0, 0, 0, 0xF3, 1], [9, 9, 9, 9]] []).2).1.map
        (Received.message .ilp32) =
      [[0, 0, 0, 0, 0xF3, 1], [9, 9, 9, 9]].map
        (fun msgp => (int32 msgp.length, msgp.length, stamped .ilp32 msgp))) ∧
    (receiveAll .ilp32 16 [List.replicate 16 7, List.replicate 16 8]
        (sendAll .ilp32 [[0, 0, 0, 0, 0xF3, 1], [9, 9, 9, 9]] []).2).2 = [] :=
  messages_round_trip (by decide) _ (by decide) _ rfl

end A5Common.Daemon
