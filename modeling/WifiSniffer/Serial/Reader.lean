import WifiSniffer.Memory.Checked

/-!
# The reader of the serial port

`rx_task` reads into an array with one place more than the array of a message, and asks
for as many bytes as it holds.  The terminators behind the bytes need a place of their
own in both arrays, so that only reads of fewer than `RX_SZ` bytes stay inside.
-/

namespace WifiSniffer.Serial

open WifiSniffer.Memory

/-! ## The code -/

/-- `RX_SZ` -/
def rxSz : Nat :=
  50

/-- `serial_messsage_t` -/
structure Message where
  srcPort : Nat
  data : List Int8
  size : Nat
  deriving DecidableEq

/-- `rxConfigStruct_t`, with whether it has a `serial_reader`. -/
structure RxConfig where
  port : Nat
  serialReader : Bool

/-- The arrays of `rx_task`, as what an access has left. -/
inductive Overrun where
  | data
  | messageData
  deriving DecidableEq

/-- One turn as the driver and the stack make it: what `uart_read_bytes` has read, and
what is in the array of the message before anything is copied there. -/
structure UartRead where
  /-- the bytes, unless the driver reports an error -/
  received : Option (List Int8)
  stale : List Int8
  requested : ∀ bytes ∈ received, bytes.length ≤ rxSz + 1
  stale_length : stale.length = rxSz

namespace UartRead

def bytes (read : UartRead) : List Int8 :=
  read.received.getD []

/-- The result of `uart_read_bytes` -/
def rxBytes (read : UartRead) : Int :=
  match read.received with
  | none => -1
  | some bytes => bytes.length

end UartRead

/-- `%s` reads up to a terminator. -/
def printString (string : List Int8) : Except Overrun Unit :=
  if 0 ∈ string then .ok () else .error .data

/-- One turn of the loop of `rx_task`, with what it gives to `serial_reader`. -/
def rxTurn (config : RxConfig) (read : UartRead) : Except Overrun (List Message) := do
  let data ← copy .data (List.replicate (rxSz + 1) 0) read.bytes read.bytes.length
  if read.rxBytes > 0 then
    if config.serialReader then
      let data ← store .data data read.rxBytes.toNat 0
      printString data
      let msgData ← copy .messageData read.stale data read.rxBytes.toNat
      let msgData ← store .messageData msgData read.rxBytes.toNat 0
      return [⟨config.port, msgData, read.rxBytes.toNat⟩]
    else return []
  else return []

/-- `rx_task` over the reads that it has made. -/
def rxTask (config : RxConfig) : List UartRead → Except Overrun (List Message)
  | [] => .ok []
  | read :: reads => do
      let given ← rxTurn config read
      let later ← rxTask config reads
      return given ++ later

/-! ## One turn -/

/-- The message that a read leads to, if it is short enough. -/
def messageOf (config : RxConfig) (read : UartRead) : Message where
  srcPort := config.port
  data := read.bytes ++ 0 :: read.stale.drop (read.bytes.length + 1)
  size := read.bytes.length

section Turn

variable {config : RxConfig} {read : UartRead}

namespace UartRead

theorem bytes_length_le (read : UartRead) : read.bytes.length ≤ rxSz + 1 := by
  rw [bytes]
  cases received : read.received with
  | none => exact Nat.zero_le _
  | some bytes => exact read.requested bytes received

@[simp]
theorem toNat_rxBytes (read : UartRead) : read.rxBytes.toNat = read.bytes.length := by
  rw [rxBytes, bytes]
  cases read.received with
  | none => rfl
  | some bytes => rfl

theorem rxBytes_pos_iff : read.rxBytes > 0 ↔ read.bytes ≠ [] := by
  rw [← List.length_pos_iff, ← toNat_rxBytes]
  omega

end UartRead

/-- The array of the task behind the read. -/
theorem copy_bytes (read : UartRead) :
    copy Overrun.data (List.replicate (rxSz + 1) 0) read.bytes read.bytes.length =
      .ok (read.bytes ++ List.replicate (rxSz + 1 - read.bytes.length) 0) := by
  rw [copy_of_le (by rw [List.length_replicate]; exact read.bytes_length_le),
    List.drop_replicate]

/-- Nothing has come, or the driver reports an error. -/
theorem rxTurn_of_nil (empty : read.bytes = []) : rxTurn config read = .ok [] := by
  have none : ¬ read.rxBytes > 0 := by
    rw [UartRead.rxBytes_pos_iff, not_not]
    exact empty
  simp only [rxTurn, copy_bytes, bind, Except.bind, if_neg none]
  rfl

theorem rxTurn_of_no_reader (noReader : config.serialReader = false) :
    rxTurn config read = .ok [] := by
  simp only [rxTurn, copy_bytes, bind, Except.bind, noReader]
  split <;> rfl

/-- The first terminator finds its place behind all reads but the longest. -/
theorem store_data (notFull : read.bytes.length ≤ rxSz) :
    store Overrun.data (read.bytes ++ List.replicate (rxSz + 1 - read.bytes.length) 0)
        read.bytes.length 0 =
      .ok (read.bytes ++ 0 :: List.replicate (rxSz - read.bytes.length) 0) := by
  rw [Nat.succ_sub notFull, List.replicate_succ, store_append_cons rfl]

theorem printString_of_terminated (front back : List Int8) :
    printString (front ++ 0 :: back) = .ok () :=
  if_pos (by simp)

/-- All that is left of a turn, unless the read is the longest one, is the second
terminator. -/
theorem rxTurn_of_length_le (reader : config.serialReader = true) (nonempty : read.bytes ≠ [])
    (notFull : read.bytes.length ≤ rxSz) :
    rxTurn config read =
      (store Overrun.messageData (read.bytes ++ read.stale.drop read.bytes.length)
        read.bytes.length 0).map fun msgData => [⟨config.port, msgData, read.bytes.length⟩] := by
  have copied : copy Overrun.messageData read.stale
      (read.bytes ++ 0 :: List.replicate (rxSz - read.bytes.length) 0) read.bytes.length =
        .ok (read.bytes ++ read.stale.drop read.bytes.length) := by
    apply copy_append rfl
    rw [read.stale_length]
    exact notFull
  simp only [rxTurn, copy_bytes, bind, Except.bind, if_pos (UartRead.rxBytes_pos_iff.mpr nonempty),
    if_pos reader, UartRead.toNat_rxBytes, store_data notFull, printString_of_terminated, copied]
  rfl

/-- A read that leaves a place free in the message is given to the reader. -/
theorem rxTurn_of_lt (reader : config.serialReader = true) (nonempty : read.bytes ≠ [])
    (short : read.bytes.length < rxSz) : rxTurn config read = .ok [messageOf config read] := by
  have inStale : read.bytes.length < read.stale.length := by
    rw [read.stale_length]
    exact short
  rw [rxTurn_of_length_le reader nonempty (Nat.le_of_lt short), List.drop_eq_getElem_cons inStale,
    store_append_cons rfl]
  rfl

/-- Any other read leaves an array: one that fills the message that of the message, and
the longest one that of the task. -/
theorem rxTurn_of_le (reader : config.serialReader = true) (long : rxSz ≤ read.bytes.length) :
    rxTurn config read =
      .error (if read.bytes.length = rxSz then .messageData else .data) := by
  have nonempty : read.bytes ≠ [] :=
    List.ne_nil_of_length_pos (Nat.lt_of_lt_of_le (by decide) long)
  by_cases full : read.bytes.length = rxSz
  · have filled : (read.bytes ++ read.stale.drop read.bytes.length).length ≤ read.bytes.length := by
      rw [List.length_append, List.length_drop, read.stale_length, full]
      omega
    rw [rxTurn_of_length_le reader nonempty (Nat.le_of_eq full), store_of_length_le filled,
      if_pos full]
    rfl
  · have filled : (read.bytes ++ List.replicate (rxSz + 1 - read.bytes.length) (0 : Int8)).length ≤
        read.bytes.length := by
      rw [List.length_append, List.length_replicate]
      omega
    simp only [rxTurn, copy_bytes, bind, Except.bind,
      if_pos (UartRead.rxBytes_pos_iff.mpr nonempty), if_pos reader, UartRead.toNat_rxBytes,
      store_of_length_le filled, if_neg full]

end Turn

/-! ## Runs -/

/-- The bytes of a message -/
def Message.text (message : Message) : List Int8 :=
  message.data.take message.size

/-- The array of a message has its length and holds a terminator behind the bytes. -/
def Message.Terminated (message : Message) : Prop :=
  message.data.length = rxSz ∧ message.size ≤ rxSz ∧ message.data[message.size]? = some 0

/-- No access leaves an array, and the reader is given the stream, in messages that end
inside of their arrays. -/
def Served (config : RxConfig) (reads : List UartRead) : Prop :=
  ∃ messages, rxTask config reads = .ok messages ∧
    messages.flatMap Message.text = reads.flatMap UartRead.bytes ∧
    ∀ message ∈ messages, message.Terminated

/-- The read leaves a place free in a message, and there is a reader for what has come. -/
def Suits (config : RxConfig) (read : UartRead) : Prop :=
  read.bytes.length < rxSz ∧ (read.bytes = [] ∨ config.serialReader = true)

section Run

variable {config : RxConfig} {read : UartRead} {reads : List UartRead}
  {given messages : List Message}

theorem rxTask_cons_eq_ok_iff :
    rxTask config (read :: reads) = .ok messages ↔
      ∃ given later, rxTurn config read = .ok given ∧ rxTask config reads = .ok later ∧
        given ++ later = messages := by
  rw [rxTask]
  cases rxTurn config read with
  | error overrun => simp [bind, Except.bind]
  | ok given =>
      cases rxTask config reads with
      | error overrun => simp [bind, Except.bind]
      | ok later => simp [bind, Except.bind, pure, Except.pure]

@[simp]
theorem text_messageOf : (messageOf config read).text = read.bytes := by
  rw [Message.text, messageOf, List.take_left]

theorem terminated_messageOf (short : read.bytes.length < rxSz) :
    (messageOf config read).Terminated := by
  have length_eq : (messageOf config read).data.length = rxSz := by
    rw [messageOf, List.length_append, List.length_cons, List.length_drop, read.stale_length]
    omega
  exact ⟨length_eq, Nat.le_of_lt short, by simp [messageOf]⟩

/-- One turn, from a read that suits -/
theorem Suits.turn (suits : Suits config read) :
    ∃ given, rxTurn config read = .ok given ∧ given.flatMap Message.text = read.bytes ∧
      ∀ message ∈ given, message.Terminated := by
  rcases suits with ⟨short, empty | reader⟩
  · exact ⟨[], rxTurn_of_nil empty, empty.symm, by simp⟩
  · by_cases empty : read.bytes = []
    · exact ⟨[], rxTurn_of_nil empty, empty.symm, by simp⟩
    · have terminated : (messageOf config read).Terminated := terminated_messageOf short
      exact ⟨[messageOf config read], rxTurn_of_lt reader empty short, by simp, by simpa⟩

/-- All turns, if each read suits -/
theorem served_of_suits (suits : ∀ read ∈ reads, Suits config read) : Served config reads := by
  induction reads with
  | nil => exact ⟨[], rfl, rfl, by simp⟩
  | cons read reads ih =>
      rw [List.forall_mem_cons] at suits
      rcases suits.1.turn with ⟨given, turn, texts, terminated⟩
      rcases ih suits.2 with ⟨later, task, laterTexts, laterTerminated⟩
      have whole : rxTask config (read :: reads) = .ok (given ++ later) :=
        rxTask_cons_eq_ok_iff.mpr ⟨given, later, turn, task, rfl⟩
      have stream : (given ++ later).flatMap Message.text =
          (read :: reads).flatMap UartRead.bytes := by
        rw [List.flatMap_append, List.flatMap_cons, texts, laterTexts]
      exact ⟨given ++ later, whole, stream,
        List.forall_mem_append.mpr ⟨terminated, laterTerminated⟩⟩

/-- With a reader every turn that stays inside of its arrays has a short read. -/
theorem length_lt_of_rxTask (reader : config.serialReader = true)
    (task : rxTask config reads = .ok messages) : ∀ read ∈ reads, read.bytes.length < rxSz := by
  induction reads generalizing messages with
  | nil => simp
  | cons read reads ih =>
      rcases rxTask_cons_eq_ok_iff.mp task with ⟨given, later, turn, rest, _⟩
      rw [List.forall_mem_cons]
      constructor
      · apply Nat.lt_of_not_le
        intro long
        rw [rxTurn_of_le reader long] at turn
        cases turn
      · exact ih rest

/-- Without a reader nothing is given to it. -/
theorem rxTask_of_no_reader (noReader : config.serialReader = false) :
    rxTask config reads = .ok [] := by
  induction reads with
  | nil => rfl
  | cons read reads ih =>
      exact rxTask_cons_eq_ok_iff.mpr ⟨[], [], rxTurn_of_no_reader noReader, ih, rfl⟩

end Run

/-- The task serves its reader exactly if every read leaves a place free in a message. -/
theorem served_iff (config : RxConfig) (reads : List UartRead) :
    Served config reads ↔ ∀ read ∈ reads, Suits config read := by
  constructor
  · rintro ⟨messages, task, texts, _⟩ read member
    cases reader : config.serialReader with
    | true => exact ⟨length_lt_of_rxTask reader task read member, .inr reader⟩
    | false =>
        rw [rxTask_of_no_reader reader] at task
        cases task
        have empty : read.bytes = [] := List.flatMap_eq_nil_iff.mp texts.symm read member
        rw [Suits, empty]
        exact ⟨by decide, .inl rfl⟩
  · exact served_of_suits

/-- A read of `RX_SZ` bytes, one fewer than are asked for -/
def fullRead : UartRead where
  received := some (List.replicate 50 0x41)
  stale := List.replicate 50 0
  requested := by simp [rxSz]
  stale_length := List.length_replicate

/-- The terminator behind fifty bytes is written behind the array of the message. -/
theorem not_served_fullRead :
    rxTask ⟨1, true⟩ [fullRead] = .error .messageData ∧ ¬ Served ⟨1, true⟩ [fullRead] := by
  have overrun : rxTask ⟨1, true⟩ [fullRead] = .error .messageData := by rfl
  constructor
  · exact overrun
  · rintro ⟨messages, task, _⟩
    rw [overrun] at task
    cases task

end WifiSniffer.Serial
