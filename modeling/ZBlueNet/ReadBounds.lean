import ZBlueNet.ReadLoop

/-!
The read loop with a limit ends, whatever the socket answers: every turn that goes on has
brought a byte, and no turn asks for bytes beyond the limit.
-/

namespace ZBlueNet.EpollReactor

structure RecvRequest where
  size : Nat
  writable : Nat
deriving DecidableEq, Repr

def recvRequests (maxSize : Nat) : List RecvAnswer → Bool → DynamicBuffer → List RecvRequest
  | [], _, _ => []
  | answer :: answers, dataArrive, readBuffer =>
      if dataArrive ∧ answer.readableBytes = 0 then []
      else if maxSize > 0 ∧ sizeAdd (bytesToRead answer) readBuffer.readableBytes > maxSize then []
      else
        let reserved := readBuffer.reserveWritableBytes (bytesToRead answer)
        { size := bytesToRead answer, writable := reserved.writableBytes } ::
          match readTurn maxSize answer dataArrive readBuffer with
          | .stop _ _ => []
          | .received _ stored => recvRequests maxSize answers true stored

def answersOf (socket : Nat → RecvAnswer) (turns : Nat) : List RecvAnswer :=
  (List.range turns).map socket

/-- `onSocketRead` comes to the end of its loop. What is readable then is what was readable, and
behind it all that `recv` returned; the limit holds, also for the calls of `recv`. -/
def ReadsWithinLimit (r : EpollReactor) (id : SocketId) (socket : Nat → RecvAnswer) : Prop :=
  ∀ connection, r.connections id = some connection →
    ∃ (turns : Nat) (ending : ReadEnd) (next : EpollReactor) (calls : List ReactorCall)
      (after : TcpConnection),
      let maxSize := r.connReadBufferMaxSize
      let answers := answersOf socket turns
      let requests := recvRequests maxSize answers false connection.readBuffer
      r.onSocketReadLoop id answers = some (ending, next, calls) ∧
        next.connections id = some after ∧
        after.readBuffer.content =
          connection.readBuffer.content ++
            receivedBytes maxSize answers false connection.readBuffer ∧
        after.readBuffer.readableBytes ≤ maxSize ∧
        requests.length ≤ maxSize - connection.readBuffer.readableBytes + 1 ∧
        ∀ request ∈ requests, request.size ≤ request.writable

structure Limited (maxSize : Nat) (readBuffer : DynamicBuffer) : Prop where
  valid : readBuffer.Valid
  positive : 0 < maxSize
  within : readBuffer.readableBytes ≤ maxSize
  sums : maxSize + 2 ^ 31 ≤ sizeModulus
  grown : maxSize + 2 * readBuffer.expandSize < sizeModulus

variable {maxSize : Nat} {answer : RecvAnswer} {dataArrive : Bool}
  {readBuffer stored : DynamicBuffer} {bytes : List UInt8} {ending : ReadEnd}

namespace Limited

theorem unfilled_iff (limited : Limited maxSize readBuffer) (fits : answer.Fits) :
    Unfilled maxSize answer readBuffer ↔
      bytesToRead answer + readBuffer.readableBytes ≤ maxSize := by
  have bound := bytesToRead_bound fits
  have positive := limited.positive
  have within := limited.within
  have sums := limited.sums
  have sum : sizeAdd (bytesToRead answer) readBuffer.readableBytes =
      bytesToRead answer + readBuffer.readableBytes := Nat.mod_eq_of_lt (by omega)
  rw [Unfilled, sum]
  omega

theorem grows (limited : Limited maxSize readBuffer) (fits : answer.Fits)
    (unfilled : Unfilled maxSize answer readBuffer) :
    readBuffer.Grows (bytesToRead answer) := by
  have asked := (limited.unfilled_iff fits).mp unfilled
  have grown := limited.grown
  apply limited.valid.grows
  unfold DynamicBuffer.Fits
  omega

theorem request_room (limited : Limited maxSize readBuffer) (fits : answer.Fits)
    (unfilled : Unfilled maxSize answer readBuffer) :
    bytesToRead answer ≤
      (readBuffer.reserveWritableBytes (bytesToRead answer)).writableBytes :=
  limited.valid.reserveWritableBytes_room _ (limited.grows fits unfilled)

theorem received (limited : Limited maxSize readBuffer) (fits : answer.Fits)
    (turn : readTurn maxSize answer dataArrive readBuffer = .received bytes stored) :
    Limited maxSize stored ∧ readBuffer.readableBytes < stored.readableBytes ∧
      stored.content = readBuffer.content ++ bytes ∧ Unfilled maxSize answer readBuffer := by
  obtain ⟨came, nonempty, valid, content, expands, unfilled⟩ :=
    turn_received limited.valid (limited.grows fits) fits.atMost turn
  have asked := (limited.unfilled_iff fits).mp unfilled
  have short := fits.atMost bytes came
  have some : 0 < bytes.length := List.length_pos_iff.mpr nonempty
  have more := congrArg List.length content
  rw [valid.content_length, List.length_append, limited.valid.content_length] at more
  refine ⟨⟨valid, limited.positive, by omega, limited.sums, ?_⟩, by omega, content, unfilled⟩
  rw [expands]
  exact limited.grown

theorem stopped (limited : Limited maxSize readBuffer) (fits : answer.Fits)
    (turn : readTurn maxSize answer dataArrive readBuffer = .stop ending stored) :
    stored.content = readBuffer.content ∧ stored.readableBytes ≤ maxSize := by
  obtain ⟨valid, content, -⟩ := turn_stop limited.valid (limited.grows fits) turn
  have within := limited.within
  refine ⟨content, ?_⟩
  rw [← valid.content_length, content, limited.valid.content_length]
  exact within

end Limited

theorem answersOf_succ (socket : Nat → RecvAnswer) (turns : Nat) :
    answersOf socket (turns + 1) = socket 0 :: answersOf (fun turn => socket (turn + 1)) turns := by
  rw [answersOf, List.range_succ_eq_map, List.map_cons, List.map_map]
  rfl

theorem readLoop_ends (limited : Limited maxSize readBuffer) {socket : Nat → RecvAnswer}
    (fits : ∀ turn, (socket turn).Fits) (dataArrive : Bool) :
    ∃ turns ending arrived last,
      readLoop maxSize (answersOf socket turns) dataArrive readBuffer =
        some (ending, arrived, last) ∧
      last.content = readBuffer.content ++
        receivedBytes maxSize (answersOf socket turns) dataArrive readBuffer ∧
      last.readableBytes ≤ maxSize := by
  induction budget : maxSize - readBuffer.readableBytes using Nat.strong_induction_on
    generalizing readBuffer dataArrive socket with
  | h budget ih =>
      cases turn : readTurn maxSize (socket 0) dataArrive readBuffer with
      | stop ending stored =>
          obtain ⟨content, within⟩ := limited.stopped (fits 0) turn
          refine ⟨1, ending, dataArrive, stored, ?_, ?_, within⟩
          · rw [answersOf_succ, readLoop_cons, turn]
          · rw [answersOf_succ, receivedBytes, turn, content, List.append_nil]
      | received bytes stored =>
          obtain ⟨later, more, content, -⟩ := limited.received (fits 0) turn
          have kept := later.within
          obtain ⟨turns, ending, arrived, last, ended, result, within⟩ :=
            ih (maxSize - stored.readableBytes) (by omega) later
              (fun turn => fits (turn + 1)) true rfl
          refine ⟨turns + 1, ending, arrived, last, ?_, ?_, within⟩
          · rw [answersOf_succ, readLoop_cons, turn]
            exact ended
          · rw [answersOf_succ, receivedBytes, turn, result, content, List.append_assoc]

theorem recvRequests_limited {answers : List RecvAnswer} (limited : Limited maxSize readBuffer)
    (fits : ∀ answer ∈ answers, answer.Fits) (dataArrive : Bool) :
    (recvRequests maxSize answers dataArrive readBuffer).length ≤
        maxSize - readBuffer.readableBytes ∧
      ∀ request ∈ recvRequests maxSize answers dataArrive readBuffer,
        request.size ≤ request.writable := by
  induction answers generalizing readBuffer dataArrive with
  | nil => exact ⟨Nat.zero_le _, List.forall_mem_nil _⟩
  | cons answer answers ih =>
      obtain ⟨here, later⟩ := List.forall_mem_cons.mp fits
      rw [recvRequests]
      split
      · exact ⟨Nat.zero_le _, List.forall_mem_nil _⟩
      · split
        · exact ⟨Nat.zero_le _, List.forall_mem_nil _⟩
        · rename_i unfilled
          have asked := (limited.unfilled_iff here).mp unfilled
          have one : 1 ≤ bytesToRead answer := by
            unfold bytesToRead
            omega
          have room := limited.request_room here unfilled
          cases turn : readTurn maxSize answer dataArrive readBuffer with
          | stop ending stored =>
              dsimp only
              constructor
              · rw [List.length_singleton]
                omega
              · intro request listed
                rw [List.mem_singleton.mp listed]
                exact room
          | received bytes stored =>
              obtain ⟨after, more, -, -⟩ := limited.received here turn
              obtain ⟨fewer, each⟩ := ih after later true
              have kept := after.within
              dsimp only
              constructor
              · rw [List.length_cons]
                omega
              · exact List.forall_mem_cons.mpr ⟨room, each⟩

theorem onSocketReadLoop_limited {r : EpollReactor} {id : SocketId} {connection : TcpConnection}
    {answers : List RecvAnswer} {arrived : Bool} (found : r.connections id = some connection)
    (ended : readLoop r.connReadBufferMaxSize answers false connection.readBuffer =
      some (ending, arrived, stored)) :
    ∃ next calls after, r.onSocketReadLoop id answers = some (ending, next, calls) ∧
      next.connections id = some after ∧ after.readBuffer = stored := by
  rw [onSocketReadLoop, found]
  dsimp only
  rw [ended]
  cases ending with
  | drained => exact ⟨_, _, _, rfl, Function.update_self .., rfl⟩
  | peerClose => exact ⟨_, _, _, rfl, Function.update_self .., rfl⟩
  | failed errno => exact ⟨_, _, _, rfl, Function.update_self .., rfl⟩

/-- With a limit and sizes that a `size_t` holds, the loop ends and stays inside the limit for
every behaviour of the socket. -/
theorem onSocketRead_withinLimit (r : EpollReactor) (id : SocketId)
    (limited : ∀ connection, r.connections id = some connection →
      Limited r.connReadBufferMaxSize connection.readBuffer)
    (socket : Nat → RecvAnswer) (fits : ∀ turn, (socket turn).Fits) :
    r.ReadsWithinLimit id socket := by
  intro connection found
  have bounds := limited connection found
  obtain ⟨turns, ending, arrived, last, ended, content, within⟩ :=
    readLoop_ends bounds fits false
  obtain ⟨next, calls, after, returned, kept, rfl⟩ := onSocketReadLoop_limited found ended
  have each : ∀ answer ∈ answersOf socket turns, answer.Fits := by
    intro answer listed
    obtain ⟨turn, -, rfl⟩ := List.mem_map.mp listed
    exact fits turn
  obtain ⟨few, room⟩ := recvRequests_limited bounds each false
  exact ⟨turns, ending, next, calls, after, returned, kept, content, within, by omega, room⟩

def fullConnection (expandSize : Nat) : EpollReactor :=
  let connection := TcpConnection.create 5 1 expandSize 1 1
  { EpollReactor.create with connReadBufferMaxSize := 100 }.setConnection 5
    { connection with readBuffer := connection.readBuffer.append [7] }

theorem onSocketRead_withinLimit_full :
    (fullConnection 1024).ReadsWithinLimit 5 fun _ => ⟨1, .inl [9]⟩ := by
  apply onSocketRead_withinLimit
  · intro connection found
    cases found
    have empty : (DynamicBuffer.create 1 1024).Valid :=
      DynamicBuffer.create_valid 1 1024 (by decide) (by decide)
    refine ⟨empty.append [7] ?_, by decide, by decide, by decide, by decide⟩
    exact Nat.lt_of_le_of_lt (by decide : _ ≤ 1) (by decide)
  · intro turn
    refine ⟨by decide, ?_⟩
    intro bytes came
    cases came
    decide

/-- The size of the new vector wraps to 0, and the unread byte is lost. -/
theorem hugeExpansion_loses :
    ¬ (fullConnection (2 ^ 64 - 1)).ReadsWithinLimit 5 fun _ => ⟨1, .inr eagain⟩ := by
  intro within
  obtain ⟨turns, ending, next, calls, after, returned, kept, content, -⟩ := within _ rfl
  cases turns with
  | zero => cases returned
  | succ turns =>
      rw [answersOf_succ] at returned content
      cases returned
      cases kept
      have lost : ([] : List UInt8) = [7] := content
      cases lost

end ZBlueNet.EpollReactor
