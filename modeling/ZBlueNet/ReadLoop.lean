import ZBlueNet.ReactorCore
import ZBlueNet.DynamicBuffer

/-!
The read loop of `Reactor::onSocketRead`, turn by turn: the bytes that `recv`
returns stand behind the ones that were unread, in their order.
-/

namespace ZBlueNet.EpollReactor

/-- What one turn of the loop does: it ends the loop or it takes bytes from the socket. -/
inductive ReadTurn
  | stop (ending : ReadEnd) (readBuffer : DynamicBuffer)
  | received (bytes : List UInt8) (readBuffer : DynamicBuffer)

def bytesToRead (answer : RecvAnswer) : Nat := (max 1 answer.readableBytes).toNat

def readTurn (maxSize : Nat) (answer : RecvAnswer) (dataArrive : Bool)
    (readBuffer : DynamicBuffer) : ReadTurn :=
  if dataArrive ∧ answer.readableBytes = 0 then .stop .drained readBuffer
  else if maxSize > 0 ∧ sizeAdd (bytesToRead answer) readBuffer.readableBytes > maxSize then
    .stop .peerClose readBuffer
  else
    let reserved := readBuffer.reserveWritableBytes (bytesToRead answer)
    match answer.received with
    | .inl [] => .stop .peerClose reserved
    | .inl bytes => .received bytes ((reserved.store 0 bytes).write bytes.length)
    | .inr errno => .stop (if errno = eagain then .drained else .failed errno) reserved

def receivedBytes (maxSize : Nat) :
    List RecvAnswer → Bool → DynamicBuffer → List UInt8
  | [], _, _ => []
  | answer :: answers, dataArrive, readBuffer =>
      match readTurn maxSize answer dataArrive readBuffer with
      | .stop _ _ => []
      | .received bytes stored => bytes ++ receivedBytes maxSize answers true stored

/-- `recv` returns at most what it is asked for, and `readableBytes` is an `int`. -/
structure RecvAnswer.Fits (answer : RecvAnswer) : Prop where
  counted : answer.readableBytes < 2 ^ 31
  atMost : ∀ bytes, answer.received = .inl bytes → bytes.length ≤ bytesToRead answer

def RecvAnswer.size (answer : RecvAnswer) : Nat :=
  match answer.received with
  | .inl bytes => bytes.length
  | .inr _ => 0

/-- The address space holds the read buffer: its limit bounds it, or it has room for the unread
bytes with all that the answers bring. -/
structure ReadsFit (maxSize : Nat) (answers : List RecvAnswer) (readBuffer : DynamicBuffer) :
    Prop where
  fits : ∀ answer ∈ answers, answer.Fits
  room : readBuffer.readableBytes ≤ maxSize ∧ 0 < maxSize ∧
      maxSize + 2 ^ 31 + 2 * readBuffer.expandSize < sizeModulus ∨
    readBuffer.readableBytes + (answers.map RecvAnswer.size).sum + 2 ^ 31 +
      2 * readBuffer.expandSize < sizeModulus

variable {maxSize : Nat} {answer : RecvAnswer} {answers : List RecvAnswer} {dataArrive arrived : Bool}
  {readBuffer stored last : DynamicBuffer} {bytes : List UInt8} {ending : ReadEnd}

theorem readLoop_cons : readLoop maxSize (answer :: answers) dataArrive readBuffer =
    match readTurn maxSize answer dataArrive readBuffer with
    | .stop ending stored => some (ending, dataArrive, stored)
    | .received _ stored => readLoop maxSize answers true stored := by
  rw [readLoop, readTurn]
  by_cases drained : dataArrive = true ∧ answer.readableBytes = 0
  · rw [if_pos drained, if_pos drained]
  · rw [if_neg drained, if_neg drained]
    by_cases full : maxSize > 0 ∧ sizeAdd (bytesToRead answer) readBuffer.readableBytes > maxSize
    · rw [if_pos full]
      exact if_pos full
    · rw [if_neg full]
      refine (if_neg full).trans ?_
      rcases answer.received with _ | errno
      · rename_i bytes
        cases bytes <;> rfl
      · by_cases again : errno = eagain <;> simp [again, bytesToRead]

theorem bytesToRead_bound (fits : answer.Fits) : bytesToRead answer < 2 ^ 31 := by
  have counted := fits.counted
  unfold bytesToRead
  omega

theorem ReadsFit.sizeAdd_eq (fit : ReadsFit maxSize (answer :: answers) readBuffer) :
    sizeAdd (bytesToRead answer) readBuffer.readableBytes =
      bytesToRead answer + readBuffer.readableBytes := by
  have bound := bytesToRead_bound (fit.fits answer (by simp))
  have room := fit.room
  exact Nat.mod_eq_of_lt (by omega)

theorem ReadsFit.reserve (valid : readBuffer.Valid)
    (fit : ReadsFit maxSize (answer :: answers) readBuffer) :
    readBuffer.Grows (bytesToRead answer) := by
  have bound := bytesToRead_bound (fit.fits answer (by simp))
  have room := fit.room
  exact valid.grows (by unfold DynamicBuffer.Fits; omega)

def Unfilled (maxSize : Nat) (answer : RecvAnswer) (readBuffer : DynamicBuffer) : Prop :=
  ¬(maxSize > 0 ∧ sizeAdd (bytesToRead answer) readBuffer.readableBytes > maxSize)

theorem turn_stop (valid : readBuffer.Valid)
    (grows : Unfilled maxSize answer readBuffer → readBuffer.Grows (bytesToRead answer))
    (turn : readTurn maxSize answer dataArrive readBuffer = .stop ending stored) :
    stored.Valid ∧ stored.content = readBuffer.content ∧
      stored.expandSize = readBuffer.expandSize := by
  have reserved (unfilled : Unfilled maxSize answer readBuffer) :
      (readBuffer.reserveWritableBytes (bytesToRead answer)).Valid ∧
      (readBuffer.reserveWritableBytes (bytesToRead answer)).content = readBuffer.content ∧
      (readBuffer.reserveWritableBytes (bytesToRead answer)).expandSize = readBuffer.expandSize :=
    ⟨valid.reserveWritableBytes _ (grows unfilled),
      valid.reserveWritableBytes_content _ (grows unfilled), by simp⟩
  rw [readTurn] at turn
  split at turn
  · cases turn
    exact ⟨valid, rfl, rfl⟩
  · split at turn
    · cases turn
      exact ⟨valid, rfl, rfl⟩
    · rename_i unfilled
      dsimp only at turn
      split at turn
      · cases turn
        exact reserved unfilled
      · cases turn
      · cases turn
        exact reserved unfilled

theorem turn_received (valid : readBuffer.Valid)
    (grows : Unfilled maxSize answer readBuffer → readBuffer.Grows (bytesToRead answer))
    (atMost : ∀ bytes, answer.received = .inl bytes → bytes.length ≤ bytesToRead answer)
    (turn : readTurn maxSize answer dataArrive readBuffer = .received bytes stored) :
    answer.received = .inl bytes ∧ bytes ≠ [] ∧ stored.Valid ∧
      stored.content = readBuffer.content ++ bytes ∧
      stored.expandSize = readBuffer.expandSize ∧ Unfilled maxSize answer readBuffer := by
  rw [readTurn] at turn
  split at turn
  · cases turn
  · split at turn
    · cases turn
    · rename_i unfilled
      dsimp only at turn
      split at turn
      · cases turn
      · rename_i _ nonempty came
        cases turn
        have short := atMost _ came
        have room := valid.reserveWritableBytes_room _ (grows unfilled)
        have reserved := valid.reserveWritableBytes _ (grows unfilled)
        have content := reserved.store_write_content bytes (by omega)
        rw [valid.reserveWritableBytes_content _ (grows unfilled)] at content
        have written : ((DynamicBuffer.store _ 0 bytes).write bytes.length).Valid :=
          (reserved.store 0 bytes (Nat.zero_le _)).write bytes.length
        refine ⟨came, ?_, written, content, ?_, unfilled⟩
        · rintro rfl
          exact nonempty rfl
        · simp [DynamicBuffer.store, DynamicBuffer.write]
      · cases turn

theorem readTurn_stop (valid : readBuffer.Valid)
    (fit : ReadsFit maxSize (answer :: answers) readBuffer)
    (turn : readTurn maxSize answer dataArrive readBuffer = .stop ending stored) :
    stored.Valid ∧ stored.content = readBuffer.content ∧
      stored.expandSize = readBuffer.expandSize :=
  turn_stop valid (fun _ => fit.reserve valid) turn

theorem readTurn_received (valid : readBuffer.Valid)
    (fit : ReadsFit maxSize (answer :: answers) readBuffer)
    (turn : readTurn maxSize answer dataArrive readBuffer = .received bytes stored) :
    answer.received = .inl bytes ∧ bytes ≠ [] ∧ stored.Valid ∧
      stored.content = readBuffer.content ++ bytes ∧
      stored.expandSize = readBuffer.expandSize ∧ ReadsFit maxSize answers stored := by
  have atMost := (fit.fits answer List.mem_cons_self).atMost
  obtain ⟨came, nonempty, written, content, expands, unfilled⟩ :=
    turn_received valid (fun _ => fit.reserve valid) atMost turn
  refine ⟨came, nonempty, written, content, expands, ?_, ?_⟩
  · intro later member
    exact fit.fits later (List.mem_cons_of_mem _ member)
  · have more := congrArg List.length content
    rw [written.content_length, List.length_append, valid.content_length] at more
    have short := atMost bytes came
    rcases fit.room with ⟨within, limited, bounded⟩ | total
    · rw [Unfilled, fit.sizeAdd_eq] at unfilled
      refine .inl ⟨?_, limited, by rwa [expands]⟩
      rw [more]
      omega
    · simp only [List.map_cons, List.sum_cons, RecvAnswer.size, came] at total
      refine .inr ?_
      rw [more, expands]
      omega

/-- The loop ends with the old bytes and behind them what `recv` returned. -/
theorem readLoop_content (valid : readBuffer.Valid) (fit : ReadsFit maxSize answers readBuffer)
    (ended : readLoop maxSize answers dataArrive readBuffer = some (ending, arrived, last)) :
    last.Valid ∧ last.expandSize = readBuffer.expandSize ∧
      last.content = readBuffer.content ++ receivedBytes maxSize answers dataArrive readBuffer ∧
      (arrived = true ↔
        dataArrive = true ∨ receivedBytes maxSize answers dataArrive readBuffer ≠ []) := by
  induction answers generalizing dataArrive readBuffer with
  | nil => cases ended
  | cons answer answers ih =>
      rw [readLoop_cons] at ended
      rw [receivedBytes]
      cases turn : readTurn maxSize answer dataArrive readBuffer with
      | stop stopped stored =>
          simp only [turn, Option.some.injEq, Prod.mk.injEq] at ended
          obtain ⟨rfl, rfl, rfl⟩ := ended
          obtain ⟨kept, content, expands⟩ := readTurn_stop valid fit turn
          exact ⟨kept, expands, by simp [content], by simp⟩
      | received bytes stored =>
          simp only [turn] at ended
          obtain ⟨-, nonempty, kept, content, expands, later⟩ := readTurn_received valid fit turn
          obtain ⟨lastValid, lastExpands, lastContent, cameIff⟩ := ih kept later ended
          refine ⟨lastValid, lastExpands.trans expands, ?_, ?_⟩
          · rw [lastContent, content, List.append_assoc]
          · simp [cameIff, nonempty]

theorem readLoop_nothing (valid : readBuffer.Valid) (fit : ReadsFit maxSize answers readBuffer)
    (ended : readLoop maxSize answers false readBuffer = some (ending, false, last)) :
    receivedBytes maxSize answers false readBuffer = [] := by
  obtain ⟨-, -, -, came⟩ := readLoop_content valid fit ended
  by_contra some
  cases came.mpr (.inr some)

/-- `recv` fails behind bytes that it returned in the same loop: `waiting` counts the bytes that are
unread when the loop comes to the answers. -/
def failsBehindData (maxSize : Nat) : List RecvAnswer → Bool → Nat → Bool
  | [], _, _ => false
  | answer :: answers, dataArrive, waiting =>
      if dataArrive ∧ answer.readableBytes = 0 then false
      else if maxSize > 0 ∧ bytesToRead answer + waiting > maxSize then false
      else
        match answer.received with
        | .inl [] => false
        | .inl bytes => failsBehindData maxSize answers true (waiting + bytes.length)
        | .inr errno => dataArrive ∧ errno ≠ eagain

theorem failsBehindData_cons (valid : readBuffer.Valid)
    (fit : ReadsFit maxSize (answer :: answers) readBuffer) :
    failsBehindData maxSize (answer :: answers) dataArrive readBuffer.readableBytes =
      match readTurn maxSize answer dataArrive readBuffer with
      | .stop (.failed _) _ => dataArrive
      | .stop _ _ => false
      | .received _ stored => failsBehindData maxSize answers true stored.readableBytes := by
  have sum := fit.sizeAdd_eq
  cases turn : readTurn maxSize answer dataArrive readBuffer with
  | stop ending stored =>
      rw [readTurn, sum] at turn
      rw [failsBehindData]
      split at turn
      · rename_i drained
        cases turn
        rw [if_pos drained]
      · rename_i goesOn
        rw [if_neg goesOn]
        split at turn
        · rename_i full
          cases turn
          rw [if_pos full]
        · rename_i fits
          rw [if_neg fits]
          dsimp only at turn
          split at turn
          · cases turn
            rfl
          · cases turn
          · rename_i errno _
            cases turn
            by_cases again : errno = eagain <;> simp [again]
  | received bytes stored =>
      obtain ⟨came, nonempty, kept, content, -, -⟩ := readTurn_received valid fit turn
      have more := congrArg List.length content
      rw [kept.content_length, List.length_append, valid.content_length] at more
      rw [readTurn, sum] at turn
      rw [failsBehindData]
      split at turn
      · cases turn
      · rename_i goesOn
        rw [if_neg goesOn]
        split at turn
        · cases turn
        · rename_i fits
          rw [if_neg fits, came]
          cases bytes with
          | nil => exact absurd rfl nonempty
          | cons byte rest =>
              dsimp only
              rw [more]

theorem failsBehindData_iff (valid : readBuffer.Valid) (fit : ReadsFit maxSize answers readBuffer) :
    failsBehindData maxSize answers dataArrive readBuffer.readableBytes = true ↔
      ∃ errno last, readLoop maxSize answers dataArrive readBuffer =
        some (.failed errno, true, last) := by
  induction answers generalizing dataArrive readBuffer with
  | nil => simp [failsBehindData, readLoop]
  | cons answer answers ih =>
      rw [failsBehindData_cons valid fit, readLoop_cons]
      cases turn : readTurn maxSize answer dataArrive readBuffer with
      | stop stopped stored => cases stopped <;> simp
      | received bytes stored =>
          obtain ⟨-, -, kept, -, -, later⟩ := readTurn_received valid fit turn
          exact ih kept later

end ZBlueNet.EpollReactor
