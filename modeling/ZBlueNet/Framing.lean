import ZBlueNet.ReceiveStream

/-!
The sending half of the framing: what `writeMessage` leaves in the encode buffer
is a frame that `recvMessage` accepts and undoes, for whole lists of messages.
-/

namespace ZBlueNet

open Bytes StreamParser NetProtocol

variable {Callback Message : Type} [BaseStruct Message]

/-- A message's `encode` writes the bytes that it reports, inside the space it is given. -/
def EncodesWhatItReports (message : Message) : Prop :=
  ∀ size, 0 ≤ (BaseStruct.encode message size).1 →
    ((BaseStruct.encode message size).2.length : Int) = (BaseStruct.encode message size).1 ∧
    (BaseStruct.encode message size).2.length ≤ size

/-- The receiver creates an object for the id whose `decode` undoes the message's `encode`. -/
def DecodesBack (protocol : NetProtocol Message) (messageId : Int) (message : Message) : Prop :=
  ∃ blank, protocol.createMessageFunc messageId = some blank ∧
    ∀ size, 0 ≤ (BaseStruct.encode message size).1 →
      0 ≤ (BaseStruct.decode blank (BaseStruct.encode message size).2).1 ∧
      (BaseStruct.decode blank (BaseStruct.encode message size).2).2 = message

/-- The frames of a list of messages, written one after the other to one encode buffer; `none`
once `writeMessage` returns false. -/
def encodeFrames : List (Int × Message) → DynamicBuffer → Option (List (List UInt8))
  | [], _ => some []
  | (messageId, message) :: messages, buffer =>
      let written := writeMessage messageId message buffer
      if written.1 then (encodeFrames messages written.2).map (written.2.content :: ·) else none

def frameBytes (messageId : Int) (payload : List UInt8) : List UInt8 :=
  integerBytes 2 (messageId % 2 ^ 16).toNat ++ integerBytes 2 payload.length ++ payload

theorem writeId_eq {buffer : DynamicBuffer} (room : 2 ≤ buffer.buffer.length) (messageId : Int) :
    buffer.clear.writeInt16 (messageId % 2 ^ 16).toNat =
      { buffer with
        buffer := overwrite buffer.buffer 0 (integerBytes 2 (messageId % 2 ^ 16).toNat)
        readIndex := 0
        writeIndex := 2 } := by
  have startedLength (bytes : List UInt8) :
      (overwrite buffer.buffer 0 bytes).length = buffer.buffer.length :=
    overwrite_length _ _ _ (Nat.zero_le _)
  simp only [DynamicBuffer.writeInt16, DynamicBuffer.writeInt, Bool.false_eq_true, if_false]
  rw [DynamicBuffer.append_of_room _ (by
    simp only [DynamicBuffer.clear, DynamicBuffer.writableBytes, integerBytes_length]
    omega)]
  simp only [DynamicBuffer.clear, DynamicBuffer.store, DynamicBuffer.write,
    DynamicBuffer.writableBytes, integerBytes_length, startedLength, Nat.zero_add, Nat.sub_zero]
  rw [Nat.min_eq_left (by omega)]

theorem writeMessage_eq {buffer : DynamicBuffer} (room : 4 ≤ buffer.buffer.length)
    (bounded : buffer.buffer.length < sizeModulus) (messageId : Int) (message : Message) :
    let encoded := BaseStruct.encode message (buffer.buffer.length - 4)
    let started := overwrite buffer.buffer 0 (integerBytes 2 (messageId % 2 ^ 16).toNat)
    let stored := overwrite started 4 encoded.2
    let closed := overwrite stored 2 (integerBytes 2 (encoded.1 % 2 ^ 16).toNat)
    writeMessage messageId message buffer =
      if encoded.1 < 0 then
        (false, { buffer with buffer := stored, readIndex := 0, writeIndex := 2 })
      else
        (true, { buffer with
          buffer := closed
          readIndex := 0
          writeIndex := 4 + min encoded.1.toNat (buffer.buffer.length - 4) }) := by
  have startedLength (bytes : List UInt8) :
      (overwrite buffer.buffer 0 bytes).length = buffer.buffer.length :=
    overwrite_length _ _ _ (Nat.zero_le _)
  have storedLength (first second : List UInt8) :
      (overwrite (overwrite buffer.buffer 0 first) 4 second).length = buffer.buffer.length := by
    rw [overwrite_length _ _ _ (by rw [startedLength]; exact room), startedLength]
  have closedLength (first second third : List UInt8) :
      (overwrite (overwrite (overwrite buffer.buffer 0 first) 4 second) 2 third).length =
        buffer.buffer.length := by
    rw [overwrite_length _ _ _ (by rw [storedLength]; omega), storedLength]
  have idWritten := writeId_eq (show 2 ≤ buffer.buffer.length by omega) messageId
  have space : sizeSub (buffer.buffer.length - 2) 2 = buffer.buffer.length - 4 := by
    rw [sizeSub, show buffer.buffer.length - 2 + sizeModulus - 2 =
      buffer.buffer.length - 4 + sizeModulus by omega, Nat.add_mod_right, Nat.mod_eq_of_lt (by omega)]
  intro encoded started stored closed
  simp only [writeMessage, idWritten, DynamicBuffer.writableBytes, startedLength, space,
    DynamicBuffer.store]
  split
  · rfl
  · rw [DynamicBuffer.writeInt16, DynamicBuffer.writeInt, if_neg (by simp),
      DynamicBuffer.append_of_room _ (by
        simp only [DynamicBuffer.writableBytes, integerBytes_length, storedLength]
        omega)]
    simp only [DynamicBuffer.store, DynamicBuffer.write, DynamicBuffer.writableBytes,
      integerBytes_length, closedLength, Nat.add_zero]
    rw [Nat.min_eq_left (by omega)]

theorem writeMessage_frame {buffer : DynamicBuffer} (room : 4 ≤ buffer.buffer.length)
    (bounded : buffer.buffer.length < sizeModulus) (messageId : Int) (message : Message)
    (reports : EncodesWhatItReports message)
    (small : (BaseStruct.encode message (buffer.buffer.length - 4)).1 < 2 ^ 16)
    (written : (writeMessage messageId message buffer).1 = true) :
    let encoded := BaseStruct.encode message (buffer.buffer.length - 4)
    0 ≤ encoded.1 ∧ encoded.2.length + 4 ≤ buffer.buffer.length ∧
      (writeMessage messageId message buffer).2.content = frameBytes messageId encoded.2 ∧
      (writeMessage messageId message buffer).2.buffer.length = buffer.buffer.length := by
  simp only [writeMessage_eq room bounded] at written ⊢
  split at written
  · simp at written
  · rename_i accepted
    obtain ⟨count, fits⟩ := reports (buffer.buffer.length - 4) (by omega)
    generalize BaseStruct.encode message (buffer.buffer.length - 4) = encoded
      at count fits small accepted ⊢
    have length : (encoded.1 % 2 ^ 16).toNat = encoded.2.length := by omega
    have taken : 4 + min encoded.1.toNat (buffer.buffer.length - 4) = 4 + encoded.2.length := by
      omega
    rw [if_neg accepted]
    refine ⟨by omega, by omega, ?_, ?_⟩
    · have idLength : (overwrite buffer.buffer 0
          (integerBytes 2 (messageId % 2 ^ 16).toNat)).length = buffer.buffer.length :=
        overwrite_length _ _ _ (Nat.zero_le _)
      have idTaken := overwrite_take buffer.buffer 0 (integerBytes 2 (messageId % 2 ^ 16).toNat)
        (by simp only [integerBytes_length]; omega)
      simp only [integerBytes_length, List.take_zero, List.nil_append, Nat.zero_add] at idTaken
      have payloadTaken := overwrite_take (overwrite buffer.buffer 0
        (integerBytes 2 (messageId % 2 ^ 16).toNat)) 4 encoded.2 (by omega)
      simp only [DynamicBuffer.content, taken, List.drop_zero, length]
      rw [overwrite_take_beyond _ _ _ _ (by simp only [integerBytes_length]; omega)
        (by rw [overwrite_length _ _ _ (by omega)]; omega), payloadTaken, integerBytes_length,
        overwrite_take_before _ _ _ _ (by omega) (by omega), idTaken,
        List.drop_append_of_le_length (by simp only [List.length_take]; omega),
        List.drop_of_length_le (by simp only [List.length_take]; omega), List.nil_append, frameBytes]
    · rw [overwrite_length _ _ _ (by
          rw [overwrite_length _ _ _ (by rw [overwrite_length _ _ _ (Nat.zero_le _)]; exact room),
            overwrite_length _ _ _ (Nat.zero_le _)]
          omega),
        overwrite_length _ _ _ (by rw [overwrite_length _ _ _ (Nat.zero_le _)]; exact room),
        overwrite_length _ _ _ (Nat.zero_le _)]

theorem writeMessage_content {buffer : DynamicBuffer} (room : 4 ≤ buffer.buffer.length)
    (bounded : buffer.buffer.length < 2 ^ 16) (messageId : Int) (message : Message)
    (reports : EncodesWhatItReports message)
    (written : (writeMessage messageId message buffer).1 = true) :
    let encoded := BaseStruct.encode message (buffer.buffer.length - 4)
    0 ≤ encoded.1 ∧ encoded.2.length + 4 ≤ buffer.buffer.length ∧
      (writeMessage messageId message buffer).2.content = frameBytes messageId encoded.2 ∧
      (writeMessage messageId message buffer).2.buffer.length = buffer.buffer.length := by
  have small : (BaseStruct.encode message (buffer.buffer.length - 4)).1 < 2 ^ 16 := by
    by_contra large
    obtain ⟨count, fits⟩ := reports (buffer.buffer.length - 4) (by omega)
    omega
  have measured : buffer.buffer.length < sizeModulus := by
    simp only [sizeModulus]
    omega
  exact writeMessage_frame room measured messageId message reports small written

theorem parseFrame_frameBytes {protocol : NetProtocol Message} {messageId : Int}
    {message blank : Message} {payload : List UInt8} (range : 0 ≤ messageId ∧ messageId ≤ 65535)
    (limit : (payload.length : Int) + 4 ≤ protocol.maxPacketLength)
    (small : payload.length < 2 ^ 16)
    (created : protocol.createMessageFunc messageId = some blank)
    (decoded : 0 ≤ (BaseStruct.decode blank payload).1 ∧
      (BaseStruct.decode blank payload).2 = message) :
    protocol.parseFrame (frameBytes messageId payload) = .item (messageId, message) [] := by
  have length : (frameBytes messageId payload).length = payload.length + 4 := by
    simp only [frameBytes, List.length_append, integerBytes_length]
    omega
  have id : (assemble ((frameBytes messageId payload).take 2) : Int) = messageId := by
    rw [frameBytes, List.append_assoc, List.take_append_of_le_length (by simp),
      List.take_of_length_le (by simp), assemble_integerBytes]
    omega
  have lengthField : payloadLength (frameBytes messageId payload) = payload.length := by
    rw [payloadLength, frameBytes, List.append_assoc, List.drop_append_of_le_length (by simp),
      List.drop_of_length_le (by simp), List.nil_append, List.take_append_of_le_length (by simp),
      List.take_of_length_le (by simp), assemble_integerBytes, Nat.mod_eq_of_lt (by omega)]
  have body : (frameBytes messageId payload).drop 4 = payload := by
    rw [frameBytes, List.drop_append_of_le_length (by simp), List.drop_of_length_le (by simp),
      List.nil_append]
  refine (parseFrame_item_iff _ _ _ _).mpr ⟨blank, ?_, ?_, ?_⟩
  · refine ⟨by omega, by rw [lengthField]; exact limit, by omega, by rw [id]; exact created, ?_⟩
    rw [body, lengthField, List.take_length]
    exact decoded.1
  · rw [id, body, lengthField, List.take_length, decoded.2]
  · rw [lengthField, List.drop_of_length_le (by omega)]

section RoundTrip

variable {protocol : NetProtocol Message} {messages : List (Int × Message)}
  {encodeBuffer : DynamicBuffer} {frames : List (List UInt8)}

theorem encodeFrames_parse (room : 4 ≤ encodeBuffer.buffer.length)
    (bounded : encodeBuffer.buffer.length < 2 ^ 16)
    (limit : (encodeBuffer.buffer.length : Int) ≤ protocol.maxPacketLength)
    (range : ∀ entry ∈ messages, 0 ≤ entry.1 ∧ entry.1 ≤ 65535)
    (reports : ∀ entry ∈ messages, EncodesWhatItReports entry.2)
    (known : ∀ entry ∈ messages, DecodesBack protocol entry.1 entry.2)
    (written : encodeFrames messages encodeBuffer = some frames) :
    frames.length = messages.length ∧
      ∀ pair ∈ frames.zip messages, protocol.parseFrame pair.1 = .item pair.2 [] := by
  induction messages generalizing encodeBuffer frames with
  | nil =>
      cases written
      simp
  | cons entry messages ih =>
      obtain ⟨messageId, message⟩ := entry
      simp only [List.forall_mem_cons] at range reports known
      simp only [encodeFrames] at written
      split at written
      · rename_i accepted
        obtain ⟨encoded, fits, content, capacity⟩ :=
          writeMessage_content room bounded messageId message reports.1 accepted
        cases rest : encodeFrames messages (writeMessage messageId message encodeBuffer).2 with
        | none => simp [rest] at written
        | some others =>
            simp only [rest, Option.map_some, Option.some.injEq] at written
            obtain ⟨sameLength, tail⟩ := ih (capacity ▸ room) (capacity ▸ bounded)
              (capacity ▸ limit) range.2 reports.2 known.2 rest
            obtain ⟨blank, created, decodes⟩ := known.1
            have head : protocol.parseFrame
                (writeMessage messageId message encodeBuffer).2.content =
                .item (messageId, message) [] := by
              rw [content]
              exact parseFrame_frameBytes range.1 (by omega) (by omega) created (decodes _ encoded)
            subst written
            refine ⟨by simp [sameLength], ?_⟩
            rw [List.zip_cons_cons, List.forall_mem_cons]
            exact ⟨head, tail⟩
      · simp at written

/-- What is written to the wire with `writeMessage`, cut anywhere, is what the receiver delivers. -/
theorem encodeFrames_round_trip (server : GameServer Message) (pthreadId socketId : Int)
    (callback : Callback) (messages : List (Int × Message)) (encodeBuffer buffer : DynamicBuffer)
    (frames chunks : List (List UInt8))
    (capacity : encodeBuffer.buffer.length = 40960)
    (limit : server.netProtocol.maxPacketLength = 40960)
    (range : ∀ entry ∈ messages, 0 ≤ entry.1 ∧ entry.1 ≤ 65535)
    (reports : ∀ entry ∈ messages, EncodesWhatItReports entry.2)
    (known : ∀ entry ∈ messages, DecodesBack server.netProtocol entry.1 entry.2)
    (written : encodeFrames messages encodeBuffer = some frames)
    (cut : chunks.flatten = frames.flatten)
    (valid : buffer.Valid) (empty : buffer.content = [])
    (fits : ∀ chunk ∈ chunks, 40960 + chunk.length + 2 * buffer.expandSize < sizeModulus) :
    let run := receiveChunks (server.onRecvMessage pthreadId socketId (some callback)) buffer chunks
    run.handed = messages.map (commandOf callback ⟨pthreadId, socketId⟩) ∧
      run.exit = .waiting ∧ run.buffer.content = [] ∧
      (server.netProtocol.recvMessage run.buffer 0 none).code = .waitingMoreData := by
  obtain ⟨sameLength, each⟩ := encodeFrames_parse (by omega) (by omega) (by omega) range reports
    known written
  have drained := drain_frames server.netProtocol.parser rfl (frames.zip messages) each
  rw [List.map_fst_zip (by omega), List.map_snd_zip (by omega), ← cut] at drained
  have room : RoomAlong server.netProtocol.parser buffer.expandSize ⟨[], some []⟩ chunks := by
    refine roomAlong_of_waiting server.netProtocol _ 40960 (by omega) (by omega) _ _ ?_ fits
    rintro rest ⟨rfl⟩
    rfl
  have run := receiveChunks_drain server pthreadId socketId callback buffer chunks valid empty room
  rw [drained] at run
  obtain ⟨exit, content, runValid, -⟩ := run.pending [] rfl
  refine ⟨run.handed, exit, content, ?_⟩
  rw [recvMessage_parseFrame _ runValid, content]
  rfl

theorem rawMessage_reports (message : RawMessage) : EncodesWhatItReports message := by
  intro size encoded
  simp only [BaseStruct.encode] at encoded ⊢
  split
  · exact ⟨rfl, by assumption⟩
  · rename_i large
    rw [if_neg large] at encoded
    simp at encoded

theorem rawMessage_known (message : RawMessage) :
    DecodesBack (rawServer 40960).netProtocol 7 message := by
  refine ⟨⟨[]⟩, rfl, ?_⟩
  intro size encoded
  simp only [BaseStruct.encode, BaseStruct.decode] at encoded ⊢
  split
  · exact ⟨Int.natCast_nonneg _, rfl⟩
  · rename_i large
    rw [if_neg large] at encoded
    simp at encoded

theorem writeMessage_raw {payload : List UInt8} {encodeBuffer : DynamicBuffer}
    (capacity : encodeBuffer.buffer.length = 40960) (small : payload.length ≤ 1024) :
    (writeMessage 7 (⟨payload⟩ : RawMessage) encodeBuffer).1 = true ∧
      (writeMessage 7 (⟨payload⟩ : RawMessage) encodeBuffer).2.content = frameBytes 7 payload ∧
      (writeMessage 7 (⟨payload⟩ : RawMessage) encodeBuffer).2.buffer.length = 40960 := by
  have room : payload.length ≤ 40960 - 4 := by omega
  have encoded : BaseStruct.encode (⟨payload⟩ : RawMessage) (40960 - 4) =
      ((payload.length : Int), payload) := by
    simp only [BaseStruct.encode]
    rw [if_pos room]
  have accepted : (writeMessage 7 (⟨payload⟩ : RawMessage) encodeBuffer).1 = true := by
    rw [writeMessage_eq (by omega) (by rw [capacity]; decide), capacity, encoded]
    dsimp only
    rw [if_neg (by omega)]
  obtain ⟨-, -, content, kept⟩ :=
    writeMessage_content (by omega) (by omega) 7 _ (rawMessage_reports _) accepted
  rw [capacity] at content kept
  exact ⟨accepted, by rw [content, encoded], kept⟩

theorem encodeFrames_round_trip_torn_frames :
    let run := receiveChunks ((rawServer 40960).onRecvMessage 1 5 (some ()))
      (DynamicBuffer.create 16 8) [[0, 7, 0], [2, 4, 9, 0, 7], [0, 1, 5]]
    run.handed = [((), messageCommand ⟨1, 5⟩ 7 (some ⟨[4, 9]⟩)),
        ((), messageCommand ⟨1, 5⟩ 7 (some ⟨[5]⟩))] ∧
      run.exit = .waiting ∧ run.buffer.content = [] ∧
      ((rawServer 40960).netProtocol.recvMessage run.buffer 0 none).code = .waitingMoreData := by
  have capacity : (DynamicBuffer.create 40960 1024).buffer.length = 40960 := List.length_replicate
  obtain ⟨first, firstBytes, kept⟩ := @writeMessage_raw [4, 9] _ capacity (by decide)
  obtain ⟨second, secondBytes, -⟩ := @writeMessage_raw [5] _ kept (by decide)
  refine encodeFrames_round_trip (rawServer 40960) 1 5 () [(7, ⟨[4, 9]⟩), (7, ⟨[5]⟩)]
    (DynamicBuffer.create 40960 1024) (DynamicBuffer.create 16 8)
    [[0, 7, 0, 2, 4, 9], [0, 7, 0, 1, 5]] [[0, 7, 0], [2, 4, 9, 0, 7], [0, 1, 5]] capacity rfl
    (by simp) (fun _ _ => rawMessage_reports _)
    (by simpa using ⟨rawMessage_known ⟨[4, 9]⟩, rawMessage_known ⟨[5]⟩⟩) ?_ rfl
    (DynamicBuffer.create_valid 16 8 (by decide) (by decide))
    (DynamicBuffer.create_content 16 8) (by decide)
  simp only [encodeFrames, first, firstBytes, second, secondBytes, if_true, Option.map_some]
  rfl

end RoundTrip

end ZBlueNet
