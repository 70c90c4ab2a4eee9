import ZBlueNet.ReadBuffers

/-!
A call of `recvMessage` either leaves everything as it is or takes exactly one frame, so
the receive loop comes to its end.
-/

namespace ZBlueNet

open Bytes StreamParser NetProtocol

variable {Callback Message : Type} [BaseStruct Message]

/-- What a call of `recvMessage` does, by its return code. -/
structure TakesOneFrame (protocol : NetProtocol Message) (buffer : DynamicBuffer)
    (retMessageId : Int) (retMessage : Option Message) (result : RecvResult Message) : Prop where
  untouched : result.code ≠ .messageReady →
    result.buffer = buffer ∧ result.retMessageId = retMessageId ∧ result.retMessage = retMessage
  waiting : result.code = .waitingMoreData ↔
    buffer.readableBytes < 4 ∨
      (payloadLength buffer.content : Int) + 4 ≤ protocol.maxPacketLength ∧
        buffer.readableBytes < payloadLength buffer.content + 4
  ready : result.code = .messageReady →
    payloadLength buffer.content + 4 ≤ buffer.readableBytes ∧
    result.buffer.content = buffer.content.drop (payloadLength buffer.content + 4) ∧
    result.retMessageId = assemble (buffer.content.take 2) ∧
    ∃ message, protocol.createMessageFunc result.retMessageId = some message ∧
      let decoded := BaseStruct.decode message
        ((buffer.content.drop 4).take (payloadLength buffer.content))
      0 ≤ decoded.1 ∧ result.retMessage = some decoded.2

theorem parseFrame_more_iff (protocol : NetProtocol Message) (bytes : List UInt8) :
    protocol.parseFrame bytes = .more ↔
      bytes.length < 4 ∨
        (payloadLength bytes : Int) + 4 ≤ protocol.maxPacketLength ∧
          bytes.length < payloadLength bytes + 4 := by
  simp only [parseFrame, payloadLength]
  by_cases header : bytes.length < 4
  · simp [header]
  · rw [if_neg header]
    by_cases large : (assemble ((bytes.drop 2).take 2) : Int) + 4 > protocol.maxPacketLength
    · simp [large, header]
    · rw [if_neg large]
      by_cases short : bytes.length < assemble ((bytes.drop 2).take 2) + 4
      · simp only [short, if_true, true_iff]
        exact .inr ⟨by omega, trivial⟩
      · simp only [short, header, if_false, and_false, or_false, iff_false]
        cases protocol.createMessageFunc (assemble (bytes.take 2)) with
        | none =>
            intro more
            cases more
        | some message =>
            dsimp only
            split
            next =>
              intro more
              cases more
            next =>
              intro more
              cases more

theorem recvMessage_takesOneFrame (protocol : NetProtocol Message) {buffer : DynamicBuffer}
    (valid : buffer.Valid) (retMessageId : Int) (retMessage : Option Message) :
    TakesOneFrame protocol buffer retMessageId retMessage
      (protocol.recvMessage buffer retMessageId retMessage) := by
  have length := valid.content_length
  have waiting := parseFrame_more_iff protocol buffer.content
  rw [recvMessage_parseFrame protocol valid]
  cases found : protocol.parseFrame buffer.content with
  | more =>
      constructor
      case untouched => exact fun _ => ⟨rfl, rfl, rfl⟩
      case waiting => simpa [found, ofOutcome, length] using waiting
      case ready =>
        intro ready
        cases ready
  | fail =>
      constructor
      case untouched => exact fun _ => ⟨rfl, rfl, rfl⟩
      case waiting => simpa [found, ofOutcome, length] using waiting
      case ready =>
        intro ready
        cases ready
  | item value rest =>
      obtain ⟨message, frame, rfl, rfl⟩ := (parseFrame_item_iff protocol _ rest value).mp found
      have complete := frame.complete
      rw [length] at complete
      constructor
      case untouched => exact fun apart => absurd rfl apart
      case waiting => simpa [found, ofOutcome, length] using waiting
      case ready =>
          intro _
          refine ⟨complete, ?_, rfl, message, frame.created, frame.decoded, rfl⟩
          simp only [ofOutcome]
          rw [valid.read_content, List.length_drop, length]
          congr 1
          omega

section Loop

variable (protocol : NetProtocol Message) (newNetCmd : Option Callback) (id : NetId)

theorem recvLoop_ready {fuel : Nat} {buffer : DynamicBuffer} (callback : Callback)
    (code : (protocol.recvMessage buffer 0 none).code = .messageReady) :
    recvLoop protocol (some callback) id (fuel + 1) buffer =
      let received := protocol.recvMessage buffer 0 none
      let rest := recvLoop protocol (some callback) id fuel received.buffer
      { rest with
        handed := (callback, messageCommand id received.retMessageId received.retMessage) ::
          rest.handed } := by
  simp only [recvLoop, code]

theorem recvLoop_succ {fuel : Nat} {buffer : DynamicBuffer}
    (ended : (recvLoop protocol newNetCmd id fuel buffer).exit ≠ .unfinished) :
    recvLoop protocol newNetCmd id (fuel + 1) buffer =
      recvLoop protocol newNetCmd id fuel buffer := by
  induction fuel generalizing buffer with
  | zero => exact absurd rfl ended
  | succ fuel ih =>
      cases code : (protocol.recvMessage buffer 0 none).code with
      | waitingMoreData => simp only [recvLoop, code]
      | err => simp only [recvLoop, code]
      | messageReady =>
          cases newNetCmd with
          | none => simp only [recvLoop, code]
          | some callback =>
              rw [recvLoop_ready protocol id callback code] at ended ⊢
              rw [recvLoop_ready protocol id callback code]
              dsimp only at ended ⊢
              rw [ih ended]

theorem recvLoop_add {fuel : Nat} {buffer : DynamicBuffer}
    (ended : (recvLoop protocol newNetCmd id fuel buffer).exit ≠ .unfinished) (more : Nat) :
    recvLoop protocol newNetCmd id (fuel + more) buffer =
      recvLoop protocol newNetCmd id fuel buffer := by
  induction more with
  | zero => rfl
  | succ more ih =>
      rw [← ih, ← Nat.add_assoc]
      apply recvLoop_succ
      rw [ih]
      exact ended

/-- Every frame has its four bytes of header, so the turns are limited by the readable bytes. -/
theorem recvLoop_ends {fuel : Nat} {buffer : DynamicBuffer} (valid : buffer.Valid)
    (enough : buffer.readableBytes / 4 < fuel) :
    (recvLoop protocol newNetCmd id fuel buffer).exit ≠ .unfinished := by
  induction fuel generalizing buffer with
  | zero => omega
  | succ fuel ih =>
      have frame := recvMessage_takesOneFrame protocol valid 0 none
      have after := (NetThread.recvMessage_valid protocol valid 0 none).1
      cases code : (protocol.recvMessage buffer 0 none).code with
      | waitingMoreData => simp [recvLoop, code]
      | err => simp [recvLoop, code]
      | messageReady =>
          cases newNetCmd with
          | none => simp [recvLoop, code]
          | some callback =>
              obtain ⟨complete, content, -⟩ := frame.ready code
              rw [recvLoop_ready protocol id callback code]
              apply ih after
              rw [← after.content_length, content, List.length_drop, valid.content_length]
              omega

end Loop

/-- `recvMessage` is atomic, and the loop of `onRecvMessage` calls it at most once more than the
buffer has room for headers. -/
theorem onRecvMessage_progress (server : GameServer Message) {buffer : DynamicBuffer}
    (valid : buffer.Valid) :
    (∀ retMessageId retMessage, TakesOneFrame server.netProtocol buffer retMessageId retMessage
      (server.netProtocol.recvMessage buffer retMessageId retMessage)) ∧
    ∀ (pthreadId socketId : Int) (newNetCmd : Option Callback),
      (recvLoop server.netProtocol newNetCmd ⟨pthreadId, socketId⟩
        (buffer.readableBytes / 4 + 1) buffer).exit ≠ .unfinished ∧
      ∀ turns ≥ buffer.readableBytes / 4 + 1,
        recvLoop server.netProtocol newNetCmd ⟨pthreadId, socketId⟩ turns buffer =
          server.onRecvMessage pthreadId socketId newNetCmd buffer := by
  constructor
  · exact recvMessage_takesOneFrame server.netProtocol valid
  · intro pthreadId socketId newNetCmd
    have ended := recvLoop_ends server.netProtocol newNetCmd ⟨pthreadId, socketId⟩ valid
      (Nat.lt_succ_self (buffer.readableBytes / 4))
    refine ⟨ended, ?_⟩
    intro turns enough
    obtain ⟨more, rfl⟩ := Nat.exists_eq_add_of_le enough
    exact recvLoop_add server.netProtocol newNetCmd ⟨pthreadId, socketId⟩ ended more

theorem onRecvMessage_progress_empty_payload :
    let buffer := (DynamicBuffer.create 16 8).append [0, 7, 0, 0]
    ((rawServer 40960).netProtocol.recvMessage buffer 0 none).code = .messageReady ∧
      ((rawServer 40960).onRecvMessage 1 5 (some ()) buffer).exit ≠ .unfinished := by
  intro buffer
  have valid : buffer.Valid := by
    have created := DynamicBuffer.create_valid 16 8 (by decide) (by decide)
    exact created.append _ (created.grows (show _ < sizeModulus by decide))
  exact ⟨by rfl, ((onRecvMessage_progress (rawServer 40960) valid).2 1 5 (some ())).1⟩

end ZBlueNet
