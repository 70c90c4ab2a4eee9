import ZBlueNet.Framing

/-!
When `writeMessage` can be trusted: the id and the size of the payload are narrowed to
16 bits, and the space that `encode` is given is computed without a check that four bytes
are there.
-/

namespace ZBlueNet

open Bytes StreamParser NetProtocol

variable {Message : Type} [BaseStruct Message]

def startedBuffer (messageId : Int) (buffer : DynamicBuffer) : DynamicBuffer :=
  buffer.clear.writeInt16 (messageId % 2 ^ 16).toNat

def givenSize (messageId : Int) (buffer : DynamicBuffer) : Nat :=
  sizeSub (startedBuffer messageId buffer).writableBytes 2

def roomBehindHeader (messageId : Int) (buffer : DynamicBuffer) : Nat :=
  (startedBuffer messageId buffer).buffer.length - ((startedBuffer messageId buffer).writeIndex + 2)

/-- The readable bytes are one frame: every receiver that knows the id and accepts packets of this
length is given the id and has the payload to decode, and nothing is left. -/
def ReadsBack (buffer : DynamicBuffer) (messageId : Int) (payload : List UInt8) : Prop :=
  ∀ (Received : Type) [BaseStruct Received] (protocol : NetProtocol Received) (blank : Received),
    (payload.length : Int) + 4 ≤ protocol.maxPacketLength →
    protocol.createMessageFunc messageId = some blank →
    0 ≤ (BaseStruct.decode blank payload).1 →
    let received := protocol.recvMessage buffer 0 none
    received.code = .messageReady ∧ received.retMessageId = messageId ∧
      received.retMessage = some (BaseStruct.decode blank payload).2 ∧ received.buffer.content = []

structure WritesFaithfully (messageId : Int) (message : Message) (buffer : DynamicBuffer) :
    Prop where
  within : givenSize messageId buffer ≤ roomBehindHeader messageId buffer
  readsBack : (writeMessage messageId message buffer).1 = true →
    ReadsBack (writeMessage messageId message buffer).2 messageId
      (BaseStruct.encode message (givenSize messageId buffer)).2

variable {buffer : DynamicBuffer}

theorem roomBehindHeader_eq (room : 2 ≤ buffer.buffer.length) (messageId : Int) :
    roomBehindHeader messageId buffer = buffer.buffer.length - 4 := by
  rw [roomBehindHeader, startedBuffer, writeId_eq room]
  dsimp only
  rw [overwrite_length _ _ _ (Nat.zero_le _)]

theorem givenSize_eq (room : 2 ≤ buffer.buffer.length) (messageId : Int) :
    givenSize messageId buffer = sizeSub (buffer.buffer.length - 2) 2 := by
  rw [givenSize, startedBuffer, writeId_eq room, DynamicBuffer.writableBytes]
  dsimp only
  rw [overwrite_length _ _ _ (Nat.zero_le _)]

/-- Below four bytes the difference wraps to a size of nearly `2^64`. -/
theorem givenSize_within_iff (room : 2 ≤ buffer.buffer.length)
    (bounded : buffer.buffer.length < sizeModulus) (messageId : Int) :
    givenSize messageId buffer ≤ roomBehindHeader messageId buffer ↔
      4 ≤ buffer.buffer.length := by
  rw [givenSize_eq room, roomBehindHeader_eq room, sizeSub]
  unfold sizeModulus at bounded ⊢
  constructor
  · intro within
    by_contra short
    rw [Nat.mod_eq_of_lt (by omega)] at within
    omega
  · intro enough
    omega

theorem givenSize_enough (enough : 4 ≤ buffer.buffer.length)
    (bounded : buffer.buffer.length < sizeModulus) (messageId : Int) :
    givenSize messageId buffer = buffer.buffer.length - 4 := by
  rw [givenSize_eq (by omega), sizeSub]
  unfold sizeModulus at bounded ⊢
  omega

theorem writeMessage_valid (valid : buffer.Valid) (room : 4 ≤ buffer.buffer.length)
    (messageId : Int) (message : Message) : (writeMessage messageId message buffer).2.Valid := by
  have length (first second third : List UInt8) :
      (overwrite (overwrite (overwrite buffer.buffer 0 first) 4 second) 2 third).length =
        buffer.buffer.length ∧
      (overwrite (overwrite buffer.buffer 0 first) 4 second).length = buffer.buffer.length := by
    have started : (overwrite buffer.buffer 0 first).length = buffer.buffer.length :=
      overwrite_length _ _ _ (Nat.zero_le _)
    have stored : (overwrite (overwrite buffer.buffer 0 first) 4 second).length =
        buffer.buffer.length := by
      rw [overwrite_length _ _ _ (by omega), started]
    constructor
    · rw [overwrite_length _ _ _ (by omega), stored]
    · exact stored
  rw [writeMessage_eq room valid.sizeBound]
  split
  · refine ⟨Nat.zero_le _, ?_, ?_, valid.expandPositive⟩
    · rw [(length _ _ []).2]
      dsimp only
      omega
    · rw [(length _ _ []).2]
      exact valid.sizeBound
  · refine ⟨Nat.zero_le _, ?_, ?_, valid.expandPositive⟩
    · rw [(length _ _ _).1]
      dsimp only
      omega
    · rw [(length _ _ _).1]
      exact valid.sizeBound

theorem recvMessage_narrow (protocol : NetProtocol Message) (valid : buffer.Valid)
    (ready : (protocol.recvMessage buffer 0 none).code = .messageReady) :
    (0 ≤ (protocol.recvMessage buffer 0 none).retMessageId ∧
        (protocol.recvMessage buffer 0 none).retMessageId < 2 ^ 16) ∧
      ∃ (blank : Message) (payload : List UInt8), payload.length < 2 ^ 16 ∧
        (protocol.recvMessage buffer 0 none).retMessage =
          some (BaseStruct.decode blank payload).2 := by
  have two (bytes : List UInt8) : assemble (bytes.take 2) < 2 ^ 16 := by
    have small := assemble_lt (bytes.take 2)
    have short : (bytes.take 2).length ≤ 2 := by
      rw [List.length_take]
      omega
    exact lt_of_lt_of_le small (Nat.pow_le_pow_right (by omega) short)
  rw [recvMessage_parseFrame protocol valid] at ready ⊢
  cases parsed : protocol.parseFrame buffer.content with
  | more =>
      rw [parsed] at ready
      cases ready
  | fail =>
      rw [parsed] at ready
      cases ready
  | item value rest =>
      obtain ⟨blank, frame, rfl, rfl⟩ := (parseFrame_item_iff _ _ _ _).mp parsed
      have id := two buffer.content
      have length := two (buffer.content.drop 2)
      refine ⟨⟨Int.natCast_nonneg _, ?_⟩, blank, _, ?_, rfl⟩
      · exact Int.ofNat_lt.mpr id
      · rw [List.length_take]
        exact lt_of_le_of_lt (Nat.min_le_left _ _) length

theorem readsBack_frame (valid : buffer.Valid) {messageId : Int} {payload : List UInt8}
    (range : 0 ≤ messageId ∧ messageId < 2 ^ 16) (small : payload.length < 2 ^ 16)
    (content : buffer.content = frameBytes messageId payload) :
    ReadsBack buffer messageId payload := by
  intro Received instance' protocol blank limit created decoded
  have parsed : protocol.parseFrame buffer.content =
      .item (messageId, (BaseStruct.decode blank payload).2) [] := by
    rw [content]
    exact parseFrame_frameBytes ⟨range.1, by omega⟩ limit small created ⟨decoded, rfl⟩
  have received := recvMessage_parseFrame protocol valid 0 none
  rw [parsed, ofOutcome] at received
  rw [received]
  refine ⟨rfl, rfl, rfl, ?_⟩
  dsimp only
  rw [valid.read_content, List.drop_of_length_le]
  rw [valid.content_length]
  exact Nat.le_refl _

theorem readsBack_narrow (valid : buffer.Valid) {messageId : Int} {payload : List UInt8}
    (readsBack : ReadsBack buffer messageId payload) :
    (0 ≤ messageId ∧ messageId < 2 ^ 16) ∧ payload.length < 2 ^ 16 := by
  obtain ⟨ready, id, message, -⟩ := readsBack RawMessage
    ⟨payload.length + 4, fun _ => some ⟨[]⟩⟩ ⟨[]⟩ (Int.le_refl _) rfl (Int.natCast_nonneg _)
  obtain ⟨range, blank, received, small, decoded⟩ := recvMessage_narrow _ valid ready
  rw [id] at range
  rw [message] at decoded
  have same : payload = received := congrArg RawMessage.payload (Option.some.inj decoded)
  rw [same]
  exact ⟨range, small⟩

theorem writeMessage_accepts (enough : 4 ≤ buffer.buffer.length)
    (bounded : buffer.buffer.length < sizeModulus) (messageId : Int) (message : Message) :
    (writeMessage messageId message buffer).1 = true ↔
      0 ≤ (BaseStruct.encode message (buffer.buffer.length - 4)).1 := by
  rw [writeMessage_eq enough bounded]
  split
  · rename_i refused
    constructor
    · intro written
      cases written
    · intro encoded
      omega
  · rename_i encoded
    exact ⟨fun _ => by omega, fun _ => rfl⟩

/-- The frame can be trusted exactly if the header has room in the buffer and neither the id nor
the size of what is encoded is narrowed. -/
theorem writeMessage_faithful_iff (valid : buffer.Valid) (room : 2 ≤ buffer.capacity)
    (messageId : Int) (message : Message) (reports : EncodesWhatItReports message) :
    WritesFaithfully messageId message buffer ↔
      4 ≤ buffer.capacity ∧
        (0 ≤ (BaseStruct.encode message (buffer.capacity - 4)).1 →
          (0 ≤ messageId ∧ messageId < 2 ^ 16) ∧
            (BaseStruct.encode message (buffer.capacity - 4)).1 < 2 ^ 16) := by
  unfold DynamicBuffer.capacity at room ⊢
  have bounded := valid.sizeBound
  have within := givenSize_within_iff room bounded messageId
  have accepts (enough : 4 ≤ buffer.buffer.length) :=
    writeMessage_accepts enough bounded messageId message
  constructor
  · rintro ⟨fits, faithful⟩
    have enough := within.mp fits
    refine ⟨enough, ?_⟩
    intro encoded
    obtain ⟨count, -⟩ := reports (buffer.buffer.length - 4) encoded
    have readsBack := faithful ((accepts enough).mpr encoded)
    rw [givenSize_enough enough bounded] at readsBack
    have narrow := readsBack_narrow (writeMessage_valid valid enough messageId message) readsBack
    refine ⟨narrow.1, ?_⟩
    omega
  · rintro ⟨enough, narrow⟩
    refine ⟨within.mpr enough, ?_⟩
    intro written
    have encoded := (accepts enough).mp written
    obtain ⟨range, small⟩ := narrow encoded
    obtain ⟨count, -⟩ := reports (buffer.buffer.length - 4) encoded
    have frame := writeMessage_frame enough bounded messageId message reports small written
    rw [givenSize_enough enough bounded]
    exact readsBack_frame (writeMessage_valid valid enough messageId message) range (by omega)
      frame.2.2.1

theorem writeMessage_faithful_iff_raw :
    WritesFaithfully 7 (⟨[4, 9]⟩ : RawMessage) (DynamicBuffer.create 16 1024) ↔
      4 ≤ (DynamicBuffer.create 16 1024).capacity ∧
        (0 ≤ (BaseStruct.encode (⟨[4, 9]⟩ : RawMessage)
            ((DynamicBuffer.create 16 1024).capacity - 4)).1 →
          (0 ≤ (7 : Int) ∧ (7 : Int) < 2 ^ 16) ∧
            (BaseStruct.encode (⟨[4, 9]⟩ : RawMessage)
              ((DynamicBuffer.create 16 1024).capacity - 4)).1 < 2 ^ 16) :=
  writeMessage_faithful_iff (DynamicBuffer.create_valid 16 1024 (by decide) (by decide)) (by decide)
    7 ⟨[4, 9]⟩ (rawMessage_reports _)

theorem writeMessage_narrows :
    ¬ WritesFaithfully 65543 (⟨[4, 9]⟩ : RawMessage) (DynamicBuffer.create 16 1024) := by
  intro faithful
  have received := faithful.readsBack (by decide) RawMessage ⟨6, fun _ => some ⟨[]⟩⟩ ⟨[]⟩
    (by decide) rfl (by decide)
  have id : (7 : Int) = 65543 := received.2.1
  omega

end ZBlueNet
