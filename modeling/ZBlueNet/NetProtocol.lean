import ZBlueNet.DynamicBuffer
import ZBlueNet.NetProtocolCore
import ZBlueNet.Lib.StreamParser

/-!
`recvMessage` reads the unread bytes as an incremental parser does, so the receive
loop drains a byte stream.
-/

namespace ZBlueNet.NetProtocol

open Bytes StreamParser

variable {Message : Type} [BaseStruct Message]

def parseFrame (protocol : NetProtocol Message) (bytes : List UInt8) :
    Outcome UInt8 (Int × Message) :=
  if bytes.length < 4 then .more
  else
    let messageId := assemble (bytes.take 2)
    let messageLength := assemble ((bytes.drop 2).take 2)
    if (messageLength : Int) + 4 > protocol.maxPacketLength then .fail
    else if bytes.length < messageLength + 4 then .more
    else
      match protocol.createMessageFunc messageId with
      | none => .fail
      | some message =>
          let decoded := BaseStruct.decode message ((bytes.drop 4).take messageLength)
          if decoded.1 < 0 then .fail
          else .item (messageId, decoded.2) (bytes.drop (messageLength + 4))

def ofOutcome (buffer : DynamicBuffer) (retMessageId : Int) (retMessage : Option Message) :
    Outcome UInt8 (Int × Message) → RecvResult Message
  | .more => ⟨.waitingMoreData, buffer, retMessageId, retMessage⟩
  | .fail => ⟨.err, buffer, retMessageId, retMessage⟩
  | .item (messageId, message) rest =>
      ⟨.messageReady, buffer.read (buffer.readableBytes - rest.length), messageId, some message⟩

theorem recvMessage_parseFrame (protocol : NetProtocol Message) {buffer : DynamicBuffer}
    (valid : buffer.Valid) (retMessageId : Int) (retMessage : Option Message) :
    protocol.recvMessage buffer retMessageId retMessage =
      ofOutcome buffer retMessageId retMessage (protocol.parseFrame buffer.content) := by
  have lengthEq := valid.content_length
  have header (offset : Nat) (bound : offset ≤ 2) :=
    valid.peekInt_eq 2 offset false (by simp only [sizeModulus]; omega)
  simp only [recvMessage, parseFrame, DynamicBuffer.peekInt16, header 0 (by omega),
    header 2 (by omega), Nat.zero_add, List.drop_zero, Bool.false_eq_true, if_false]
  by_cases short : buffer.content.length < 4
  · by_cases noId : buffer.content.length < 2
    · simp [noId, short, ofOutcome]
    · simp [noId, short, ofOutcome]
  · simp only [short, show ¬buffer.content.length < 2 by omega, if_false]
    split
    · rfl
    · rw [← lengthEq]
      split
      · rfl
      · rename_i complete
        have payload (count : Nat) (bound : count + 4 ≤ buffer.content.length) :
            (buffer.buffer.drop (buffer.readIndex + 4)).take count =
              (buffer.content.drop 4).take count := by
          rw [lengthEq, DynamicBuffer.readableBytes] at bound
          rw [DynamicBuffer.content, List.drop_drop, List.drop_take, List.take_take,
            Nat.min_eq_left (by omega)]
        rw [payload _ (by omega)]
        cases protocol.createMessageFunc (assemble (buffer.content.take 2)) with
        | none => rfl
        | some message =>
            simp only
            split
            · rfl
            · simp only [ofOutcome, List.length_drop]
              congr 2
              omega

def payloadLength (bytes : List UInt8) : Nat := assemble ((bytes.drop 2).take 2)

structure StartsWithFrame (protocol : NetProtocol Message) (bytes : List UInt8)
    (blank : Message) : Prop where
  header : 4 ≤ bytes.length
  allowed : (payloadLength bytes : Int) + 4 ≤ protocol.maxPacketLength
  complete : payloadLength bytes + 4 ≤ bytes.length
  created : protocol.createMessageFunc (assemble (bytes.take 2)) = some blank
  decoded : 0 ≤ (BaseStruct.decode blank ((bytes.drop 4).take (payloadLength bytes))).1

theorem parseFrame_item_iff (protocol : NetProtocol Message) (bytes rest : List UInt8)
    (value : Int × Message) :
    protocol.parseFrame bytes = .item value rest ↔
      ∃ blank, StartsWithFrame protocol bytes blank ∧
        value = ((assemble (bytes.take 2) : Int),
          (BaseStruct.decode blank ((bytes.drop 4).take (payloadLength bytes))).2) ∧
        rest = bytes.drop (payloadLength bytes + 4) := by
  simp only [parseFrame]
  constructor
  · intro found
    split at found
    · simp at found
    · split at found
      · simp at found
      · split at found
        · simp at found
        · split at found
          · simp at found
          · rename_i created
            split at found
            · simp at found
            · simp only [Outcome.item.injEq] at found
              exact ⟨_, ⟨by omega, by simp only [payloadLength]; omega,
                by simp only [payloadLength]; omega, created, by simp only [payloadLength]; omega⟩,
                found.1.symm, found.2.symm⟩
  · rintro ⟨blank, frame, rfl, rfl⟩
    have allowed := frame.allowed
    have complete := frame.complete
    have decoded := frame.decoded
    simp only [payloadLength] at allowed complete decoded ⊢
    have header := frame.header
    rw [if_neg (by omega), if_neg (by omega), if_neg (by omega), frame.created]
    simp only
    rw [if_neg (by omega)]

theorem parseFrame_item_drop {protocol : NetProtocol Message} {bytes rest : List UInt8}
    {value : Int × Message} (found : protocol.parseFrame bytes = .item value rest) :
    rest.length + 4 ≤ bytes.length ∧ bytes.drop (bytes.length - rest.length) = rest := by
  obtain ⟨blank, frame, -, rfl⟩ := (parseFrame_item_iff protocol bytes rest value).mp found
  have complete := frame.complete
  simp only [List.length_drop]
  refine ⟨by omega, ?_⟩
  congr 1
  omega

theorem parseFrame_more_length {protocol : NetProtocol Message} {bytes : List UInt8}
    (found : protocol.parseFrame bytes = .more) :
    bytes.length < 4 ∨ (bytes.length : Int) < protocol.maxPacketLength := by
  simp only [parseFrame] at found
  split at found
  · left
    assumption
  · split at found
    · simp at found
    · split at found
      · right
        omega
      · split at found
        · simp at found
        · split at found <;> simp at found

theorem parseFrame_append (protocol : NetProtocol Message) (bytes suffix : List UInt8) :
    (∀ value rest, protocol.parseFrame bytes = .item value rest →
      protocol.parseFrame (bytes ++ suffix) = .item value (rest ++ suffix)) ∧
    (protocol.parseFrame bytes = .fail → protocol.parseFrame (bytes ++ suffix) = .fail) := by
  by_cases short : bytes.length < 4
  · simp [parseFrame, short]
  · have id : (bytes ++ suffix).take 2 = bytes.take 2 :=
      List.take_append_of_le_length (by omega)
    have length : ((bytes ++ suffix).drop 2).take 2 = (bytes.drop 2).take 2 := by
      rw [List.drop_append_of_le_length (by omega),
        List.take_append_of_le_length (by simp only [List.length_drop]; omega)]
    have longer : ¬(bytes ++ suffix).length < 4 := by
      simp only [List.length_append]
      omega
    simp only [parseFrame, short, longer, if_false, id, length]
    generalize assemble ((bytes.drop 2).take 2) = messageLength
    by_cases tooLong : (messageLength : Int) + 4 > protocol.maxPacketLength
    · simp [tooLong]
    · by_cases incomplete : bytes.length < messageLength + 4
      · simp [tooLong, incomplete]
      · have payload : ((bytes ++ suffix).drop 4).take messageLength =
            (bytes.drop 4).take messageLength := by
          rw [List.drop_append_of_le_length (by omega),
            List.take_append_of_le_length (by simp only [List.length_drop]; omega)]
        have complete : ¬(bytes ++ suffix).length < messageLength + 4 := by
          simp only [List.length_append]
          omega
        have rest : (bytes ++ suffix).drop (messageLength + 4) =
            bytes.drop (messageLength + 4) ++ suffix :=
          List.drop_append_of_le_length (by omega)
        simp only [tooLong, incomplete, complete, if_false, payload, rest]
        cases protocol.createMessageFunc (assemble (bytes.take 2)) with
        | none => simp
        | some message =>
            simp only
            split
            · simp
            · simp only [Outcome.item.injEq, reduceCtorEq, false_implies, and_true]
              rintro value rest ⟨rfl, rfl⟩
              exact ⟨rfl, rfl⟩

def parser (protocol : NetProtocol Message) : Parser UInt8 (Int × Message) where
  parse := protocol.parseFrame
  item_shorter := fun found => by
    have bound := (parseFrame_item_drop found).1
    omega
  item_append := fun found suffix => (parseFrame_append protocol _ suffix).1 _ _ found
  fail_append := fun found suffix => (parseFrame_append protocol _ suffix).2 found

end ZBlueNet.NetProtocol
