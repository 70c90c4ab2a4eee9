import ZBlueNet.NetProtocol

/-!
The receive loop drains the connection's byte stream: the MESSAGE commands it
hands over, its decision to close and the bytes it leaves do not depend on how
the stream was cut into chunks.
-/

namespace ZBlueNet

open Bytes StreamParser NetProtocol

variable {Callback Message : Type} [BaseStruct Message]

def commandOf (callback : Callback) (id : NetId) (item : Int × Message) :
    Callback × NetCommand Message :=
  (callback, messageCommand id item.1 (some item.2))

structure Simulates (callback : Callback) (id : NetId) (expandSize : Nat)
    (run : RecvRun Callback Message) (result : Result UInt8 (Int × Message)) : Prop where
  handed : run.handed = result.items.map (commandOf callback id)
  failed : result.pending = none → run.exit = .closed
  pending : ∀ rest, result.pending = some rest →
    run.exit = .waiting ∧ run.buffer.content = rest ∧ run.buffer.Valid ∧
      run.buffer.expandSize = expandSize

variable {callback : Callback} {id : NetId} {expandSize : Nat}

theorem recvLoop_simulates (protocol : NetProtocol Message) (callback : Callback) (id : NetId)
    (fuel : Nat) (buffer : DynamicBuffer) (valid : buffer.Valid)
    (enough : buffer.content.length / 4 < fuel) :
    Simulates callback id buffer.expandSize (recvLoop protocol (some callback) id fuel buffer)
      (drain protocol.parser buffer.content) := by
  induction fuel generalizing buffer with
  | zero => omega
  | succ fuel ih =>
      have received := recvMessage_parseFrame protocol valid 0 none
      cases found : protocol.parser.parse buffer.content with
      | more =>
          change protocol.parseFrame buffer.content = .more at found
          simp only [found, ofOutcome] at received
          rw [drain_more found]
          refine ⟨by simp [recvLoop, received], by simp, ?_⟩
          rintro rest ⟨rfl⟩
          simp only [recvLoop, received]
          exact ⟨trivial, trivial, valid, trivial⟩
      | fail =>
          change protocol.parseFrame buffer.content = .fail at found
          simp only [found, ofOutcome] at received
          rw [drain_fail found]
          exact ⟨by simp [recvLoop, received], by simp [recvLoop, received], by simp⟩
      | item value rest =>
          change protocol.parseFrame buffer.content = .item value rest at found
          obtain ⟨messageId, message⟩ := value
          obtain ⟨bound, dropped⟩ := parseFrame_item_drop found
          simp only [found, ofOutcome] at received
          have content : (buffer.read (buffer.readableBytes - rest.length)).content = rest := by
            rw [valid.read_content, ← valid.content_length, dropped]
          have next := ih (buffer.read (buffer.readableBytes - rest.length)) (valid.read _)
            (by rw [content]; omega)
          rw [content] at next
          rw [drain_item found]
          refine ⟨?_, ?_, ?_⟩
          · simp [recvLoop, received, next.handed, Result.prepend, commandOf]
          · intro failed
            simpa [recvLoop, received] using next.failed failed
          · intro waiting kept
            simpa [recvLoop, received] using next.pending waiting kept

/-- Every chunk finds room behind the bytes that still wait when it arrives. -/
def RoomAlong {Item : Type} (parser : Parser UInt8 Item) (expandSize : Nat) :
    Result UInt8 Item → List (List UInt8) → Prop
  | _, [] => True
  | state, chunk :: chunks =>
      (∀ rest, state.pending = some rest →
        rest.length + chunk.length + 2 * expandSize < sizeModulus) ∧
      RoomAlong parser expandSize (feed parser state chunk) chunks

section Chunks

variable {server : GameServer Message} {pthreadId socketId : Int}
  {state : RecvRun Callback Message} {result : Result UInt8 (Int × Message)}

theorem receiveChunk_simulates (chunk : List UInt8)
    (same : Simulates callback ⟨pthreadId, socketId⟩ expandSize state result)
    (room : ∀ rest, result.pending = some rest →
      rest.length + chunk.length + 2 * expandSize < sizeModulus) :
    Simulates callback ⟨pthreadId, socketId⟩ expandSize
      (receiveChunk (server.onRecvMessage pthreadId socketId (some callback)) state chunk)
      (feed server.netProtocol.parser result chunk) := by
  cases waiting : result.pending with
  | none =>
      have closed := same.failed waiting
      simpa [receiveChunk, closed, feed, waiting] using same
  | some rest =>
      obtain ⟨running, content, valid, expand⟩ := same.pending rest waiting
      have fits : state.buffer.Fits chunk.length := by
        rw [DynamicBuffer.Fits, ← valid.content_length, content, expand]
        exact room rest waiting
      have appended := valid.append_content chunk (valid.grows fits)
      have appendedValid := valid.append chunk (valid.grows fits)
      have run := recvLoop_simulates server.netProtocol callback ⟨pthreadId, socketId⟩
        (recvTurns (state.buffer.append chunk)) (state.buffer.append chunk) appendedValid
        (by rw [appendedValid.content_length, recvTurns]; omega)
      rw [appended, content, DynamicBuffer.append_expandSize, expand] at run
      simp only [receiveChunk, running, feed, waiting]
      exact ⟨by simp [GameServer.onRecvMessage, run.handed, same.handed, Result.prepend],
        run.failed, run.pending⟩

theorem receiveChunks_simulates (chunks : List (List UInt8))
    (same : Simulates callback ⟨pthreadId, socketId⟩ expandSize state result)
    (room : RoomAlong server.netProtocol.parser expandSize result chunks) :
    Simulates callback ⟨pthreadId, socketId⟩ expandSize
      (chunks.foldl (receiveChunk (server.onRecvMessage pthreadId socketId (some callback))) state)
      (chunks.foldl (feed server.netProtocol.parser) result) := by
  induction chunks generalizing state result with
  | nil => exact same
  | cons chunk chunks ih => exact ih (receiveChunk_simulates chunk same room.1) room.2

end Chunks

theorem receiveChunks_drain (server : GameServer Message) (pthreadId socketId : Int)
    (callback : Callback) (buffer : DynamicBuffer) (chunks : List (List UInt8))
    (valid : buffer.Valid) (empty : buffer.content = [])
    (room : RoomAlong server.netProtocol.parser buffer.expandSize ⟨[], some []⟩ chunks) :
    Simulates callback ⟨pthreadId, socketId⟩ buffer.expandSize
      (receiveChunks (server.onRecvMessage pthreadId socketId (some callback)) buffer chunks)
      (drain server.netProtocol.parser chunks.flatten) := by
  have start : drain server.netProtocol.parser [] = ⟨[], some []⟩ := drain_more rfl
  have whole := feed_chunks server.netProtocol.parser [] chunks
  rw [start, List.nil_append] at whole
  rw [← whole]
  refine receiveChunks_simulates chunks ⟨rfl, by simp, ?_⟩ room
  rintro rest ⟨rfl⟩
  exact ⟨rfl, empty, valid, rfl⟩

theorem roomAlong_of_total {Item : Type} (parser : Parser UInt8 Item) (expandSize : Nat)
    (state : Result UInt8 Item) (chunks : List (List UInt8))
    (room : ∀ rest, state.pending = some rest →
      rest.length + chunks.flatten.length + 2 * expandSize < sizeModulus) :
    RoomAlong parser expandSize state chunks := by
  induction chunks generalizing state with
  | nil => trivial
  | cons chunk chunks ih =>
      simp only [List.flatten_cons, List.length_append] at room
      refine ⟨?_, ih _ fun rest waiting => ?_⟩
      · intro rest waiting
        have bound := room rest waiting
        omega
      · cases before : state.pending with
        | none => simp [feed, before] at waiting
        | some earlier =>
            simp only [feed, before, Result.prepend] at waiting
            have shorter := drain_pending_length waiting
            have bound := room earlier before
            rw [List.length_append] at shorter
            omega

/-- An unfinished frame is shorter than the longest allowed one, so a bound on each chunk leaves room
for a stream of any length. -/
theorem roomAlong_of_waiting (protocol : NetProtocol Message) (expandSize limit : Nat)
    (header : 4 ≤ limit) (allowed : protocol.maxPacketLength ≤ limit)
    (state : Result UInt8 (Int × Message)) (chunks : List (List UInt8))
    (waits : ∀ rest, state.pending = some rest → protocol.parseFrame rest = .more)
    (fits : ∀ chunk ∈ chunks, limit + chunk.length + 2 * expandSize < sizeModulus) :
    RoomAlong protocol.parser expandSize state chunks := by
  induction chunks generalizing state with
  | nil => trivial
  | cons chunk chunks ih =>
      simp only [List.forall_mem_cons] at fits
      refine ⟨?_, ih _ (fun rest waiting => ?_) fits.2⟩
      · intro rest waiting
        have short := parseFrame_more_length (waits rest waiting)
        have bound := fits.1
        omega
      · cases before : state.pending with
        | none => simp [feed, before] at waiting
        | some earlier =>
            simp only [feed, before, Result.prepend] at waiting
            exact drain_pending_more waiting

/-- The commands handed over, the decision to close and the bytes left over do not depend on how
the stream was cut. -/
theorem onRecvMessage_chunking (server : GameServer Message) (pthreadId socketId : Int)
    (callback : Callback) (buffer : DynamicBuffer) (chunks : List (List UInt8))
    (valid : buffer.Valid) (empty : buffer.content = [])
    (fits : chunks.flatten.length + 2 * buffer.expandSize < sizeModulus) :
    let onRecvMessage := server.onRecvMessage pthreadId socketId (some callback)
    let cut := receiveChunks onRecvMessage buffer chunks
    let whole := receiveChunks onRecvMessage buffer [chunks.flatten]
    cut.handed = whole.handed ∧ cut.exit = whole.exit ∧
      (cut.exit = .closed ∨ cut.exit = .waiting ∧ cut.buffer.content = whole.buffer.content) := by
  have room (pieces : List (List UInt8)) (total : pieces.flatten = chunks.flatten) :
      RoomAlong server.netProtocol.parser buffer.expandSize ⟨[], some []⟩ pieces := by
    apply roomAlong_of_total
    rintro rest ⟨rfl⟩
    simpa [total] using fits
  have cut := receiveChunks_drain server pthreadId socketId callback buffer chunks valid empty
    (room chunks rfl)
  have whole := receiveChunks_drain server pthreadId socketId callback buffer [chunks.flatten]
    valid empty (room [chunks.flatten] (by simp))
  simp only [List.flatten_cons, List.flatten_nil, List.append_nil] at whole
  refine ⟨cut.handed.trans whole.handed.symm, ?_⟩
  cases pending : (drain server.netProtocol.parser chunks.flatten).pending with
  | none => exact ⟨(cut.failed pending).trans (whole.failed pending).symm, .inl (cut.failed pending)⟩
  | some rest =>
      obtain ⟨cutExit, cutContent, -⟩ := cut.pending rest pending
      obtain ⟨wholeExit, wholeContent, -⟩ := whole.pending rest pending
      exact ⟨cutExit.trans wholeExit.symm, .inr ⟨cutExit, cutContent.trans wholeContent.symm⟩⟩

structure RawMessage where
  payload : List UInt8
deriving DecidableEq, Repr

instance : BaseStruct RawMessage where
  encode message size :=
    if message.payload.length ≤ size then (message.payload.length, message.payload) else (-1, [])
  decode _ bytes := (bytes.length, ⟨bytes⟩)

def rawServer (maxPacketLength : Int) : GameServer RawMessage where
  netProtocol := ⟨maxPacketLength, fun messageId => if messageId = 7 then some ⟨[]⟩ else none⟩

theorem onRecvMessage_chunking_torn_header :
    let onRecvMessage := (rawServer 40960).onRecvMessage 1 5 (some ())
    let cut := receiveChunks onRecvMessage (DynamicBuffer.create 16 8) [[0, 7, 0], [2, 4], [9, 0, 8]]
    let whole := receiveChunks onRecvMessage (DynamicBuffer.create 16 8) [[0, 7, 0, 2, 4, 9, 0, 8]]
    cut.handed = whole.handed ∧ cut.exit = whole.exit ∧
      (cut.exit = .closed ∨ cut.exit = .waiting ∧ cut.buffer.content = whole.buffer.content) :=
  onRecvMessage_chunking (rawServer 40960) 1 5 () (DynamicBuffer.create 16 8)
    [[0, 7, 0], [2, 4], [9, 0, 8]] (DynamicBuffer.create_valid 16 8 (by decide) (by decide))
    (DynamicBuffer.create_content 16 8) (by decide)

end ZBlueNet
