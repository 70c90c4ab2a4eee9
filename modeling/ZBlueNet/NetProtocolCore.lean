import ZBlueNet.DynamicBufferCore

/-!
Network commands, the framing of `net_protocol.cc` and the receive loop that the
server and the client run over it. A frame is a 16-bit message id, a 16-bit
payload length and the payload, integers in big endian.
-/

namespace ZBlueNet

structure NetId where
  reactorId : Int
  socketId : Int
deriving DecidableEq, Repr

inductive NetCommandType
  | new
  | message
  | enableBroadcast
  | disableBroadcast
  | broadcast
  | close
deriving DecidableEq, Repr

structure NetCommand (Message : Type) where
  type : NetCommandType
  id : NetId
  messageId : Int
  message : Option Message
deriving DecidableEq, Repr

def NetCommand.create {Message : Type} (type : NetCommandType) : NetCommand Message :=
  { type := type, id := { reactorId := -1, socketId := -1 }, messageId := 0, message := none }

def NetCommand.plain {Message : Type} (type : NetCommandType) (id : NetId) : NetCommand Message :=
  { NetCommand.create type with id := id }

/-- The virtual functions of `BaseStruct`. `encode message size` is the returned count with the
bytes it stores from its buffer argument on; `decode` also changes the object it is called on. -/
class BaseStruct (Message : Type) where
  encode : Message → Nat → Int × List UInt8
  decode : Message → List UInt8 → Int × Message

inductive RetCode
  | err
  | waitingMoreData
  | messageReady
deriving DecidableEq, Repr

structure NetProtocol (Message : Type) where
  maxPacketLength : Int
  createMessageFunc : Int → Option Message

structure RecvResult (Message : Type) where
  code : RetCode
  buffer : DynamicBuffer
  retMessageId : Int
  retMessage : Option Message

namespace NetProtocol

variable {Message : Type} [BaseStruct Message]

def recvMessage (protocol : NetProtocol Message) (buffer : DynamicBuffer) (retMessageId : Int)
    (retMessage : Option Message) : RecvResult Message :=
  match buffer.peekInt16 0 with
  | none => ⟨.waitingMoreData, buffer, retMessageId, retMessage⟩
  | some messageId =>
      match buffer.peekInt16 2 with
      | none => ⟨.waitingMoreData, buffer, retMessageId, retMessage⟩
      | some messageLength =>
          if (messageLength : Int) + 4 > protocol.maxPacketLength then
            ⟨.err, buffer, retMessageId, retMessage⟩
          else if buffer.readableBytes < messageLength + 4 then
            ⟨.waitingMoreData, buffer, retMessageId, retMessage⟩
          else
            match protocol.createMessageFunc messageId with
            | none => ⟨.err, buffer, retMessageId, retMessage⟩
            | some message =>
                let payload := (buffer.buffer.drop (buffer.readIndex + 4)).take messageLength
                let decoded := BaseStruct.decode message payload
                if decoded.1 < 0 then ⟨.err, buffer, retMessageId, retMessage⟩
                else ⟨.messageReady, buffer.read (messageLength + 4), messageId, some decoded.2⟩

/-- The length is filled in behind the id after the payload was encoded four bytes further on. -/
def writeMessage (messageId : Int) (message : Message) (buffer : DynamicBuffer) :
    Bool × DynamicBuffer :=
  let started := buffer.clear.writeInt16 (messageId % 2 ^ 16).toNat
  let encoded := BaseStruct.encode message (sizeSub started.writableBytes 2)
  let stored := started.store 2 encoded.2
  if encoded.1 < 0 then (false, stored)
  else (true, (stored.writeInt16 (encoded.1 % 2 ^ 16).toNat).write encoded.1.toNat)

end NetProtocol

/-- How a receive loop is left: it waits for more data, it closes the connection, the call of an
empty callback throws, or the given number of turns was not enough. -/
inductive RecvExit
  | waiting
  | closed
  | threw
  | unfinished
deriving DecidableEq, Repr

structure RecvRun (Callback Message : Type) where
  handed : List (Callback × NetCommand Message)
  exit : RecvExit
  buffer : DynamicBuffer

section RecvLoop

variable {Callback Message : Type}

def messageCommand (id : NetId) (messageId : Int) (message : Option Message) :
    NetCommand Message :=
  let created : NetCommand Message := NetCommand.create .message
  { created with id := id, messageId := messageId, message := message }

/-- The `for (;;)` over `recvMessage` that hands every message to `newNetCmd` as a MESSAGE command;
`none` is an empty `std::function`. -/
def recvLoop [BaseStruct Message] (protocol : NetProtocol Message) (newNetCmd : Option Callback)
    (id : NetId) : Nat → DynamicBuffer → RecvRun Callback Message
  | 0, buffer => ⟨[], .unfinished, buffer⟩
  | fuel + 1, buffer =>
      let received := protocol.recvMessage buffer 0 none
      match received.code with
      | .waitingMoreData => ⟨[], .waiting, received.buffer⟩
      | .err => ⟨[], .closed, received.buffer⟩
      | .messageReady =>
          let cmd := messageCommand id received.retMessageId received.retMessage
          match newNetCmd with
          | none => ⟨[], .threw, received.buffer⟩
          | some callback =>
              let rest := recvLoop protocol newNetCmd id fuel received.buffer
              { rest with handed := (callback, cmd) :: rest.handed }

def recvTurns (buffer : DynamicBuffer) : Nat := buffer.readableBytes / 4 + 1

structure GameServer (Message : Type) where
  netProtocol : NetProtocol Message

def GameServer.onRecvMessage [BaseStruct Message] (server : GameServer Message) (pthreadId : Int)
    (socketId : Int) (newNetCmd : Option Callback) (buffer : DynamicBuffer) :
    RecvRun Callback Message :=
  recvLoop server.netProtocol newNetCmd { reactorId := pthreadId, socketId := socketId }
    (recvTurns buffer) buffer

/-- A chunk arrives and the receive callback runs, unless an earlier run was its last. -/
def receiveChunk (onRecvMessage : DynamicBuffer → RecvRun Callback Message)
    (state : RecvRun Callback Message) (chunk : List UInt8) : RecvRun Callback Message :=
  match state.exit with
  | .waiting =>
      let run := onRecvMessage (state.buffer.append chunk)
      { run with handed := state.handed ++ run.handed }
  | _ => state

def receiveChunks (onRecvMessage : DynamicBuffer → RecvRun Callback Message)
    (buffer : DynamicBuffer) (chunks : List (List UInt8)) : RecvRun Callback Message :=
  chunks.foldl (receiveChunk onRecvMessage) ⟨[], .waiting, buffer⟩

end RecvLoop

end ZBlueNet
