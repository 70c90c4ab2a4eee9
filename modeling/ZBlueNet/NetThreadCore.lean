import ZBlueNet.MessageQueue
import ZBlueNet.NetProtocolCore
import ZBlueNet.ReactorCore
import Mathlib.Data.List.Sort

/-!
`net_thread.cc`: a thread with its reactor and a queue of commands from the main
thread. What it hands to `new_net_cmd_cb_` is returned with the callback; `none` is
the exception of an empty callback, or undefined behaviour.
-/

namespace ZBlueNet

structure NetThread (Callback Message : Type) where
  id : Int
  reactor : EpollReactor
  commandQueue : MessageQueue (Option (NetCommand Message))
  netProtocol : NetProtocol Message
  encodeBuffer : DynamicBuffer
  newNetCmdCb : Option Callback
  broadcastList : List SocketId

namespace NetThread

variable {Callback Message : Type}

def create (maxRecvPacketLength : Int) (maxSendPacketLength : Nat)
    (createMessageFunc : Int → Option Message) : NetThread Callback Message :=
  { id := -1
    reactor := .create
    commandQueue := .empty
    netProtocol := ⟨maxRecvPacketLength, createMessageFunc⟩
    encodeBuffer := .create maxSendPacketLength 1024
    newNetCmdCb := none
    broadcastList := [] }

def init (thread : NetThread Callback Message) (id : Int)
    (maxRecvBufferSize maxSendBufferSize : Nat) (newNetCmdCb : Option Callback)
    (attached : Bool) : Bool × NetThread Callback Message :=
  let prepared :=
    { thread with reactor := EpollReactor.create.setBufferSizes maxRecvBufferSize maxSendBufferSize }
  if attached then (true, { prepared with id := id, newNetCmdCb := newNetCmdCb })
  else (false, prepared)

abbrev Handed (Callback Message : Type) := List (Callback × NetCommand Message)

def sendNetCommand (thread : NetThread Callback Message) (type : NetCommandType)
    (socketId : SocketId) : Option (Handed Callback Message) :=
  thread.newNetCmdCb.map fun callback => [(callback, .plain type ⟨thread.id, socketId⟩)]

def attach (thread : NetThread Callback Message) (socketId : SocketId) (granted : Bool) :
    Option (NetThread Callback Message × Handed Callback Message) :=
  (thread.sendNetCommand .new socketId).map fun handed =>
    ({ thread with reactor := (thread.reactor.attachSocket socketId .create granted).2 }, handed)

def closeSocket (thread : NetThread Callback Message) (socketId : SocketId) :
    Option (NetThread Callback Message × Handed Callback Message) :=
  (thread.sendNetCommand .close socketId).map fun handed =>
    ({ thread with reactor := thread.reactor.closeSocket socketId }, handed)

def onPeerClose (thread : NetThread Callback Message) (socketId : SocketId) :
    Option (NetThread Callback Message × Handed Callback Message) :=
  thread.closeSocket socketId

def onError (thread : NetThread Callback Message) (socketId : SocketId) :
    Option (NetThread Callback Message × Handed Callback Message) :=
  thread.closeSocket socketId

def quit (thread : NetThread Callback Message) : NetThread Callback Message :=
  { thread with reactor := thread.reactor.quitIOService }

def sendEncoded (thread : NetThread Callback Message) (env : SocketId → SendEnv)
    (socketId : SocketId) : NetThread Callback Message :=
  { thread with reactor :=
      (thread.reactor.sendMessage socketId thread.encodeBuffer.content none (env socketId)).2.1 }

section Commands

variable [BaseStruct Message]

/-- One turn of `onNetCommand` with a command that is not the null pointer. -/
def handleNetCommand (thread : NetThread Callback Message) (env : SocketId → SendEnv)
    (cmd : NetCommand Message) :
    Option (NetThread Callback Message × Handed Callback Message) :=
  if cmd.type = .broadcast then
    cmd.message.map fun message =>
      let written := NetProtocol.writeMessage cmd.messageId message thread.encodeBuffer
      let encoded := { thread with encodeBuffer := written.2 }
      if written.1 then (thread.broadcastList.foldl (fun t id => t.sendEncoded env id) encoded, [])
      else (encoded, [])
  else if thread.reactor.isConnected cmd.id.socketId = false then some (thread, [])
  else
    match cmd.type with
    | .close =>
        some ({ thread with reactor := thread.reactor.closeSocket cmd.id.socketId }, [])
    | .message =>
        match cmd.message with
        | none => none
        | some message =>
            let written := NetProtocol.writeMessage cmd.messageId message thread.encodeBuffer
            let encoded := { thread with encodeBuffer := written.2 }
            if written.1 then some (encoded.sendEncoded env cmd.id.socketId, [])
            else encoded.closeSocket cmd.id.socketId
    | .enableBroadcast =>
        some ({ thread with broadcastList :=
          if cmd.id.socketId ∈ thread.broadcastList then thread.broadcastList
          else thread.broadcastList.orderedInsert (· ≤ ·) cmd.id.socketId }, [])
    | .disableBroadcast =>
        some ({ thread with broadcastList := thread.broadcastList.erase cmd.id.socketId }, [])
    | .new | .broadcast => some (thread, [])

def encodeFor (thread : NetThread Callback Message) (cmd : NetCommand Message)
    (message : Message) : NetThread Callback Message :=
  { thread with
    encodeBuffer := (NetProtocol.writeMessage cmd.messageId message thread.encodeBuffer).2 }

inductive CommandTurn (thread : NetThread Callback Message) (env : SocketId → SendEnv)
    (cmd : NetCommand Message) : NetThread Callback Message × Handed Callback Message → Prop
  | broadcast (message : Message) (type : cmd.type = .broadcast) :
      CommandTurn thread env cmd
        (thread.broadcastList.foldl (fun t id => t.sendEncoded env id)
          (thread.encodeFor cmd message), [])
  | unwritten (message : Message) (type : cmd.type = .broadcast) :
      CommandTurn thread env cmd (thread.encodeFor cmd message, [])
  | unconnected (type : cmd.type ≠ .broadcast)
      (missing : thread.reactor.isConnected cmd.id.socketId = false) :
      CommandTurn thread env cmd (thread, [])
  | close (type : cmd.type = .close)
      (connected : thread.reactor.isConnected cmd.id.socketId = true) :
      CommandTurn thread env cmd
        ({ thread with reactor := thread.reactor.closeSocket cmd.id.socketId }, [])
  | send (message : Message) (type : cmd.type = .message)
      (connected : thread.reactor.isConnected cmd.id.socketId = true)
      (carried : cmd.message = some message)
      (written : (NetProtocol.writeMessage cmd.messageId message thread.encodeBuffer).1 = true) :
      CommandTurn thread env cmd
        ((thread.encodeFor cmd message).sendEncoded env cmd.id.socketId, [])
  | lose (message : Message) (type : cmd.type = .message)
      (connected : thread.reactor.isConnected cmd.id.socketId = true)
      (carried : cmd.message = some message)
      (unwritten : (NetProtocol.writeMessage cmd.messageId message thread.encodeBuffer).1 = false)
      {outcome : NetThread Callback Message × Handed Callback Message}
      (closed : (thread.encodeFor cmd message).closeSocket cmd.id.socketId = some outcome) :
      CommandTurn thread env cmd outcome
  | enable (type : cmd.type = .enableBroadcast)
      (connected : thread.reactor.isConnected cmd.id.socketId = true) :
      CommandTurn thread env cmd
        ({ thread with broadcastList :=
          if cmd.id.socketId ∈ thread.broadcastList then thread.broadcastList
          else thread.broadcastList.orderedInsert (· ≤ ·) cmd.id.socketId }, [])
  | disable (type : cmd.type = .disableBroadcast)
      (connected : thread.reactor.isConnected cmd.id.socketId = true) :
      CommandTurn thread env cmd
        ({ thread with broadcastList := thread.broadcastList.erase cmd.id.socketId }, [])
  | new (type : cmd.type = .new)
      (connected : thread.reactor.isConnected cmd.id.socketId = true) :
      CommandTurn thread env cmd (thread, [])

theorem handleNetCommand_turn {thread : NetThread Callback Message} {env : SocketId → SendEnv}
    {cmd : NetCommand Message} {outcome : NetThread Callback Message × Handed Callback Message}
    (handled : thread.handleNetCommand env cmd = some outcome) :
    CommandTurn thread env cmd outcome := by
  simp only [handleNetCommand] at handled
  split at handled
  · rename_i type
    rw [Option.map_eq_some_iff] at handled
    obtain ⟨message, -, rfl⟩ := handled
    split
    · exact .broadcast message type
    · exact .unwritten message type
  · rename_i other
    split at handled
    · rename_i missing
      cases handled
      exact .unconnected other missing
    · rename_i connected
      rw [Bool.not_eq_false] at connected
      split at handled
      · rename_i type
        cases handled
        exact .close type connected
      · rename_i type
        split at handled
        · cases handled
        · rename_i message carried
          split at handled
          · rename_i written
            cases handled
            exact .send message type connected carried written
          · rename_i unwritten
            rw [Bool.not_eq_true] at unwritten
            exact .lose message type connected carried unwritten handled
      · rename_i type
        cases handled
        exact .enable type connected
      · rename_i type
        cases handled
        exact .disable type connected
      · rename_i type
        cases handled
        exact .new type connected
      · rename_i type
        exact absurd type other

/-- `GameServer::onRecvMessage` as the receive callback of the thread. -/
def onRecvMessage (server : GameServer Message) (thread : NetThread Callback Message)
    (socketId : SocketId) : Option (NetThread Callback Message × Handed Callback Message) :=
  match thread.reactor.connections socketId with
  | none => some (thread, [])
  | some connection =>
      let run := server.onRecvMessage thread.id socketId thread.newNetCmdCb connection.readBuffer
      let received := { thread with reactor :=
        thread.reactor.setConnection socketId { connection with readBuffer := run.buffer } }
      match run.exit with
      | .waiting => some (received, run.handed)
      | .closed =>
          (received.closeSocket socketId).map fun closed => (closed.1, run.handed ++ closed.2)
      | .threw | .unfinished => none

/-- The callbacks that the thread gave its reactor; it never sends with a callback of its own. -/
def onReactorCall (server : GameServer Message) (thread : NetThread Callback Message) :
    ReactorCall → Option (NetThread Callback Message × Handed Callback Message)
  | .errorCb socketId _ => thread.onError socketId
  | .peerCloseCb socketId => thread.onPeerClose socketId
  | .recvMessageCb socketId => thread.onRecvMessage server socketId
  | .sendCompleteCb _ _ => some (thread, [])

def onReactorCalls (server : GameServer Message) (thread : NetThread Callback Message) :
    List ReactorCall → Option (NetThread Callback Message × Handed Callback Message)
  | [] => some (thread, [])
  | call :: calls =>
      (thread.onReactorCall server call).bind fun first =>
        (first.1.onReactorCalls server calls).map fun rest => (rest.1, first.2 ++ rest.2)

def afterReactor (server : GameServer Message) (thread : NetThread Callback Message)
    (outcome : EpollReactor × List ReactorCall) :
    Option (NetThread Callback Message × Handed Callback Message) :=
  { thread with reactor := outcome.1 }.onReactorCalls server outcome.2

def onSocketRead (server : GameServer Message) (thread : NetThread Callback Message)
    (socketId : SocketId) (answers : List EpollReactor.RecvAnswer) :
    Option (NetThread Callback Message × Handed Callback Message) :=
  (thread.reactor.onSocketReadLoop socketId answers).bind fun outcome =>
    (thread.afterReactor server outcome.2).bind fun received =>
      match outcome.1 with
      | .peerClose =>
          (received.1.afterReactor server
            (received.1.reactor.onSocketReadPeerClose socketId)).map fun closed =>
              (closed.1, received.2 ++ closed.2)
      | .drained | .failed _ => some received

end Commands

end NetThread

end ZBlueNet
