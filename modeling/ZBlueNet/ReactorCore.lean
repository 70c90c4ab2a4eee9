import ZBlueNet.DynamicBufferCore
import ZBlueNet.TimerHeapCore

/-!
The connections of one `EpollReactor`: `reactor.cc`, `epoll_reactor.cc`,
`epoller.cc` and the parts of the sockets that they use. A socket stands for its
device pointer. The answers of the kernel are arguments. The callbacks that a
function calls last are returned as its calls.
-/

namespace ZBlueNet

abbrev SocketId := Int

def eagain : Int := 11

def enobufs : Int := 105

/-- `Reactor::sendCompleteCloseCallback`, or a callback of the caller. -/
inductive SendCompleteCallback
  | close
  | user (token : Nat)
deriving DecidableEq, Repr

/-- A socket with the callbacks it has; `accepted` is what the kernel took from `send`. -/
structure TcpSocket where
  readCb : Bool
  writeCb : Bool
  errorCb : Bool
  attached : Bool
  accepted : List UInt8
deriving DecidableEq, Repr

def TcpSocket.create : TcpSocket :=
  { readCb := false, writeCb := false, errorCb := false, attached := false, accepted := [] }

def TcpSocket.send (bytes : List UInt8) (socket : TcpSocket) : TcpSocket :=
  { socket with accepted := socket.accepted ++ bytes }

def TcpSocket.setWriteCallback (writeCb : Bool) (socket : TcpSocket) : TcpSocket :=
  { socket with writeCb := writeCb }

inductive ConnectionStatus
  | none
  | connecting
  | connected
  | peerClosed
  | pendingError
deriving DecidableEq, Repr

structure TcpConnection where
  socket : SocketId
  status : ConnectionStatus
  errorCode : Int
  readBuffer : DynamicBuffer
  writeBuffer : DynamicBuffer
  sendCompleteCb : Option SendCompleteCallback
deriving DecidableEq, Repr

def TcpConnection.create (socket : SocketId) (readBufferInitSize readBufferExpandSize
    writeBufferInitSize writeBufferExpandSize : Nat) : TcpConnection :=
  { socket := socket
    status := .none
    errorCode := 0
    readBuffer := .create readBufferInitSize readBufferExpandSize
    writeBuffer := .create writeBufferInitSize writeBufferExpandSize
    sendCompleteCb := none }

def TcpConnection.setError (connection : TcpConnection) (errorCode : Int) : TcpConnection :=
  { connection with status := .pendingError, errorCode := errorCode }

structure EventMask where
  epollin : Bool
  epollout : Bool
deriving DecidableEq, Repr

structure Epoller where
  registered : SocketId → Option EventMask
  removedIODevices : List SocketId

namespace Epoller

def eventMask (socket : TcpSocket) : EventMask :=
  { epollin := socket.readCb, epollout := socket.writeCb }

/-- `epoll_ctl(EPOLL_CTL_ADD)` fails for a registered device, and may fail for another. -/
def add (epoller : Epoller) (id : SocketId) (socket : TcpSocket) (granted : Bool) :
    Bool × Epoller :=
  if granted ∧ epoller.registered id = none then
    (true, { epoller with
      registered := Function.update epoller.registered id (some (eventMask socket)) })
  else (false, epoller)

def del (epoller : Epoller) (id : SocketId) : Bool × Epoller :=
  match epoller.registered id with
  | none => (false, epoller)
  | some _ =>
      (true, { registered := Function.update epoller.registered id none
               removedIODevices := id :: epoller.removedIODevices })

def update (epoller : Epoller) (id : SocketId) (socket : TcpSocket) : Bool × Epoller :=
  match epoller.registered id with
  | none => (false, epoller)
  | some _ =>
      (true, { epoller with
        registered := Function.update epoller.registered id (some (eventMask socket)) })

end Epoller

inductive ReactorTimer
  | sendMessageError
  | user (token : Nat)
deriving DecidableEq, Repr

structure EpollReactor where
  ioServiceQuit : Bool
  timerHeap : TimerHeap ReactorTimer
  quit : Bool
  connReadBufferInitSize : Nat
  connReadBufferExpandSize : Nat
  connReadBufferMaxSize : Nat
  connWriteBufferInitSize : Nat
  connWriteBufferExpandSize : Nat
  connWriteBufferMaxSize : Nat
  sockets : SocketId → Option TcpSocket
  connections : SocketId → Option TcpConnection
  socketToTimerMap : SocketId → Option TimerId
  timerToSocketMap : TimerId → Option SocketId
  epoller : Epoller

inductive ReactorCall
  | errorCb (socketId : SocketId) (errorCode : Int)
  | peerCloseCb (socketId : SocketId)
  | recvMessageCb (socketId : SocketId)
  | sendCompleteCb (socketId : SocketId) (token : Nat)
deriving DecidableEq, Repr

inductive SendResult
  | count (bytes : Nat)
  | error (errno : Int)
deriving DecidableEq, Repr

structure SendEnv where
  result : SendResult
  now : Timestamp
deriving DecidableEq, Repr

namespace EpollReactor

def create : EpollReactor :=
  { ioServiceQuit := false
    timerHeap := .empty
    quit := false
    connReadBufferInitSize := 0
    connReadBufferExpandSize := 0
    connReadBufferMaxSize := 0
    connWriteBufferInitSize := 0
    connWriteBufferExpandSize := 0
    connWriteBufferMaxSize := 0
    sockets := fun _ => none
    connections := fun _ => none
    socketToTimerMap := fun _ => none
    timerToSocketMap := fun _ => none
    epoller := { registered := fun _ => none, removedIODevices := [] } }

def setBufferSizes (r : EpollReactor) (maxRecvBufferSize maxSendBufferSize : Nat) :
    EpollReactor :=
  { r with
    connReadBufferInitSize := 1024
    connReadBufferExpandSize := 1024
    connReadBufferMaxSize := maxRecvBufferSize
    connWriteBufferInitSize := 1024
    connWriteBufferExpandSize := 1024
    connWriteBufferMaxSize := maxSendBufferSize }

def quitIOService (r : EpollReactor) : EpollReactor := { r with ioServiceQuit := true }

def setSocket (r : EpollReactor) (id : SocketId) (socket : TcpSocket) : EpollReactor :=
  { r with sockets := Function.update r.sockets id (some socket) }

def modifySocket (r : EpollReactor) (id : SocketId) (change : TcpSocket → TcpSocket) :
    EpollReactor :=
  { r with sockets := Function.update r.sockets id ((r.sockets id).map change) }

def setConnection (r : EpollReactor) (id : SocketId) (connection : TcpConnection) :
    EpollReactor :=
  { r with connections := Function.update r.connections id (some connection) }

/-! `IODevice` and `EpollReactor`: setting up and tearing down. -/

def detachIOService (r : EpollReactor) (id : SocketId) : EpollReactor :=
  match r.sockets id with
  | none => r
  | some socket =>
      if socket.attached then
        ({ r with epoller := (r.epoller.del id).2 }).setSocket id { socket with attached := false }
      else r

def closeSocket (r : EpollReactor) (id : SocketId) : EpollReactor :=
  match r.sockets id with
  | none => r
  | some _ =>
      let detached := r.detachIOService id
      { detached with
        connections := Function.update detached.connections id none
        sockets := Function.update detached.sockets id none }

def newConnection (r : EpollReactor) (id : SocketId) : TcpConnection :=
  { TcpConnection.create id r.connReadBufferInitSize r.connReadBufferExpandSize
      r.connWriteBufferInitSize r.connWriteBufferExpandSize with status := .connected }

/-- `connections_.insert`: an entry that is there stays. -/
def insertConnection (r : EpollReactor) (id : SocketId) (connection : TcpConnection) :
    EpollReactor :=
  { r with connections :=
      Function.update r.connections id ((r.connections id).or (some connection)) }

/-- `peerSocket` comes from `accept` or `connect`, so no reactor has it yet. -/
def attachSocket (r : EpollReactor) (id : SocketId) (peerSocket : TcpSocket) (granted : Bool) :
    Bool × EpollReactor :=
  match r.sockets id with
  | some _ => (false, r)
  | none =>
      let prepared := { peerSocket with readCb := true, errorCb := true }
      let added := r.epoller.add id prepared granted
      if added.1 then
        (true, ({ r with epoller := added.2 }.setSocket id
          { prepared with attached := true }).insertConnection id (r.newConnection id))
      else (false, { r with epoller := added.2 })

/-! Sending. -/

def isConnected (r : EpollReactor) (id : SocketId) : Bool :=
  match r.connections id with
  | none => false
  | some connection => connection.status = .connected

def startTimer (r : EpollReactor) (now : Timestamp) (timeoutMs : Int) (timerCb : ReactorTimer)
    (callTimes : Int) : TimerId × EpollReactor :=
  let added := r.timerHeap.addTimer now timeoutMs timerCb callTimes
  (added.1, { r with timerHeap := added.2 })

def stopTimer (r : EpollReactor) (timerId : TimerId) : EpollReactor :=
  { r with timerHeap := r.timerHeap.removeTimer timerId }

def addSocketTimer (r : EpollReactor) (now : Timestamp) (id : SocketId) (timeoutMs : Int)
    (timerCb : ReactorTimer) : EpollReactor :=
  let started := r.startTimer now timeoutMs timerCb 1
  { started.2 with
    socketToTimerMap := Function.update started.2.socketToTimerMap id (some started.1)
    timerToSocketMap := Function.update started.2.timerToSocketMap started.1 (some id) }

/-- A failed send: the connection waits for its timer to report the error. -/
def failSend (r : EpollReactor) (now : Timestamp) (connection : TcpConnection)
    (errorCode : Int) : EpollReactor :=
  (r.setConnection connection.socket (connection.setError errorCode)).addSocketTimer now
    connection.socket 0 .sendMessageError

def runSendComplete (r : EpollReactor) (id : SocketId) :
    Option SendCompleteCallback → EpollReactor × List ReactorCall
  | none => (r, [])
  | some .close => (r.closeSocket id, [])
  | some (.user token) => (r, [.sendCompleteCb id token])

/-- The second half of `sendMessage`, for the bytes that `send` did not take. The copy starts at
the beginning of the message. -/
def bufferRemaining (r : EpollReactor) (connection : TcpConnection) (buffer : List UInt8)
    (remainSize : Nat) (sendCompleteCb : Option SendCompleteCallback) (now : Timestamp) :
    Bool × EpollReactor × List ReactorCall :=
  if remainSize > 0 then
    if r.connWriteBufferMaxSize > 0 ∧
        sizeAdd remainSize connection.writeBuffer.readableBytes > r.connWriteBufferMaxSize then
      (false, r.failSend now connection enobufs, [])
    else
      let stored := connection.writeBuffer.append (buffer.take remainSize)
      (true, (r.setConnection connection.socket
        { connection with writeBuffer := stored, sendCompleteCb := sendCompleteCb }).modifySocket
          connection.socket (.setWriteCallback true), [])
  else
    let completed := r.runSendComplete connection.socket sendCompleteCb
    (true, completed.1, completed.2)

def sendConnection (r : EpollReactor) (connection : TcpConnection) (buffer : List UInt8)
    (sendCompleteCb : Option SendCompleteCallback) (env : SendEnv) :
    Bool × EpollReactor × List ReactorCall :=
  if connection.status ≠ .connected then (false, r, [])
  else if connection.writeBuffer.readableBytes = 0 then
    match env.result with
    | .error errno =>
        if errno ≠ eagain then (false, r.failSend env.now connection errno, [])
        else r.bufferRemaining connection buffer buffer.length sendCompleteCb env.now
    | .count bytes =>
        (r.modifySocket connection.socket (.send (buffer.take bytes))).bufferRemaining
          connection buffer (buffer.length - bytes) sendCompleteCb env.now
  else r.bufferRemaining connection buffer buffer.length sendCompleteCb env.now

def sendMessage (r : EpollReactor) (id : SocketId) (buffer : List UInt8)
    (sendCompleteCb : Option SendCompleteCallback) (env : SendEnv) :
    Bool × EpollReactor × List ReactorCall :=
  match r.connections id with
  | none => (false, r, [])
  | some connection => r.sendConnection connection buffer sendCompleteCb env

def sendMessageThenClose (r : EpollReactor) (id : SocketId) (buffer : List UInt8)
    (env : SendEnv) : Bool × EpollReactor × List ReactorCall :=
  r.sendMessage id buffer (some .close) env

/-- `broadcastMessage` over the connections in the order of the hash map, with the answer to each
send. -/
def broadcastMessage (r : EpollReactor) (buffer : List UInt8) :
    List (SocketId × SendEnv) → EpollReactor
  | [] => r
  | (id, env) :: rest =>
      match r.connections id with
      | none => r.broadcastMessage buffer rest
      | some connection =>
          (r.sendConnection connection buffer none env).2.1.broadcastMessage buffer rest

def onSocketWrite (r : EpollReactor) (id : SocketId) (env : SendEnv) :
    EpollReactor × List ReactorCall :=
  match r.connections id with
  | none => (r, [])
  | some connection =>
      let pending := connection.writeBuffer.content
      match env.result with
      | .error errno =>
          if errno ≠ eagain then
            (r.setConnection id (connection.setError errno), [.errorCb id errno])
          else (r, [])
      | .count bytes =>
          let sent := r.modifySocket id (.send (pending.take bytes))
          let writeBuffer := connection.writeBuffer.read bytes
          if writeBuffer.readableBytes = 0 then
            ((sent.modifySocket id (.setWriteCallback false)).setConnection id
              { connection with writeBuffer := writeBuffer, sendCompleteCb := none }).runSendComplete
                id connection.sendCompleteCb
          else (sent.setConnection id { connection with writeBuffer := writeBuffer }, [])

def onSendMessageError (r : EpollReactor) (timerId : TimerId) : EpollReactor × List ReactorCall :=
  match r.timerToSocketMap timerId with
  | none => (r, [])
  | some socketId =>
      let forgotten :=
        { r with
          timerToSocketMap := Function.update r.timerToSocketMap timerId none
          socketToTimerMap := Function.update r.socketToTimerMap socketId none }
      match r.sockets socketId, r.connections socketId with
      | some _, some connection => (forgotten, [.errorCb socketId connection.errorCode])
      | _, _ => (forgotten, [])

/-! Receiving. -/

def onSocketError (r : EpollReactor) (id : SocketId) (socketError : Int) :
    EpollReactor × List ReactorCall :=
  match r.connections id with
  | none => (r, [])
  | some connection =>
      (r.setConnection id (connection.setError socketError), [.errorCb id socketError])

/-- One turn of the kernel's side of the read loop: `readableBytes` and the answer of `recv`,
which is the received bytes or an `errno`. -/
structure RecvAnswer where
  readableBytes : Int
  received : List UInt8 ⊕ Int
deriving Repr

inductive ReadEnd
  | drained
  | peerClose
  | failed (errno : Int)
deriving DecidableEq, Repr

/-- The loop of `onSocketRead`: how it ends, whether data arrived, and the read buffer; `none`
while the answers do not end it. -/
def readLoop (maxSize : Nat) :
    List RecvAnswer → Bool → DynamicBuffer → Option (ReadEnd × Bool × DynamicBuffer)
  | [], _, _ => none
  | answer :: answers, dataArrive, readBuffer =>
      if dataArrive ∧ answer.readableBytes = 0 then some (.drained, dataArrive, readBuffer)
      else
        let bytesToRead := (max 1 answer.readableBytes).toNat
        if maxSize > 0 ∧ sizeAdd bytesToRead readBuffer.readableBytes > maxSize then
          some (.peerClose, dataArrive, readBuffer)
        else
          let reserved := readBuffer.reserveWritableBytes bytesToRead
          match answer.received with
          | .inl [] => some (.peerClose, dataArrive, reserved)
          | .inl bytes => readLoop maxSize answers true ((reserved.store 0 bytes).write bytes.length)
          | .inr errno =>
              if errno = eagain then some (.drained, dataArrive, reserved)
              else some (.failed errno, dataArrive, reserved)

def onSocketReadLoop (r : EpollReactor) (id : SocketId) (answers : List RecvAnswer) :
    Option (ReadEnd × EpollReactor × List ReactorCall) :=
  match r.connections id with
  | none => none
  | some connection =>
      match readLoop r.connReadBufferMaxSize answers false connection.readBuffer with
      | none => none
      | some (.failed errno, _, readBuffer) =>
          some (.failed errno, r.setConnection id
            ({ connection with readBuffer := readBuffer }.setError errno), [.errorCb id errno])
      | some (ending, dataArrive, readBuffer) =>
          some (ending, r.setConnection id { connection with readBuffer := readBuffer },
            if dataArrive then [.recvMessageCb id] else [])

def onSocketReadPeerClose (r : EpollReactor) (id : SocketId) : EpollReactor × List ReactorCall :=
  match r.connections id with
  | none => (r, [])
  | some connection =>
      (r.setConnection id { connection with status := .peerClosed }, [.peerCloseCb id])

end EpollReactor

end ZBlueNet
