import ZBlueNet.NetProtocolCore
import Mathlib.Logic.Function.Basic

/-!
The main thread's side of `tcp_service.cc`: the connections that the service knows,
and what it does with a command from its queue.
-/

namespace ZBlueNet

structure ConnectionInfo where
  lastRequestSecond : Int
  requestPerSecond : Int
deriving DecidableEq, Repr

/-- A message handler stands for itself as a token. -/
structure TcpService where
  connectionInfos : NetId → Option ConnectionInfo
  messageHandlers : Int → Option Nat
  maxRequestPerSecond : Int

/-- What a function of the service does outside its own maps. -/
inductive ServiceCall (Message : Type)
  | push (cmd : NetCommand Message)
  | messageHandler (handler : Nat) (id : NetId) (message : Option Message)
  | onExceedRequestFrequencyLimit (id : NetId)
deriving DecidableEq, Repr

namespace TcpService

variable {Message : Type}

def create (maxRequestPerSecond : Int) : TcpService :=
  { connectionInfos := fun _ => none
    messageHandlers := fun _ => none
    maxRequestPerSecond := maxRequestPerSecond }

def setInfo (service : TcpService) (id : NetId) (info : Option ConnectionInfo) : TcpService :=
  { service with connectionInfos := Function.update service.connectionInfos id info }

/-- `connection_infos_.insert`: an entry that is there stays. -/
def onConnect (service : TcpService) (id : NetId) : TcpService :=
  service.setInfo id ((service.connectionInfos id).or
    (some { lastRequestSecond := 0, requestPerSecond := 0 }))

def onDisconnect (service : TcpService) (id : NetId) : TcpService := service.setInfo id none

def disconnect (service : TcpService) (id : NetId) : TcpService × List (ServiceCall Message) :=
  (service.onDisconnect id, [.push (.plain .close id)])

def checkRequestFrequencyLimit (service : TcpService) (now : Int) (info : ConnectionInfo) :
    Bool × ConnectionInfo :=
  let counted : ConnectionInfo :=
    if now = info.lastRequestSecond then
      { info with requestPerSecond := info.requestPerSecond + 1 }
    else { lastRequestSecond := now, requestPerSecond := 0 }
  (counted.requestPerSecond > service.maxRequestPerSecond, counted)

def callMessageHandler (service : TcpService) (cmd : NetCommand Message) :
    List (ServiceCall Message) :=
  match service.messageHandlers cmd.messageId with
  | none => []
  | some handler => [.messageHandler handler cmd.id cmd.message]

def onMessage (service : TcpService) (now : Int) (cmd : NetCommand Message) :
    TcpService × List (ServiceCall Message) :=
  match service.connectionInfos cmd.id with
  | none => (service, [])
  | some info =>
      if service.maxRequestPerSecond > 0 then
        let checked := service.checkRequestFrequencyLimit now info
        let counted := service.setInfo cmd.id (some checked.2)
        if checked.1 then
          let disconnected := counted.disconnect cmd.id
          (disconnected.1, .onExceedRequestFrequencyLimit cmd.id :: disconnected.2)
        else (counted, counted.callMessageHandler cmd)
      else (service, service.callMessageHandler cmd)

def processNetCommand (service : TcpService) (now : Int) (cmd : NetCommand Message) :
    TcpService × List (ServiceCall Message) :=
  match cmd.type with
  | .new => (service.onConnect cmd.id, [])
  | .close => (service.onDisconnect cmd.id, [])
  | .message => service.onMessage now cmd
  | .enableBroadcast | .disableBroadcast | .broadcast => (service, [])

end TcpService

end ZBlueNet
