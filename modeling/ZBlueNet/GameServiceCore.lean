import ZBlueNet.TcpServiceCore

/-!
`game_service.cc`: the service of a game server overrides three functions of
`TcpService` to call the callbacks of the game. The functions of `TcpService` that
call them are here with the overriding ones.
-/

namespace ZBlueNet

structure GameService (Callback : Type) where
  service : TcpService
  onConnectCb : Option Callback
  onDisconnectCb : Option Callback
  onExceedRequestCb : Option Callback

inductive GameCall (Callback Message : Type)
  | service (call : ServiceCall Message)
  | callback (cb : Callback) (id : NetId)
deriving DecidableEq, Repr

namespace GameService

variable {Callback Message : Type}

def create (maxRequestPerSecond : Int) : GameService Callback :=
  { service := .create maxRequestPerSecond
    onConnectCb := none
    onDisconnectCb := none
    onExceedRequestCb := none }

def setConnectCallback (game : GameService Callback) (cb : Option Callback) : GameService Callback :=
  { game with onConnectCb := cb }

def setDisconnectCallback (game : GameService Callback) (cb : Option Callback) :
    GameService Callback :=
  { game with onDisconnectCb := cb }

def setExceedRequestFrequencyLimitCallback (game : GameService Callback) (cb : Option Callback) :
    GameService Callback :=
  { game with onExceedRequestCb := cb }

/-- `if (cb) { cb(net_id); }` -/
def invoke (cb : Option Callback) (id : NetId) : List (GameCall Callback Message) :=
  match cb with
  | none => []
  | some cb => [.callback cb id]

def onConnect (game : GameService Callback) (id : NetId) :
    GameService Callback × List (GameCall Callback Message) :=
  ({ game with service := game.service.onConnect id }, invoke game.onConnectCb id)

def onDisconnect (game : GameService Callback) (id : NetId) :
    GameService Callback × List (GameCall Callback Message) :=
  ({ game with service := game.service.onDisconnect id }, invoke game.onDisconnectCb id)

def onExceedRequestFrequencyLimit (game : GameService Callback) (id : NetId) :
    List (GameCall Callback Message) :=
  invoke game.onExceedRequestCb id

def disconnect (game : GameService Callback) (id : NetId) :
    GameService Callback × List (GameCall Callback Message) :=
  let disconnected := game.onDisconnect id
  (disconnected.1, .service (.push (.plain .close id)) :: disconnected.2)

def onMessage (game : GameService Callback) (now : Int) (cmd : NetCommand Message) :
    GameService Callback × List (GameCall Callback Message) :=
  match game.service.connectionInfos cmd.id with
  | none => (game, [])
  | some info =>
      if game.service.maxRequestPerSecond > 0 then
        let checked := game.service.checkRequestFrequencyLimit now info
        let counted := { game with service := game.service.setInfo cmd.id (some checked.2) }
        if checked.1 then
          let disconnected := counted.disconnect cmd.id
          (disconnected.1, counted.onExceedRequestFrequencyLimit cmd.id ++ disconnected.2)
        else (counted, (counted.service.callMessageHandler cmd).map .service)
      else (game, (game.service.callMessageHandler cmd).map .service)

def processNetCommand (game : GameService Callback) (now : Int) (cmd : NetCommand Message) :
    GameService Callback × List (GameCall Callback Message) :=
  match cmd.type with
  | .new => game.onConnect cmd.id
  | .close => game.onDisconnect cmd.id
  | .message => game.onMessage now cmd
  | .enableBroadcast | .disableBroadcast | .broadcast => (game, [])

def serviceCalls (calls : List (GameCall Callback Message)) : List (ServiceCall Message) :=
  calls.filterMap fun
    | .service call => some call
    | .callback _ _ => none

def callbacks (calls : List (GameCall Callback Message)) : List (Callback × NetId) :=
  calls.filterMap fun
    | .service _ => none
    | .callback cb id => some (cb, id)

@[simp] theorem serviceCalls_invoke (cb : Option Callback) (id : NetId) :
    serviceCalls (invoke cb id : List (GameCall Callback Message)) = [] := by
  cases cb <;> rfl

@[simp] theorem callbacks_invoke (cb : Callback) (id : NetId) :
    callbacks (invoke (some cb) id : List (GameCall Callback Message)) = [(cb, id)] :=
  rfl

@[simp] theorem serviceCalls_service (call : ServiceCall Message)
    (calls : List (GameCall Callback Message)) :
    serviceCalls (.service call :: calls) = call :: serviceCalls calls :=
  rfl

@[simp] theorem callbacks_service (call : ServiceCall Message)
    (calls : List (GameCall Callback Message)) :
    callbacks (.service call :: calls) = callbacks calls :=
  rfl

@[simp] theorem serviceCalls_map (calls : List (ServiceCall Message)) :
    serviceCalls (calls.map GameCall.service : List (GameCall Callback Message)) = calls := by
  simp [serviceCalls, List.filterMap_map]

@[simp] theorem callbacks_map (calls : List (ServiceCall Message)) :
    callbacks (calls.map GameCall.service : List (GameCall Callback Message)) = [] := by
  simp [callbacks, List.filterMap_map]

@[simp] theorem serviceCalls_append (first later : List (GameCall Callback Message)) :
    serviceCalls (first ++ later) = serviceCalls first ++ serviceCalls later :=
  List.filterMap_append

@[simp] theorem callbacks_append (first later : List (GameCall Callback Message)) :
    callbacks (first ++ later) = callbacks first ++ callbacks later :=
  List.filterMap_append

end GameService

end ZBlueNet
