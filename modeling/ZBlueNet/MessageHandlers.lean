import ZBlueNet.TcpServiceCore
import ZBlueNet.Lib.Runs

/-!
The registration of message handlers in `game_server.h`: a map of creation functions
in the server, a map of handlers in its service, and one static handler wrapper for
each message type.
-/

namespace ZBlueNet

open Runs

/-- A number stands for a message type, and in `messageHandlers` for the wrapper of the type. The
wrappers are shared by all servers of the program. -/
structure HandlerMaps (CreateFunc Handler : Type) where
  service : TcpService
  messageCreateFuncMap : Int → Option CreateFunc
  wrappers : Nat → Option Handler

structure Registration (Handler : Type) where
  type : Nat
  id : Int
  handler : Option Handler
deriving DecidableEq, Repr

namespace TcpService

def getMessageHandler (service : TcpService) (messageId : Int) : Option Nat :=
  service.messageHandlers messageId

def setMessageHandler (service : TcpService) (messageId : Int) (handler : Nat) : TcpService :=
  { service with messageHandlers := Function.update service.messageHandlers messageId (some handler) }

end TcpService

namespace HandlerMaps

variable {CreateFunc Handler : Type}

def start (maxRequestPerSecond : Int) (wrappers : Nat → Option Handler) :
    HandlerMaps CreateFunc Handler :=
  { service := .create maxRequestPerSecond
    messageCreateFuncMap := fun _ => none
    wrappers := wrappers }

def createMessageMap (s : HandlerMaps CreateFunc Handler) (id : Int) : Option CreateFunc :=
  s.messageCreateFuncMap id

def registerMessageCreateFunc (s : HandlerMaps CreateFunc Handler) (id : Int)
    (createFunc : CreateFunc) : Bool × HandlerMaps CreateFunc Handler :=
  match s.messageCreateFuncMap id with
  | some _ => (false, s)
  | none => (true, { s with
      messageCreateFuncMap := Function.update s.messageCreateFuncMap id (some createFunc) })

def setMessageHandler (s : HandlerMaps CreateFunc Handler) (type : Nat) (messageId : Int)
    (messageHandler : Option Handler) : HandlerMaps CreateFunc Handler :=
  match s.wrappers type with
  | some _ => s
  | none => { s with
      wrappers := Function.update s.wrappers type messageHandler
      service := s.service.setMessageHandler messageId type }

def registerMessageHandlerFunc (create : Nat → CreateFunc) (s : HandlerMaps CreateFunc Handler)
    (call : Registration Handler) : HandlerMaps CreateFunc Handler :=
  (s.registerMessageCreateFunc call.id (create call.type)).2.setMessageHandler call.type call.id
    call.handler

def step (create : Nat → CreateFunc) (s : HandlerMaps CreateFunc Handler)
    (call : Registration Handler) : Option (HandlerMaps CreateFunc Handler) :=
  some (s.registerMessageHandlerFunc create call)

/-- The messages of an id are made by the type whose wrapper handles them. -/
def Consistent (create : Nat → CreateFunc) (s : HandlerMaps CreateFunc Handler) : Prop :=
  ∀ id type, s.service.getMessageHandler id = some type →
    s.messageCreateFuncMap id = some (create type)

/-- The type has its handler already, or no other function makes the messages of the id. -/
def Agrees (create : Nat → CreateFunc) (s : HandlerMaps CreateFunc Handler)
    (call : Registration Handler) : Prop :=
  s.wrappers call.type ≠ none ∨ ∀ other ∈ s.messageCreateFuncMap call.id, other = create call.type

variable {create : Nat → CreateFunc} {s : HandlerMaps CreateFunc Handler}

theorem Consistent.callMessageHandler {Message : Type} (consistent : Consistent create s)
    {cmd : NetCommand Message} {createFunc : CreateFunc} {type : Nat} {netId : NetId}
    {message : Option Message} (made : s.createMessageMap cmd.messageId = some createFunc)
    (called : .messageHandler type netId message ∈ s.service.callMessageHandler cmd) :
    createFunc = create type := by
  simp only [TcpService.callMessageHandler] at called
  split at called
  · cases called
  · rename_i handler found
    cases List.mem_singleton.mp called
    exact Option.some.inj (made.symm.trans (consistent cmd.messageId type found))

theorem registerMessageCreateFunc_map (s : HandlerMaps CreateFunc Handler) (id other : Int)
    (createFunc : CreateFunc) :
    (s.registerMessageCreateFunc id createFunc).2.messageCreateFuncMap other =
      if other = id then some ((s.messageCreateFuncMap id).getD createFunc)
      else s.messageCreateFuncMap other := by
  simp only [registerMessageCreateFunc]
  split <;> rename_i found <;> by_cases same : other = id <;> simp [found, same]

theorem registerMessageCreateFunc_frame (s : HandlerMaps CreateFunc Handler) (id : Int)
    (createFunc : CreateFunc) :
    (s.registerMessageCreateFunc id createFunc).2.service = s.service ∧
      (s.registerMessageCreateFunc id createFunc).2.wrappers = s.wrappers := by
  simp only [registerMessageCreateFunc]
  split <;> exact ⟨rfl, rfl⟩

theorem registerMessageHandlerFunc_map (create : Nat → CreateFunc)
    (s : HandlerMaps CreateFunc Handler) (call : Registration Handler) (other : Int) :
    (s.registerMessageHandlerFunc create call).messageCreateFuncMap other =
      if other = call.id then some ((s.messageCreateFuncMap call.id).getD (create call.type))
      else s.messageCreateFuncMap other := by
  rw [← registerMessageCreateFunc_map]
  simp only [registerMessageHandlerFunc, setMessageHandler]
  split <;> rfl

theorem registerMessageHandlerFunc_handler (create : Nat → CreateFunc)
    (s : HandlerMaps CreateFunc Handler) (call : Registration Handler) (other : Int) :
    (s.registerMessageHandlerFunc create call).service.getMessageHandler other =
      if other = call.id ∧ s.wrappers call.type = none then some call.type
      else s.service.getMessageHandler other := by
  obtain ⟨service, wrappers⟩ := registerMessageCreateFunc_frame s call.id (create call.type)
  simp only [registerMessageHandlerFunc, setMessageHandler, wrappers]
  split
  · rename_i found
    simp [found, service]
  · rename_i found
    by_cases same : other = call.id <;>
      simp [found, same, service, TcpService.getMessageHandler, TcpService.setMessageHandler]

theorem Consistent.register_iff (consistent : Consistent create s) (call : Registration Handler) :
    Consistent create (s.registerMessageHandlerFunc create call) ↔ Agrees create s call := by
  constructor
  · intro still
    by_contra disagrees
    simp only [Agrees, not_or, not_not, not_forall] at disagrees
    obtain ⟨fresh, other, made, different⟩ := disagrees
    have handled := registerMessageHandlerFunc_handler create s call call.id
    rw [if_pos ⟨rfl, fresh⟩] at handled
    have kept := still call.id call.type handled
    rw [registerMessageHandlerFunc_map, if_pos rfl, Option.mem_def.mp made] at kept
    exact different (Option.some.inj kept)
  · intro agrees id type handled
    rw [registerMessageHandlerFunc_handler] at handled
    rw [registerMessageHandlerFunc_map]
    split at handled
    · rename_i set
      cases handled
      rw [if_pos set.1]
      rcases agrees with kept | only
      · exact absurd set.2 kept
      · cases made : s.messageCreateFuncMap call.id with
        | none => rfl
        | some other => rw [only other made]; rfl
    · have made := consistent id type handled
      split
      · rename_i same
        rw [← same, made]
        rfl
      · exact made

/-- Over any calls, handlers get the type they were registered for exactly as long as every call
agrees. -/
theorem consistent_every_iff (create : Nat → CreateFunc) (maxRequestPerSecond : Int)
    (wrappers : Nat → Option Handler) (calls : List (Registration Handler)) :
    Every (step create) (Consistent create) (start maxRequestPerSecond wrappers) calls ↔
      Along (step create) (Agrees create) (start maxRequestPerSecond wrappers) calls := by
  refine every_iff_along (fun _ _ _ => trivial) (fun {s call next} _ _ consistent taken => ?_)
    (fun stuck => ?_) trivial (fun _ _ handled => ?_) (along_always _ calls)
  · cases taken
    exact consistent.register_iff call
  · cases stuck
  · cases handled

theorem secondType_breaks :
    ¬Every (step id) (Consistent id)
      (start 0 fun _ => none) [⟨1, 7, some ()⟩, ⟨2, 7, some ()⟩] := by
  intro every
  have consistent := every.finish rfl
  have made := consistent 7 2 rfl
  cases made

end HandlerMaps

end ZBlueNet
