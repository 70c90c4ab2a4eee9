import ZBlueNet.GameServiceCore
import ZBlueNet.ServiceAgreement

/-!
The callbacks of the game over whole runs of a `GameService`: which of them the main
thread calls while connections are opened and closed on both sides.
-/

namespace ZBlueNet

open Runs EpollReactor

inductive GameCallback
  | onConnect
  | onDisconnect
  | onExceedRequest
deriving DecidableEq, Repr

structure GameRun (n : Nat) (Message : Type) where
  game : GameService GameCallback
  net : NetThreads n Message
  called : List (GameCallback × NetId)

namespace GameRun

variable {n : Nat} {Message : Type}

/-- The callbacks that `GameServer::init` sets. -/
def start (n : Nat) (createMessageFunc : Int → Option Message) (maxRequestPerSecond : Int) :
    GameRun n Message :=
  let connecting := (GameService.create maxRequestPerSecond).setConnectCallback (some .onConnect)
  let disconnecting := connecting.setDisconnectCallback (some .onDisconnect)
  { game := disconnecting.setExceedRequestFrequencyLimitCallback (some .onExceedRequest)
    net := .init n createMessageFunc
    called := [] }

def perform (pipeCapacity : Nat) (s : GameRun n Message) (net : NetThreads n Message)
    (outcome : GameService GameCallback × List (GameCall GameCallback Message)) :
    Option (GameRun n Message) :=
  (ServiceRun.perform pipeCapacity net (GameService.serviceCalls outcome.2)).map fun net =>
    { game := outcome.1, net := net, called := s.called ++ GameService.callbacks outcome.2 }

/-- The game disconnects a connection that it knows: between its two callbacks. -/
def step [BaseStruct Message] (server : GameServer Message) (pipeCapacity : Nat)
    (s : GameRun n Message) : ServiceEvent n Message → Option (GameRun n Message)
  | .net event => (s.net.step server pipeCapacity event).map fun net => { s with net := net }
  | .processNetCommand now =>
      s.net.clientNetCommandQueue.pop.bind fun popped =>
        s.perform pipeCapacity { s.net with clientNetCommandQueue := popped.2 }
          (s.game.processNetCommand now popped.1)
  | .disconnect id =>
      if (.onConnect, id) ∈ s.called ∧ (.onDisconnect, id) ∉ s.called then
        s.perform pipeCapacity s.net (s.game.disconnect id)
      else none

def OnceEach (s : GameRun n Message) : Prop :=
  ∀ id, s.called.count (.onDisconnect, id) ≤ s.called.count (.onConnect, id)

def KnownClose (s : GameRun n Message) : ServiceEvent n Message → Prop
  | .processNetCommand _ => ∀ cmd ∈ s.net.clientNetCommandQueue.queue.head?,
      cmd.type = .close → s.game.service.connectionInfos cmd.id ≠ none
  | _ => True

def base (s : GameRun n Message) : ServiceRun n Message :=
  { service := s.game.service, net := s.net }

/-- The connections that the service has are those between their two callbacks. -/
structure Paired (game : GameService GameCallback) (called : List (GameCallback × NetId)) : Prop where
  connect : game.onConnectCb = some .onConnect
  disconnect : game.onDisconnectCb = some .onDisconnect
  exceed : game.onExceedRequestCb = some .onExceedRequest
  counts : ∀ id, called.count (.onConnect, id) =
    called.count (.onDisconnect, id) + if game.service.connectionInfos id = none then 0 else 1

structure Balanced (s : GameRun n Message) : Prop where
  formed : ServiceRun.Formed s.base
  paired : Paired s.game s.called

section Callbacks

open GameService

variable {game : GameService GameCallback} {called : List (GameCallback × NetId)} {id : NetId}
  {cmd : NetCommand Message}

theorem Paired.known_iff (paired : Paired game called) : game.service.connectionInfos id ≠ none ↔
    called.count (.onConnect, id) ≠ called.count (.onDisconnect, id) := by
  have counts := paired.counts id
  split at counts
  · rename_i unknown
    simp [unknown, counts]
  · rename_i known
    simp only [ne_eq, known, not_false_eq_true, counts, true_iff]
    omega

theorem Paired.onConnect (paired : Paired game called)
    (unknown : game.service.connectionInfos id = none) :
    Paired { game with service := game.service.onConnect id } (called ++ [(.onConnect, id)]) := by
  refine ⟨paired.connect, paired.disconnect, paired.exceed, ?_⟩
  intro other
  have counts := paired.counts other
  by_cases same : other = id
  · subst same
    simp only [unknown, if_true] at counts
    simp [TcpService.onConnect, TcpService.setInfo, counts]
  · simpa [TcpService.onConnect, TcpService.setInfo, same, Ne.symm same] using counts

theorem Paired.onDisconnect (paired : Paired game called)
    (known : game.service.connectionInfos id ≠ none) :
    Paired { game with service := game.service.onDisconnect id }
      (called ++ [(.onDisconnect, id)]) := by
  refine ⟨paired.connect, paired.disconnect, paired.exceed, ?_⟩
  intro other
  have counts := paired.counts other
  by_cases same : other = id
  · subst same
    simp only [known, if_false] at counts
    simp [TcpService.onDisconnect, TcpService.setInfo, counts]
  · simpa [TcpService.onDisconnect, TcpService.setInfo, same, Ne.symm same] using counts

theorem Paired.counted (paired : Paired game called) (known : game.service.connectionInfos id ≠ none)
    (info : ConnectionInfo) (later : List (GameCallback × NetId))
    (exceeds : ∀ item ∈ later, item.1 = .onExceedRequest) :
    Paired { game with service := game.service.setInfo id (some info) } (called ++ later) := by
  refine ⟨paired.connect, paired.disconnect, paired.exceed, ?_⟩
  intro other
  have counts := paired.counts other
  have silent (callback : GameCallback) (different : callback ≠ .onExceedRequest) :
      later.count (callback, other) = 0 :=
    List.count_eq_zero.mpr fun member => different (exceeds _ member)
  rw [List.count_append, List.count_append, silent _ (by decide), silent _ (by decide)]
  by_cases same : other = id
  · subst same
    simpa [TcpService.setInfo, known] using counts
  · simpa [TcpService.setInfo, same] using counts

theorem onMessage_base (pipeCapacity : Nat) (game : GameService GameCallback) (now : Int)
    (cmd : NetCommand Message) (net : NetThreads n Message) :
    (game.onMessage now cmd).1.service = (game.service.onMessage now cmd).1 ∧
      ServiceRun.perform pipeCapacity net (serviceCalls (game.onMessage now cmd).2) =
        ServiceRun.perform pipeCapacity net (game.service.onMessage now cmd).2 := by
  cases found : game.service.connectionInfos cmd.id with
  | none => simp [GameService.onMessage, TcpService.onMessage, found, serviceCalls]
  | some info =>
      simp only [GameService.onMessage, TcpService.onMessage, found]
      split
      · split
        · refine ⟨rfl, ?_⟩
          rw [serviceCalls_append, onExceedRequestFrequencyLimit, serviceCalls_invoke,
            GameService.disconnect, serviceCalls_service, GameService.onDisconnect,
            serviceCalls_invoke]
          rfl
        · exact ⟨rfl, by rw [serviceCalls_map]⟩
      · exact ⟨rfl, by rw [serviceCalls_map]⟩

theorem processNetCommand_base (pipeCapacity : Nat) (game : GameService GameCallback) (now : Int)
    (cmd : NetCommand Message) (net : NetThreads n Message) :
    (game.processNetCommand now cmd).1.service = (game.service.processNetCommand now cmd).1 ∧
      ServiceRun.perform pipeCapacity net (serviceCalls (game.processNetCommand now cmd).2) =
        ServiceRun.perform pipeCapacity net (game.service.processNetCommand now cmd).2 := by
  simp only [GameService.processNetCommand, TcpService.processNetCommand]
  cases cmd.type with
  | new => exact ⟨rfl, by rw [GameService.onConnect, serviceCalls_invoke]⟩
  | close => exact ⟨rfl, by rw [GameService.onDisconnect, serviceCalls_invoke]⟩
  | message => exact onMessage_base pipeCapacity game now cmd net
  | _ => exact ⟨rfl, rfl⟩

theorem Paired.onMessage (paired : Paired game called) (now : Int) (cmd : NetCommand Message) :
    Paired (game.onMessage now cmd).1 (called ++ callbacks (game.onMessage now cmd).2) := by
  have silent : callbacks ([] : List (GameCall GameCallback Message)) = [] := rfl
  cases found : game.service.connectionInfos cmd.id with
  | none => simpa [GameService.onMessage, found, silent] using paired
  | some info =>
      have known : game.service.connectionInfos cmd.id ≠ none := by simp [found]
      simp only [GameService.onMessage, found]
      split
      · split
        · have exceeded := paired.counted known (game.service.checkRequestFrequencyLimit now info).2
            [(.onExceedRequest, cmd.id)] (by simp)
          have still : (game.service.setInfo cmd.id
              (some (game.service.checkRequestFrequencyLimit now info).2)).connectionInfos cmd.id ≠
                none := by
            simp [TcpService.setInfo]
          have disconnected := exceeded.onDisconnect still
          simpa [onExceedRequestFrequencyLimit, GameService.disconnect, GameService.onDisconnect,
            paired.exceed, paired.disconnect] using disconnected
        · have counted := paired.counted known (game.service.checkRequestFrequencyLimit now info).2
            [] (by simp)
          rw [callbacks_map]
          exact counted
      · rw [callbacks_map, List.append_nil]
        exact paired

theorem Paired.processNetCommand (paired : Paired game called) (now : Int)
    (opening : cmd.type = .new → game.service.connectionInfos cmd.id = none)
    (closing : cmd.type = .close → game.service.connectionInfos cmd.id ≠ none) :
    Paired (game.processNetCommand now cmd).1
      (called ++ callbacks (game.processNetCommand now cmd).2) := by
  have silent : callbacks ([] : List (GameCall GameCallback Message)) = [] := rfl
  simp only [GameService.processNetCommand]
  cases type : cmd.type with
  | new =>
      have connected := paired.onConnect (opening type)
      simpa [GameService.onConnect, paired.connect] using connected
  | close =>
      have disconnected := paired.onDisconnect (closing type)
      simpa [GameService.onDisconnect, paired.disconnect] using disconnected
  | message => exact paired.onMessage now cmd
  | enableBroadcast | disableBroadcast | broadcast =>
      simp only [silent, List.append_nil]
      exact paired

theorem Paired.late (paired : Paired game called) {now : Int} (close : cmd.type = .close)
    (unknown : game.service.connectionInfos cmd.id = none) :
    let later := called ++ callbacks (game.processNetCommand now cmd).2
    later.count (.onConnect, cmd.id) < later.count (.onDisconnect, cmd.id) := by
  have counts := paired.counts cmd.id
  rw [if_pos unknown, Nat.add_zero] at counts
  simp [GameService.processNetCommand, close, GameService.onDisconnect, paired.disconnect, counts]

end Callbacks

/-! Steps. -/

variable {s next : GameRun n Message} {pipeCapacity : Nat}

theorem Paired.onceEach (paired : Paired s.game s.called) : OnceEach s := by
  intro id
  rw [paired.counts id]
  exact Nat.le_add_right _ _

theorem Paired.between_iff (paired : Paired s.game s.called) {id : NetId}
    (between : (.onConnect, id) ∈ s.called ∧ (.onDisconnect, id) ∉ s.called) :
    s.game.service.connectionInfos id ≠ none := by
  rw [paired.known_iff, List.count_eq_zero.mpr between.2]
  exact (List.count_pos_iff.mpr between.1).ne'

theorem formed_unknown {s : ServiceRun n Message} (formed : ServiceRun.Formed s)
    {cmd : NetCommand Message} (member : cmd ∈ s.net.clientNetCommandQueue.queue)
    (new : cmd.type = .new) : s.service.connectionInfos cmd.id = none := by
  obtain ⟨i, socketId, name⟩ := formed.named cmd member
  by_contra known
  have once := (formed.coherent i socketId).once
    (by simpa [ServiceRun.link, Link.of, ← name, Option.isSome_iff_ne_none] using known)
  have opening : (s.link i socketId).opening = true := by
    simpa [ServiceRun.link, Link.of, ← name] using ⟨cmd, member, new, rfl⟩
  rw [opening] at once
  cases once

theorem start_balanced (createMessageFunc : Int → Option Message) (maxRequestPerSecond : Int) :
    Balanced (start n createMessageFunc maxRequestPerSecond) :=
  ⟨ServiceRun.start_formed createMessageFunc maxRequestPerSecond, rfl, rfl, rfl, fun _ => rfl⟩

section Steps

variable [BaseStruct Message] {server : GameServer Message}

theorem base_step (paired : Paired s.game s.called) {event : ServiceEvent n Message}
    (taken : s.step server pipeCapacity event = some next) :
    s.base.step server pipeCapacity event = some next.base := by
  cases event with
  | net event =>
      simp only [step, Option.map_eq_some_iff] at taken
      obtain ⟨net, taken, rfl⟩ := taken
      simp [ServiceRun.step, base, taken]
  | processNetCommand now =>
      simp only [step, perform, Option.bind_eq_some_iff, Option.map_eq_some_iff] at taken
      obtain ⟨popped, popping, net, performed, rfl⟩ := taken
      have same := processNetCommand_base pipeCapacity s.game now popped.1
        { s.net with clientNetCommandQueue := popped.2 }
      rw [same.2] at performed
      simp [ServiceRun.step, base, popping, performed, same.1]
  | disconnect id =>
      simp only [step] at taken
      split at taken
      · rename_i between
        have known := paired.between_iff between
        simp only [perform, GameService.disconnect, GameService.onDisconnect,
          GameService.serviceCalls_service, GameService.serviceCalls_invoke,
          Option.map_eq_some_iff] at taken
        obtain ⟨net, performed, rfl⟩ := taken
        simp [ServiceRun.step, base, known, TcpService.disconnect, performed]
      · cases taken

theorem step_spec (balanced : Balanced s) {event : ServiceEvent n Message}
    (taken : s.step server pipeCapacity event = some next) :
    (KnownClose s event → Balanced next) ∧ (¬KnownClose s event → ¬OnceEach next) := by
  have formed : ServiceRun.Formed next.base := balanced.formed.step (base_step balanced.paired taken)
  cases event with
  | net event =>
      simp only [step, Option.map_eq_some_iff] at taken
      obtain ⟨net, taken, rfl⟩ := taken
      exact ⟨fun _ => ⟨formed, balanced.paired⟩, fun late => absurd trivial late⟩
  | processNetCommand now =>
      simp only [step, perform, Option.bind_eq_some_iff, Option.map_eq_some_iff] at taken
      obtain ⟨popped, popping, net, performed, rfl⟩ := taken
      have front := MessageQueue.pop_some popping
      have opening (new : popped.1.type = .new) :
          s.game.service.connectionInfos popped.1.id = none :=
        formed_unknown balanced.formed (front ▸ List.mem_cons_self) new
      have known_iff : KnownClose s (.processNetCommand now) ↔
          (popped.1.type = .close → s.game.service.connectionInfos popped.1.id ≠ none) := by
        simp [KnownClose, front]
      rw [known_iff]
      refine ⟨fun closing => ⟨formed, balanced.paired.processNetCommand now opening closing⟩,
        fun late once => late fun close unknown => ?_⟩
      exact absurd (once popped.1.id) (balanced.paired.late close unknown).not_ge
  | disconnect id =>
      simp only [step] at taken
      split at taken
      · rename_i between
        have known := balanced.paired.between_iff between
        simp only [perform, Option.map_eq_some_iff] at taken
        obtain ⟨net, performed, rfl⟩ := taken
        have disconnected := balanced.paired.onDisconnect known
        refine ⟨fun _ => ⟨formed, ?_⟩, fun late => absurd trivial late⟩
        simpa [GameService.disconnect, GameService.onDisconnect, balanced.paired.disconnect]
          using disconnected
      · cases taken

/-- The game is told at most once of the end of each connection exactly as long as the main thread
takes no CLOSE command for a connection that it has given up itself. -/
theorem onceEach_every_iff (server : GameServer Message) (pipeCapacity n : Nat)
    (createMessageFunc : Int → Option Message) (maxRequestPerSecond : Int)
    (events : List (ServiceEvent n Message)) :
    Every (step server pipeCapacity) OnceEach (start n createMessageFunc maxRequestPerSecond)
        events ↔
      Along (step server pipeCapacity) KnownClose
        (start n createMessageFunc maxRequestPerSecond) events := by
  have balanced : Balanced (start n createMessageFunc maxRequestPerSecond) :=
    start_balanced createMessageFunc maxRequestPerSecond
  refine every_iff_along_of_kept (fun balanced _ taken once => ?_)
    (fun balanced _ _ taken => ?_) (fun {state event} _ _ stuck => ?_) balanced balanced.paired.onceEach
    (along_always _ events)
  · by_contra broken
    have spec := step_spec balanced taken
    exact spec.2 (fun known => broken (spec.1 known)) once
  · have spec := step_spec balanced taken
    constructor
    · intro once
      by_contra late
      exact spec.2 late once
    · intro known
      exact (spec.1 known).paired.onceEach
  · cases event with
    | processNetCommand now =>
        intro cmd front close
        obtain ⟨rest, queue⟩ := List.head?_eq_some_iff.mp front
        simp [step, perform, MessageQueue.pop, queue, GameService.processNetCommand, close,
          GameService.onDisconnect, ServiceRun.perform] at stuck
    | _ => trivial

end Steps

instance : DecidablePred (OnceEach : GameRun n Message → Prop) := fun s =>
  decidable_of_iff (∀ call ∈ s.called, s.called.count (.onDisconnect, call.2) ≤
      s.called.count (.onConnect, call.2)) (by
    constructor
    · intro each id
      by_cases told : (.onDisconnect, id) ∈ s.called
      · exact each _ told
      · rw [List.count_eq_zero.mpr told]
        exact Nat.zero_le _
    · intro once call _
      exact once call.2)

def crossing : List (ServiceEvent 1 RawMessage) :=
  [.net (.attach 0 7 true), .processNetCommand 0, .net (.handle 0 (.onSocketRead 7 [⟨0, .inl []⟩])),
    .disconnect ⟨0, 7⟩, .net (.pushClientNetCommand 0), .processNetCommand 0]

theorem crossing_breaks :
    ¬Every (step (rawServer 40960) 65536) OnceEach
      (start 1 (rawServer 40960).netProtocol.createMessageFunc 0) crossing ∧
    ((run (step (rawServer 40960) 65536)
      (start 1 (rawServer 40960).netProtocol.createMessageFunc 0) crossing).map fun s => s.called) =
      some [(.onConnect, ⟨0, 7⟩), (.onDisconnect, ⟨0, 7⟩), (.onDisconnect, ⟨0, 7⟩)] := by
  decide +kernel

end GameRun

end ZBlueNet
