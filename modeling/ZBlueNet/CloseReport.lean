import ZBlueNet.NetThreadDeeds
import ZBlueNet.Lib.Runs

/-!
What a `NetThread` tells the main thread about the end of its connections, over a
whole run: nothing while a connection lives, and one CLOSE command after the thread
has closed it for a reason of its own.
-/

namespace ZBlueNet

open Runs EpollReactor NetThread

/-- `attached` has the sockets that the thread got, `commanded` those of them that a CLOSE command
of the main thread removed. -/
structure CloseRun (Callback Message : Type) where
  thread : NetThread Callback Message
  attached : List SocketId
  handed : Handed Callback Message
  commanded : List SocketId

inductive CloseEvent (Message : Type)
  | attach (socketId : SocketId) (granted : Bool)
  | handle (event : NetThreadEvent Message)

namespace CloseRun

variable {Callback Message : Type}

def start (thread : NetThread Callback Message) : CloseRun Callback Message :=
  { thread := thread, attached := [], handed := [], commanded := [] }

def removedByCommand (before after : NetThread Callback Message) :
    NetThreadEvent Message → List SocketId
  | .onNetCommand (some cmd) _ =>
      if cmd.type = .close ∧ before.reactor.connections cmd.id.socketId ≠ none ∧
          after.reactor.connections cmd.id.socketId = none then [cmd.id.socketId]
      else []
  | _ => []

/-- Every attach is of a new socket and succeeds. -/
def step [BaseStruct Message] (server : GameServer Message) (s : CloseRun Callback Message) :
    CloseEvent Message → Option (CloseRun Callback Message)
  | .attach socketId granted =>
      if socketId ∉ s.attached ∧ (s.thread.reactor.attachSocket socketId .create granted).1 then
        (s.thread.attach socketId granted).map fun outcome =>
          { s with
            thread := outcome.1
            attached := s.attached ++ [socketId]
            handed := s.handed ++ outcome.2 }
      else none
  | .handle event =>
      (s.thread.handle server event).map fun outcome =>
        { s with
          thread := outcome.1
          handed := s.handed ++ outcome.2
          commanded := s.commanded ++ removedByCommand s.thread outcome.1 event }

def closes (s : CloseRun Callback Message) (socketId : SocketId) : Nat :=
  closesOf (s.thread.netId socketId) s.handed

/-- No CLOSE for a connection that is there or that the main thread closed, one for any other. -/
def Reported (s : CloseRun Callback Message) : Prop :=
  ∀ socketId ∈ s.attached, s.closes socketId =
    if s.thread.reactor.connections socketId ≠ none ∨ socketId ∈ s.commanded then 0 else 1

structure Accounted (s : CloseRun Callback Message) : Prop where
  served : Served s.thread.reactor
  unknown : ∀ socketId ∉ s.attached, s.thread.reactor.statusOf socketId = none ∧
    s.closes socketId = 0 ∧ socketId ∉ s.commanded
  present : ∀ socketId, s.thread.reactor.statusOf socketId ≠ none →
    s.closes socketId = 0 ∧ socketId ∉ s.commanded
  gone : ∀ socketId ∈ s.attached, s.thread.reactor.statusOf socketId = none →
    s.closes socketId = if socketId ∈ s.commanded then 0 else 1

variable {s next : CloseRun Callback Message}

theorem Accounted.reported (accounted : Accounted s) : Reported s := by
  intro socketId attached
  by_cases absent : s.thread.reactor.connections socketId = none
  · have told := accounted.gone socketId attached (statusOf_none.mpr absent)
    simpa [absent] using told
  · have silent := accounted.present socketId (fun none => absent (statusOf_none.mp none))
    simpa [absent] using silent.1

theorem Accounted.deeds (accounted : Accounted s) {thread : NetThread Callback Message}
    {handed : Handed Callback Message} (deeds : Deeds s.thread thread handed) :
    Accounted { s with thread := thread, handed := s.handed ++ handed } := by
  have sum (socketId : SocketId) :
      closes { s with thread := thread, handed := s.handed ++ handed } socketId =
        s.closes socketId + closesOf (s.thread.netId socketId) handed := by
    simp only [closes, netId, deeds.id.1, closesOf_append]
  refine ⟨deeds.served accounted.served, ?_, ?_, ?_⟩
  · intro socketId unknown
    obtain ⟨absent, silent, open'⟩ := accounted.unknown socketId unknown
    rw [sum, silent]
    cases deeds.report accounted.served socketId with
    | stays same none => exact ⟨same.trans absent, by rw [none], open'⟩
    | fails connected pending none => cases absent.symm.trans connected
    | leaves present gone once => exact absurd absent present
  · intro socketId present
    rw [sum]
    cases deeds.report accounted.served socketId with
    | stays same none =>
        rw [none]
        exact accounted.present socketId (same ▸ present)
    | fails connected pending none =>
        rw [none]
        exact accounted.present socketId (by simp [connected])
    | leaves before gone once => exact absurd gone present
  · intro socketId attached absent
    rw [sum]
    cases deeds.report accounted.served socketId with
    | stays same none =>
        rw [none]
        exact accounted.gone socketId attached (same.symm.trans absent)
    | fails connected pending none => cases absent.symm.trans pending
    | leaves present gone once =>
        obtain ⟨silent, open'⟩ := accounted.present socketId present
        rw [silent, once, if_neg open']

theorem Accounted.command (accounted : Accounted s) (socketId : SocketId)
    (connected : s.thread.reactor.statusOf socketId ≠ none) :
    Accounted { s with
      thread := s.thread.setReactor (s.thread.reactor.closeSocket socketId)
      commanded := s.commanded ++ [socketId] } := by
  have status : (s.thread.reactor.closeSocket socketId).statusOf =
      Function.update s.thread.reactor.statusOf socketId none :=
    accounted.served.closeSocket_statusOf socketId
  have known : socketId ∈ s.attached := by
    by_contra unknown
    exact connected (accounted.unknown socketId unknown).1
  have silent := (accounted.present socketId connected).1
  refine ⟨accounted.served.closeSocket socketId, fun other unknown => ?_, fun other present => ?_,
    fun other attached absent => ?_⟩
  all_goals
    by_cases same : other = socketId
  · exact absurd (same ▸ known) unknown
  · obtain ⟨absent, none, open'⟩ := accounted.unknown other unknown
    refine ⟨?_, none, by simp [open', same]⟩
    rw [setReactor, status, Function.update_of_ne same, absent]
  · rw [setReactor, status, same, Function.update_self] at present
    exact absurd rfl present
  · rw [setReactor, status, Function.update_of_ne same] at present
    obtain ⟨none, open'⟩ := accounted.present other present
    exact ⟨none, by simp [open', same]⟩
  · rw [if_pos (by simp [same]), same]
    exact silent
  · rw [setReactor, status, Function.update_of_ne same] at absent
    have told := accounted.gone other attached absent
    have still : other ∈ s.commanded ++ [socketId] ↔ other ∈ s.commanded := by simp [same]
    simp only [still]
    exact told

theorem Accounted.attach (accounted : Accounted s) {socketId : SocketId} {granted : Bool}
    (new : socketId ∉ s.attached)
    (succeeds : (s.thread.reactor.attachSocket socketId .create granted).1 = true)
    {thread : NetThread Callback Message} {handed : Handed Callback Message}
    (attached : s.thread.attach socketId granted = some (thread, handed)) :
    Accounted { s with
      thread := thread
      attached := s.attached ++ [socketId]
      handed := s.handed ++ handed } := by
  obtain ⟨absent, silent, open'⟩ := accounted.unknown socketId new
  obtain ⟨served, -, status⟩ := accounted.served.attachSocket .create granted
    (statusOf_none.mp absent)
  rw [if_pos succeeds] at status
  obtain ⟨rfl, callback, -, rfl⟩ := attach_some attached
  have told (other : SocketId) : closesOf (s.thread.netId other)
      (s.handed ++ [(callback, .plain .new (s.thread.netId socketId))]) = s.closes other := by
    simp [closesOf, closes, NetCommand.plain, NetCommand.create]
  refine ⟨served, ?_, ?_, ?_⟩
  · intro other unknown
    rw [List.mem_append, List.mem_singleton, not_or] at unknown
    obtain ⟨absent, none, open'⟩ := accounted.unknown other unknown.1
    refine ⟨?_, (told other).trans none, open'⟩
    rw [setReactor, status, Function.update_of_ne unknown.2, absent]
  · intro other present
    by_cases same : other = socketId
    · subst same
      exact ⟨(told other).trans silent, open'⟩
    · rw [setReactor, status, Function.update_of_ne same] at present
      obtain ⟨none, open'⟩ := accounted.present other present
      exact ⟨(told other).trans none, open'⟩
  · intro other attached absent
    by_cases same : other = socketId
    · rw [setReactor, status, same, Function.update_self] at absent
      cases absent
    · rw [setReactor, status, Function.update_of_ne same] at absent
      rw [List.mem_append, List.mem_singleton, or_iff_left same] at attached
      exact (told other).trans (accounted.gone other attached absent)

section Steps

variable [BaseStruct Message] {server : GameServer Message} {event : CloseEvent Message}

theorem Accounted.step (accounted : Accounted s) (taken : s.step server event = some next) :
    Accounted next := by
  cases event with
  | attach socketId granted =>
      simp only [CloseRun.step] at taken
      split at taken
      · rename_i fits
        rw [Option.map_eq_some_iff] at taken
        obtain ⟨outcome, attached, rfl⟩ := taken
        exact accounted.attach fits.1 fits.2 attached
      · cases taken
  | handle event =>
      simp only [CloseRun.step, Option.map_eq_some_iff] at taken
      obtain ⟨outcome, handled, rfl⟩ := taken
      by_cases command : ∃ cmd env, event = .onNetCommand (some cmd) env ∧ cmd.type = .close
      · obtain ⟨cmd, env, rfl, close⟩ := command
        have closed := handleNetCommand_close close handled
        subst closed
        rw [List.append_nil]
        cases connected : s.thread.reactor.isConnected cmd.id.socketId with
        | true =>
            have present : s.thread.reactor.connections cmd.id.socketId ≠ none := fun absent => by
              simp [isConnected, absent] at connected
            have removed : removedByCommand s.thread (s.thread.setReactor
                (s.thread.reactor.closeSocket cmd.id.socketId)) (.onNetCommand (some cmd) env) =
                [cmd.id.socketId] := by
              refine if_pos ⟨close, present, ?_⟩
              rw [setReactor, accounted.served.closeSocket_connections, Function.update_self]
            simp only [if_true, removed]
            exact accounted.command _ fun absent => present (statusOf_none.mp absent)
        | false =>
            have removed : removedByCommand s.thread s.thread (.onNetCommand (some cmd) env) = [] :=
              if_neg fun both => both.2.1 both.2.2
            simp only [Bool.false_eq_true, if_false, removed, List.append_nil]
            exact accounted
      · have silent : removedByCommand s.thread outcome.1 event = [] := by
          simp only [removedByCommand]
          split
          · rename_i cmd env
            exact if_neg fun close => command ⟨cmd, env, rfl, close.1⟩
          · rfl
        have deeds := handle_deeds accounted.served
          (fun cmd env same close => command ⟨cmd, env, same, close⟩) handled
        rw [silent, List.append_nil]
        exact accounted.deeds deeds

theorem reported_every (server : GameServer Message) {createMessageFunc : Int → Option Message}
    {callback : Callback} {thread : NetThread Callback Message} {maxRecvPacketLength id : Int}
    {maxSendPacketLength maxRecvBufferSize maxSendBufferSize : Nat}
    (init : (NetThread.create maxRecvPacketLength maxSendPacketLength createMessageFunc).init id
      maxRecvBufferSize maxSendBufferSize (some callback) true = (true, thread))
    (events : List (CloseEvent Message)) : Every (step server) Reported (start thread) events := by
  have initial : Accounted (start thread) := by
    cases init
    exact ⟨.of_empty (fun _ => rfl) (fun _ => rfl), fun _ _ => ⟨rfl, rfl, nofun⟩,
      fun _ present => absurd rfl present, nofun⟩
  have every : Every (step server) Accounted (start thread) events :=
    every_of_invariant (fun accounted _ taken => accounted.step taken) initial
      (along_always _ events)
  exact every.mono fun accounted => accounted.reported

theorem reported_every_twoEnds :
    Every (step (rawServer 40960)) Reported (start (rawThread 0))
      [.attach 9 true, .attach 10 true, .handle (.onSocketRead 9 [⟨0, .inl []⟩]),
        .handle (.onNetCommand (some (.plain .close ⟨0, 10⟩)) fun _ => ⟨.count 0, ⟨0, 0⟩⟩)] :=
  reported_every (rawServer 40960) (rawThread_init 0) _

end Steps

end CloseRun

end ZBlueNet
