import ZBlueNet.NetThreadDeeds
import ZBlueNet.Lib.Runs

/-!
Whom a BROADCAST command of a `NetThread` reaches. A connection is in the list of the
thread from an ENABLE_BROADCAST command on, and its id stays there when it is gone.
-/

namespace ZBlueNet

open Runs EpollReactor NetThread

variable {Callback Message : Type}

inductive AudienceNote
  | attached (socketId : SocketId)
  | enabled (socketId : SocketId)
  | disabled (socketId : SocketId)
deriving DecidableEq, Repr

namespace AudienceNote

def socketId : AudienceNote → SocketId
  | .attached socketId | .enabled socketId | .disabled socketId => socketId

/-- The note is in the list, and no later one is about its socket. -/
def Last (notes : List AudienceNote) (note : AudienceNote) : Prop :=
  ∃ earlier later, notes = earlier ++ note :: later ∧ ∀ other ∈ later, other.socketId ≠ note.socketId

theorem last_snoc (notes : List AudienceNote) (newest note : AudienceNote) :
    Last (notes ++ [newest]) note ↔
      newest = note ∨ newest.socketId ≠ note.socketId ∧ Last notes note := by
  constructor
  · rintro ⟨earlier, later, same, others⟩
    rcases List.eq_nil_or_concat later with rfl | ⟨older, last, rfl⟩
    · rw [List.append_inj_right' same rfl |> List.singleton_inj.mp]
      exact .inl rfl
    · rw [List.concat_eq_append, ← List.cons_append, ← List.append_assoc] at same
      have split := List.append_inj' same rfl
      rw [List.concat_eq_append] at others
      refine .inr ⟨?_, earlier, older, split.1, ?_⟩
      · rw [List.singleton_inj.mp split.2]
        exact others last (by simp)
      · intro other member
        exact others other (List.mem_append_left _ member)
  · rintro (rfl | ⟨apart, earlier, later, rfl, others⟩)
    · exact ⟨notes, [], rfl, by simp⟩
    · refine ⟨earlier, later ++ [newest], by simp, ?_⟩
      intro other member
      rw [List.mem_append, List.mem_singleton] at member
      rcases member with older | rfl
      · exact others other older
      · exact apart

end AudienceNote

namespace EpollReactor

structure AgreeAt (id : SocketId) (r other : EpollReactor) : Prop where
  connection : r.connections id = other.connections id
  socket : r.sockets id = other.sockets id
  maxSize : r.connWriteBufferMaxSize = other.connWriteBufferMaxSize

def sendEach (env : SocketId → SendEnv) (buffer : List UInt8) (ids : List SocketId)
    (r : EpollReactor) : EpollReactor :=
  ids.foldl (fun r id => (r.sendMessage id buffer none (env id)).2.1) r

variable {r middle other : EpollReactor} {id : SocketId} {connection : TcpConnection}

theorem AgreeAt.refl (id : SocketId) (r : EpollReactor) : AgreeAt id r r :=
  ⟨rfl, rfl, rfl⟩

theorem AgreeAt.trans (first : AgreeAt id r middle) (later : AgreeAt id middle other) :
    AgreeAt id r other :=
  ⟨first.connection.trans later.connection, first.socket.trans later.socket,
    first.maxSize.trans later.maxSize⟩

theorem AgreeAt.setConnection (agree : AgreeAt id r other) (connection : TcpConnection) :
    AgreeAt id (r.setConnection id connection) (other.setConnection id connection) := by
  refine ⟨?_, agree.socket, agree.maxSize⟩
  simp only [EpollReactor.setConnection, Function.update_self]

theorem AgreeAt.modifySocket (agree : AgreeAt id r other) (change : TcpSocket → TcpSocket) :
    AgreeAt id (r.modifySocket id change) (other.modifySocket id change) := by
  refine ⟨agree.connection, ?_, agree.maxSize⟩
  simp only [EpollReactor.modifySocket, Function.update_self, agree.socket]

theorem AgreeAt.failSend (agree : AgreeAt id r other) (named : connection.socket = id)
    (now : Timestamp) (errorCode : Int) :
    AgreeAt id (r.failSend now connection errorCode) (other.failSend now connection errorCode) := by
  have failed := agree.setConnection (connection.setError errorCode)
  simp only [EpollReactor.failSend, named]
  exact ⟨failed.connection, failed.socket, failed.maxSize⟩

theorem AgreeAt.bufferRemaining (agree : AgreeAt id r other) (named : connection.socket = id)
    (buffer : List UInt8) (remainSize : Nat) (now : Timestamp) :
    (r.bufferRemaining connection buffer remainSize none now).1 =
        (other.bufferRemaining connection buffer remainSize none now).1 ∧
      AgreeAt id (r.bufferRemaining connection buffer remainSize none now).2.1
        (other.bufferRemaining connection buffer remainSize none now).2.1 := by
  simp only [EpollReactor.bufferRemaining, agree.maxSize]
  split
  · split
    · exact ⟨rfl, agree.failSend named now enobufs⟩
    · rw [named]
      exact ⟨rfl, (agree.setConnection _).modifySocket _⟩
  · exact ⟨rfl, agree⟩

theorem AgreeAt.sendMessage (agree : AgreeAt id r other) (served : Served r) (buffer : List UInt8)
    (env : SendEnv) :
    (r.sendMessage id buffer none env).1 = (other.sendMessage id buffer none env).1 ∧
      AgreeAt id (r.sendMessage id buffer none env).2.1
        (other.sendMessage id buffer none env).2.1 := by
  simp only [EpollReactor.sendMessage, ← agree.connection]
  cases found : r.connections id with
  | none => exact ⟨rfl, agree⟩
  | some connection =>
      have named := served.named id connection found
      simp only [sendConnection]
      split
      · exact ⟨rfl, agree⟩
      · split
        · split
          · split
            · exact ⟨rfl, agree.failSend named env.now _⟩
            · exact agree.bufferRemaining named buffer buffer.length env.now
          · rw [named]
            exact (agree.modifySocket _).bufferRemaining named buffer _ env.now
        · exact agree.bufferRemaining named buffer buffer.length env.now

section Elsewhere

variable {elsewhere : SocketId}

theorem agreeAt_setConnection (apart : elsewhere ≠ id) (connection : TcpConnection) :
    AgreeAt elsewhere r (r.setConnection id connection) :=
  ⟨(Function.update_of_ne apart ..).symm, rfl, rfl⟩

theorem agreeAt_modifySocket (apart : elsewhere ≠ id) (change : TcpSocket → TcpSocket) :
    AgreeAt elsewhere r (r.modifySocket id change) :=
  ⟨rfl, (Function.update_of_ne apart ..).symm, rfl⟩

theorem agreeAt_failSend (apart : elsewhere ≠ id) (named : connection.socket = id) (now : Timestamp)
    (errorCode : Int) : AgreeAt elsewhere r (r.failSend now connection errorCode) := by
  have failed := agreeAt_setConnection (r := r) apart (connection.setError errorCode)
  simp only [failSend, named]
  exact ⟨failed.connection, failed.socket, failed.maxSize⟩

theorem agreeAt_bufferRemaining (apart : elsewhere ≠ id) (named : connection.socket = id)
    (buffer : List UInt8) (remainSize : Nat) (now : Timestamp) :
    AgreeAt elsewhere r (r.bufferRemaining connection buffer remainSize none now).2.1 := by
  simp only [bufferRemaining]
  split
  · split
    · exact agreeAt_failSend apart named now enobufs
    · rw [named]
      exact (agreeAt_setConnection apart _).trans (agreeAt_modifySocket apart _)
  · exact .refl elsewhere r

theorem agreeAt_sendMessage (apart : elsewhere ≠ id) (served : Served r) (buffer : List UInt8)
    (env : SendEnv) : AgreeAt elsewhere r (r.sendMessage id buffer none env).2.1 := by
  simp only [sendMessage]
  cases found : r.connections id with
  | none => exact .refl elsewhere r
  | some connection =>
      have named := served.named id connection found
      simp only [sendConnection]
      split
      · exact .refl elsewhere r
      · split
        · split
          · split
            · exact agreeAt_failSend apart named env.now _
            · exact agreeAt_bufferRemaining apart named buffer buffer.length env.now
          · rw [named]
            exact (agreeAt_modifySocket apart _).trans
              (agreeAt_bufferRemaining apart named buffer _ env.now)
        · exact agreeAt_bufferRemaining apart named buffer buffer.length env.now

end Elsewhere

variable {env : SocketId → SendEnv} {buffer : List UInt8} {ids : List SocketId}

theorem sendEach_append (env : SocketId → SendEnv) (buffer : List UInt8)
    (earlier later : List SocketId) (r : EpollReactor) :
    sendEach env buffer (earlier ++ later) r =
      sendEach env buffer later (sendEach env buffer earlier r) :=
  List.foldl_append

theorem sendEach_served (served : Served r) : Served (sendEach env buffer ids r) := by
  induction ids generalizing r with
  | nil => exact served
  | cons id ids ih => exact ih (Edits.served (served.sendMessage id buffer (env id)).1 served)

theorem sendEach_absent (env : SocketId → SendEnv) (buffer : List UInt8) (served : Served r)
    (absent : id ∉ ids) :
    AgreeAt id r (sendEach env buffer ids r) := by
  induction ids generalizing r with
  | nil => exact .refl id r
  | cons first ids ih =>
      rw [List.mem_cons, not_or] at absent
      have sent := agreeAt_sendMessage absent.1 served buffer (env first)
      have served' := Edits.served (served.sendMessage first buffer (env first)).1 served
      exact sent.trans (ih served' absent.2)

/-- What the others get, and whether their sends fail, makes no difference to a socket. -/
theorem sendEach_own (env : SocketId → SendEnv) (buffer : List UInt8) (served : Served r)
    (nodup : ids.Nodup) (member : id ∈ ids) :
    AgreeAt id (r.sendMessage id buffer none (env id)).2.1 (sendEach env buffer ids r) := by
  obtain ⟨earlier, later, rfl⟩ := List.append_of_mem member
  rw [List.nodup_middle, List.nodup_cons, List.mem_append, not_or] at nodup
  obtain ⟨⟨before, after⟩, -⟩ := nodup
  have reached : AgreeAt id r (sendEach env buffer earlier r) :=
    sendEach_absent env buffer served before
  have sent := (reached.sendMessage served buffer (env id)).2
  have served' : Served (sendEach env buffer earlier r) := sendEach_served served
  have served'' := Edits.served (served'.sendMessage id buffer (env id)).1 served'
  rw [sendEach_append]
  exact sent.trans (sendEach_absent env buffer served'' after)

theorem sendMessage_unconnected (unconnected : r.isConnected id = false) (buffer : List UInt8)
    (env : SendEnv) : r.sendMessage id buffer none env = (false, r, []) := by
  simp only [isConnected] at unconnected
  simp only [sendMessage]
  split
  · rfl
  · rename_i connection found
    rw [found] at unconnected
    simp only [decide_eq_false_iff_not] at unconnected
    exact if_pos unconnected

end EpollReactor

namespace NetThread

variable {thread : NetThread Callback Message} {socketId : SocketId}
  {outcome : NetThread Callback Message × Handed Callback Message}

theorem broadcast_setReactor (env : SocketId → SendEnv) (ids : List SocketId)
    (thread : NetThread Callback Message) :
    ids.foldl (fun t id => t.sendEncoded env id) thread =
      thread.setReactor (sendEach env thread.encodeBuffer.content ids thread.reactor) := by
  induction ids generalizing thread with
  | nil => rfl
  | cons id ids ih => exact ih (thread.sendEncoded env id)

/-! The callbacks of the reactor change the thread's reactor only. -/

section Callbacks

variable [BaseStruct Message] {server : GameServer Message}

theorem onRecvMessage_setReactor (received : thread.onRecvMessage server socketId = some outcome) :
    ∃ reactor, outcome.1 = thread.setReactor reactor := by
  simp only [onRecvMessage] at received
  split at received
  · cases received
    exact ⟨thread.reactor, rfl⟩
  · split at received
    · cases received
      exact ⟨_, rfl⟩
    · rw [Option.map_eq_some_iff] at received
      obtain ⟨⟨closed, handed⟩, closing, rfl⟩ := received
      exact ⟨_, (closeSocket_some closing).1⟩
    · cases received
    · cases received

theorem onReactorCalls_setReactor {calls : List ReactorCall}
    (called : thread.onReactorCalls server calls = some outcome) :
    ∃ reactor, outcome.1 = thread.setReactor reactor := by
  induction calls generalizing thread outcome with
  | nil =>
      cases called
      exact ⟨thread.reactor, rfl⟩
  | cons call calls ih =>
      simp only [onReactorCalls, Option.bind_eq_some_iff, Option.map_eq_some_iff] at called
      obtain ⟨⟨first, early⟩, now, rest, later, rfl⟩ := called
      have once : ∃ reactor, first = thread.setReactor reactor := by
        cases call with
        | errorCb lost errorCode => exact ⟨_, (closeSocket_some now).1⟩
        | peerCloseCb lost => exact ⟨_, (closeSocket_some now).1⟩
        | recvMessageCb id => exact onRecvMessage_setReactor now
        | sendCompleteCb id token =>
            cases now
            exact ⟨thread.reactor, rfl⟩
      obtain ⟨reactor, rfl⟩ := once
      obtain ⟨last, same⟩ := ih later
      exact ⟨last, same⟩

theorem afterReactor_setReactor {returned : EpollReactor × List ReactorCall}
    (called : thread.afterReactor server returned = some outcome) :
    ∃ reactor, outcome.1 = thread.setReactor reactor := by
  have moved := onReactorCalls_setReactor
    (show (thread.setReactor returned.1).onReactorCalls server returned.2 = some outcome from called)
  exact moved

theorem onSocketRead_setReactor {answers : List RecvAnswer}
    (read : thread.onSocketRead server socketId answers = some outcome) :
    ∃ reactor, outcome.1 = thread.setReactor reactor := by
  simp only [onSocketRead, Option.bind_eq_some_iff] at read
  obtain ⟨ended, loop, ⟨received, handed⟩, called, finish⟩ := read
  obtain ⟨reactor, rfl⟩ := afterReactor_setReactor called
  split at finish
  · rw [Option.map_eq_some_iff] at finish
    obtain ⟨closed, closing, rfl⟩ := finish
    obtain ⟨final, same⟩ := afterReactor_setReactor closing
    exact ⟨final, same⟩
  · cases finish
    exact ⟨reactor, rfl⟩
  · cases finish
    exact ⟨reactor, rfl⟩

theorem handleNetCommand_broadcastList {env : SocketId → SendEnv} {cmd : NetCommand Message}
    (enables : cmd.type ≠ .enableBroadcast) (disables : cmd.type ≠ .disableBroadcast)
    (handled : thread.handleNetCommand env cmd = some outcome) :
    outcome.1.broadcastList = thread.broadcastList := by
  cases handleNetCommand_turn handled with
  | broadcast message =>
      rw [broadcast_setReactor]
      rfl
  | lose message type connected carried unwritten closed =>
      obtain ⟨next, handed⟩ := outcome
      obtain ⟨same, -⟩ := closeSocket_some closed
      rw [same]
      rfl
  | enable type => exact absurd type enables
  | disable type => exact absurd type disables
  | unwritten | unconnected | close | send | new => rfl

theorem handle_broadcastList {event : NetThreadEvent Message}
    (enables : ∀ cmd env, event = .onNetCommand (some cmd) env → cmd.type ≠ .enableBroadcast)
    (disables : ∀ cmd env, event = .onNetCommand (some cmd) env → cmd.type ≠ .disableBroadcast)
    (handled : thread.handle server event = some outcome) :
    outcome.1.broadcastList = thread.broadcastList := by
  have kept {other : NetThread Callback Message}
      (unchanged : other.broadcastList = thread.broadcastList)
      (same : ∃ reactor, outcome.1 = other.setReactor reactor) :
      outcome.1.broadcastList = thread.broadcastList := by
    obtain ⟨reactor, same⟩ := same
    rw [same]
    exact unchanged
  cases event with
  | onSocketRead socketId answers =>
      simp only [handle] at handled
      split at handled
      · cases handled
        rfl
      · exact kept rfl (onSocketRead_setReactor handled)
  | onSocketWrite socketId env => exact kept rfl (afterReactor_setReactor handled)
  | onSocketError socketId socketError => exact kept rfl (afterReactor_setReactor handled)
  | onNetCommand cmd env =>
      cases cmd with
      | none =>
          cases handled
          rfl
      | some cmd =>
          exact handleNetCommand_broadcastList (enables cmd env rfl) (disables cmd env rfl) handled
  | checkTimeout now =>
      simp only [handle, checkTimeoutTurn] at handled
      split at handled
      · cases handled
        rfl
      · rename_i firing heap turn
        split at handled
        · have fired := afterReactor_setReactor handled
          exact kept rfl fired
        · cases handled
          rfl

end Callbacks

end NetThread

/-- A thread with the notes of the sockets it got and of the commands it took from its queue. -/
structure BroadcastRun (Callback Message : Type) where
  thread : NetThread Callback Message
  notes : List AudienceNote

inductive BroadcastEvent (Message : Type)
  | attach (socketId : SocketId) (granted : Bool)
  | handle (event : NetThreadEvent Message)

namespace BroadcastRun

def start (thread : NetThread Callback Message) : BroadcastRun Callback Message :=
  { thread := thread, notes := [] }

/-- A command is noted whether or not the thread skips it. -/
def notesOf : NetThreadEvent Message → List AudienceNote
  | .onNetCommand (some cmd) _ =>
      match cmd.type with
      | .enableBroadcast => [.enabled cmd.id.socketId]
      | .disableBroadcast => [.disabled cmd.id.socketId]
      | _ => []
  | _ => []

/-- Every attach is of a new socket; it may fail. -/
def step [BaseStruct Message] (server : GameServer Message) (s : BroadcastRun Callback Message) :
    BroadcastEvent Message → Option (BroadcastRun Callback Message)
  | .attach socketId granted =>
      if .attached socketId ∈ s.notes then none
      else
        (s.thread.attach socketId granted).map fun outcome =>
          { thread := outcome.1, notes := s.notes ++ [.attached socketId] }
  | .handle event =>
      (s.thread.handle server event).map fun outcome =>
        { thread := outcome.1, notes := s.notes ++ notesOf event }

/-- Connected, and since it was attached the last command about it enabled broadcasts. -/
def InAudience (s : BroadcastRun Callback Message) (id : SocketId) : Prop :=
  s.thread.reactor.isConnected id = true ∧ ∃ earlier later,
    s.notes = earlier ++ .enabled id :: later ∧ .attached id ∈ earlier ∧
      ∀ note ∈ later, note.socketId ≠ id

/-- `after` is the reactor when the frame has been sent to the sockets of the list. -/
structure Reached (s : BroadcastRun Callback Message) (env : SocketId → SendEnv)
    (frame : List UInt8) (after : EpollReactor) : Prop where
  calls : after = sendEach env frame s.thread.broadcastList s.thread.reactor
  once : ∀ id, s.InAudience id → s.thread.broadcastList.count id = 1
  own : ∀ id, s.InAudience id →
    AgreeAt id (s.thread.reactor.sendMessage id frame none (env id)).2.1 after
  refused : ∀ id earlier later, s.thread.broadcastList = earlier ++ id :: later →
    ¬s.InAudience id → (sendEach env frame earlier s.thread.reactor).sendMessage id frame none
      (env id) = (false, sendEach env frame earlier s.thread.reactor, [])
  others : ∀ id, ¬s.InAudience id → AgreeAt id s.thread.reactor after
  kept : ∀ id, s.thread.reactor.connections id ≠ none → after.connections id ≠ none

def ReachesAudience [BaseStruct Message] (s : BroadcastRun Callback Message) : Prop :=
  ∀ (env : SocketId → SendEnv) (cmd : NetCommand Message) (message : Message)
    (encodeBuffer : DynamicBuffer), cmd.type = .broadcast → cmd.message = some message →
      NetProtocol.writeMessage cmd.messageId message s.thread.encodeBuffer = (true, encodeBuffer) →
        ∃ next, s.thread.handleNetCommand env cmd = some (next, []) ∧
          s.Reached env encodeBuffer.content next.reactor

structure Listed (s : BroadcastRun Callback Message) : Prop where
  served : Served s.thread.reactor
  nodup : s.thread.broadcastList.Nodup
  unknown : ∀ id, .attached id ∉ s.notes →
    s.thread.reactor.statusOf id = none ∧ id ∉ s.thread.broadcastList
  listed : ∀ id, s.thread.reactor.statusOf id = some .connected →
    (id ∈ s.thread.broadcastList ↔ AudienceNote.Last s.notes (.enabled id))

variable {s next : BroadcastRun Callback Message}

theorem Listed.inAudience_iff (listed : Listed s) (id : SocketId) :
    s.InAudience id ↔ s.thread.reactor.isConnected id = true ∧ id ∈ s.thread.broadcastList := by
  simp only [InAudience]
  refine and_congr_right fun connected => ?_
  have status := isConnected_iff.mp connected
  rw [listed.listed id status]
  constructor
  · rintro ⟨earlier, later, same, -, others⟩
    exact ⟨earlier, later, same, others⟩
  · rintro ⟨earlier, later, same, others⟩
    have attached : .attached id ∈ s.notes := by
      by_contra missing
      cases status.symm.trans (listed.unknown id missing).1
    rw [same, List.mem_append, List.mem_cons] at attached
    refine ⟨earlier, later, same, ?_, others⟩
    rcases attached with before | enabled | after
    · exact before
    · cases enabled
    · exact absurd rfl (others (.attached id) after)

theorem Listed.reached (listed : Listed s) (env : SocketId → SendEnv) (frame : List UInt8) :
    s.Reached env frame (sendEach env frame s.thread.broadcastList s.thread.reactor) := by
  have skipped {id : SocketId} (outside : ¬s.InAudience id)
      (member : id ∈ s.thread.broadcastList) : s.thread.reactor.isConnected id = false := by
    rw [listed.inAudience_iff] at outside
    by_contra connected
    exact outside ⟨by simpa using connected, member⟩
  have others (id : SocketId) (outside : ¬s.InAudience id) : AgreeAt id s.thread.reactor
      (sendEach env frame s.thread.broadcastList s.thread.reactor) := by
    by_cases member : id ∈ s.thread.broadcastList
    · have refused := sendMessage_unconnected (skipped outside member) frame (env id)
      have own := sendEach_own env frame listed.served listed.nodup member
      rwa [refused] at own
    · exact sendEach_absent env frame listed.served member
  refine ⟨rfl, ?_, ?_, ?_, others, ?_⟩
  · intro id audience
    exact List.count_eq_one_of_mem listed.nodup ((listed.inAudience_iff id).mp audience).2
  · intro id audience
    exact sendEach_own env frame listed.served listed.nodup ((listed.inAudience_iff id).mp audience).2
  · intro id earlier later same outside
    have nodup := listed.nodup
    rw [same, List.nodup_middle, List.nodup_cons, List.mem_append, not_or] at nodup
    have before := sendEach_absent env frame listed.served nodup.1.1
    apply sendMessage_unconnected
    have unconnected := skipped outside (by simp [same])
    rwa [isConnected, before.connection] at unconnected
  · intro id present gone
    by_cases audience : s.InAudience id
    · have own := sendEach_own env frame listed.served listed.nodup
        ((listed.inAudience_iff id).mp audience).2
      have sent := (listed.served.sendMessage id frame (env id)).1
      rw [← own.connection, ← statusOf_none] at gone
      rcases sent.statusOf listed.served id with same | ⟨-, failed⟩
      · exact present (statusOf_none.mp (same.symm.trans gone))
      · cases failed.symm.trans gone
    · exact present ((others id audience).connection.trans gone)

theorem Listed.quiet (listed : Listed s) {thread : NetThread Callback Message}
    (served : Served thread.reactor) (same : thread.broadcastList = s.thread.broadcastList)
    (absent : ∀ id, s.thread.reactor.statusOf id = none → thread.reactor.statusOf id = none)
    (connected : ∀ id, thread.reactor.statusOf id = some .connected →
      s.thread.reactor.statusOf id = some .connected) :
    Listed { s with thread := thread } := by
  refine ⟨served, same ▸ listed.nodup, ?_, ?_⟩
  · intro id missing
    obtain ⟨gone, outside⟩ := listed.unknown id missing
    exact ⟨absent id gone, same ▸ outside⟩
  · intro id here
    rw [same]
    exact listed.listed id (connected id here)

theorem Listed.attach (listed : Listed s) {socketId : SocketId} {granted : Bool}
    (new : .attached socketId ∉ s.notes) {thread : NetThread Callback Message}
    {handed : Handed Callback Message}
    (attached : s.thread.attach socketId granted = some (thread, handed)) :
    Listed { thread := thread, notes := s.notes ++ [.attached socketId] } := by
  obtain ⟨absent, outside⟩ := listed.unknown socketId new
  obtain ⟨served, -, status⟩ := listed.served.attachSocket .create granted (statusOf_none.mp absent)
  obtain ⟨rfl, -⟩ := attach_some attached
  refine ⟨served, listed.nodup, ?_, ?_⟩
  · intro id missing
    rw [List.mem_append, List.mem_singleton, AudienceNote.attached.injEq, not_or] at missing
    rw [setReactor, status, Function.update_of_ne missing.2]
    exact listed.unknown id missing.1
  · intro id connected
    rw [AudienceNote.last_snoc]
    by_cases same : id = socketId
    · rw [same]
      refine iff_of_false outside ?_
      rintro (attached | ⟨apart, -⟩)
      · cases attached
      · exact apart rfl
    · rw [setReactor, status, Function.update_of_ne same] at connected
      rw [setReactor, listed.listed id connected]
      constructor
      · intro last
        exact .inr ⟨Ne.symm same, last⟩
      · rintro (attached | ⟨-, last⟩)
        · cases attached
        · exact last

theorem Listed.skip (listed : Listed s) {socketId : SocketId}
    (skipped : s.thread.reactor.isConnected socketId = false) (note : AudienceNote)
    (about : note.socketId = socketId) (attached : ∀ id, note ≠ .attached id) :
    Listed { s with notes := s.notes ++ [note] } := by
  refine ⟨listed.served, listed.nodup, ?_, ?_⟩
  · intro id missing
    exact listed.unknown id fun before => missing (List.mem_append_left _ before)
  · intro id connected
    have apart : id ≠ socketId := by
      rintro rfl
      rw [← isConnected_iff, skipped] at connected
      cases connected
    rw [AudienceNote.last_snoc, listed.listed id connected]
    constructor
    · intro last
      exact .inr ⟨about ▸ Ne.symm apart, last⟩
    · rintro (rfl | ⟨-, last⟩)
      · exact absurd about apart
      · exact last

theorem Listed.relist (listed : Listed s) {socketId : SocketId} {broadcastList : List SocketId}
    (connected : s.thread.reactor.isConnected socketId = true) (note : AudienceNote)
    (about : note.socketId = socketId) (nodup : broadcastList.Nodup)
    (here : socketId ∈ broadcastList ↔ note = .enabled socketId)
    (others : ∀ id ≠ socketId, (id ∈ broadcastList ↔ id ∈ s.thread.broadcastList)) :
    Listed { thread := { s.thread with broadcastList := broadcastList }
             notes := s.notes ++ [note] } := by
  refine ⟨listed.served, nodup, ?_, ?_⟩
  · intro id missing
    have before : .attached id ∉ s.notes := fun known => missing (List.mem_append_left _ known)
    obtain ⟨gone, outside⟩ := listed.unknown id before
    have apart : id ≠ socketId := by
      rintro rfl
      cases (isConnected_iff.mp connected).symm.trans gone
    exact ⟨gone, fun member => outside ((others id apart).mp member)⟩
  · intro id running
    rw [AudienceNote.last_snoc]
    by_cases same : id = socketId
    · subst same
      rw [here]
      constructor
      · exact .inl
      · rintro (enabled | ⟨apart, -⟩)
        · exact enabled
        · exact absurd about apart
    · rw [others id same, listed.listed id running]
      constructor
      · intro last
        exact .inr ⟨about ▸ Ne.symm same, last⟩
      · rintro (rfl | ⟨-, last⟩)
        · exact absurd about same
        · exact last

theorem Listed.deeds (listed : Listed s) {thread : NetThread Callback Message}
    {handed : Handed Callback Message} (deeds : Deeds s.thread thread handed)
    (same : thread.broadcastList = s.thread.broadcastList) :
    Listed { s with thread := thread } := by
  apply listed.quiet (deeds.served listed.served) same
  · intro id absent
    cases deeds.report listed.served id with
    | stays still silent => exact still.trans absent
    | fails connected pending silent => cases absent.symm.trans connected
    | leaves present gone once => exact gone
  · intro id connected
    cases deeds.report listed.served id with
    | stays still silent => exact still.symm.trans connected
    | fails before pending silent => exact before
    | leaves present gone once => cases gone.symm.trans connected

theorem Listed.close (listed : Listed s) (socketId : SocketId) :
    Listed { s with thread := s.thread.setReactor (s.thread.reactor.closeSocket socketId) } := by
  have status := listed.served.closeSocket_statusOf socketId
  have served : Served (s.thread.setReactor (s.thread.reactor.closeSocket socketId)).reactor :=
    listed.served.closeSocket socketId
  apply listed.quiet served rfl
  · intro id absent
    rw [setReactor, status]
    by_cases same : id = socketId
    · rw [same, Function.update_self]
    · rw [Function.update_of_ne same, absent]
  · intro id connected
    rw [setReactor, status] at connected
    by_cases same : id = socketId
    · rw [same, Function.update_self] at connected
      cases connected
    · rwa [Function.update_of_ne same] at connected

section Steps

variable [BaseStruct Message] {server : GameServer Message} {event : BroadcastEvent Message}

theorem Listed.enable (listed : Listed s) {env : SocketId → SendEnv} {cmd : NetCommand Message}
    (enables : cmd.type = .enableBroadcast)
    {outcome : NetThread Callback Message × Handed Callback Message}
    (handled : s.thread.handleNetCommand env cmd = some outcome) :
    Listed { thread := outcome.1, notes := s.notes ++ [.enabled cmd.id.socketId] } := by
  simp only [handleNetCommand, enables, reduceCtorEq, if_false] at handled
  split at handled
  · rename_i skipped
    cases handled
    refine listed.skip skipped _ rfl ?_
    intro id same
    cases same
  · rename_i connected
    cases handled
    have inserted : (s.thread.broadcastList.orderedInsert (· ≤ ·) cmd.id.socketId).Perm
        (cmd.id.socketId :: s.thread.broadcastList) := List.perm_orderedInsert ..
    have running : s.thread.reactor.isConnected cmd.id.socketId = true := by simpa using connected
    apply listed.relist running _ rfl
    · split
      · exact listed.nodup
      · rename_i outside
        exact inserted.nodup_iff.mpr (List.nodup_cons.mpr ⟨outside, listed.nodup⟩)
    · refine iff_of_true ?_ rfl
      split
      · assumption
      · exact inserted.mem_iff.mpr (List.mem_cons_self ..)
    · intro id apart
      split
      · rfl
      · rw [inserted.mem_iff, List.mem_cons, or_iff_right apart]

theorem Listed.disable (listed : Listed s) {env : SocketId → SendEnv} {cmd : NetCommand Message}
    (disables : cmd.type = .disableBroadcast)
    {outcome : NetThread Callback Message × Handed Callback Message}
    (handled : s.thread.handleNetCommand env cmd = some outcome) :
    Listed { thread := outcome.1, notes := s.notes ++ [.disabled cmd.id.socketId] } := by
  simp only [handleNetCommand, disables, reduceCtorEq, if_false] at handled
  split at handled
  · rename_i skipped
    cases handled
    refine listed.skip skipped _ rfl ?_
    intro id same
    cases same
  · rename_i connected
    cases handled
    have running : s.thread.reactor.isConnected cmd.id.socketId = true := by simpa using connected
    apply listed.relist running _ rfl (listed.nodup.erase _)
    · apply iff_of_false
      · rw [listed.nodup.mem_erase_iff]
        exact fun member => member.1 rfl
      · intro same
        cases same
    · intro id apart
      rw [listed.nodup.mem_erase_iff, and_iff_right apart]

theorem Listed.step (listed : Listed s) (taken : s.step server event = some next) : Listed next := by
  cases event with
  | attach socketId granted =>
      simp only [BroadcastRun.step] at taken
      split at taken
      · cases taken
      · rename_i new
        rw [Option.map_eq_some_iff] at taken
        obtain ⟨outcome, attached, rfl⟩ := taken
        exact listed.attach new attached
  | handle event =>
      simp only [BroadcastRun.step, Option.map_eq_some_iff] at taken
      obtain ⟨outcome, handled, rfl⟩ := taken
      by_cases command : ∃ cmd env, event = .onNetCommand (some cmd) env ∧
          (cmd.type = .enableBroadcast ∨ cmd.type = .disableBroadcast ∨ cmd.type = .close)
      · obtain ⟨cmd, env, rfl, enables | disables | close⟩ := command
        · simp only [notesOf, enables]
          exact listed.enable enables handled
        · simp only [notesOf, disables]
          exact listed.disable disables handled
        · rw [handleNetCommand_close close handled]
          simp only [notesOf, close, List.append_nil]
          split
          · exact listed.close cmd.id.socketId
          · exact listed
      · have silent : notesOf event = [] := by
          simp only [notesOf]
          split
          · rename_i cmd env
            split
            · rename_i enables
              exact absurd ⟨cmd, env, rfl, .inl enables⟩ command
            · rename_i disables
              exact absurd ⟨cmd, env, rfl, .inr (.inl disables)⟩ command
            · rfl
          · rfl
        have deeds := handle_deeds listed.served
          (fun cmd env same close => command ⟨cmd, env, same, .inr (.inr close)⟩) handled
        have same := handle_broadcastList
          (fun cmd env same enables => command ⟨cmd, env, same, .inl enables⟩)
          (fun cmd env same disables => command ⟨cmd, env, same, .inr (.inl disables)⟩) handled
        rw [silent, List.append_nil]
        exact listed.deeds deeds same

theorem Listed.reachesAudience (listed : Listed s) : ReachesAudience s := by
  intro env cmd message encodeBuffer broadcast carried written
  refine ⟨(s.thread.setEncodeBuffer encodeBuffer).setReactor (sendEach env encodeBuffer.content
    s.thread.broadcastList s.thread.reactor), ?_, listed.reached env encodeBuffer.content⟩
  simp only [handleNetCommand, broadcast, carried, written, if_true, Option.map_some,
    broadcast_setReactor]
  rfl

theorem reachesAudience_every (server : GameServer Message)
    {createMessageFunc : Int → Option Message} {callback : Option Callback}
    {thread : NetThread Callback Message} {maxRecvPacketLength id : Int}
    {maxSendPacketLength maxRecvBufferSize maxSendBufferSize : Nat} {attached : Bool}
    (init : (NetThread.create maxRecvPacketLength maxSendPacketLength createMessageFunc).init id
      maxRecvBufferSize maxSendBufferSize callback attached = (true, thread))
    (events : List (BroadcastEvent Message)) :
    Every (step server) ReachesAudience (start thread) events := by
  have initial : Listed (start thread) := by
    cases attached with
    | false => cases congrArg Prod.fst init
    | true =>
        cases init
        exact ⟨.of_empty (fun _ => rfl) (fun _ => rfl), List.nodup_nil, fun _ _ => ⟨rfl, nofun⟩,
          nofun⟩
  have every : Every (step server) Listed (start thread) events :=
    every_of_invariant (fun listed _ taken => listed.step taken) initial (along_always _ events)
  exact every.mono fun listed => listed.reachesAudience

theorem reachesAudience_every_leftBehind :
    Every (step (rawServer 40960)) ReachesAudience (start (rawThread 0))
      [.attach 9 true, .attach 10 true, .attach 11 true,
        .handle (.onNetCommand (some (.plain .enableBroadcast ⟨0, 9⟩)) fun _ => ⟨.count 0, ⟨0, 0⟩⟩),
        .handle (.onNetCommand (some (.plain .enableBroadcast ⟨0, 10⟩)) fun _ => ⟨.count 0, ⟨0, 0⟩⟩),
        .handle (.onSocketRead 9 [⟨0, .inl []⟩])] :=
  reachesAudience_every (rawServer 40960) (rawThread_init 0) _

end Steps

end BroadcastRun

end ZBlueNet
