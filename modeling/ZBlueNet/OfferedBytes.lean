import ZBlueNet.ReadBuffers
import ZBlueNet.CloseReport

/-!
What `recv` returned and the receive callback has not seen. Every way out of the read
loop but one runs the callback first: an error behind data closes the connection
without it.
-/

namespace ZBlueNet

open Runs EpollReactor NetThread

/-- `unoffered` has the bytes of a socket that came behind the last run of the callback. -/
structure OfferRun (Callback Message : Type) where
  thread : NetThread Callback Message
  unoffered : SocketId → List UInt8

namespace OfferRun

variable {Callback Message : Type}

def start (thread : NetThread Callback Message) : OfferRun Callback Message :=
  { thread := thread, unoffered := fun _ => [] }

def unreadBytes (r : EpollReactor) (socketId : SocketId) : List UInt8 :=
  match r.connections socketId with
  | none => []
  | some connection => connection.readBuffer.content

/-- The callback has seen the bytes if it runs while they are at the end of the read buffer. -/
def unofferedBehind (s : OfferRun Callback Message) (socketId : SocketId)
    (answers : List RecvAnswer) : List UInt8 :=
  match s.thread.reactor.connections socketId,
      s.thread.reactor.onSocketReadLoop socketId answers with
  | some connection, some (_, reactor, calls) =>
      let waiting := s.unoffered socketId ++
        receivedBytes s.thread.reactor.connReadBufferMaxSize answers false connection.readBuffer
      if .recvMessageCb socketId ∈ calls ∧ waiting <:+ unreadBytes reactor socketId then []
      else waiting
  | _, _ => s.unoffered socketId

def unofferedAfter (s : OfferRun Callback Message) :
    NetThreadEvent Message → SocketId → List UInt8
  | .onSocketRead socketId answers =>
      Function.update s.unoffered socketId (s.unofferedBehind socketId answers)
  | _ => s.unoffered

def step [BaseStruct Message] (server : GameServer Message) (s : OfferRun Callback Message) :
    CloseEvent Message → Option (OfferRun Callback Message)
  | .attach socketId granted =>
      (s.thread.attach socketId granted).map fun outcome => { s with thread := outcome.1 }
  | .handle event =>
      (s.thread.handle server event).map fun outcome =>
        { thread := outcome.1, unoffered := s.unofferedAfter event }

def Offered (s : OfferRun Callback Message) : Prop :=
  ∀ socketId, s.thread.reactor.connections socketId = none → s.unoffered socketId = []

def Answered (s : OfferRun Callback Message) : CloseEvent Message → Prop
  | .attach _ _ => True
  | .handle event => ReadAnswered s.thread event

def ReadsClean (s : OfferRun Callback Message) : CloseEvent Message → Prop
  | .handle (.onSocketRead socketId answers) =>
      match s.thread.reactor.connections socketId with
      | none => True
      | some connection => failsBehindData s.thread.reactor.connReadBufferMaxSize answers false
          connection.readBuffer.readableBytes = false
  | _ => True

structure Sound (s : OfferRun Callback Message) : Prop where
  served : Served s.thread.reactor
  readable : Readable s.thread.reactor
  called : s.thread.newNetCmdCb ≠ none
  offered : ∀ socketId, s.unoffered socketId = []

variable {s next : OfferRun Callback Message} {socketId : SocketId} {answers : List RecvAnswer}
  {connection : TcpConnection}

theorem unofferedBehind_eq (sound : Sound s)
    (found : s.thread.reactor.connections socketId = some connection)
    (fit : ReadsFit s.thread.reactor.connReadBufferMaxSize answers connection.readBuffer)
    {ending : ReadEnd} {reactor : EpollReactor} {calls : List ReactorCall}
    (ended : s.thread.reactor.onSocketReadLoop socketId answers = some (ending, reactor, calls)) :
    if failsBehindData s.thread.reactor.connReadBufferMaxSize answers false
        connection.readBuffer.readableBytes then
      s.unofferedBehind socketId answers ≠ []
    else s.unofferedBehind socketId answers = [] := by
  have valid := sound.readable.valid socketId connection found
  have none := sound.offered socketId
  have looped := ended
  simp only [EpollReactor.onSocketReadLoop, found] at ended
  simp only [unofferedBehind, found, looped, none, List.nil_append]
  split at ended
  · cases ended
  · rename_i errno arrived last loop
    cases ended
    obtain ⟨-, -, -, came⟩ := readLoop_content valid fit loop
    have fails : failsBehindData s.thread.reactor.connReadBufferMaxSize answers false
        connection.readBuffer.readableBytes = true ↔ _ := failsBehindData_iff valid fit
    rw [loop] at fails
    simp only [Bool.false_eq_true, false_or] at came
    cases arrived with
    | true =>
        rw [if_pos (fails.mpr ⟨errno, last, rfl⟩)]
        simp [came.mp rfl]
    | false =>
        have empty := readLoop_nothing valid fit loop
        rw [if_neg]
        · simp [empty]
        · intro failing
          obtain ⟨errno, last, same⟩ := fails.mp failing
          cases same
  · rename_i arrived last unfailed loop
    cases ended
    obtain ⟨-, -, content, -⟩ := readLoop_content valid fit loop
    rw [if_neg]
    · cases arrived with
      | true =>
          have seen : unreadBytes (s.thread.reactor.setConnection socketId
              { connection with readBuffer := last }) socketId = last.content := by
            simp [unreadBytes, EpollReactor.setConnection]
          rw [seen, content]
          simp
      | false =>
          simp [readLoop_nothing valid fit loop]
    · intro failing
      obtain ⟨errno, last, same⟩ := (failsBehindData_iff valid fit).mp failing
      rw [loop] at same
      cases same
      exact unfailed errno rfl

section Steps

variable [BaseStruct Message] {server : GameServer Message} {event : CloseEvent Message}

theorem onSocketRead_failed {thread : NetThread Callback Message}
    (found : thread.reactor.connections socketId = some connection) {arrived : Bool} {errno : Int}
    {last : DynamicBuffer} (loop : readLoop thread.reactor.connReadBufferMaxSize answers false
      connection.readBuffer = some (.failed errno, arrived, last)) :
    thread.onSocketRead server socketId answers =
      (thread.setReactor (thread.reactor.setConnection socketId
        ({ connection with readBuffer := last }.setError errno))).closeSocket socketId := by
  simp only [NetThread.onSocketRead, EpollReactor.onSocketReadLoop, found, loop, Option.bind_some,
    afterReactor_single, onReactorCall, onError, Option.bind_fun_some]

theorem onSocketRead_failed_gone {thread : NetThread Callback Message}
    (served : Served thread.reactor)
    (found : thread.reactor.connections socketId = some connection) {arrived : Bool} {errno : Int}
    {last : DynamicBuffer} (loop : readLoop thread.reactor.connReadBufferMaxSize answers false
      connection.readBuffer = some (.failed errno, arrived, last))
    {outcome : NetThread Callback Message × Handed Callback Message}
    (read : thread.onSocketRead server socketId answers = some outcome) :
    outcome.1.reactor.connections socketId = none := by
  have attached : (thread.reactor.sockets socketId).isSome := by
    rw [served.attached, found]
    rfl
  rw [onSocketRead_failed found loop] at read
  obtain ⟨closed, handed⟩ := outcome
  obtain ⟨rfl, -⟩ := closeSocket_some read
  simp only [setReactor]
  rw [closeSocket_setConnection attached, served.closeSocket_connections, Function.update_self]

/-- A step leaves nothing unoffered behind unless a read fails behind data, and then the connection
is gone with its last bytes. -/
theorem step_spec (sound : Sound s) (answered : Answered s event)
    (taken : s.step server event = some next) :
    Served next.thread.reactor ∧ Readable next.thread.reactor ∧
      next.thread.newNetCmdCb ≠ none ∧
      (ReadsClean s event → ∀ socketId, next.unoffered socketId = []) ∧
      (¬ReadsClean s event → ¬Offered next) := by
  cases event with
  | attach socketId granted =>
      simp only [OfferRun.step, Option.map_eq_some_iff] at taken
      obtain ⟨outcome, attached, rfl⟩ := taken
      have kept := attach_kept sound.served attached
      obtain ⟨thread, handed⟩ := outcome
      obtain ⟨rfl, -⟩ := attach_some attached
      refine ⟨kept.1, sound.readable.attachSocket socketId .create granted, ?_, ?_, ?_⟩
      · rw [kept.2]
        exact sound.called
      · intro _
        exact sound.offered
      · intro unclean
        exact absurd trivial unclean
  | handle event =>
      simp only [OfferRun.step, Option.map_eq_some_iff] at taken
      obtain ⟨outcome, handled, rfl⟩ := taken
      have kept := handle_kept sound.served handled
      refine ⟨kept.1, handle_readable sound.served sound.readable answered handled, ?_, ?_⟩
      · rw [kept.2]
        exact sound.called
      · cases event with
        | onSocketRead socketId answers =>
            simp only [ReadsClean, unofferedAfter]
            simp only [handle] at handled
            cases found : s.thread.reactor.connections socketId with
            | none =>
                rw [found] at handled
                refine ⟨fun _ other => ?_, fun unclean => absurd trivial unclean⟩
                have still : s.unofferedBehind socketId answers = s.unoffered socketId := by
                  simp only [unofferedBehind, found]
                rw [still, Function.update_eq_self]
                exact sound.offered other
            | some connection =>
                rw [found] at handled
                have loops := handled
                simp only [NetThread.onSocketRead, Option.bind_eq_some_iff] at loops
                obtain ⟨⟨ending, reactor, calls⟩, ended, -⟩ := loops
                have seen := unofferedBehind_eq sound found (answered connection found) ended
                dsimp only
                constructor
                · intro clean other
                  rw [clean, if_neg (by simp)] at seen
                  rw [seen]
                  by_cases same : other = socketId
                  · rw [same, Function.update_self]
                  · rw [Function.update_of_ne same]
                    exact sound.offered other
                · intro unclean offered
                  have failing := Bool.eq_true_of_not_eq_false unclean
                  rw [failing, if_pos rfl] at seen
                  obtain ⟨errno, last, loop⟩ := (failsBehindData_iff
                    (sound.readable.valid socketId connection found)
                    (answered connection found)).mp failing
                  have lost := offered socketId
                    (onSocketRead_failed_gone sound.served found loop handled)
                  simp only [Function.update_self] at lost
                  exact seen lost
        | _ =>
            refine ⟨fun _ => sound.offered, fun unclean => absurd trivial unclean⟩

theorem Sound.stuck (sound : Sound s) (answered : Answered s event) (stuck : s.step server event = none) :
    ReadsClean s event := by
  cases event with
  | attach socketId granted => trivial
  | handle event =>
      cases event with
      | onSocketRead socketId answers =>
          simp only [ReadsClean]
          cases found : s.thread.reactor.connections socketId with
          | none => trivial
          | some connection =>
              dsimp only
              by_contra unclean
              obtain ⟨errno, last, loop⟩ := (failsBehindData_iff
                (sound.readable.valid socketId connection found)
                (answered connection found)).mp (Bool.eq_true_of_not_eq_false unclean)
              have called := sound.called
              simp only [OfferRun.step, handle, found, onSocketRead_failed found loop,
                NetThread.closeSocket, sendNetCommand, setReactor] at stuck
              cases registered : s.thread.newNetCmdCb with
              | none => exact called registered
              | some callback => simp [registered] at stuck
      | _ => trivial

/-- In every run of a thread, all that was received is offered before its connection is gone exactly
as long as no read fails behind data. -/
theorem offered_every_iff (server : GameServer Message) {createMessageFunc : Int → Option Message}
    {callback : Callback} {thread : NetThread Callback Message} {maxRecvPacketLength id : Int}
    {maxSendPacketLength maxRecvBufferSize maxSendBufferSize : Nat}
    (init : (NetThread.create maxRecvPacketLength maxSendPacketLength createMessageFunc).init id
      maxRecvBufferSize maxSendBufferSize (some callback) true = (true, thread))
    (events : List (CloseEvent Message))
    (answered : Along (step server) Answered (start thread) events) :
    Every (step server) Offered (start thread) events ↔
      Along (step server) ReadsClean (start thread) events := by
  have initial : Sound (start thread) := by
    cases init
    refine ⟨⟨fun _ => rfl, ?_, ?_, ?_⟩, readable_create _ _, ?_, fun _ => rfl⟩
    · intro id connection found
      cases found
    · intro id connection found
      cases found
    · intro id connection found
      cases found
    · intro none
      cases none
  have preserved {s next : OfferRun Callback Message} {event : CloseEvent Message}
      (sound : Sound s) (answered : Answered s event) (taken : s.step server event = some next)
      (offered : Offered next) : Sound next := by
    obtain ⟨served, readable, called, clean, unclean⟩ := step_spec sound answered taken
    refine ⟨served, readable, called, clean ?_⟩
    by_contra failing
    exact unclean failing offered
  apply every_iff_along_of_kept preserved
  · intro s event next sound answered _ taken
    obtain ⟨-, -, -, clean, unclean⟩ := step_spec sound answered taken
    constructor
    · intro offered
      by_contra failing
      exact unclean failing offered
    · intro reads socketId _
      exact clean reads socketId
  · intro s event sound answered stuck
    exact sound.stuck answered stuck
  · exact initial
  · intro socketId _
    rfl
  · exact answered

def resetBehindData : List (CloseEvent RawMessage) :=
  [.attach 9 true, .handle (.onSocketRead 9 [⟨3, .inl [0, 7, 0]⟩, ⟨1, .inr 104⟩])]

theorem resetBehindData_answered :
    Along (step (rawServer 40960)) Answered (start (rawThread 0)) resetBehindData := by
  refine ⟨trivial, fun next attached => ⟨?_, fun _ _ => trivial⟩⟩
  cases attached
  intro connection found
  cases found
  refine ⟨?_, .inl (by decide)⟩
  intro answer member
  simp only [List.mem_cons, List.not_mem_nil, or_false] at member
  rcases member with rfl | rfl
  · refine ⟨by decide, ?_⟩
    intro bytes came
    cases came
    decide
  · refine ⟨by decide, ?_⟩
    intro bytes came
    cases came

theorem resetBehindData_breaks :
    Along (step (rawServer 40960)) Answered (start (rawThread 0)) resetBehindData ∧
      ¬Every (step (rawServer 40960)) Offered (start (rawThread 0)) resetBehindData := by
  refine ⟨resetBehindData_answered, ?_⟩
  intro every
  have lost : ((run (step (rawServer 40960)) (start (rawThread 0)) resetBehindData).map fun s =>
      ((s.thread.reactor.connections 9).isNone, s.unoffered 9)) = some (true, [0, 7, 0]) := by
    decide +kernel
  obtain ⟨finish, reached, same⟩ := Option.map_eq_some_iff.mp lost
  simp only [Prod.mk.injEq, Option.isNone_iff_eq_none] at same
  have offered := every.finish reached 9 same.1
  rw [same.2] at offered
  cases offered

theorem offered_every_iff_resetBehindData :
    Every (step (rawServer 40960)) Offered (start (rawThread 0)) resetBehindData ↔
      Along (step (rawServer 40960)) ReadsClean (start (rawThread 0)) resetBehindData :=
  offered_every_iff (rawServer 40960) (rawThread_init 0) resetBehindData resetBehindData_answered

end Steps

end OfferRun

end ZBlueNet
