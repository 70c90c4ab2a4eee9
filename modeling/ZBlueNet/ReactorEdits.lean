import ZBlueNet.ReactorCore
import ZBlueNet.TimerIndex
import Mathlib.Logic.Relation

/-!
What the functions of a reactor can do, as edits of its tables and calls of its owner.
Whatever every edit keeps, every function keeps.
-/

namespace ZBlueNet

namespace TimerHeap

variable {Callback : Type} {h : TimerHeap Callback}

/-- A sound index, in which no timer has the id that stands for no timer. -/
structure Timed (h : TimerHeap Callback) : Prop where
  indexed : Indexed h
  nonneg : ∀ ptr timer, h.live ptr = some timer → 0 ≤ timer.timerId

theorem empty_timed : Timed (empty : TimerHeap Callback) :=
  ⟨empty_indexed, fun _ _ live => nomatch live⟩

theorem nextTimerId_nonneg (timerId : TimerId) : 0 ≤ nextTimerId timerId := by
  simp only [nextTimerId]
  split
  · exact le_rfl
  · rename_i nonneg
    exact not_lt.mp nonneg

theorem Timed.addTimer (timed : Timed h) (now : Timestamp) (timeoutMs : Int) (timerCb : Callback)
    (callTimes : Int) :
    Timed (h.addTimer now timeoutMs timerCb callTimes).2 ∧ ∀ ptr timer, h.live ptr = some timer →
      (h.addTimer now timeoutMs timerCb callTimes).2.live ptr = some timer := by
  obtain ⟨indexed, -, outcome⟩ := timed.indexed.addTimer now timeoutMs timerCb callTimes
  obtain ⟨-, live, -⟩ | ⟨-, -, -, live⟩ := outcome
  · exact ⟨⟨indexed, live ▸ timed.nonneg⟩, fun ptr timer running => live ▸ running⟩
  · refine ⟨⟨indexed, fun ptr timer running => ?_⟩, ?_⟩
    · rcases timed.indexed.addTimer_live running with ⟨-, rfl⟩ | old
      · exact nextTimerId_nonneg h.timerId
      · exact timed.nonneg ptr timer old
    · intro ptr timer running
      have older : ptr ≠ h.nextPtr := (timed.indexed.live_lt running).ne
      exact (congrFun live ptr).trans ((if_neg older).trans running)

theorem Timed.removeTimer (timed : Timed h) (timerId : TimerId) : Timed (h.removeTimer timerId) := by
  refine ⟨(timed.indexed.removeTimer timerId).1, ?_⟩
  intro ptr timer running
  exact timed.nonneg ptr timer (timed.indexed.removeTimer_live running).1

theorem Timed.fired (timed : Timed h) {now : Timestamp} {firing : Firing Callback}
    {result : TimerHeap Callback} {ptr : TimerPtr} {timer : Timer Callback}
    (fired : Fired h now firing result ptr timer) : Timed result := by
  refine ⟨fired.indexed, ?_⟩
  intro other otherTimer running
  rcases rearmed_cases fired.live running with ⟨-, -, rfl⟩ | ⟨-, old⟩
  · exact timed.nonneg ptr timer fired.found
  · exact timed.nonneg other otherTimer old

end TimerHeap

namespace EpollReactor

open Relation TimerHeap

/-- The tables between two callbacks, for an owner that sends without a callback of its own. -/
structure Served (r : EpollReactor) : Prop where
  attached : ∀ id, (r.sockets id).isSome = (r.connections id).isSome
  named : ∀ id connection, r.connections id = some connection → connection.socket = id
  silent : ∀ id connection, r.connections id = some connection → connection.sendCompleteCb = none
  status : ∀ id connection, r.connections id = some connection →
    connection.status = .connected ∨ connection.status = .pendingError

inductive Edit (r : EpollReactor) : EpollReactor → Prop
  | rewrite {id : SocketId} {old new : TcpConnection} (found : r.connections id = some old)
      (socket : new.socket = old.socket) (status : new.status = old.status)
      (silent : new.sendCompleteCb = none) : Edit r (r.setConnection id new)
  | modify (id : SocketId) (change : TcpSocket → TcpSocket) : Edit r (r.modifySocket id change)
  | fail {id : SocketId} {old : TcpConnection} (now : Timestamp) (errorCode : Int)
      (found : r.connections id = some old) (status : old.status = .connected) :
      Edit r (r.failSend now old errorCode)
  | forget {timerId : TimerId} {id : SocketId} (mapped : r.timerToSocketMap timerId = some id) :
      Edit r { r with
        timerToSocketMap := Function.update r.timerToSocketMap timerId none
        socketToTimerMap := Function.update r.socketToTimerMap id none }

abbrev Edits : EpollReactor → EpollReactor → Prop := ReflTransGen Edit

def statusOf (r : EpollReactor) (id : SocketId) : Option ConnectionStatus :=
  (r.connections id).map TcpConnection.status

variable {r next : EpollReactor} {id : SocketId}

theorem statusOf_none : r.statusOf id = none ↔ r.connections id = none :=
  Option.map_eq_none_iff

theorem isConnected_iff : r.isConnected id = true ↔ r.statusOf id = some .connected := by
  simp only [isConnected, statusOf]
  cases r.connections id with
  | none => simp
  | some connection => simp

theorem Served.sockets_none (served : Served r) :
    r.sockets id = none ↔ r.connections id = none := by
  rw [← Option.isNone_iff_eq_none, ← Option.isNone_iff_eq_none, ← Option.isSome_eq_false_iff,
    ← Option.isSome_eq_false_iff, served.attached]

theorem Served.of_empty (sockets : ∀ id, r.sockets id = none)
    (connections : ∀ id, r.connections id = none) : Served r := by
  have absent {id : SocketId} {connection : TcpConnection} :
      r.connections id ≠ some connection := by
    intro found
    cases (connections id).symm.trans found
  refine ⟨?_, fun _ _ found => absurd found absent, fun _ _ found => absurd found absent,
    fun _ _ found => absurd found absent⟩
  intro id
  rw [sockets, connections]
  rfl

theorem Served.unconnected (served : Served r) (unconnected : r.isConnected id = false) :
    r.statusOf id = none ∨ r.statusOf id = some .pendingError := by
  cases found : r.connections id with
  | none => exact .inl (statusOf_none.mpr found)
  | some connection =>
      rcases served.status id connection found with connected | pending
      · simp [isConnected, found, connected] at unconnected
      · exact .inr (by simp [statusOf, found, pending])

theorem Served.of_tables (served : Served r) (sockets : next.sockets = r.sockets)
    (connections : next.connections = r.connections) : Served next := by
  obtain ⟨attached, named, silent, status⟩ := served
  rw [← connections] at attached named silent status
  exact ⟨sockets ▸ attached, named, silent, status⟩

/-! What an edit keeps. -/

theorem update_connection {other : SocketId} {connection old : TcpConnection}
    (found : Function.update r.connections id (some connection) other = some old) :
    other = id ∧ old = connection ∨ r.connections other = some old := by
  by_cases same : other = id
  · rw [same, Function.update_self] at found
    exact .inl ⟨same, (Option.some.inj found).symm⟩
  · rw [Function.update_of_ne same] at found
    exact .inr found

theorem Served.place (served : Served r) {connection : TcpConnection}
    (here : (next.sockets id).isSome)
    (others : ∀ other, other ≠ id → (next.sockets other).isSome = (r.sockets other).isSome)
    (connections : next.connections = Function.update r.connections id (some connection))
    (named : connection.socket = id) (silent : connection.sendCompleteCb = none)
    (status : connection.status = .connected ∨ connection.status = .pendingError) :
    Served next := by
  have new_or_old {other : SocketId} {placed : TcpConnection}
      (found : next.connections other = some placed) :
      other = id ∧ placed = connection ∨ r.connections other = some placed := by
    rw [connections] at found
    exact update_connection found
  constructor
  · intro other
    rw [connections]
    by_cases same : other = id
    · rw [same, Function.update_self, here]
      rfl
    · rw [Function.update_of_ne same, others other same, served.attached other]
  · intro other placed found
    rcases new_or_old found with ⟨rfl, rfl⟩ | old
    · exact named
    · exact served.named other placed old
  · intro other placed found
    rcases new_or_old found with ⟨-, rfl⟩ | old
    · exact silent
    · exact served.silent other placed old
  · intro other placed found
    rcases new_or_old found with ⟨-, rfl⟩ | old
    · exact status
    · exact served.status other placed old

theorem Served.setConnection (served : Served r) {old new : TcpConnection}
    (found : r.connections id = some old) (socket : new.socket = old.socket)
    (silent : new.sendCompleteCb = none)
    (status : new.status = .connected ∨ new.status = .pendingError) :
    Served (r.setConnection id new) := by
  have attached : (r.sockets id).isSome := by rw [served.attached, found]; rfl
  exact served.place attached (fun _ _ => rfl) rfl (socket.trans (served.named id old found)) silent
    status

theorem Served.modifySocket (served : Served r) (change : TcpSocket → TcpSocket) :
    Served (r.modifySocket id change) := by
  refine ⟨?_, served.named, served.silent, served.status⟩
  intro other
  have attached := served.attached other
  by_cases same : other = id
  · simpa [EpollReactor.modifySocket, same] using same ▸ attached
  · simpa [EpollReactor.modifySocket, same] using attached

theorem Edit.served (edit : Edit r next) (served : Served r) : Served next := by
  cases edit with
  | rewrite found socket status silent =>
      exact served.setConnection found socket silent (status ▸ served.status _ _ found)
  | modify id change => exact served.modifySocket change
  | fail now errorCode found status =>
      rename_i id old
      have named := served.named id old found
      have failed : Served (r.setConnection id (old.setError errorCode)) :=
        served.setConnection found rfl (served.silent id old found) (.inr rfl)
      rw [failSend, named]
      exact failed.of_tables rfl rfl
  | forget mapped => exact served.of_tables rfl rfl

theorem Edit.statusOf (edit : Edit r next) (served : Served r) (other : SocketId) :
    next.statusOf other = r.statusOf other ∨
      r.statusOf other = some .connected ∧ next.statusOf other = some .pendingError := by
  cases edit with
  | rewrite found socket status silent =>
      rename_i id old new
      left
      by_cases same : other = id
      · simp [EpollReactor.statusOf, EpollReactor.setConnection, same, found, status]
      · simp [EpollReactor.statusOf, EpollReactor.setConnection, same]
  | modify id change => exact .inl rfl
  | fail now errorCode found status =>
      rename_i id old
      have named := served.named id old found
      by_cases same : other = id
      · right
        rw [failSend, named]
        simp [EpollReactor.statusOf, EpollReactor.setConnection, addSocketTimer, startTimer, same,
          found, status, TcpConnection.setError]
      · left
        rw [failSend, named]
        simp [EpollReactor.statusOf, EpollReactor.setConnection, addSocketTimer, startTimer, same]
  | forget mapped => exact .inl rfl

theorem Edit.timers (edit : Edit r next) (timed : Timed r.timerHeap) :
    Timed next.timerHeap ∧ ∀ ptr timer, r.timerHeap.live ptr = some timer →
      next.timerHeap.live ptr = some timer := by
  cases edit with
  | fail now errorCode found status => exact timed.addTimer now 0 .sendMessageError 1
  | _ => exact ⟨timed, fun ptr timer running => running⟩

theorem Edits.served (edits : Edits r next) (served : Served r) : Served next := by
  induction edits with
  | refl => exact served
  | tail _ edit ih => exact edit.served ih

theorem Edits.statusOf (edits : Edits r next) (served : Served r) (other : SocketId) :
    next.statusOf other = r.statusOf other ∨
      r.statusOf other = some .connected ∧ next.statusOf other = some .pendingError := by
  induction edits with
  | refl => exact .inl rfl
  | tail before edit ih =>
      have later := edit.statusOf (Edits.served before served) other
      grind

theorem Edits.timers (edits : Edits r next) (timed : Timed r.timerHeap) :
    Timed next.timerHeap ∧ ∀ ptr timer, r.timerHeap.live ptr = some timer →
      next.timerHeap.live ptr = some timer := by
  induction edits with
  | refl => exact ⟨timed, fun _ _ running => running⟩
  | tail _ edit ih =>
      have later := edit.timers ih.1
      exact ⟨later.1, fun ptr timer running => later.2 ptr timer (ih.2 ptr timer running)⟩

/-! Opening and closing. -/

theorem closeSocket_timerHeap (r : EpollReactor) (id : SocketId) :
    (r.closeSocket id).timerHeap = r.timerHeap := by
  simp only [closeSocket, detachIOService]
  split
  · rfl
  · split
    · rfl
    · split <;> rfl

theorem closeSocket_sockets (r : EpollReactor) (id : SocketId) :
    (r.closeSocket id).sockets = Function.update r.sockets id none := by
  cases found : r.sockets id with
  | none =>
      simp only [closeSocket, found]
      exact (Function.update_eq_self_iff.mpr found.symm).symm
  | some socket =>
      simp only [closeSocket, detachIOService, found]
      split
      · exact Function.update_idem ..
      · rfl

theorem Served.closeSocket_connections (served : Served r) (id : SocketId) :
    (r.closeSocket id).connections = Function.update r.connections id none := by
  simp only [EpollReactor.closeSocket]
  cases found : r.sockets id with
  | none =>
      have absent := served.sockets_none.mp found
      exact (Function.update_eq_self_iff.mpr absent.symm).symm
  | some socket =>
      simp only [detachIOService, found]
      split <;> rfl

theorem Served.closeSocket (served : Served r) (id : SocketId) : Served (r.closeSocket id) := by
  have connections := served.closeSocket_connections id
  have kept {other : SocketId} {connection : TcpConnection}
      (here : (r.closeSocket id).connections other = some connection) :
      r.connections other = some connection := by
    rw [connections] at here
    by_cases same : other = id
    · rw [same, Function.update_self] at here
      cases here
    · rwa [Function.update_of_ne same] at here
  refine ⟨?_, fun other connection here => served.named other connection (kept here),
    fun other connection here => served.silent other connection (kept here),
    fun other connection here => served.status other connection (kept here)⟩
  intro other
  rw [closeSocket_sockets, connections]
  by_cases same : other = id
  · simp [same]
  · simp [same, served.attached other]

theorem Served.closeSocket_statusOf (served : Served r) (id : SocketId) :
    (r.closeSocket id).statusOf = Function.update r.statusOf id none := by
  funext other
  simp only [statusOf, served.closeSocket_connections id]
  by_cases same : other = id
  · simp [same]
  · simp [same, statusOf]

theorem closeSocket_setConnection (attached : (r.sockets id).isSome) (connection : TcpConnection) :
    (r.setConnection id connection).closeSocket id = r.closeSocket id := by
  obtain ⟨socket, found⟩ := Option.isSome_iff_exists.mp attached
  simp only [EpollReactor.closeSocket, setConnection, detachIOService, found]
  split <;> simp [setSocket]

theorem Served.attachSocket (served : Served r) (socket : TcpSocket) (granted : Bool)
    (fresh : r.connections id = none) :
    let attached := r.attachSocket id socket granted
    Served attached.2 ∧ attached.2.timerHeap = r.timerHeap ∧
      attached.2.statusOf =
        Function.update r.statusOf id (if attached.1 then some .connected else none) := by
  have unknown : r.sockets id = none := served.sockets_none.mpr fresh
  have still : Function.update r.statusOf id none = r.statusOf :=
    Function.update_eq_self_iff.mpr (statusOf_none.mpr fresh).symm
  simp only [EpollReactor.attachSocket, unknown]
  split
  · have connections (other : SocketId) : (Function.update r.connections id
        ((r.connections id).or (some (r.newConnection id)))) other =
        Function.update r.connections id (some (r.newConnection id)) other := by rw [fresh]; rfl
    refine ⟨served.place ?_ (fun other different => ?_) (funext connections) rfl rfl
      (.inl rfl), rfl, funext fun other => ?_⟩
    · simp [insertConnection, setSocket]
    · simp [insertConnection, setSocket, different]
    · by_cases same : other = id
      · simp [statusOf, insertConnection, same, fresh, setSocket, newConnection]
      · simp [statusOf, insertConnection, same, setSocket]
  · exact ⟨served.of_tables rfl rfl, rfl, still.symm⟩

theorem Served.attachSocket_known (served : Served r) (present : r.connections id ≠ none)
    (socket : TcpSocket) (granted : Bool) : r.attachSocket id socket granted = (false, r) := by
  have known : r.sockets id ≠ none := fun absent => present (served.sockets_none.mp absent)
  obtain ⟨other, known⟩ := Option.ne_none_iff_exists'.mp known
  rw [EpollReactor.attachSocket, known]

/-! The functions. -/

def Loses (id : SocketId) : ReactorCall → Prop
  | .errorCb lost _ | .peerCloseCb lost => lost = id
  | .recvMessageCb _ | .sendCompleteCb .. => False

/-- A function returned after edits, and at most with a call that gives up a connection it has
marked. -/
inductive Returned (r : EpollReactor) : EpollReactor × List ReactorCall → Prop
  | quiet {next : EpollReactor} (edits : Edits r next) : Returned r (next, [])
  | lost {middle next : EpollReactor} {id : SocketId} {call : ReactorCall} (edits : Edits r middle)
      (present : middle.connections id ≠ none)
      (closes : next.closeSocket id = middle.closeSocket id) (loses : Loses id call) :
      Returned r (next, [call])

theorem Served.returned_marked (served : Served r) {connection : TcpConnection}
    (found : r.connections id = some connection) (marked : TcpConnection) {call : ReactorCall}
    (loses : Loses id call) : Returned r (r.setConnection id marked, [call]) := by
  have attached : (r.sockets id).isSome := by rw [served.attached, found]; rfl
  exact .lost .refl (by simp [found]) (closeSocket_setConnection attached marked) loses

theorem Served.bufferRemaining (served : Served r) {connection : TcpConnection}
    (found : r.connections id = some connection) (connected : connection.status = .connected)
    (buffer : List UInt8) (remainSize : Nat) (now : Timestamp) :
    Edits r (r.bufferRemaining connection buffer remainSize none now).2.1 ∧
      (r.bufferRemaining connection buffer remainSize none now).2.2 = [] := by
  have named := served.named id connection found
  simp only [EpollReactor.bufferRemaining]
  split
  · split
    · exact ⟨.single (.fail now enobufs found connected), rfl⟩
    · rw [named]
      have stored (writeBuffer : DynamicBuffer) : Edit r (r.setConnection id
          { connection with socket := id, writeBuffer := writeBuffer, sendCompleteCb := none }) :=
        .rewrite found named.symm rfl rfl
      exact ⟨.tail (.single (stored _)) (.modify id _), rfl⟩
  · exact ⟨.refl, rfl⟩

theorem Served.sendMessage (served : Served r) (id : SocketId) (buffer : List UInt8)
    (env : SendEnv) :
    Edits r (r.sendMessage id buffer none env).2.1 ∧ (r.sendMessage id buffer none env).2.2 = [] := by
  simp only [EpollReactor.sendMessage]
  cases found : r.connections id with
  | none => exact ⟨.refl, rfl⟩
  | some connection =>
      simp only [sendConnection]
      split
      · exact ⟨.refl, rfl⟩
      · rename_i connected
        rw [not_not] at connected
        split
        · split
          · split
            · exact ⟨.single (.fail env.now _ found connected), rfl⟩
            · exact served.bufferRemaining found connected ..
          · rename_i bytes _
            rw [served.named id connection found]
            have taken : Edit r (r.modifySocket id (.send (buffer.take bytes))) := .modify id _
            have stored := (taken.served served).bufferRemaining found connected buffer
              (buffer.length - bytes) env.now
            exact ⟨.head taken stored.1, stored.2⟩
        · exact served.bufferRemaining found connected ..

theorem Served.onSocketWrite (served : Served r) (id : SocketId) (env : SendEnv) :
    Returned r (r.onSocketWrite id env) := by
  simp only [EpollReactor.onSocketWrite]
  cases found : r.connections id with
  | none => exact .quiet .refl
  | some connection =>
      simp only
      split
      · split
        · exact served.returned_marked found _ rfl
        · exact .quiet .refl
      · rename_i bytes _
        have silent := served.silent id connection found
        have sent : Edit r (r.modifySocket id (.send (connection.writeBuffer.content.take bytes))) :=
          .modify id _
        split
        · have stopped : Edits r ((r.modifySocket id _).modifySocket id (.setWriteCallback false)) :=
            .tail (.single sent) (.modify id _)
          rw [silent]
          exact .quiet (stopped.tail (.rewrite found rfl rfl rfl))
        · exact .quiet (.tail (.single sent) (.rewrite found rfl rfl silent))

theorem onSendMessageError_returned (r : EpollReactor) (timerId : TimerId) :
    Returned r (r.onSendMessageError timerId) := by
  simp only [EpollReactor.onSendMessageError]
  cases mapped : r.timerToSocketMap timerId with
  | none => exact .quiet .refl
  | some id =>
      have forgotten : Edits r _ := .single (.forget mapped)
      simp only
      split
      · rename_i found
        exact .lost forgotten (by simp [found]) rfl rfl
      · exact .quiet forgotten

theorem Served.onSocketError (served : Served r) (id : SocketId) (socketError : Int) :
    Returned r (r.onSocketError id socketError) := by
  simp only [EpollReactor.onSocketError]
  split
  · exact .quiet .refl
  · rename_i found
    exact served.returned_marked found _ rfl

theorem Served.onSocketReadPeerClose (served : Served r) (id : SocketId) :
    Returned r (r.onSocketReadPeerClose id) := by
  simp only [EpollReactor.onSocketReadPeerClose]
  split
  · exact .quiet .refl
  · rename_i found
    exact served.returned_marked found _ rfl

theorem Served.onSocketReadLoop (served : Served r) {answers : List RecvAnswer} {ending : ReadEnd}
    {calls : List ReactorCall} (ended : r.onSocketReadLoop id answers = some (ending, next, calls)) :
    (∃ errno, ending = .failed errno) ∧ Returned r (next, calls) ∨
      (∀ errno, ending ≠ .failed errno) ∧ Edits r next ∧
        (calls = [] ∨ calls = [.recvMessageCb id]) := by
  simp only [EpollReactor.onSocketReadLoop] at ended
  split at ended
  · cases ended
  · rename_i connection found
    split at ended
    · cases ended
    · cases ended
      exact .inl ⟨⟨_, rfl⟩, served.returned_marked found _ rfl⟩
    · rename_i unfailed _
      cases ended
      refine .inr ⟨?_, .single (.rewrite found rfl rfl (served.silent id connection found)), ?_⟩
      · rintro errno rfl
        exact unfailed errno rfl
      · split <;> simp

end EpollReactor

end ZBlueNet
