import ZBlueNet.EpollDispatch
import ZBlueNet.ReactorCore
import ZBlueNet.Lib.Runs

/-!
The tables of one `EpollReactor` with their pointers: `sockets_` and `connections_` hold
addresses of objects, a connection has the address of its socket, and the epoller knows
its devices by address.
-/

namespace ZBlueNet

open Runs

abbrev ConnectionPtr := Nat

/-- A `TcpSocket`; `attached` tells that `io_service_` is the reactor and not null. -/
structure SocketObject where
  id : SocketId
  attached : Bool
  readCb : Bool
  errorCb : Bool

def SocketObject.setAttached (attached : Bool) (socket : SocketObject) : SocketObject :=
  { socket with attached := attached }

structure ConnectionObject where
  socket : DevicePtr
  status : ConnectionStatus

structure ReactorTables where
  socketObjects : DevicePtr → Option SocketObject
  connectionObjects : ConnectionPtr → Option ConnectionObject
  sockets : SocketId → Option DevicePtr
  connections : SocketId → Option ConnectionPtr
  epoller : DeviceEpoller

namespace ReactorTables

def create : ReactorTables :=
  { socketObjects := fun _ => none, connectionObjects := fun _ => none
    sockets := fun _ => none, connections := fun _ => none, epoller := .create }

def setObject (r : ReactorTables) (device : DevicePtr) (object : Option SocketObject) :
    ReactorTables :=
  { r with socketObjects := Function.update r.socketObjects device object }

/-! `IODevice`. -/

def detachIOService (r : ReactorTables) (device : DevicePtr) : ReactorTables :=
  match r.socketObjects device with
  | none => r
  | some socket =>
      if socket.attached then
        { r with epoller := (r.epoller.del device).2 }.setObject device
          (some (socket.setAttached false))
      else r

def attachIOService (r : ReactorTables) (device : DevicePtr) (granted : Bool) :
    Bool × ReactorTables :=
  let detached := r.detachIOService device
  let added := detached.epoller.add device granted
  if added.1 then
    (true, { detached with epoller := added.2 }.setObject device
      ((detached.socketObjects device).map (.setAttached true)))
  else (false, { detached with epoller := added.2 })

def deleteSocket (r : ReactorTables) (device : DevicePtr) : ReactorTables :=
  (r.detachIOService device).setObject device none

/-! `Reactor` and `EpollReactor`. -/

def eraseConnection (r : ReactorTables) (id : SocketId) : ReactorTables :=
  match r.connections id with
  | none => r
  | some connection =>
      { r with
        connectionObjects := Function.update r.connectionObjects connection none
        connections := Function.update r.connections id none }

def eraseSocket (r : ReactorTables) (id : SocketId) : ReactorTables :=
  match r.sockets id with
  | none => r
  | some device =>
      let deleted := r.deleteSocket device
      { deleted with sockets := Function.update deleted.sockets id none }

/-- `Reactor::closeSocket`. -/
def baseCloseSocket (r : ReactorTables) (id : SocketId) : ReactorTables :=
  (r.eraseConnection id).eraseSocket id

/-- `EpollReactor::closeSocket`. -/
def closeSocket (r : ReactorTables) (id : SocketId) : ReactorTables :=
  match r.sockets id with
  | none => r
  | some device => (r.detachIOService device).baseCloseSocket id

/-- `insert` leaves an entry that is there. -/
def insertEntries (r : ReactorTables) (id : SocketId) (device : DevicePtr)
    (connection : ConnectionPtr) : ReactorTables :=
  { r with
    sockets := Function.update r.sockets id ((r.sockets id).or (some device))
    connections := Function.update r.connections id ((r.connections id).or (some connection)) }

/-- `device` is the peer socket and `connection` the address of the new connection. -/
def attachSocket (r : ReactorTables) (device : DevicePtr) (granted : Bool)
    (connection : ConnectionPtr) : Bool × ReactorTables :=
  match r.socketObjects device with
  | none => (false, r)
  | some peerSocket =>
      if (r.sockets peerSocket.id).isSome then (false, r)
      else
        let prepared :=
          r.setObject device (some { peerSocket with readCb := true, errorCb := true })
        let attached := prepared.attachIOService device granted
        if attached.1 then
          let created := { attached.2 with
            connectionObjects := Function.update attached.2.connectionObjects connection
              (some { socket := device, status := .connected }) }
          (true, created.insertEntries peerSocket.id device connection)
        else (false, attached.2)

end ReactorTables

/-- `held` are the sockets that a `unique_ptr` outside of the reactor owns. -/
structure TablesRun where
  tables : ReactorTables
  held : Finset DevicePtr

/-- `accept` is a new socket with its id, `drop` the end of a `unique_ptr`, and `callback` an event
of a registered socket, whose callbacks close sockets. -/
inductive TablesEvent
  | accept (device : DevicePtr) (id : SocketId)
  | attach (device : DevicePtr) (granted : Bool) (connection : ConnectionPtr)
  | drop (device : DevicePtr)
  | close (id : SocketId)
  | callback (device : DevicePtr) (closed : List SocketId)

namespace TablesRun

def start : TablesRun := { tables := .create, held := ∅ }

/-- Objects are created at addresses that are free. -/
def step (run : TablesRun) : TablesEvent → Option TablesRun
  | .accept device id =>
      if run.tables.socketObjects device = none then
        some { tables := run.tables.setObject device
                 (some { id := id, attached := false, readCb := false, errorCb := false })
               held := insert device run.held }
      else none
  | .attach device granted connection =>
      if device ∈ run.held ∧ run.tables.connectionObjects connection = none then
        let attached := run.tables.attachSocket device granted connection
        some { tables := attached.2
               held := if attached.1 then run.held.erase device else run.held }
      else none
  | .drop device =>
      if device ∈ run.held then
        some { tables := run.tables.deleteSocket device, held := run.held.erase device }
      else none
  | .close id => some { run with tables := run.tables.closeSocket id }
  | .callback device closed =>
      if device ∈ run.tables.epoller.registered then
        some { run with tables := closed.foldl ReactorTables.closeSocket run.tables }
      else none

end TablesRun

structure ReactorTables.Untouched (before after : ReactorTables) : Prop where
  sockets : after.sockets = before.sockets
  connections : after.connections = before.connections
  registered : after.epoller.registered = before.epoller.registered

namespace TablesRun

structure Consistent (run : TablesRun) : Prop where
  keys : ∀ id, (run.tables.sockets id).isSome ↔ (run.tables.connections id).isSome
  refers : ∀ id device connection, run.tables.sockets id = some device →
    run.tables.connections id = some connection →
    ∃ object, run.tables.connectionObjects connection = some object ∧ object.socket = device
  own : ∀ id device, run.tables.sockets id = some device →
    ∃ socket, run.tables.socketObjects device = some socket ∧ socket.id = id
  registered : ∀ device, device ∈ run.tables.epoller.registered ↔
    ∃ id, run.tables.sockets id = some device
  refused : ∀ device ∈ run.held, ∀ granted connection,
    (run.tables.attachSocket device granted connection).1 = false →
    run.tables.Untouched (run.tables.attachSocket device granted connection).2
  unknown : ∀ id, run.tables.sockets id = none → run.tables.closeSocket id = run.tables

end TablesRun

def SocketObject.prepared (attached : Bool) (socket : SocketObject) : SocketObject :=
  { socket with readCb := true, errorCb := true, attached := attached }

structure ReactorTables.Sound (r : ReactorTables) : Prop where
  keys : ∀ {id}, r.connections id = none → r.sockets id = none
  refers : ∀ {id connection}, r.connections id = some connection →
    ∃ object, r.connectionObjects connection = some object ∧ r.sockets id = some object.socket
  own : ∀ {id device}, r.sockets id = some device →
    ∃ socket, r.socketObjects device = some socket ∧ socket.id = id ∧ socket.attached = true
  registered : ∀ {device}, device ∈ r.epoller.registered ↔ ∃ id, r.sockets id = some device

def ReactorTables.Loose (r : ReactorTables) (device : DevicePtr) : Prop :=
  (∀ id, r.sockets id ≠ some device) ∧
    ∃ socket, r.socketObjects device = some socket ∧ socket.attached = false

namespace ReactorTables

variable {r : ReactorTables} {id other : SocketId} {device : DevicePtr} {socket : SocketObject}
  {connection : ConnectionPtr}

theorem Sound.create : create.Sound := by
  constructor
  case keys => exact fun _ => rfl
  case refers => nofun
  case own => nofun
  case registered => simp [ReactorTables.create, DeviceEpoller.create]

theorem Sound.injective (sound : r.Sound) (here : r.sockets id = some device)
    (there : r.sockets other = some device) : id = other := by
  obtain ⟨socket, object, own, -⟩ := sound.own here
  obtain ⟨socket', object', own', -⟩ := sound.own there
  rw [object] at object'
  cases object'
  exact own.symm.trans own'

theorem detachIOService_of_loose (loose : r.Loose device) : r.detachIOService device = r := by
  obtain ⟨-, socket, object, detached⟩ := loose
  simp [detachIOService, object, detached]

theorem detachIOService_of_attached (object : r.socketObjects device = some socket)
    (attached : socket.attached = true) :
    r.detachIOService device =
      { r with epoller := (r.epoller.del device).2 }.setObject device
        (some (socket.setAttached false)) := by
  simp [detachIOService, object, attached]

theorem Sound.closeSocket_eq (sound : r.Sound) (here : r.sockets id = some device) :
    ∃ connection object, r.connections id = some connection ∧
      r.connectionObjects connection = some object ∧ object.socket = device ∧
      r.closeSocket id = {
        socketObjects := Function.update r.socketObjects device none
        connectionObjects := Function.update r.connectionObjects connection none
        sockets := Function.update r.sockets id none
        connections := Function.update r.connections id none
        epoller := (r.epoller.del device).2 } := by
  obtain ⟨socket, object, own, attached⟩ := sound.own here
  cases entry : r.connections id with
  | none =>
      rw [sound.keys entry] at here
      cases here
  | some connection =>
      obtain ⟨connectionObject, created, refers⟩ := sound.refers entry
      rw [here] at refers
      refine ⟨connection, connectionObject, rfl, created, (Option.some.inj refers).symm, ?_⟩
      simp only [closeSocket, here]
      rw [detachIOService_of_attached object attached]
      simp [baseCloseSocket, eraseConnection, eraseSocket, setObject, entry, here, deleteSocket,
        detachIOService, SocketObject.setAttached]

theorem closeSocket_unknown (here : r.sockets id = none) : r.closeSocket id = r := by
  rw [closeSocket, here]

theorem Sound.del_registered (sound : r.Sound) (here : r.sockets id = some device) :
    (r.epoller.del device).2.registered = r.epoller.registered.erase device := by
  have present := sound.registered.mpr ⟨id, here⟩
  simp [DeviceEpoller.del, present]

theorem Sound.closeSocket (sound : r.Sound) (id : SocketId) : (r.closeSocket id).Sound := by
  cases here : r.sockets id with
  | none =>
      rw [closeSocket_unknown here]
      exact sound
  | some device =>
      obtain ⟨connection, created, entry, refers, same, closed⟩ := sound.closeSocket_eq here
      rw [closed]
      constructor
      case keys =>
          intro other gone
          by_cases apart : other = id
          · simp [apart]
          · dsimp only at gone ⊢
            rw [Function.update_of_ne apart] at gone ⊢
            exact sound.keys gone
      case refers =>
          intro other connection' entry'
          by_cases apart : other = id
          · simp [apart] at entry'
          · dsimp only at entry' ⊢
            rw [Function.update_of_ne apart] at entry' ⊢
            obtain ⟨object, created', refers'⟩ := sound.refers entry'
            have fresh : connection' ≠ connection := by
              rintro rfl
              rw [refers] at created'
              cases created'
              rw [same] at refers'
              exact apart (sound.injective refers' here)
            rw [Function.update_of_ne fresh]
            exact ⟨object, created', refers'⟩
      case own =>
          intro other device' there
          by_cases apart : other = id
          · simp [apart] at there
          · dsimp only at there ⊢
            rw [Function.update_of_ne apart] at there
            have fresh : device' ≠ device := by
              rintro rfl
              exact apart (sound.injective there here)
            rw [Function.update_of_ne fresh]
            exact sound.own there
      case registered =>
          intro device'
          dsimp only
          rw [sound.del_registered here, Finset.mem_erase, sound.registered]
          constructor
          · rintro ⟨fresh, other, there⟩
            refine ⟨other, ?_⟩
            rw [Function.update_of_ne]
            · exact there
            · rintro rfl
              rw [here] at there
              exact fresh (Option.some.inj there).symm
          · rintro ⟨other, there⟩
            by_cases apart : other = id
            · simp [apart] at there
            · rw [Function.update_of_ne apart] at there
              refine ⟨?_, other, there⟩
              rintro rfl
              exact apart (sound.injective there here)

theorem Sound.loose_closeSocket (sound : r.Sound) (loose : r.Loose device) (id : SocketId) :
    (r.closeSocket id).Loose device := by
  cases here : r.sockets id with
  | none =>
      rw [closeSocket_unknown here]
      exact loose
  | some closed =>
      obtain ⟨connection, created, entry, refers, same, result⟩ := sound.closeSocket_eq here
      have apart : device ≠ closed := by
        rintro rfl
        exact loose.1 id here
      rw [result]
      constructor
      · intro other
        by_cases same : other = id
        · simp [same]
        · dsimp only
          rw [Function.update_of_ne same]
          exact loose.1 other
      · dsimp only
        rw [Function.update_of_ne apart]
        exact loose.2

def withEntries (r : ReactorTables) (peer : SocketObject) (device : DevicePtr)
    (connection : ConnectionPtr) : ReactorTables :=
  { socketObjects := Function.update r.socketObjects device
      (some (SocketObject.prepared true peer))
    connectionObjects := Function.update r.connectionObjects connection
      (some { socket := device, status := .connected })
    sockets := Function.update r.sockets peer.id (some device)
    connections := Function.update r.connections peer.id
      ((r.connections peer.id).or (some connection))
    epoller := (r.epoller.add device true).2 }

theorem attachSocket_eq (loose : r.Loose device) (granted : Bool) (connection : ConnectionPtr) :
    ∃ peer, r.socketObjects device = some peer ∧ peer.attached = false ∧
      r.attachSocket device granted connection =
        if (r.sockets peer.id).isSome then (false, r)
        else if granted ∧ device ∉ r.epoller.registered then
          (true, r.withEntries peer device connection)
        else (false, r.setObject device (some (SocketObject.prepared false peer))) := by
  obtain ⟨-, peer, object, detached⟩ := loose
  refine ⟨peer, object, detached, ?_⟩
  simp only [attachSocket, object]
  by_cases taken : (r.sockets peer.id).isSome = true
  · rw [if_pos taken, if_pos taken]
  · have missing : r.sockets peer.id = none := by simpa using taken
    rw [if_neg taken, if_neg taken]
    by_cases added : granted ∧ device ∉ r.epoller.registered
    · simp [attachIOService, detachIOService, setObject, detached, DeviceEpoller.add, added,
        insertEntries, missing, SocketObject.setAttached, SocketObject.prepared, withEntries]
    · simp [attachIOService, detachIOService, setObject, detached, DeviceEpoller.add, added,
        SocketObject.prepared]

theorem Sound.setObject (sound : r.Sound) (outside : ∀ id, r.sockets id ≠ some device)
    (object : Option SocketObject) : (r.setObject device object).Sound := by
  constructor
  case keys => exact sound.keys
  case refers => exact sound.refers
  case own =>
      intro other device' there
      have apart : device' ≠ device := by
        rintro rfl
        exact outside other there
      simp only [ReactorTables.setObject, Function.update_of_ne apart]
      exact sound.own there
  case registered => exact sound.registered

theorem Loose.setObject {place : DevicePtr} (loose : r.Loose place)
    {object : Option SocketObject} (apart : place ≠ device) :
    (r.setObject device object).Loose place := by
  refine ⟨loose.1, ?_⟩
  simp only [ReactorTables.setObject, Function.update_of_ne apart]
  exact loose.2

theorem Loose.of_setObject (outside : ∀ id, r.sockets id ≠ some device)
    (detached : socket.attached = false) : (r.setObject device (some socket)).Loose device :=
  ⟨outside, socket, Function.update_self .., detached⟩

theorem attachSocket_refused {granted : Bool} (loose : r.Loose device)
    (refused : (r.attachSocket device granted connection).1 = false) :
    r.Untouched (r.attachSocket device granted connection).2 ∧
      (r.Sound → (r.attachSocket device granted connection).2.Sound) ∧
      ∀ place, r.Loose place → (r.attachSocket device granted connection).2.Loose place := by
  obtain ⟨peer, object, detached, result⟩ := attachSocket_eq loose granted connection
  rw [result] at refused ⊢
  split at refused
  next known =>
      rw [if_pos known]
      exact ⟨⟨rfl, rfl, rfl⟩, id, fun _ => id⟩
  next unknown =>
      rw [if_neg unknown]
      split at refused
      next => cases refused
      next failed =>
          rw [if_neg failed]
          refine ⟨⟨rfl, rfl, rfl⟩, fun sound => sound.setObject loose.1 _, ?_⟩
          intro place elsewhere
          by_cases same : place = device
          · rw [same]
            exact Loose.of_setObject loose.1 rfl
          · exact elsewhere.setObject same

theorem Sound.connections_none (sound : r.Sound) (missing : r.sockets id = none) :
    r.connections id = none := by
  cases entry : r.connections id with
  | none => rfl
  | some old =>
      obtain ⟨object, -, refers⟩ := sound.refers entry
      rw [missing] at refers
      cases refers

theorem add_registered (new : device ∉ r.epoller.registered) :
    (r.epoller.add device true).2.registered = insert device r.epoller.registered := by
  simp [DeviceEpoller.add, new]

theorem Sound.withEntries (sound : r.Sound) (outside : ∀ id, r.sockets id ≠ some device)
    (missing : r.sockets socket.id = none) (free : r.connectionObjects connection = none) :
    (r.withEntries socket device connection).Sound := by
  have alone := sound.connections_none missing
  have new : device ∉ r.epoller.registered := by
    rw [sound.registered]
    rintro ⟨id, there⟩
    exact outside id there
  rw [ReactorTables.withEntries, alone, Option.none_or]
  constructor
  case keys =>
      intro other gone
      by_cases same : other = socket.id
      · simp [same] at gone
      · dsimp only at gone ⊢
        rw [Function.update_of_ne same] at gone ⊢
        exact sound.keys gone
  case refers =>
      intro other connection' entry
      by_cases same : other = socket.id
      · simp only [same, Function.update_self, Option.some.injEq] at entry
        subst entry
        exact ⟨_, Function.update_self .., by simp [same]⟩
      · dsimp only at entry ⊢
        rw [Function.update_of_ne same] at entry ⊢
        obtain ⟨object, created, refers⟩ := sound.refers entry
        have apart : connection' ≠ connection := by
          rintro rfl
          rw [free] at created
          cases created
        rw [Function.update_of_ne apart]
        exact ⟨object, created, refers⟩
  case own =>
      intro other device' there
      by_cases same : other = socket.id
      · simp only [same, Function.update_self, Option.some.injEq] at there
        subst there
        exact ⟨_, Function.update_self .., same.symm, rfl⟩
      · dsimp only at there ⊢
        rw [Function.update_of_ne same] at there
        have apart : device' ≠ device := by
          rintro rfl
          exact outside other there
        rw [Function.update_of_ne apart]
        exact sound.own there
  case registered =>
      intro device'
      dsimp only
      rw [add_registered new, Finset.mem_insert, sound.registered]
      constructor
      · rintro (rfl | ⟨other, there⟩)
        · exact ⟨socket.id, Function.update_self ..⟩
        · refine ⟨other, ?_⟩
          rw [Function.update_of_ne]
          · exact there
          · rintro rfl
            rw [missing] at there
            cases there
      · rintro ⟨other, there⟩
        by_cases same : other = socket.id
        · simp only [same, Function.update_self, Option.some.injEq] at there
          exact .inl there.symm
        · rw [Function.update_of_ne same] at there
          exact .inr ⟨other, there⟩

theorem Loose.withEntries {place : DevicePtr} (loose : r.Loose place) (apart : place ≠ device) :
    (r.withEntries socket device connection).Loose place := by
  constructor
  · intro other
    by_cases same : other = socket.id
    · simpa [ReactorTables.withEntries, same] using Ne.symm apart
    · simp only [ReactorTables.withEntries, Function.update_of_ne same]
      exact loose.1 other
  · simp only [ReactorTables.withEntries, Function.update_of_ne apart]
    exact loose.2

theorem attachSocket_granted {granted : Bool} (loose : r.Loose device)
    (attached : (r.attachSocket device granted connection).1 = true) :
    ∃ peer, r.sockets peer.id = none ∧
      (r.attachSocket device granted connection).2 = r.withEntries peer device connection := by
  obtain ⟨peer, object, detached, result⟩ := attachSocket_eq loose granted connection
  rw [result] at attached ⊢
  split at attached
  next => cases attached
  next unknown =>
      rw [if_neg unknown]
      split at attached
      next added =>
          rw [if_pos added]
          exact ⟨peer, by simpa using unknown, rfl⟩
      next => cases attached

theorem Sound.outside (sound : r.Sound) (free : r.socketObjects device = none) (id : SocketId) :
    r.sockets id ≠ some device := by
  intro there
  obtain ⟨socket, object, -⟩ := sound.own there
  rw [free] at object
  cases object

end ReactorTables

namespace TablesRun

structure Sound (run : TablesRun) : Prop where
  tables : run.tables.Sound
  held : ∀ device ∈ run.held, run.tables.Loose device

variable {run next : TablesRun} {event : TablesEvent}

theorem Sound.start : start.Sound :=
  ⟨ReactorTables.Sound.create, fun _ member => absurd member (Finset.notMem_empty _)⟩

theorem Sound.closeSocket (sound : run.Sound) (id : SocketId) :
    ({ run with tables := run.tables.closeSocket id } : TablesRun).Sound :=
  ⟨sound.tables.closeSocket id,
    fun device member => sound.tables.loose_closeSocket (sound.held device member) id⟩

theorem Sound.closeSockets (sound : run.Sound) (closed : List SocketId) :
    ({ run with tables := closed.foldl ReactorTables.closeSocket run.tables } : TablesRun).Sound := by
  induction closed generalizing run with
  | nil => exact sound
  | cons id rest ih => exact ih (sound.closeSocket id)

theorem Sound.attach {device : DevicePtr} {granted : Bool} {connection : ConnectionPtr}
    (sound : run.Sound) (member : device ∈ run.held)
    (free : run.tables.connectionObjects connection = none) :
    Sound {
      tables := (run.tables.attachSocket device granted connection).2
      held := if (run.tables.attachSocket device granted connection).1 then run.held.erase device
        else run.held } := by
  have loose := sound.held device member
  cases attached : (run.tables.attachSocket device granted connection).1 with
  | false =>
      obtain ⟨-, keeps, stays⟩ := ReactorTables.attachSocket_refused loose attached
      exact ⟨keeps sound.tables, fun place held => stays place (sound.held place held)⟩
  | true =>
      obtain ⟨peer, missing, entered⟩ := ReactorTables.attachSocket_granted loose attached
      rw [entered]
      constructor
      case tables => exact sound.tables.withEntries loose.1 missing free
      case held =>
          intro place held
          obtain ⟨apart, held⟩ := Finset.mem_erase.mp held
          exact (sound.held place held).withEntries apart

theorem Sound.step (sound : run.Sound) (taken : run.step event = some next) : next.Sound := by
  cases event with
  | accept device id =>
      simp only [TablesRun.step, Option.ite_none_right_eq_some, Option.some.injEq] at taken
      obtain ⟨free, rfl⟩ := taken
      have outside := sound.tables.outside free
      constructor
      case tables => exact sound.tables.setObject outside _
      case held =>
          intro place member
          by_cases same : place = device
          · rw [same]
            exact ReactorTables.Loose.of_setObject outside rfl
          · have held := (Finset.mem_insert.mp member).resolve_left same
            exact (sound.held place held).setObject same
  | attach device granted connection =>
      simp only [TablesRun.step, Option.ite_none_right_eq_some, Option.some.injEq] at taken
      obtain ⟨⟨member, free⟩, rfl⟩ := taken
      exact sound.attach member free
  | drop device =>
      simp only [TablesRun.step, Option.ite_none_right_eq_some, Option.some.injEq] at taken
      obtain ⟨member, rfl⟩ := taken
      have loose := sound.held device member
      rw [ReactorTables.deleteSocket, ReactorTables.detachIOService_of_loose loose]
      constructor
      case tables => exact sound.tables.setObject loose.1 _
      case held =>
          intro place held
          obtain ⟨apart, held⟩ := Finset.mem_erase.mp held
          exact (sound.held place held).setObject apart
  | close id =>
      cases taken
      exact sound.closeSocket id
  | callback device closed =>
      simp only [TablesRun.step, Option.ite_none_right_eq_some, Option.some.injEq] at taken
      obtain ⟨-, rfl⟩ := taken
      exact sound.closeSockets closed

theorem Sound.consistent (sound : run.Sound) : run.Consistent := by
  constructor
  case keys =>
      intro id
      constructor
      · intro present
        by_contra missing
        rw [Option.not_isSome_iff_eq_none] at missing
        rw [sound.tables.keys missing] at present
        cases present
      · intro present
        by_contra missing
        rw [Option.not_isSome_iff_eq_none] at missing
        rw [sound.tables.connections_none missing] at present
        cases present
  case refers =>
      intro id device connection here entry
      obtain ⟨object, created, refers⟩ := sound.tables.refers entry
      rw [here] at refers
      exact ⟨object, created, (Option.some.inj refers).symm⟩
  case own =>
      intro id device here
      obtain ⟨socket, object, own, -⟩ := sound.tables.own here
      exact ⟨socket, object, own⟩
  case registered => exact fun device => sound.tables.registered
  case refused =>
      intro device member granted connection refused
      exact (ReactorTables.attachSocket_refused (sound.held device member) refused).1
  case unknown => exact fun id missing => ReactorTables.closeSocket_unknown missing

/-- The two maps, the objects and the registrations agree after any sequence of operations. -/
theorem tables_consistent (events : List TablesEvent) : Every step Consistent start events := by
  have preserved {run : TablesRun} {event : TablesEvent} {next : TablesRun} (sound : run.Sound)
      (_ : (fun _ _ => True : TablesRun → TablesEvent → Prop) run event)
      (taken : run.step event = some next) : next.Sound :=
    sound.step taken
  exact Every.mono Sound.consistent
    (every_of_invariant preserved Sound.start (along_always start events))

end TablesRun

end ZBlueNet
