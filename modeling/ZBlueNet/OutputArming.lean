import ZBlueNet.DynamicBuffer
import ZBlueNet.ReactorCore
import ZBlueNet.Lib.Runs

/-!
Unread bytes in a write buffer and the event mask of its socket, over runs of one
`EpollReactor`. No function of the reactor changes a mask once a device has been
added, so a connection is armed only as long as nothing waits.
-/

namespace ZBlueNet

open Runs EpollReactor

inductive ReactorEvent
  | attachSocket (id : SocketId) (granted : Bool)
  | sendMessage (id : SocketId) (buffer : List UInt8)
      (sendCompleteCb : Option SendCompleteCallback) (env : SendEnv)
  | sendMessageThenClose (id : SocketId) (buffer : List UInt8) (env : SendEnv)
  | broadcastMessage (buffer : List UInt8) (answers : List (SocketId × SendEnv))
  | onSocketReadLoop (id : SocketId) (answers : List RecvAnswer)
  | onSocketReadPeerClose (id : SocketId)
  | onSocketWrite (id : SocketId) (env : SendEnv)
  | onSocketError (id : SocketId) (socketError : Int)
  | closeSocket (id : SocketId)
  | onSendMessageError (timerId : TimerId)

namespace OutputArming

def step (r : EpollReactor) : ReactorEvent → Option EpollReactor
  | .attachSocket id granted => some (r.attachSocket id .create granted).2
  | .sendMessage id buffer sendCompleteCb env =>
      some (r.sendMessage id buffer sendCompleteCb env).2.1
  | .sendMessageThenClose id buffer env => some (r.sendMessageThenClose id buffer env).2.1
  | .broadcastMessage buffer answers => some (r.broadcastMessage buffer answers)
  | .onSocketReadLoop id answers => (r.onSocketReadLoop id answers).map (·.2.1)
  | .onSocketReadPeerClose id => some (r.onSocketReadPeerClose id).1
  | .onSocketWrite id env => some (r.onSocketWrite id env).1
  | .onSocketError id socketError => some (r.onSocketError id socketError).1
  | .closeSocket id => some (r.closeSocket id)
  | .onSendMessageError timerId => some (r.onSendMessageError timerId).1

/-- A connected connection with unread bytes is registered for `EPOLLOUT`. -/
def Armed (r : EpollReactor) : Prop :=
  ∀ id, ∀ connection ∈ r.connections id, connection.status = .connected →
    connection.writeBuffer.readableBytes ≠ 0 →
      ∃ mask ∈ r.epoller.registered id, mask.epollout = true

def HasRoom (r : EpollReactor) (connection : TcpConnection) (remainSize : Nat) : Prop :=
  ¬(r.connWriteBufferMaxSize > 0 ∧
    sizeAdd remainSize connection.writeBuffer.readableBytes > r.connWriteBufferMaxSize)

/-- The socket leaves a part of the message, and the write buffer has room for it. -/
def LeavesRest (r : EpollReactor) (connection : TcpConnection) (buffer : List UInt8) :
    SendResult → Prop
  | .error errno => errno = eagain ∧ 0 < buffer.length ∧ HasRoom r connection buffer.length
  | .count bytes => 0 < buffer.length - bytes ∧ HasRoom r connection (buffer.length - bytes)

def SentWhole (r : EpollReactor) (id : SocketId) (buffer : List UInt8) (env : SendEnv) : Prop :=
  ∀ connection ∈ r.connections id, connection.status = .connected →
    ¬LeavesRest r connection buffer env.result

def NothingWaits (r : EpollReactor) : ReactorEvent → Prop
  | .sendMessage id buffer _ env => SentWhole r id buffer env
  | .sendMessageThenClose id buffer env => SentWhole r id buffer env
  | .broadcastMessage buffer answers => ∀ answer ∈ answers, SentWhole r answer.1 buffer answer.2
  | _ => True

def HasMemory (r : EpollReactor) (id : SocketId) (buffer : List UInt8) : Prop :=
  ∀ connection ∈ r.connections id, connection.writeBuffer.Fits buffer.length

/-- The address space has room for the message, and a broadcast visits a connection once. -/
def Admissible (r : EpollReactor) : ReactorEvent → Prop
  | .sendMessage id buffer _ _ => HasMemory r id buffer
  | .sendMessageThenClose id buffer _ => HasMemory r id buffer
  | .broadcastMessage buffer answers =>
      (answers.map (·.1)).Nodup ∧ ∀ answer ∈ answers, HasMemory r answer.1 buffer
  | _ => True

instance (r : EpollReactor) (connection : TcpConnection) (remainSize : Nat) :
    Decidable (HasRoom r connection remainSize) :=
  inferInstanceAs (Decidable ¬_)

instance (r : EpollReactor) (connection : TcpConnection) (buffer : List UInt8) :
    DecidablePred (LeavesRest r connection buffer)
  | .error _ => inferInstanceAs (Decidable (_ ∧ _ ∧ _))
  | .count _ => inferInstanceAs (Decidable (_ ∧ _))

instance (r : EpollReactor) (id : SocketId) (buffer : List UInt8) (env : SendEnv) :
    Decidable (SentWhole r id buffer env) :=
  inferInstanceAs (Decidable (∀ connection ∈ r.connections id, _))

instance (r : EpollReactor) : DecidablePred (NothingWaits r)
  | .sendMessage _ _ _ _ => inferInstanceAs (Decidable (SentWhole _ _ _ _))
  | .sendMessageThenClose _ _ _ => inferInstanceAs (Decidable (SentWhole _ _ _ _))
  | .broadcastMessage _ _ => inferInstanceAs (Decidable (∀ answer ∈ _, SentWhole _ _ _ _))
  | .attachSocket _ _ | .onSocketReadLoop _ _ | .onSocketReadPeerClose _ | .onSocketWrite _ _
  | .onSocketError _ _ | .closeSocket _ | .onSendMessageError _ => .isTrue trivial

instance (r : EpollReactor) (id : SocketId) (buffer : List UInt8) :
    Decidable (HasMemory r id buffer) :=
  inferInstanceAs (Decidable (∀ connection ∈ r.connections id,
    connection.writeBuffer.readableBytes + _ + _ < _))

instance (r : EpollReactor) : DecidablePred (Admissible r)
  | .sendMessage _ _ _ _ => inferInstanceAs (Decidable (HasMemory _ _ _))
  | .sendMessageThenClose _ _ _ => inferInstanceAs (Decidable (HasMemory _ _ _))
  | .broadcastMessage _ _ =>
      inferInstanceAs (Decidable (_ ∧ ∀ answer ∈ _, HasMemory _ _ _))
  | .attachSocket _ _ | .onSocketReadLoop _ _ | .onSocketReadPeerClose _ | .onSocketWrite _ _
  | .onSocketError _ _ | .closeSocket _ | .onSendMessageError _ => .isTrue trivial

def Unarmed (r : EpollReactor) : Prop :=
  ∀ id, ∀ mask ∈ r.epoller.registered id, mask.epollout = false

def Idle (entry : Option TcpConnection) : Prop :=
  ∀ connection ∈ entry, connection.status = .connected → connection.writeBuffer.readableBytes = 0

def Known (id : SocketId) (entry : Option TcpConnection) : Prop :=
  ∀ connection ∈ entry, connection.socket = id ∧ connection.writeBuffer.Valid

def Quiet (r : EpollReactor) : Prop := ∀ id, Idle (r.connections id)

structure Wired (r : EpollReactor) : Prop where
  unarmed : Unarmed r
  known : ∀ id, Known id (r.connections id)
  initSize : r.connWriteBufferInitSize < sizeModulus
  expandSize : 0 < r.connWriteBufferExpandSize

theorem Wired.armed_iff {r : EpollReactor} (wired : Wired r) : Armed r ↔ Quiet r := by
  constructor
  · intro armed id connection found connected
    by_contra waiting
    rcases armed id connection found connected waiting with ⟨mask, registered, out⟩
    rw [wired.unarmed id mask registered] at out
    cases out
  · intro quiet id connection found connected waiting
    exact absurd (quiet id connection found connected) waiting

structure Outcome (id : SocketId) (r next : EpollReactor) (entry : Option TcpConnection) :
    Prop where
  connections : next.connections = Function.update r.connections id entry
  unarmed : Unarmed r → Unarmed next
  initSize : next.connWriteBufferInitSize = r.connWriteBufferInitSize
  expandSize : next.connWriteBufferExpandSize = r.connWriteBufferExpandSize
  maxSize : next.connWriteBufferMaxSize = r.connWriteBufferMaxSize

def Effect (id : SocketId) (r next : EpollReactor) (whole : Prop) : Prop :=
  ∃ entry, Outcome id r next entry ∧ Known id entry ∧
    (Idle (r.connections id) → (Idle entry ↔ whole))

section Effects

variable {r next : EpollReactor} {id : SocketId} {connection : TcpConnection} {whole : Prop}

theorem idle_none : Idle none := by
  intro connection found
  cases found

theorem idle_of_status (status : connection.status ≠ .connected) : Idle (some connection) := by
  intro current same connected
  cases same
  exact absurd connected status

theorem Effect.wired (effect : Effect id r next whole) (wired : Wired r) : Wired next := by
  rcases effect with ⟨entry, outcome, known, -⟩
  refine ⟨outcome.unarmed wired.unarmed, ?_, ?_, ?_⟩
  · intro other
    rw [outcome.connections]
    by_cases same : other = id
    · subst same
      rw [Function.update_self]
      exact known
    · rw [Function.update_of_ne same]
      exact wired.known other
  · rw [outcome.initSize]
    exact wired.initSize
  · rw [outcome.expandSize]
    exact wired.expandSize

theorem Effect.quiet_iff (effect : Effect id r next whole) (quiet : Quiet r) :
    Quiet next ↔ whole := by
  rcases effect with ⟨entry, outcome, -, decides⟩
  rw [← decides (quiet id)]
  constructor
  · intro still
    have here := still id
    rw [outcome.connections, Function.update_self] at here
    exact here
  · intro idle other
    rw [outcome.connections]
    by_cases same : other = id
    · subst same
      rw [Function.update_self]
      exact idle
    · rw [Function.update_of_ne same]
      exact quiet other

theorem Effect.congr {other : Prop} (effect : Effect id r next whole)
    (same : Idle (r.connections id) → (whole ↔ other)) : Effect id r next other := by
  rcases effect with ⟨entry, outcome, known, decides⟩
  exact ⟨entry, outcome, known, fun idle => (decides idle).trans (same idle)⟩

theorem Outcome.same (id : SocketId) (r : EpollReactor) : Outcome id r r (r.connections id) :=
  ⟨(Function.update_eq_self id r.connections).symm, fun unarmed => unarmed, rfl, rfl, rfl⟩

structure Alike (r other : EpollReactor) : Prop where
  connections : r.connections = other.connections
  registered : r.epoller = other.epoller
  initSize : r.connWriteBufferInitSize = other.connWriteBufferInitSize
  expandSize : r.connWriteBufferExpandSize = other.connWriteBufferExpandSize
  maxSize : r.connWriteBufferMaxSize = other.connWriteBufferMaxSize

theorem Alike.refl (r : EpollReactor) : Alike r r :=
  ⟨rfl, rfl, rfl, rfl, rfl⟩

theorem Effect.alike {before after : EpollReactor} (effect : Effect id r next whole)
    (start : Alike before r) (finish : Alike next after) : Effect id before after whole := by
  rcases effect with ⟨entry, outcome, known, decides⟩
  refine ⟨entry, ⟨?_, ?_, ?_, ?_, ?_⟩, known, start.connections ▸ decides⟩
  · rw [← finish.connections, outcome.connections, start.connections]
  · rw [Unarmed, Unarmed, start.registered, ← finish.registered]
    exact outcome.unarmed
  · rw [← finish.initSize, outcome.initSize, start.initSize]
  · rw [← finish.expandSize, outcome.expandSize, start.expandSize]
  · rw [← finish.maxSize, outcome.maxSize, start.maxSize]

theorem Effect.trans {middle : EpollReactor} (first : Effect id r middle True)
    (second : Effect id middle next True) : Effect id r next True := by
  rcases first with ⟨entry, outcome, -, decides⟩
  rcases second with ⟨final, reached, known, settles⟩
  refine ⟨final, ⟨?_, ?_, ?_, ?_, ?_⟩, known, ?_⟩
  · rw [reached.connections, outcome.connections, Function.update_idem]
  · intro unarmed
    exact reached.unarmed (outcome.unarmed unarmed)
  · exact reached.initSize.trans outcome.initSize
  · exact reached.expandSize.trans outcome.expandSize
  · exact reached.maxSize.trans outcome.maxSize
  · intro idle
    apply settles
    rw [outcome.connections, Function.update_self]
    exact (decides idle).mpr trivial

theorem Effect.same (known : Known id (r.connections id)) : Effect id r r True :=
  ⟨_, .same id r, known, fun idle => iff_of_true idle trivial⟩

theorem Effect.setConnection (found : r.connections id = some connection)
    {changed : TcpConnection} (known : Known id (some changed))
    (idle : Idle (some connection) → Idle (some changed)) :
    Effect id r (r.setConnection id changed) True := by
  refine ⟨some changed, ⟨rfl, fun unarmed => unarmed, rfl, rfl, rfl⟩, known, ?_⟩
  intro before
  rw [found] at before
  exact iff_of_true (idle before) trivial

theorem Effect.setError (found : r.connections id = some connection)
    (known : Known id (some connection)) (errorCode : Int) :
    Effect id r (r.setConnection id (connection.setError errorCode)) True := by
  apply Effect.setConnection found
  · intro changed same
    cases same
    exact known connection rfl
  · intro _
    exact idle_of_status (by simp [TcpConnection.setError])

theorem del_registered {epoller : Epoller} {other : SocketId} {mask : EventMask}
    (registered : mask ∈ (epoller.del id).2.registered other) :
    mask ∈ epoller.registered other := by
  simp only [Epoller.del] at registered
  split at registered
  · exact registered
  · by_cases same : other = id
    · subst same
      simp at registered
    · simpa [same] using registered

theorem detachIOService_spec (r : EpollReactor) (id : SocketId) :
    ∃ sockets epoller, r.detachIOService id = { r with sockets := sockets, epoller := epoller } ∧
      ∀ other, ∀ mask ∈ epoller.registered other, mask ∈ r.epoller.registered other := by
  simp only [detachIOService]
  split
  · exact ⟨r.sockets, r.epoller, rfl, fun _ _ registered => registered⟩
  · split
    · exact ⟨_, _, rfl, fun _ _ registered => del_registered registered⟩
    · exact ⟨r.sockets, r.epoller, rfl, fun _ _ registered => registered⟩

theorem Effect.closeSocket (known : Known id (r.connections id)) :
    Effect id r (r.closeSocket id) True := by
  rcases detachIOService_spec r id with ⟨sockets, epoller, detached, subset⟩
  simp only [EpollReactor.closeSocket, detached]
  split
  · exact Effect.same known
  · refine ⟨none, ⟨rfl, ?_, rfl, rfl, rfl⟩, ?_, fun _ => iff_of_true idle_none trivial⟩
    · intro unarmed other mask registered
      exact unarmed other mask (subset other mask registered)
    · intro connection found
      cases found

theorem Effect.runSendComplete (known : Known id (r.connections id))
    (sendCompleteCb : Option SendCompleteCallback) :
    Effect id r (r.runSendComplete id sendCompleteCb).1 True := by
  rcases sendCompleteCb with _ | close | token
  · exact Effect.same known
  · exact Effect.closeSocket known
  · exact Effect.same known

theorem Effect.failSend (found : r.connections id = some connection)
    (known : Known id (some connection)) (now : Timestamp) (errorCode : Int) :
    Effect id r (r.failSend now connection errorCode) True := by
  have identity := (known connection rfl).1
  subst identity
  exact (Effect.setError found known errorCode).alike (.refl r) ⟨rfl, rfl, rfl, rfl, rfl⟩

theorem Effect.bufferRemaining (found : r.connections id = some connection)
    (known : Known id (some connection)) (connected : connection.status = .connected)
    {buffer : List UInt8} {remainSize : Nat} {sendCompleteCb : Option SendCompleteCallback}
    {now : Timestamp} (bound : remainSize ≤ buffer.length)
    (fits : connection.writeBuffer.Fits buffer.length) :
    Effect id r (r.bufferRemaining connection buffer remainSize sendCompleteCb now).2.1
      ¬(0 < remainSize ∧ HasRoom r connection remainSize) := by
  have identity := (known connection rfl).1
  have valid := (known connection rfl).2
  subst identity
  simp only [EpollReactor.bufferRemaining]
  split
  · rename_i remaining
    split
    · rename_i full
      refine (Effect.failSend found known now enobufs).congr fun _ => iff_of_true trivial ?_
      rintro ⟨-, room⟩
      exact room full
    · rename_i room
      have taken : (buffer.take remainSize).length = remainSize := by
        rw [List.length_take]
        omega
      have fitsTaken : connection.writeBuffer.Fits (buffer.take remainSize).length := by
        simp only [DynamicBuffer.Fits] at fits ⊢
        omega
      have stored := valid.append _ (valid.grows fitsTaken)
      refine ⟨some _, ⟨rfl, fun unarmed => unarmed, rfl, rfl, rfl⟩, ?_, ?_⟩
      · intro changed same
        cases same
        exact ⟨rfl, stored⟩
      · intro _
        refine iff_of_false (fun idle => ?_) (fun allowed => allowed ⟨remaining, room⟩)
        have empty := stored.content_eq_nil.mpr (idle _ rfl connected)
        rw [valid.append_content _ (valid.grows fitsTaken), List.append_eq_nil_iff] at empty
        rw [empty.2, List.length_nil] at taken
        omega
  · rename_i complete
    have known : Known connection.socket (r.connections connection.socket) := found ▸ known
    exact (Effect.runSendComplete known sendCompleteCb).congr fun _ =>
      iff_of_true trivial fun rest => complete rest.1

theorem Effect.sendConnection (found : r.connections id = some connection)
    (known : Known id (some connection)) {buffer : List UInt8}
    (sendCompleteCb : Option SendCompleteCallback) (env : SendEnv)
    (fits : connection.writeBuffer.Fits buffer.length) :
    Effect id r (r.sendConnection connection buffer sendCompleteCb env).2.1
      (connection.status = .connected → ¬LeavesRest r connection buffer env.result) := by
  have here : Known id (r.connections id) := found ▸ known
  rcases env with ⟨result, now⟩
  simp only [EpollReactor.sendConnection]
  split
  · rename_i status
    exact (Effect.same here).congr fun _ =>
      iff_of_true trivial fun connected => absurd connected status
  · rename_i status
    have connected : connection.status = .connected := not_not.mp status
    simp only [connected, true_imp_iff]
    split
    · cases result with
      | error errno =>
          simp only [LeavesRest]
          split
          · rename_i hard
            exact (Effect.failSend found known now errno).congr fun _ =>
              iff_of_true trivial fun rest => hard rest.1
          · rename_i soft
            have retry : errno = eagain := not_not.mp soft
            exact (Effect.bufferRemaining found known connected le_rfl fits).congr fun _ => by
              simp [retry]
      | count bytes =>
          have sent : (r.modifySocket connection.socket
              (.send (buffer.take bytes))).connections id = some connection := found
          exact (Effect.bufferRemaining sent known connected (Nat.sub_le _ _) fits).alike
            ⟨rfl, rfl, rfl, rfl, rfl⟩ (.refl _)
    · rename_i waiting
      refine (Effect.bufferRemaining found known connected le_rfl fits).congr fun idle => ?_
      rw [found] at idle
      exact absurd (idle connection rfl connected) waiting

theorem Effect.sendMessage (known : Known id (r.connections id)) {buffer : List UInt8}
    (sendCompleteCb : Option SendCompleteCallback) (env : SendEnv)
    (memory : HasMemory r id buffer) :
    Effect id r (r.sendMessage id buffer sendCompleteCb env).2.1 (SentWhole r id buffer env) := by
  simp only [EpollReactor.sendMessage]
  split
  · rename_i gone
    refine (Effect.same known).congr fun _ => iff_of_true trivial ?_
    intro connection found
    rw [gone] at found
    cases found
  · rename_i connection found
    rw [found] at known
    refine (Effect.sendConnection found known sendCompleteCb env (memory connection found)).congr
      fun _ => ⟨?_, ?_⟩
    · intro whole current same connected
      rw [found, Option.mem_some_iff] at same
      subst same
      exact whole connected
    · intro whole connected
      exact whole connection found connected

theorem Effect.onSocketWrite (known : Known id (r.connections id)) (env : SendEnv) :
    Effect id r (r.onSocketWrite id env).1 True := by
  rcases env with ⟨result, now⟩
  simp only [EpollReactor.onSocketWrite]
  split
  · exact Effect.same known
  · rename_i connection found
    rw [found] at known
    cases result with
    | error errno =>
        simp only
        split
        · exact Effect.setError found known errno
        · exact Effect.same (found ▸ known)
    | count bytes =>
        simp only
        have valid := (known connection rfl).2
        have still (changed : TcpConnection) (status : changed.status = connection.status)
            (written : changed.writeBuffer = connection.writeBuffer.read bytes) :
            Idle (some connection) → Idle (some changed) := by
          intro idle current same connected
          cases same
          have empty := valid.content_eq_nil.mpr (idle connection rfl (status ▸ connected))
          rw [written, ← (valid.read bytes).content_eq_nil, valid.read_content, empty,
            List.drop_nil]
        have kept (changed : TcpConnection) (identity : changed.socket = connection.socket)
            (written : changed.writeBuffer = connection.writeBuffer.read bytes) :
            Known id (some changed) := by
          intro current same
          cases same
          exact ⟨identity.trans (known connection rfl).1, written ▸ valid.read bytes⟩
        split
        · have replaced : Effect id r (r.setConnection id { connection with
              writeBuffer := connection.writeBuffer.read bytes, sendCompleteCb := none }) True :=
            Effect.setConnection found (kept _ rfl rfl) (still _ rfl rfl)
          refine (replaced.alike (.refl r) ?_).trans (Effect.runSendComplete ?_ _)
          · exact ⟨rfl, rfl, rfl, rfl, rfl⟩
          · simp only [EpollReactor.setConnection, Function.update_self]
            exact kept _ rfl rfl
        · have replaced : Effect id r (r.setConnection id { connection with
              writeBuffer := connection.writeBuffer.read bytes }) True :=
            Effect.setConnection found (kept _ rfl rfl) (still _ rfl rfl)
          exact replaced.alike (.refl r) ⟨rfl, rfl, rfl, rfl, rfl⟩

theorem Effect.onSocketReadLoop (known : Known id (r.connections id))
    {answers : List RecvAnswer} {outcome : ReadEnd × EpollReactor × List ReactorCall}
    (ended : r.onSocketReadLoop id answers = some outcome) : Effect id r outcome.2.1 True := by
  simp only [EpollReactor.onSocketReadLoop] at ended
  split at ended
  · cases ended
  · rename_i connection found
    rw [found] at known
    split at ended
    · cases ended
    · cases ended
      rename_i readBuffer _
      exact Effect.setConnection found
        (fun changed same => by cases same; exact known connection rfl)
        (fun _ => idle_of_status (by simp [TcpConnection.setError]))
    · cases ended
      apply Effect.setConnection found
      · intro changed same
        cases same
        exact known connection rfl
      · intro idle changed same
        cases same
        exact idle connection rfl

theorem Effect.onSocketReadPeerClose (known : Known id (r.connections id)) :
    Effect id r (r.onSocketReadPeerClose id).1 True := by
  simp only [EpollReactor.onSocketReadPeerClose]
  split
  · exact Effect.same known
  · rename_i connection found
    rw [found] at known
    apply Effect.setConnection found
    · intro changed same
      cases same
      exact known connection rfl
    · intro _
      exact idle_of_status (by simp)

theorem Effect.onSocketError (known : Known id (r.connections id)) (socketError : Int) :
    Effect id r (r.onSocketError id socketError).1 True := by
  simp only [EpollReactor.onSocketError]
  split
  · exact Effect.same known
  · rename_i connection found
    rw [found] at known
    exact Effect.setError found known socketError

theorem Effect.onSendMessageError (known : Known id (r.connections id)) (timerId : TimerId) :
    Effect id r (r.onSendMessageError timerId).1 True := by
  have same := Effect.same known
  simp only [EpollReactor.onSendMessageError]
  split
  · exact same
  · rcases same with ⟨entry, outcome, known, decides⟩
    refine ⟨entry, ⟨?_, ?_, ?_, ?_, ?_⟩, known, decides⟩
    all_goals split
    all_goals first
      | exact outcome.connections
      | exact outcome.unarmed
      | rfl

theorem Effect.attachSocket (known : Known id (r.connections id))
    (initSize : r.connWriteBufferInitSize < sizeModulus)
    (expandSize : 0 < r.connWriteBufferExpandSize) (granted : Bool) :
    Effect id r (r.attachSocket id .create granted).2 True := by
  simp only [EpollReactor.attachSocket, Epoller.add]
  split
  · exact Effect.same known
  · split
    · rw [if_pos rfl]
      refine ⟨(r.connections id).or (some (r.newConnection id)), ⟨rfl, ?_, rfl, rfl, rfl⟩, ?_,
        fun idle => iff_of_true ?_ trivial⟩
      · intro unarmed other mask registered
        by_cases same : other = id
        · subst same
          simp only [insertConnection, setSocket, Function.update_self,
            Option.mem_some_iff] at registered
          rw [← registered]
          rfl
        · simp only [insertConnection, setSocket, Function.update_of_ne same] at registered
          exact unarmed other mask registered
      · cases entered : r.connections id with
        | none =>
            intro connection found
            cases found
            exact ⟨rfl, DynamicBuffer.create_valid _ _ initSize expandSize⟩
        | some connection => simpa [entered] using known
      · cases entered : r.connections id with
        | none =>
            intro connection found _
            cases found
            rfl
        | some connection => simpa [entered] using idle
    · simp only [Bool.false_eq_true, if_false]
      exact Effect.same known

end Effects

theorem broadcastMessage_cons (r : EpollReactor) (buffer : List UInt8) (id : SocketId)
    (env : SendEnv) (rest : List (SocketId × SendEnv)) :
    r.broadcastMessage buffer ((id, env) :: rest) =
      (r.sendMessage id buffer none env).2.1.broadcastMessage buffer rest := by
  simp only [broadcastMessage, sendMessage]
  split <;> rfl

theorem Outcome.sentWhole_iff {r next : EpollReactor} {id other : SocketId}
    {entry : Option TcpConnection} (outcome : Outcome id r next entry) (different : other ≠ id)
    (buffer : List UInt8) (env : SendEnv) :
    SentWhole next other buffer env ↔ SentWhole r other buffer env := by
  have room (connection : TcpConnection) (result : SendResult) :
      LeavesRest next connection buffer result ↔ LeavesRest r connection buffer result := by
    cases result <;> simp only [LeavesRest, HasRoom, outcome.maxSize]
  simp only [SentWhole, outcome.connections, Function.update_of_ne different, room]

theorem broadcastMessage_spec {r : EpollReactor} {buffer : List UInt8}
    {answers : List (SocketId × SendEnv)} (wired : Wired r)
    (distinct : (answers.map (·.1)).Nodup)
    (memory : ∀ answer ∈ answers, HasMemory r answer.1 buffer) :
    Wired (r.broadcastMessage buffer answers) ∧
    (∀ id, id ∉ answers.map (·.1) →
      (r.broadcastMessage buffer answers).connections id = r.connections id) ∧
    (Quiet r → (Quiet (r.broadcastMessage buffer answers) ↔
      ∀ answer ∈ answers, SentWhole r answer.1 buffer answer.2)) := by
  induction answers generalizing r with
  | nil => exact ⟨wired, fun _ _ => rfl, fun quiet => iff_of_true quiet (by simp)⟩
  | cons answer rest ih =>
      rcases answer with ⟨id, env⟩
      simp only [List.map_cons, List.nodup_cons] at distinct
      simp only [List.forall_mem_cons] at memory ⊢
      rw [broadcastMessage_cons]
      have effect := Effect.sendMessage (wired.known id) none env memory.1
      have kept := effect.wired wired
      have quiet_iff := effect.quiet_iff
      rcases effect with ⟨entry, outcome, -, decides⟩
      have apart (answer : SocketId × SendEnv) (member : answer ∈ rest) : answer.1 ≠ id := by
        intro same
        exact distinct.1 (same ▸ List.mem_map_of_mem member)
      have frame (other : SocketId) (different : other ≠ id) :
          (r.sendMessage id buffer none env).2.1.connections other = r.connections other := by
        rw [outcome.connections, Function.update_of_ne different]
      rcases ih kept distinct.2 (fun answer member => by
        rw [HasMemory, frame answer.1 (apart answer member)]
        exact memory.2 answer member) with ⟨finished, untouched, later⟩
      refine ⟨finished, ?_, ?_⟩
      · intro other absent
        simp only [List.map_cons, List.mem_cons, not_or] at absent
        rw [untouched other absent.2, frame other absent.1]
      · intro quiet
        by_cases whole : SentWhole r id buffer env
        · rw [later ((quiet_iff quiet).mpr whole)]
          constructor
          · intro each
            exact ⟨whole, fun answer member =>
              (outcome.sentWhole_iff (apart answer member) buffer answer.2).mp (each answer member)⟩
          · rintro ⟨-, each⟩ answer member
            exact (outcome.sentWhole_iff (apart answer member) buffer answer.2).mpr
              (each answer member)
        · refine iff_of_false (fun still => whole ?_) (fun each => whole each.1)
          have here := still id
          rw [untouched id distinct.1, outcome.connections, Function.update_self] at here
          exact (decides (quiet id)).mp here

variable {r next : EpollReactor} {event : ReactorEvent}

theorem step_spec (wired : Wired r) (admissible : Admissible r event)
    (taken : step r event = some next) :
    Wired next ∧ (Quiet r → (Quiet next ↔ NothingWaits r event)) := by
  have settled {id : SocketId} {whole : Prop} (effect : Effect id r next whole) :
      Wired next ∧ (Quiet r → (Quiet next ↔ whole)) :=
    ⟨effect.wired wired, effect.quiet_iff⟩
  cases event with
  | broadcastMessage buffer answers =>
      simp only [step, Option.some.injEq] at taken
      subst taken
      rcases broadcastMessage_spec wired admissible.1 admissible.2 with ⟨kept, -, decides⟩
      exact ⟨kept, decides⟩
  | attachSocket id granted =>
      cases taken
      exact settled (.attachSocket (wired.known id) wired.initSize wired.expandSize granted)
  | sendMessage id buffer sendCompleteCb env =>
      cases taken
      exact settled (.sendMessage (wired.known id) sendCompleteCb env admissible)
  | sendMessageThenClose id buffer env =>
      cases taken
      exact settled (.sendMessage (wired.known id) (some .close) env admissible)
  | onSocketReadLoop id answers =>
      simp only [step, Option.map_eq_some_iff] at taken
      rcases taken with ⟨outcome, ended, rfl⟩
      exact settled (.onSocketReadLoop (wired.known id) ended)
  | onSocketReadPeerClose id =>
      cases taken
      exact settled (.onSocketReadPeerClose (wired.known id))
  | onSocketWrite id env =>
      cases taken
      exact settled (.onSocketWrite (wired.known id) env)
  | onSocketError id socketError =>
      cases taken
      exact settled (.onSocketError (wired.known id) socketError)
  | closeSocket id =>
      cases taken
      exact settled (.closeSocket (wired.known id))
  | onSendMessageError timerId =>
      cases taken
      exact settled (.onSendMessageError (wired.known 0) timerId)

/-- In the runs of a reactor without connections, output is armed all along exactly as long as no
message has to wait in a write buffer. -/
theorem armed_every_iff {start : EpollReactor} (noConnection : ∀ id, start.connections id = none)
    (unarmed : Unarmed start) (initSize : start.connWriteBufferInitSize < sizeModulus)
    (expandSize : 0 < start.connWriteBufferExpandSize) (events : List ReactorEvent)
    (admissible : Along step Admissible start events) :
    Every step Armed start events ↔ Along step NothingWaits start events := by
  have wired : Wired start := by
    refine ⟨unarmed, ?_, initSize, expandSize⟩
    intro id connection found
    rw [noConnection id] at found
    cases found
  have preserved {r next : EpollReactor} {event : ReactorEvent} (wired : Wired r)
      (admissible : Admissible r event) (taken : step r event = some next) : Wired next :=
    (step_spec wired admissible taken).1
  apply every_iff_along preserved
  · intro r event next wired admissible armed taken
    rcases step_spec wired admissible taken with ⟨kept, decides⟩
    rw [kept.armed_iff]
    exact decides (wired.armed_iff.mp armed)
  · intro r event stuck
    cases event with
    | onSocketReadLoop => trivial
    | _ => simp [step] at stuck
  · exact wired
  · rw [wired.armed_iff]
    intro id
    rw [noConnection id]
    exact idle_none
  · exact admissible

def threadReactor : EpollReactor := EpollReactor.create.setBufferSizes 65536 65536

def fullSocket : List ReactorEvent :=
  [.attachSocket 7 true, .sendMessage 7 [1, 2] none { result := .error eagain, now := ⟨0, 0⟩ }]

theorem fullSocket_breaks :
    Along step Admissible threadReactor fullSocket ∧ ¬Every step Armed threadReactor fullSocket := by
  constructor
  · decide +kernel
  · intro every
    have armed := (every.2 _ rfl).2 _ rfl
    have out := armed 7 _ rfl rfl (by decide +kernel)
    exact absurd out (by decide +kernel)

theorem armed_every_iff_wholeMessage :
    Every step Armed threadReactor
      [.attachSocket 7 true,
       .broadcastMessage [1, 2] [(7, { result := .count 2, now := ⟨0, 0⟩ })]] :=
  (armed_every_iff (fun _ => rfl) (fun _ _ found => by cases found) (by decide) (by decide) _
    (by decide +kernel)).mpr (by decide +kernel)

end OutputArming

end ZBlueNet
