import ZBlueNet.ClientReconnect
import ZBlueNet.TimerLife

/-!
A client that has tried to connect is connected or has a timer for its next attempt.
A handler adds at most two timers, the one of a failed send and the one of the next
attempt, so an allocator with two ids left does not wrap around in it.
-/

namespace ZBlueNet

open Runs EpollReactor TimerHeap

variable {Callback Message : Type}

namespace TimerHeap

variable {h : TimerHeap Callback}

structure Allocated (h : TimerHeap Callback) : Prop where
  timed : Timed h
  nonneg : 0 ≤ h.timerId
  given : ∀ ptr timer, h.live ptr = some timer → timer.timerId ≤ h.timerId

theorem empty_allocated : Allocated (empty : TimerHeap Callback) := by
  refine ⟨empty_timed, le_rfl, ?_⟩
  intro ptr timer live
  cases live

theorem Allocated.addTimer (allocated : Allocated h) (left : h.timerId + 1 < 2 ^ 63)
    (now : Timestamp) (timeoutMs : Int) (timerCb : Callback) (callTimes : Int) :
    let added := h.addTimer now timeoutMs timerCb callTimes
    Allocated added.2 ∧ added.2.timerId = h.timerId + 1 ∧ added.1 = h.timerId + 1 ∧
      added.2.live = fun other =>
        if other = h.nextPtr then
          some (Timer.create (h.timerId + 1) (now.add (max 0 timeoutMs)) (max 0 timeoutMs) timerCb
            callTimes).unplaced
        else h.live other := by
  intro added
  have follows := TimerCalls.nextTimerId_eq allocated.nonneg left
  have unused : h.timerMap (nextTimerId h.timerId) = none := by
    rw [Option.eq_none_iff_forall_ne_some]
    intro ptr taken
    obtain ⟨timer, live, named⟩ := (allocated.timed.indexed.mapped _ ptr).mp taken
    have known := allocated.given ptr timer live
    rw [named, follows] at known
    linarith
  have returned : added.1 = nextTimerId h.timerId := by
    simp only [added, TimerHeap.addTimer, unused]
  have allocator := addTimer_timerId h now timeoutMs timerCb callTimes
  have timed := (allocated.timed.addTimer now timeoutMs timerCb callTimes).1
  obtain ⟨-, -, ⟨failed, -, -⟩ | ⟨-, -, -, live⟩⟩ :=
    allocated.timed.indexed.addTimer now timeoutMs timerCb callTimes
  · have negative := returned.symm.trans failed
    rw [follows] at negative
    have nonneg := allocated.nonneg
    linarith
  · rw [follows] at live returned allocator
    refine ⟨⟨timed, ?_, ?_⟩, allocator, returned, live⟩
    · rw [allocator]
      exact allocated.nonneg.trans (by linarith)
    · intro ptr timer found
      rw [allocator]
      rcases allocated.timed.indexed.addTimer_live found with ⟨-, rfl⟩ | old
      · exact follows.le
      · exact (allocated.given ptr timer old).trans (by linarith)

theorem Allocated.removeTimer (allocated : Allocated h) (timerId : TimerId) :
    Allocated (h.removeTimer timerId) := by
  have allocator := removeTimer_timerId h timerId
  refine ⟨allocated.timed.removeTimer timerId, allocator ▸ allocated.nonneg, ?_⟩
  intro ptr timer found
  rw [allocator]
  exact allocated.given ptr timer (allocated.timed.indexed.removeTimer_live found).1

theorem Allocated.fired (allocated : Allocated h) {now : Timestamp} {firing : Firing Callback}
    {result : TimerHeap Callback} {ptr : TimerPtr} {timer : Timer Callback}
    (turned : h.checkTurn now = some (firing, result))
    (fired : Fired h now firing result ptr timer) : Allocated result := by
  have allocator := checkTurn_timerId turned
  refine ⟨allocated.timed.fired fired, allocator ▸ allocated.nonneg, ?_⟩
  intro other another found
  rw [allocator]
  rcases rearmed_cases fired.live found with ⟨-, -, rfl⟩ | ⟨-, old⟩
  · exact allocated.given ptr timer fired.found
  · exact allocated.given other another old

end TimerHeap

namespace NetClientThread

def Online (client : NetClientThread Callback Message) : Prop :=
  client.connected = true ∧ client.netThread.reactor.connections client.socketId ≠ none ∧
    ∀ ptr timer, client.netThread.reactor.timerHeap.live ptr = some timer →
      timer.timerCb ≠ .user 0

/-- Not connected, and one timer, to be called once, is for the next attempt. -/
def Retrying (client : NetClientThread Callback Message) : Prop :=
  client.connected = false ∧ client.socketId = -1 ∧
    (∀ id, client.netThread.reactor.connections id = none) ∧
    ∃ ptr timer, client.netThread.reactor.timerHeap.live ptr = some timer ∧
      timer.timerId = client.reconnectTimer ∧ timer.timerCb = .user 0 ∧ timer.callTimes = 1 ∧
      ∀ other another, client.netThread.reactor.timerHeap.live other = some another →
        another.timerId = client.reconnectTimer ∨ another.timerCb = .user 0 → other = ptr

def mayStart (client : NetClientThread Callback Message) : Int :=
  if client.connected then
    if client.netThread.reactor.statusOf client.socketId = some .connected then 2 else 1
  else 0

def Spare (client : NetClientThread Callback Message) (left : Int) : Prop :=
  0 ≤ left ∧ client.netThread.reactor.timerHeap.timerId + client.mayStart + left < 2 ^ 63

/-- Every timer is that of a failed send or the one that the client remembers. -/
structure Tracked (client : NetClientThread Callback Message) : Prop where
  sound : Sound client
  allocated : Allocated client.netThread.reactor.timerHeap
  named : ∀ ptr timer, client.netThread.reactor.timerHeap.live ptr = some timer →
    timer.timerCb = .sendMessageError ∨
      timer.timerCb = .user 0 ∧ timer.timerId = client.reconnectTimer ∧ timer.callTimes = 1
  present : client.connected = true → client.netThread.reactor.connections client.socketId ≠ none
  apart : client.connected = false → client.socketId = -1

def Awaits (client : NetClientThread Callback Message) : Prop :=
  ∃ ptr timer, client.netThread.reactor.timerHeap.live ptr = some timer ∧
    timer.timerId = client.reconnectTimer ∧ timer.timerCb = .user 0

structure Settled (client : NetClientThread Callback Message) : Prop where
  tracked : Tracked client
  awaits : client.connected = false → Awaits client

variable {client next : NetClientThread Callback Message} {clock : Timestamp} {left : Int}

theorem mayStart_disconnected (closed : client.connected = false) : client.mayStart = 0 := by
  simp only [mayStart, closed, Bool.false_eq_true, if_false]

theorem mayStart_pos (connected : client.connected = true) : 1 ≤ client.mayStart := by
  simp only [mayStart, connected, if_true]
  split <;> decide

theorem mayStart_le_two (client : NetClientThread Callback Message) : client.mayStart ≤ 2 := by
  simp only [mayStart]
  split
  · split <;> decide
  · decide

theorem Tracked.unnamed (tracked : Tracked client) (connected : client.connected = true)
    {ptr : TimerPtr} {timer : Timer ReactorTimer}
    (live : client.netThread.reactor.timerHeap.live ptr = some timer) :
    timer.timerCb = .sendMessageError := by
  rcases tracked.named ptr timer live with failed | ⟨-, remembered, -⟩
  · exact failed
  · have nonneg := tracked.sound.timed.nonneg ptr timer live
    rw [remembered, tracked.sound.idle connected] at nonneg
    exact absurd nonneg (by decide)

theorem Settled.online_or_retrying (settled : Settled client) :
    Xor client.Online client.Retrying := by
  have tracked := settled.tracked
  cases connected : client.connected with
  | true =>
      refine .inl ⟨⟨connected, tracked.present connected, ?_⟩, ?_⟩
      · intro ptr timer live
        rw [tracked.unnamed connected live]
        decide
      · intro retrying
        cases connected.symm.trans retrying.1
  | false =>
      refine .inr ⟨⟨connected, tracked.apart connected, ?_, ?_⟩, ?_⟩
      · intro id
        by_contra present
        cases connected.symm.trans (tracked.sound.owned id present).1
      · obtain ⟨ptr, timer, live, named, callback⟩ := settled.awaits connected
        have once : timer.callTimes = 1 := by
          rcases tracked.named ptr timer live with failed | ⟨-, -, once⟩
          · cases failed.symm.trans callback
          · exact once
        refine ⟨ptr, timer, live, named, callback, once, ?_⟩
        intro other another running same
        have remembered : another.timerId = client.reconnectTimer := by
          rcases same with remembered | user
          · exact remembered
          · rcases tracked.named other another running with failed | ⟨-, remembered, -⟩
            · cases failed.symm.trans user
            · exact remembered
        have mapped := tracked.allocated.timed.indexed.mapped client.reconnectTimer
        have here := (mapped ptr).mpr ⟨timer, live, named⟩
        have there := (mapped other).mpr ⟨another, running, remembered⟩
        rw [here, Option.some.injEq] at there
        exact there.symm
      · intro online
        cases connected.symm.trans online.1

/-! A change of the reactor's tables. -/

theorem mayStart_of_statusOf {reactor : EpollReactor}
    (status : reactor.statusOf client.socketId = some .connected →
      client.netThread.reactor.statusOf client.socketId = some .connected) :
    (client.setReactor reactor).mayStart ≤ client.mayStart := by
  cases connected : client.connected with
  | false =>
      have closed : (client.setReactor reactor).connected = false := connected
      rw [mayStart_disconnected closed, mayStart_disconnected connected]
  | true =>
      simp only [mayStart, setReactor, connected, if_true]
      split
      · rename_i here
        rw [if_pos (status here)]
      · split <;> decide

theorem Tracked.edit (tracked : Tracked client) (spare : client.Spare left) {reactor : EpollReactor}
    (edit : Edit client.netThread.reactor reactor) :
    Tracked (client.setReactor reactor) ∧ (client.setReactor reactor).Spare left := by
  have served := tracked.sound.served
  have sound : Sound (client.setReactor reactor) :=
    (tracked.sound.edits (.single edit) : Handled client ⟨0, 0⟩ False _).sound
  have status := edit.statusOf served client.socketId
  have present : client.connected = true → reactor.connections client.socketId ≠ none := by
    intro connected absent
    have before := tracked.present connected
    rw [Ne, ← statusOf_none] at before
    rw [← statusOf_none] at absent
    rcases status with same | ⟨-, failed⟩
    · exact before (same ▸ absent)
    · cases failed.symm.trans absent
  have quiet (heap : reactor.timerHeap = client.netThread.reactor.timerHeap) :
      Tracked (client.setReactor reactor) ∧ (client.setReactor reactor).Spare left := by
    refine ⟨⟨sound, heap ▸ tracked.allocated, heap ▸ tracked.named, present, tracked.apart⟩, ?_⟩
    have fewer : (client.setReactor reactor).mayStart ≤ client.mayStart := by
      apply mayStart_of_statusOf
      intro here
      rcases status with same | ⟨-, failed⟩
      · exact same ▸ here
      · cases failed.symm.trans here
    refine ⟨spare.1, ?_⟩
    have room := spare.2
    have same : (client.setReactor reactor).netThread.reactor.timerHeap.timerId =
        client.netThread.reactor.timerHeap.timerId := congrArg TimerHeap.timerId heap
    linarith
  cases edit with
  | rewrite found socket status silent => exact quiet rfl
  | modify id change => exact quiet rfl
  | forget mapped => exact quiet rfl
  | fail now errorCode found running =>
      rename_i id old
      obtain ⟨connected, rfl⟩ := tracked.sound.owned id (by simp [found])
      have before : client.netThread.reactor.statusOf client.socketId = some .connected := by
        simp [EpollReactor.statusOf, found, running]
      have after : (client.netThread.reactor.failSend now old errorCode).statusOf client.socketId =
          some .pendingError := by
        rw [failSend, served.named _ old found]
        simp [EpollReactor.statusOf, EpollReactor.setConnection, addSocketTimer, startTimer,
          TcpConnection.setError]
      have two : client.mayStart = 2 := by simp only [mayStart, connected, before, if_true]
      have one : (client.setReactor (client.netThread.reactor.failSend now old errorCode)).mayStart
          = 1 := by
        simp [mayStart, setReactor, connected, after]
      obtain ⟨nonneg, room⟩ := spare
      rw [two] at room
      obtain ⟨allocated, allocator, -, live⟩ :=
        tracked.allocated.addTimer (by linarith) now 0 .sendMessageError 1
      refine ⟨⟨sound, allocated, ?_, present, tracked.apart⟩, nonneg, ?_⟩
      · intro ptr timer running
        rcases tracked.allocated.timed.indexed.addTimer_live running with ⟨-, rfl⟩ | older
        · exact .inl rfl
        · exact tracked.named ptr timer older
      · have same : (client.setReactor (client.netThread.reactor.failSend now old
            errorCode)).netThread.reactor.timerHeap.timerId =
            client.netThread.reactor.timerHeap.timerId + 1 := allocator
        rw [one, same]
        linarith

theorem Tracked.edits (tracked : Tracked client) (spare : client.Spare left)
    {reactor : EpollReactor} (edits : Edits client.netThread.reactor reactor) :
    Tracked (client.setReactor reactor) ∧ (client.setReactor reactor).Spare left := by
  induction edits with
  | refl => exact ⟨tracked, spare⟩
  | tail _ edit ih => exact ih.1.edit ih.2 edit

/-! The timer for the next attempt. -/

theorem Tracked.stopConnectTimer (tracked : Tracked client) :
    ∃ heap, client.stopConnectTimer =
        client.setReactor { client.netThread.reactor with timerHeap := heap } ∧
      Allocated heap ∧ heap.timerId = client.netThread.reactor.timerHeap.timerId ∧
      ∀ ptr timer, heap.live ptr = some timer → timer.timerCb = .sendMessageError := by
  simp only [NetClientThread.stopConnectTimer]
  split
  · refine ⟨_, rfl, tracked.allocated.removeTimer _, removeTimer_timerId _ _, ?_⟩
    intro ptr timer live
    obtain ⟨before, another⟩ := tracked.allocated.timed.indexed.removeTimer_live live
    rcases tracked.named ptr timer before with failed | ⟨-, remembered, -⟩
    · exact failed
    · exact absurd remembered another
  · rename_i stopped
    refine ⟨_, rfl, tracked.allocated, rfl, ?_⟩
    intro ptr timer live
    rcases tracked.named ptr timer live with failed | ⟨-, remembered, -⟩
    · exact failed
    · have nonneg := tracked.sound.timed.nonneg ptr timer live
      rw [remembered, not_not.mp stopped] at nonneg
      exact absurd nonneg (by decide)

theorem Tracked.startConnectTimer (tracked : Tracked client) (closed : client.connected = false)
    (spare : client.Spare (left + 1)) (nonneg : 0 ≤ left) (clock : Timestamp) :
    Settled (client.startConnectTimer clock) ∧ (client.startConnectTimer clock).Spare left := by
  obtain ⟨heap, stopped, allocated, allocator, failed⟩ := tracked.stopConnectTimer
  have room := spare.2
  rw [mayStart_disconnected closed, ← allocator] at room
  obtain ⟨added, next, returned, live⟩ :=
    allocated.addTimer (by linarith) clock client.reconnectIntervalMs (.user 0) 1
  have sound := (tracked.sound.startConnectTimer closed clock).1
  have still : (client.startConnectTimer clock).connected = false :=
    (tracked.sound.startConnectTimer closed clock).2.1
  simp only [Spare, mayStart_disconnected still]
  rw [NetClientThread.startConnectTimer, stopped] at sound ⊢
  refine ⟨⟨⟨sound, added, ?_, ?_, tracked.apart⟩, ?_⟩, nonneg, ?_⟩
  · intro ptr timer running
    rcases allocated.timed.indexed.addTimer_live running with ⟨-, rfl⟩ | older
    · refine .inr ⟨rfl, ?_, rfl⟩
      exact (TimerCalls.nextTimerId_eq allocated.nonneg (by linarith)).trans returned.symm
    · exact .inl (failed ptr timer older)
  · intro connected
    cases closed.symm.trans connected
  · intro _
    exact ⟨heap.nextPtr, _, (congrFun live heap.nextPtr).trans (if_pos rfl), returned.symm, rfl⟩
  · have same : heap.timerId + 1 + 0 + left < 2 ^ 63 := by linarith
    exact next ▸ same

theorem Tracked.lost (tracked : Tracked client) (spare : client.Spare left)
    {middle : EpollReactor} (edits : Edits client.netThread.reactor middle)
    (connected : client.connected = true) :
    Tracked (client.lost (middle.closeSocket client.socketId)) ∧
      (client.lost (middle.closeSocket client.socketId)).Spare (left + 1) := by
  obtain ⟨edited, room⟩ := tracked.edits spare edits
  have heap : (middle.closeSocket client.socketId).timerHeap = middle.timerHeap :=
    closeSocket_timerHeap middle client.socketId
  refine ⟨⟨tracked.sound.lost edits, heap ▸ edited.allocated, heap ▸ edited.named, ?_, ?_⟩, ?_⟩
  · intro again
    cases again
  · intro _
    rfl
  · have one : 1 ≤ (client.setReactor middle).mayStart := mayStart_pos connected
    have none : (client.lost (middle.closeSocket client.socketId)).mayStart = 0 :=
      mayStart_disconnected rfl
    have same : (client.lost (middle.closeSocket client.socketId)).netThread.reactor.timerHeap.timerId
        = (client.setReactor middle).netThread.reactor.timerHeap.timerId :=
      congrArg TimerHeap.timerId heap
    refine ⟨by linarith [room.1], ?_⟩
    rw [none, same]
    linarith [room.2]

theorem Settled.move (settled : Settled client) (spare : client.Spare left)
    (move : Move clock client next) : Settled next ∧ next.Spare left := by
  have tracked := settled.tracked
  cases move with
  | edits edits =>
      obtain ⟨edited, room⟩ := tracked.edits spare edits
      refine ⟨⟨edited, ?_⟩, room⟩
      intro closed
      obtain ⟨ptr, timer, live, due⟩ := settled.awaits closed
      exact ⟨ptr, timer, (edits.timers tracked.sound.timed).2 ptr timer live, due⟩
  | lost edits connected present =>
      obtain ⟨lost, room⟩ := tracked.lost spare edits connected
      exact lost.startConnectTimer rfl room spare.1 clock
  | aside sockets connections timerHeap connected socketId reconnectTimer interval =>
      have sound : Sound next := (tracked.sound.move
        (.aside sockets connections timerHeap connected socketId reconnectTimer interval) :
          Handled client clock False next).sound
      refine ⟨⟨⟨sound, timerHeap ▸ tracked.allocated, ?_, ?_, ?_⟩, ?_⟩, ?_⟩
      · rw [timerHeap, reconnectTimer]
        exact tracked.named
      · rw [connections, connected, socketId]
        exact tracked.present
      · rw [connected, socketId]
        exact tracked.apart
      · rw [connected, Awaits, timerHeap, reconnectTimer]
        exact settled.awaits
      · rw [Spare, mayStart, EpollReactor.statusOf, timerHeap, connections, connected, socketId]
        exact spare

theorem Settled.moves (settled : Settled client) (spare : client.Spare left)
    (moves : Moves clock client next) : Settled next ∧ next.Spare left := by
  induction moves with
  | refl => exact ⟨settled, spare⟩
  | tail _ move ih => exact ih.1.move ih.2 move

theorem spare_zero (ids : client.netThread.reactor.timerHeap.timerId + 2 < 2 ^ 63) :
    client.Spare 0 :=
  ⟨le_rfl, by linarith [client.mayStart_le_two]⟩

theorem Settled.onNetCommand [BaseStruct Message] (settled : Settled client)
    (ids : client.netThread.reactor.timerHeap.timerId + 2 < 2 ^ 63)
    {cmd : Option (NetCommand Message)} {env : SendEnv}
    {result : NetClientThread Callback Message × NetThread.Handed Callback Message}
    (taken : client.onNetCommand clock env cmd = some result) : Settled result.1 := by
  obtain ⟨middle, moves, same, kept | ⟨-, closing⟩⟩ :=
    settled.tracked.sound.onNetCommand_moves taken
  · rw [kept]
    exact (settled.moves (spare_zero ids) moves).1
  · cases connected : client.connected with
    | true =>
        obtain ⟨settled', room⟩ := settled.moves (spare_zero ids) moves
        have still : middle.connected = true := same.trans connected
        obtain ⟨lost, spare⟩ := settled'.tracked.lost room .refl still
        rw [onClose_connected still closing]
        exact (lost.startConnectTimer rfl spare le_rfl clock).1
    | false =>
        have one : client.Spare (0 + 1) := by
          refine ⟨by decide, ?_⟩
          rw [mayStart_disconnected connected]
          linarith
        obtain ⟨settled', room⟩ := settled.moves one moves
        have still : middle.connected = false := same.trans connected
        rw [onClose_disconnected still closing]
        exact (settled'.tracked.startConnectTimer still room le_rfl clock).1

theorem Tracked.connect (tracked : Tracked client) (closed : client.connected = false)
    (idle : client.reconnectTimer = -1)
    (ids : client.netThread.reactor.timerHeap.timerId + 2 < 2 ^ 63) {opened : Option SocketId}
    {granted : Bool} (attaches : ∀ socketId ∈ opened,
      (client.netThread.reactor.attachSocket socketId .create granted).1 = true)
    {result : Bool × NetClientThread Callback Message × NetThread.Handed Callback Message}
    (tried : client.connect clock opened granted = some result) : Settled result.2.1 := by
  have sound := (tracked.sound.connect closed idle tried).1
  cases opened with
  | none =>
      cases tried
      have one : client.Spare (0 + 1) := by
        refine ⟨by decide, ?_⟩
        rw [mayStart_disconnected closed]
        linarith
      exact (tracked.startConnectTimer closed one le_rfl clock).1
  | some socketId =>
      have fresh : client.netThread.reactor.connections socketId = none := by
        by_contra present
        cases closed.symm.trans (tracked.sound.owned socketId present).1
      simp only [NetClientThread.connect, NetThread.attach, Option.map_map, Option.map_eq_some_iff]
        at tried
      obtain ⟨handed, -, rfl⟩ := tried
      obtain ⟨-, heap, status⟩ := tracked.sound.served.attachSocket .create granted fresh
      have attached : (client.netThread.reactor.attachSocket socketId .create granted).2.statusOf
          socketId = some .connected := by
        rw [status, Function.update_self, attaches socketId rfl, if_pos rfl]
      refine ⟨⟨sound, heap ▸ tracked.allocated, heap ▸ tracked.named, ?_, ?_⟩, ?_⟩
      · intro _ absent
        cases attached.symm.trans (statusOf_none.mpr absent)
      · intro disconnected
        cases disconnected
      · intro disconnected
        cases disconnected

theorem Settled.fired (settled : Settled client) {now : Timestamp} {firing : Firing ReactorTimer}
    {heap : TimerHeap ReactorTimer}
    (turned : client.netThread.reactor.timerHeap.checkTurn now = some (firing, heap)) :
    let rest := client.setReactor { client.netThread.reactor with timerHeap := heap }
    firing.timerCb = .sendMessageError ∧ Settled rest ∨
      firing.timerCb = .user 0 ∧ firing.timerId = client.reconnectTimer ∧
        client.connected = false ∧ Tracked { rest with reconnectTimer := -1 } := by
  intro rest
  have tracked := settled.tracked
  obtain ⟨ptr, timer, fired⟩ := tracked.allocated.timed.indexed.checkTurn_some turned
  obtain ⟨sound, -, kept⟩ := tracked.sound.fired turned
  have allocated := tracked.allocated.fired turned fired
  rcases tracked.named ptr timer fired.found with failed | ⟨callback, remembered, once⟩
  · have firingCb : firing.timerCb = .sendMessageError := by rw [fired.firing, failed]
    refine .inl ⟨firingCb, ⟨sound, allocated, ?_, tracked.present, tracked.apart⟩, ?_⟩
    · intro other another live
      rcases rearmed_cases fired.live live with ⟨-, -, rfl⟩ | ⟨-, before⟩
      · exact .inl failed
      · exact tracked.named other another before
    · intro closed
      obtain ⟨other, waiting, live, named, user⟩ := settled.awaits closed
      have apart : other ≠ ptr := by
        rintro rfl
        rw [fired.found, Option.some.injEq] at live
        rw [← live, failed] at user
        cases user
      exact ⟨other, waiting, (congrFun fired.live other).trans ((if_neg apart).trans live), named,
        user⟩
  · have closed : client.connected = false := by
      by_contra connected
      have failed := tracked.unnamed (by simpa using connected) fired.found
      cases failed.symm.trans callback
    refine .inr ⟨by rw [fired.firing, callback], by rw [fired.firing, remembered], closed, ?_⟩
    refine ⟨⟨sound.served, sound.timed, sound.owned, fun _ => rfl⟩, allocated, ?_, tracked.present,
      tracked.apart⟩
    intro other another live
    rcases rearmed_cases fired.live live with ⟨-, again, -⟩ | ⟨elsewhere, before⟩
    · exact absurd once again
    · rcases tracked.named other another before with failed | ⟨-, same, -⟩
      · exact .inl failed
      · -- two live timers do not have one id
        have mapped := tracked.allocated.timed.indexed.mapped client.reconnectTimer
        have here := (mapped ptr).mpr ⟨timer, fired.found, remembered⟩
        have there := (mapped other).mpr ⟨another, before, same⟩
        rw [here, Option.some.injEq] at there
        exact absurd there.symm elsewhere

end NetClientThread

namespace ReconnectRun

def Attaches (s : ReconnectRun Callback Message) : ReconnectEvent Message → Prop
  | .startRun opened granted _ | .checkTimeout _ opened granted _ =>
      s.client.connected = false → ∀ socketId ∈ opened,
        (s.client.netThread.reactor.attachSocket socketId .create granted).1 = true
  | _ => True

def IdsLeft (s : ReconnectRun Callback Message) : Prop :=
  s.client.netThread.reactor.timerHeap.timerId + 2 < 2 ^ 63

def ConnectedOrRetrying (s : ReconnectRun Callback Message) : Prop :=
  s.started = true → Xor s.client.Online s.client.Retrying

structure Covered (s : ReconnectRun Callback Message) : Prop where
  tracked : s.client.Tracked
  unstarted : s.started = false → s.client.connected = false ∧ s.client.reconnectTimer = -1
  settled : s.started = true → s.client.Settled

variable {s next : ReconnectRun Callback Message}

theorem Covered.of_settled {client : NetClientThread Callback Message} (settled : client.Settled)
    {startedAt : Option Timestamp} : Covered ⟨client, true, startedAt⟩ :=
  ⟨settled.tracked, nofun, fun _ => settled⟩

theorem attachSocket_fst (r : EpollReactor) (id : SocketId) (socket : TcpSocket) (granted : Bool) :
    (r.attachSocket id socket granted).1 = match r.sockets id with
      | some _ => false
      | none => (r.epoller.add id { socket with readCb := true, errorCb := true } granted).1 := by
  simp only [EpollReactor.attachSocket]
  cases r.sockets id with
  | some known => rfl
  | none =>
      simp only
      split
      · rename_i added
        exact added.symm
      · rename_i refused
        exact (Bool.eq_false_iff.mpr refused).symm

theorem attachSocket_setHeap (s : ReconnectRun Callback Message) (heap : TimerHeap ReactorTimer)
    (socketId : SocketId) (granted : Bool) :
    ((s.setHeap heap).client.netThread.reactor.attachSocket socketId .create granted).1 =
      (s.client.netThread.reactor.attachSocket socketId .create granted).1 := by
  simp only [attachSocket_fst]
  rfl

section Steps

variable [BaseStruct Message] {event : ReconnectEvent Message}

theorem Covered.timerTurn (covered : Covered s) (started : s.started = true) (ids : IdsLeft s)
    {now clock : Timestamp} {opened : Option SocketId} {granted : Bool}
    (attaches : s.client.connected = false → ∀ socketId ∈ opened,
      (s.client.netThread.reactor.attachSocket socketId .create granted).1 = true)
    (taken : s.timerTurn now opened granted clock = some next) : Covered next := by
  simp only [ReconnectRun.timerTurn] at taken
  cases turned : s.client.netThread.reactor.timerHeap.checkTurn now with
  | none =>
      rw [turned] at taken
      cases taken
      exact covered
  | some result =>
      obtain ⟨firing, heap⟩ := result
      have allocator : heap.timerId = s.client.netThread.reactor.timerHeap.timerId :=
        checkTurn_timerId turned
      have left : heap.timerId + 2 < 2 ^ 63 := by
        rw [allocator]
        exact ids
      rw [turned] at taken
      simp only at taken
      rcases (covered.settled started).fired turned with
        ⟨failed, settled⟩ | ⟨user, remembered, closed, tracked⟩
      · simp only [failed, Option.map_eq_some_iff] at taken
        obtain ⟨outcome, called, rfl⟩ := taken
        have moves := settled.tracked.sound.afterReactor (onSendMessageError_returned _ _) called
        have moved := (settled.moves (NetClientThread.spare_zero left) moves).1
        simp only [ReconnectRun.handled, setHeap, started]
        exact .of_settled moved
      · simp only [user, Option.map_eq_some_iff, NetClientThread.onTimer] at taken
        obtain ⟨outcome, called, rfl⟩ := taken
        have same : firing.timerId = (s.setHeap heap).client.reconnectTimer := remembered
        rw [if_pos same, Option.map_eq_some_iff] at called
        obtain ⟨result, tried, rfl⟩ := called
        rw [if_pos same]
        apply Covered.of_settled
        apply tracked.connect closed rfl left _ tried
        intro socketId opening
        have attached := attaches closed socketId opening
        rwa [← attachSocket_setHeap s heap] at attached

theorem Covered.step (covered : Covered s) (attaches : Attaches s event) (ids : IdsLeft s)
    (taken : s.step event = some next) : Covered next := by
  simp only [ReconnectRun.step] at taken
  cases started : s.started with
  | false =>
      rw [started] at taken
      cases event with
      | startRun opened granted clock =>
          obtain ⟨closed, idle⟩ := covered.unstarted started
          simp only [Option.map_eq_some_iff] at taken
          obtain ⟨outcome, tried, rfl⟩ := taken
          exact .of_settled (covered.tracked.connect closed idle ids (attaches closed) tried)
      | _ => cases taken
  | true =>
      have settled := covered.settled started
      have spare := NetClientThread.spare_zero ids
      rw [started] at taken
      cases event with
      | startRun opened granted clock => cases taken
      | checkTimeout now opened granted clock => exact covered.timerTurn started ids attaches taken
      | onSocketRead socketId answers clock =>
          simp only [Option.map_eq_some_iff] at taken
          obtain ⟨outcome, read, rfl⟩ := taken
          have moves := settled.tracked.sound.onSocketRead read
          simp only [ReconnectRun.handled, started]
          exact .of_settled (settled.moves spare moves).1
      | onSocketWrite socketId env clock =>
          simp only [Option.map_eq_some_iff] at taken
          obtain ⟨outcome, called, rfl⟩ := taken
          have returned := settled.tracked.sound.served.onSocketWrite socketId env
          have moves := settled.tracked.sound.afterReactor returned called
          simp only [ReconnectRun.handled, started]
          exact .of_settled (settled.moves spare moves).1
      | onSocketError socketId socketError clock =>
          simp only [Option.map_eq_some_iff] at taken
          obtain ⟨outcome, called, rfl⟩ := taken
          have returned := settled.tracked.sound.served.onSocketError socketId socketError
          have moves := settled.tracked.sound.afterReactor returned called
          simp only [ReconnectRun.handled, started]
          exact .of_settled (settled.moves spare moves).1
      | onNetCommand cmd env clock =>
          simp only [Option.map_eq_some_iff] at taken
          obtain ⟨outcome, called, rfl⟩ := taken
          simp only [ReconnectRun.handled, started]
          exact .of_settled (settled.onNetCommand ids called)

/-- Whether or not the client has been given a callback for received messages. -/
theorem connectedOrRetrying_every {createMessageFunc : Int → Option Message}
    {callback handOver : Option Callback} {initialised : NetClientThread Callback Message}
    {maxRecvPacketLength reconnectIntervalMs id : Int}
    {maxSendPacketLength maxRecvBufferSize maxSendBufferSize : Nat} {attached : Bool}
    (init : (NetClientThread.create maxRecvPacketLength maxSendPacketLength createMessageFunc
      reconnectIntervalMs).init id maxRecvBufferSize maxSendBufferSize callback attached =
        (true, initialised)) {events : List (ReconnectEvent Message)}
    (attaches : Along step Attaches (start { initialised with newNetCmdCb := handOver }) events)
    (ids : Along step (fun s _ => IdsLeft s) (start { initialised with newNetCmdCb := handOver })
      events) :
    Every step ConnectedOrRetrying (start { initialised with newNetCmdCb := handOver }) events := by
  have initial : Covered (start { initialised with newNetCmdCb := handOver }) := by
    cases attached with
    | false => cases congrArg Prod.fst init
    | true =>
        cases init
        refine ⟨⟨.of_empty (fun _ => rfl) (fun _ => rfl) rfl rfl, empty_allocated, ?_, nofun,
          fun _ => rfl⟩, fun _ => ⟨rfl, rfl⟩, nofun⟩
        intro ptr timer live
        cases live
  have every : Every step Covered (start { initialised with newNetCmdCb := handOver }) events :=
    every_of_invariant (fun covered allowed taken => covered.step allowed.1 allowed.2 taken) initial
      (attaches.and ids)
  refine every.mono ?_
  intro s covered started
  exact (covered.settled started).online_or_retrying

instance (s : ReconnectRun Callback Message) : DecidablePred (Attaches s)
  | .startRun opened granted _ | .checkTimeout _ opened granted _ =>
      inferInstanceAs (Decidable (s.client.connected = false → ∀ socketId ∈ opened,
        (s.client.netThread.reactor.attachSocket socketId .create granted).1 = true))
  | .onSocketRead .. | .onSocketWrite .. | .onSocketError .. | .onNetCommand .. => .isTrue trivial

instance (s : ReconnectRun Callback Message) : Decidable (IdsLeft s) :=
  inferInstanceAs (Decidable (s.client.netThread.reactor.timerHeap.timerId + 2 < 2 ^ 63))

theorem connectedOrRetrying_every_reset :
    Every step ConnectedOrRetrying (start { shortClient with newNetCmdCb := some () })
      [.startRun none true ⟨0, 0⟩, .checkTimeout ⟨1, 0⟩ (some 9) true ⟨1, 0⟩,
        .onSocketError 9 104 ⟨2, 0⟩, sendAt ⟨3, 0⟩] := by
  have init : (NetClientThread.create 40960 16 (rawServer 40960).netProtocol.createMessageFunc
      1000).init 0 81920 409600 (some ()) true = (true, shortClient) := rfl
  exact connectedOrRetrying_every init (by decide +kernel) (by decide +kernel)

end Steps

end ReconnectRun

end ZBlueNet
