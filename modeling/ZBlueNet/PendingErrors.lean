import ZBlueNet.NetThreadEffects
import ZBlueNet.TimerLife
import Mathlib.Data.Int.Interval

/-!
A connection whose send failed waits for a timer that reports it. Every timer of a
server's thread is of this kind, and every socket id is attached once, so the ids of the
timers do not run out before those of the sockets.
-/

namespace ZBlueNet

open Runs EpollReactor TimerHeap Relation

namespace TimerHeap

variable {Callback : Type} {h : TimerHeap Callback} {count : Int}

/-- Among the first `count` ids that an allocator gives, which comes back to 0 at the end. -/
def IssuedId (count id : Int) : Prop :=
  1 ≤ id ∧ id ≤ count ∨ id = 0 ∧ count = 2 ^ 63

theorem IssuedId.more {count id : Int} (issued : IssuedId count id) (left : count < 2 ^ 63) :
    IssuedId (count + 1) id := by
  rw [IssuedId] at issued ⊢
  omega

theorem IssuedId.ne_next {count id : Int} (issued : IssuedId count id) (left : count < 2 ^ 63)
    {next : Int} (last : next = 0 ∨ next = count + 1) : id ≠ next := by
  rw [IssuedId] at issued
  omega

structure Issued (count : Int) (h : TimerHeap Callback) : Prop where
  timed : Timed h
  range : 0 ≤ count ∧ count ≤ 2 ^ 63
  allocator : count < 2 ^ 63 → h.timerId = count
  given : ∀ ptr timer, h.live ptr = some timer → IssuedId count timer.timerId

theorem empty_issued : Issued 0 (empty : TimerHeap Callback) := by
  refine ⟨empty_timed, by decide, fun _ => rfl, ?_⟩
  intro ptr timer live
  cases live

theorem Issued.next (issued : Issued count h) (left : count < 2 ^ 63) :
    nextTimerId h.timerId = count + 1 ∧ count + 1 < 2 ^ 63 ∨
      nextTimerId h.timerId = 0 ∧ count + 1 = 2 ^ 63 := by
  rw [issued.allocator left]
  rcases lt_or_eq_of_le (Int.add_one_le_of_lt left) with more | last
  · exact .inl ⟨TimerCalls.nextTimerId_eq issued.range.1 more, more⟩
  · refine .inr ⟨?_, last⟩
    rw [nextTimerId, last]
    decide

theorem Issued.addTimer (issued : Issued count h) (left : count < 2 ^ 63) (now : Timestamp)
    (timeoutMs : Int) (timerCb : Callback) (callTimes : Int) :
    let added := h.addTimer now timeoutMs timerCb callTimes
    Issued (count + 1) added.2 ∧ (∀ ptr timer, h.live ptr = some timer → timer.timerId ≠ added.1) ∧
      added.2.live = fun other =>
        if other = h.nextPtr then
          some (Timer.create added.1 (now.add (max 0 timeoutMs)) (max 0 timeoutMs) timerCb
            callTimes).unplaced
        else h.live other := by
  intro added
  have follows := issued.next left
  have range := issued.range
  have unused (ptr : TimerPtr) (timer : Timer Callback) (live : h.live ptr = some timer) :
      timer.timerId ≠ nextTimerId h.timerId := by
    apply (issued.given ptr timer live).ne_next left
    rcases follows with ⟨next, -⟩ | ⟨next, -⟩
    · exact .inr next
    · exact .inl next
  have free : h.timerMap (nextTimerId h.timerId) = none := by
    rw [Option.eq_none_iff_forall_ne_some]
    intro ptr taken
    obtain ⟨timer, live, named⟩ := (issued.timed.indexed.mapped _ ptr).mp taken
    exact unused ptr timer live named
  have returned : added.1 = nextTimerId h.timerId := by
    simp only [added, TimerHeap.addTimer, free]
  have allocator := addTimer_timerId h now timeoutMs timerCb callTimes
  have timed := (issued.timed.addTimer now timeoutMs timerCb callTimes).1
  obtain ⟨-, -, ⟨failed, -, -⟩ | ⟨-, -, -, live⟩⟩ :=
    issued.timed.indexed.addTimer now timeoutMs timerCb callTimes
  · have nonneg := nextTimerId_nonneg h.timerId
    rw [← returned, failed] at nonneg
    exact absurd nonneg (by decide)
  · rw [returned]
    refine ⟨⟨timed, ⟨by omega, by omega⟩, ?_, ?_⟩, unused, live⟩
    · intro more
      rw [allocator]
      rcases follows with ⟨next, -⟩ | ⟨-, last⟩
      · exact next
      · exact absurd last more.ne
    · intro ptr timer running
      rcases issued.timed.indexed.addTimer_live running with ⟨-, rfl⟩ | old
      · show IssuedId (count + 1) (nextTimerId h.timerId)
        rcases follows with ⟨next, -⟩ | ⟨next, last⟩
        · exact .inl ⟨by rw [next]; linarith, next.le⟩
        · exact .inr ⟨next, last⟩
      · exact (issued.given ptr timer old).more left

theorem Issued.fired (issued : Issued count h) {now : Timestamp} {firing : Firing Callback}
    {result : TimerHeap Callback} {ptr : TimerPtr} {timer : Timer Callback}
    (turned : h.checkTurn now = some (firing, result))
    (fired : Fired h now firing result ptr timer) : Issued count result := by
  have allocator := checkTurn_timerId turned
  refine ⟨issued.timed.fired fired, issued.range, ?_, ?_⟩
  · rw [allocator]
    exact issued.allocator
  · intro other another found
    rcases rearmed_cases fired.live found with ⟨-, -, rfl⟩ | ⟨-, old⟩
    · exact issued.given ptr timer fired.found
    · exact issued.given other another old

end TimerHeap

namespace EpollReactor

structure Steady (r next : EpollReactor) : Prop where
  timerHeap : next.timerHeap = r.timerHeap
  socketTimers : next.socketToTimerMap = r.socketToTimerMap
  timerSockets : next.timerToSocketMap = r.timerToSocketMap
  status : ∀ id, next.statusOf id = r.statusOf id ∨ next.statusOf id = none

variable {r next : EpollReactor} {id : SocketId} {known : Finset SocketId}

theorem Served.closeSocket_steady (served : Served r) (id : SocketId) :
    Steady r (r.closeSocket id) := by
  have tables : (r.closeSocket id).socketToTimerMap = r.socketToTimerMap ∧
      (r.closeSocket id).timerToSocketMap = r.timerToSocketMap := by
    simp only [EpollReactor.closeSocket, detachIOService]
    cases r.sockets id with
    | none => exact ⟨rfl, rfl⟩
    | some socket =>
        dsimp only
        split <;> exact ⟨rfl, rfl⟩
  refine ⟨closeSocket_timerHeap r id, tables.1, tables.2, ?_⟩
  intro other
  rw [served.closeSocket_statusOf id]
  by_cases same : other = id
  · simp [same]
  · simp [same]

theorem Effect.steady_or_fail (effect : Effect r next) (served : Served r) :
    Steady r next ∨ ∃ id old now errorCode, r.connections id = some old ∧
      old.status = .connected ∧ next = r.failSend now old errorCode := by
  cases effect with
  | rewrite found socket status silent =>
      rename_i id old new
      refine .inl ⟨rfl, rfl, rfl, ?_⟩
      intro other
      left
      by_cases same : other = id
      · simp [statusOf, EpollReactor.setConnection, same, found, status]
      · simp [statusOf, EpollReactor.setConnection, same]
  | modify id change => exact .inl ⟨rfl, rfl, rfl, fun _ => .inl rfl⟩
  | fail now errorCode found status => exact .inr ⟨_, _, now, errorCode, found, status, rfl⟩
  | close id => exact .inl (served.closeSocket_steady id)
  | quit => exact .inl ⟨rfl, rfl, rfl, fun _ => .inl rfl⟩

structure Linked (r : EpollReactor) : Prop where
  paired : ∀ timerId id, r.timerToSocketMap timerId = some id ↔ r.socketToTimerMap id = some timerId
  running : ∀ timerId id, r.timerToSocketMap timerId = some id →
    ∃ ptr timer, r.timerHeap.live ptr = some timer ∧ timer.timerId = timerId
  own : ∀ ptr timer, r.timerHeap.live ptr = some timer →
    timer.timerCb = .sendMessageError ∧ timer.callTimes = 1

/-- A connection with an error has its timer. Each timer was started for another socket of
`known`. -/
structure Watched (known : Finset SocketId) (r : EpollReactor) : Prop where
  served : Served r
  linked : Linked r
  pending : ∀ id, r.statusOf id = some .pendingError →
    ∃ timerId, r.socketToTimerMap id = some timerId
  present : ∀ id, r.statusOf id ≠ none → id ∈ known
  range : ∀ id ∈ known, 0 ≤ id ∧ id < 2 ^ 63
  counted : ∃ failed ⊆ known, Issued failed.card r.timerHeap ∧
    (∀ id timerId, r.socketToTimerMap id = some timerId → id ∈ failed) ∧
    ∀ id ∈ failed, r.statusOf id ≠ some .connected

section Accounts

/-- What is known of one socket: whether it was given to the thread, whether a timer was ever
started for it, and its entries in the tables. -/
structure Account (known failed : Prop) (status : Option ConnectionStatus)
    (timer : Option TimerId) : Prop where
  pending : status = some .pendingError → timer ≠ none
  present : status ≠ none → known
  named : timer ≠ none → failed
  unconnected : failed → status ≠ some .connected

variable {failed attached more : Finset SocketId} {status : SocketId → Option ConnectionStatus}
  {timers : SocketId → Option TimerId}

theorem Account.gone {known failed : Prop} {status : Option ConnectionStatus}
    {timer : Option TimerId} (account : Account known failed status timer) :
    Account known failed none timer := by
  constructor
  · intro pending
    cases pending
  · exact fun present => absurd rfl present
  · exact account.named
  · intro _ connected
    cases connected

theorem account_update
    (accounts : ∀ id, Account (id ∈ known) (id ∈ failed) (status id) (timers id))
    (wider : known ⊆ attached) (rest : ∀ other ≠ id, other ∈ more ↔ other ∈ failed)
    {entry : Option ConnectionStatus} {timer : Option TimerId}
    (here : Account (id ∈ attached) (id ∈ more) entry timer) (other : SocketId) :
    Account (other ∈ attached) (other ∈ more) (Function.update status id entry other)
      (Function.update timers id timer other) := by
  by_cases same : other = id
  · subst same
    rw [Function.update_self, Function.update_self]
    exact here
  · rw [Function.update_of_ne same, Function.update_of_ne same, rest other same]
    have before := accounts other
    exact ⟨before.pending, fun present => wider (before.present present), before.named,
      before.unconnected⟩

theorem Watched.accounts (watched : Watched known r) :
    ∃ failed ⊆ known, Issued failed.card r.timerHeap ∧
      ∀ id, Account (id ∈ known) (id ∈ failed) (r.statusOf id) (r.socketToTimerMap id) := by
  obtain ⟨failed, subset, issued, named, unconnected⟩ := watched.counted
  refine ⟨failed, subset, issued, ?_⟩
  intro id
  constructor
  · exact fun pending => Option.ne_none_iff_exists'.mpr (watched.pending id pending)
  · exact watched.present id
  · intro timed
    obtain ⟨timerId, timed⟩ := Option.ne_none_iff_exists'.mp timed
    exact named id timerId timed
  · exact unconnected id

theorem Watched.of_accounts (served : Served r) (linked : Linked r)
    (range : ∀ id ∈ known, 0 ≤ id ∧ id < 2 ^ 63) (subset : failed ⊆ known)
    (issued : Issued failed.card r.timerHeap)
    (accounts : ∀ id, Account (id ∈ known) (id ∈ failed) (r.statusOf id)
      (r.socketToTimerMap id)) : Watched known r := by
  refine ⟨served, linked, ?_, fun id => (accounts id).present, range, failed, subset, issued, ?_,
    fun id => (accounts id).unconnected⟩
  · exact fun id pending => Option.ne_none_iff_exists'.mp ((accounts id).pending pending)
  · intro id timerId timed
    exact (accounts id).named (by simp [timed])

end Accounts

section Linked

variable {ptr : TimerPtr} {timer : Timer ReactorTimer}

theorem Linked.of_tables (linked : Linked r) (timerHeap : next.timerHeap = r.timerHeap)
    (socketTimers : next.socketToTimerMap = r.socketToTimerMap)
    (timerSockets : next.timerToSocketMap = r.timerToSocketMap) : Linked next := by
  obtain ⟨paired, running, own⟩ := linked
  rw [← socketTimers, ← timerSockets] at paired
  rw [← timerSockets, ← timerHeap] at running
  rw [← timerHeap] at own
  exact ⟨paired, running, own⟩

theorem Linked.started (linked : Linked r) (vacant : r.timerHeap.live ptr = none)
    (live : next.timerHeap.live = fun other =>
      if other = ptr then some timer else r.timerHeap.live other)
    (own : timer.timerCb = .sendMessageError ∧ timer.callTimes = 1)
    (unmapped : r.timerToSocketMap timer.timerId = none)
    (untimed : r.socketToTimerMap id = none)
    (socketTimers : next.socketToTimerMap =
      Function.update r.socketToTimerMap id (some timer.timerId))
    (timerSockets : next.timerToSocketMap =
      Function.update r.timerToSocketMap timer.timerId (some id)) : Linked next := by
  have unnamed (other : SocketId) : r.socketToTimerMap other ≠ some timer.timerId := by
    rw [ne_eq, ← linked.paired, unmapped]
    exact nofun
  have unknown (timerId : TimerId) : r.timerToSocketMap timerId ≠ some id := by
    rw [ne_eq, linked.paired, untimed]
    exact nofun
  constructor
  · intro timerId other
    rw [timerSockets, socketTimers]
    by_cases sameTimer : timerId = timer.timerId
    · by_cases sameSocket : other = id
      · simp [sameTimer, sameSocket]
      · simp [sameTimer, sameSocket, Ne.symm sameSocket, unnamed other]
    · by_cases sameSocket : other = id
      · simp [sameTimer, sameSocket, Ne.symm sameTimer, unknown timerId]
      · simp [sameTimer, sameSocket, linked.paired]
  · intro timerId other mapped
    rw [timerSockets] at mapped
    by_cases sameTimer : timerId = timer.timerId
    · exact ⟨ptr, timer, (congrFun live ptr).trans (if_pos rfl), sameTimer.symm⟩
    · rw [Function.update_of_ne sameTimer] at mapped
      obtain ⟨place, entry, running, same⟩ := linked.running timerId other mapped
      have apart : place ≠ ptr := by
        rintro rfl
        cases running.symm.trans vacant
      exact ⟨place, entry, (congrFun live place).trans ((if_neg apart).trans running), same⟩
  · intro place entry running
    rw [live] at running
    dsimp only at running
    split at running
    · cases running
      exact own
    · exact linked.own place entry running

theorem Linked.ended (linked : Linked r)
    (found : r.timerHeap.live ptr = some timer)
    (live : next.timerHeap.live = fun other =>
      if other = ptr then none else r.timerHeap.live other)
    (maps : r.timerToSocketMap timer.timerId = none ∧
        next.socketToTimerMap = r.socketToTimerMap ∧
        next.timerToSocketMap = r.timerToSocketMap ∨
      ∃ id, r.timerToSocketMap timer.timerId = some id ∧
        next.socketToTimerMap = Function.update r.socketToTimerMap id none ∧
        next.timerToSocketMap = Function.update r.timerToSocketMap timer.timerId none) :
    Linked next := by
  have own (place : TimerPtr) (entry : Timer ReactorTimer)
      (running : next.timerHeap.live place = some entry) :
      entry.timerCb = .sendMessageError ∧ entry.callTimes = 1 := by
    rw [live] at running
    dsimp only at running
    split at running
    · cases running
    · exact linked.own place entry running
  have others {timerId : TimerId} {other : SocketId} (different : timerId ≠ timer.timerId)
      (mapped : r.timerToSocketMap timerId = some other) :
      ∃ place entry, next.timerHeap.live place = some entry ∧ entry.timerId = timerId := by
    obtain ⟨place, entry, running, same⟩ := linked.running timerId other mapped
    have apart : place ≠ ptr := by
      rintro rfl
      cases found.symm.trans running
      exact different same.symm
    exact ⟨place, entry, (congrFun live place).trans ((if_neg apart).trans running), same⟩
  rcases maps with ⟨unmapped, socketTimers, timerSockets⟩ | ⟨id, mapped, socketTimers, timerSockets⟩
  · refine ⟨?_, ?_, own⟩
    · rw [socketTimers, timerSockets]
      exact linked.paired
    · intro timerId other mapped
      rw [timerSockets] at mapped
      apply others _ mapped
      rintro rfl
      cases mapped.symm.trans unmapped
  · have timed := (linked.paired timer.timerId id).mp mapped
    refine ⟨?_, ?_, own⟩
    · intro timerId other
      rw [socketTimers, timerSockets]
      have pair := linked.paired timerId other
      by_cases sameTimer : timerId = timer.timerId
      · by_cases sameSocket : other = id
        · simp [sameTimer, sameSocket]
        · rw [sameTimer, mapped, Option.some.injEq] at pair
          simp [sameTimer, sameSocket, ← pair, Ne.symm sameSocket]
      · by_cases sameSocket : other = id
        · rw [sameSocket, timed, Option.some.injEq] at pair
          simp [sameTimer, sameSocket, pair, Ne.symm sameTimer]
        · simp [sameTimer, sameSocket, pair]
    · intro timerId other still
      rw [timerSockets] at still
      by_cases sameTimer : timerId = timer.timerId
      · simp [sameTimer] at still
      · rw [Function.update_of_ne sameTimer] at still
        exact others sameTimer still

end Linked

theorem Watched.steady (watched : Watched known r) (steady : Steady r next)
    (served : Served next) : Watched known next := by
  obtain ⟨timerHeap, socketTimers, timerSockets, status⟩ := steady
  obtain ⟨failed, subset, issued, accounts⟩ := watched.accounts
  rw [← timerHeap] at issued
  apply Watched.of_accounts served _ watched.range subset issued
  · intro id
    rw [socketTimers]
    rcases status id with same | gone
    · rw [same]
      exact accounts id
    · rw [gone]
      exact (accounts id).gone
  · exact watched.linked.of_tables timerHeap socketTimers timerSockets

/-- There are as many timer ids as socket ids, so another socket finds an id for its timer. -/
theorem failed_lt {failed : Finset SocketId} (range : ∀ id ∈ known, 0 ≤ id ∧ id < 2 ^ 63)
    (subset : failed ⊆ known) (member : id ∈ known) (fresh : id ∉ failed) :
    (failed.card : Int) < 2 ^ 63 := by
  have within : known ⊆ Finset.Ico (0 : Int) (2 ^ 63) := by
    intro other there
    exact Finset.mem_Ico.mpr (range other there)
  have fewer := Finset.card_le_card (Finset.insert_subset member subset)
  have most := Finset.card_le_card within
  rw [Finset.card_insert_of_notMem fresh] at fewer
  rw [Int.card_Ico, sub_zero] at most
  omega

theorem failSend_statusOf (named : ∀ id connection, r.connections id = some connection →
    connection.socket = id) {old : TcpConnection} (found : r.connections id = some old)
    (now : Timestamp) (errorCode : Int) :
    (r.failSend now old errorCode).statusOf =
      Function.update r.statusOf id (some .pendingError) := by
  funext other
  rw [statusOf, failSend_connections, named id old found]
  by_cases same : other = id
  · simp [same, TcpConnection.setError]
  · simp [same, statusOf]

theorem Watched.failSend (watched : Watched known r) {old : TcpConnection}
    (found : r.connections id = some old) (connected : old.status = .connected) (now : Timestamp)
    (errorCode : Int) : Watched known (r.failSend now old errorCode) := by
  have status := failSend_statusOf watched.served.named found now errorCode
  have was : r.statusOf id = some .connected := by simp [statusOf, found, connected]
  have member := watched.present id (by simp [was])
  obtain ⟨failed, subset, issued, accounts⟩ := watched.accounts
  have fresh : id ∉ failed := fun before => (accounts id).unconnected before was
  have untimed : r.socketToTimerMap id = none := by
    by_contra timed
    exact fresh ((accounts id).named timed)
  have left := failed_lt watched.range subset member fresh
  obtain ⟨added, unused, live⟩ := issued.addTimer left now 0 .sendMessageError 1
  have socket := watched.served.named id old found
  have socketTimers : (r.failSend now old errorCode).socketToTimerMap =
      Function.update r.socketToTimerMap id
        (some (r.timerHeap.addTimer now 0 .sendMessageError 1).1) := by
    rw [← socket]
    rfl
  have timerSockets : (r.failSend now old errorCode).timerToSocketMap =
      Function.update r.timerToSocketMap (r.timerHeap.addTimer now 0 .sendMessageError 1).1
        (some id) := by
    rw [← socket]
    rfl
  have unmapped : r.timerToSocketMap (r.timerHeap.addTimer now 0 .sendMessageError 1).1 = none := by
    rw [Option.eq_none_iff_forall_ne_some]
    intro other mapped
    obtain ⟨ptr, timer, running, same⟩ := watched.linked.running _ other mapped
    exact unused ptr timer running same
  rw [← Nat.cast_one, ← Nat.cast_add, ← Finset.card_insert_of_notMem fresh] at added
  apply Watched.of_accounts _ _ watched.range (Finset.insert_subset member subset) added
  · rw [status, socketTimers]
    apply account_update accounts subset_rfl
    · intro other different
      simp [different]
    · exact ⟨fun _ => by simp, fun _ => member, fun _ => Finset.mem_insert_self id failed,
        fun _ => by simp⟩
  · exact (Effect.fail now errorCode found connected).served watched.served
  · have vacant := issued.timed.indexed.fresh r.timerHeap.nextPtr le_rfl
    exact watched.linked.started vacant live ⟨rfl, rfl⟩ unmapped untimed socketTimers timerSockets

theorem Watched.effect (watched : Watched known r) (effect : Effect r next) :
    Watched known next := by
  rcases effect.steady_or_fail watched.served with
    steady | ⟨id, old, now, errorCode, found, connected, rfl⟩
  · exact watched.steady steady (effect.served watched.served)
  · exact watched.failSend found connected now errorCode

theorem Watched.effects (watched : Watched known r) (effects : Effects r next) :
    Watched known next := by
  induction effects with
  | refl => exact watched
  | tail _ effect ih => exact ih.effect effect

theorem Linked.fired (linked : Linked r) {now : Timestamp} {firing : Firing ReactorTimer}
    {heap : TimerHeap ReactorTimer} {ptr : TimerPtr} {timer : Timer ReactorTimer}
    (fired : Fired r.timerHeap now firing heap ptr timer) :
    firing.timerCb = .sendMessageError ∧ firing.timerId = timer.timerId ∧
      heap.live = fun other => if other = ptr then none else r.timerHeap.live other := by
  obtain ⟨callback, once⟩ := linked.own ptr timer fired.found
  refine ⟨?_, ?_, ?_⟩
  · rw [fired.firing]
    exact callback
  · rw [fired.firing]
  · simp only [fired.live, once, if_true]

theorem Watched.expired (watched : Watched known r) (served : Served next) {now : Timestamp}
    {firing : Firing ReactorTimer}
    (turned : r.timerHeap.checkTurn now = some (firing, next.timerHeap))
    (maps : r.timerToSocketMap firing.timerId = none ∧
        next.socketToTimerMap = r.socketToTimerMap ∧
        next.timerToSocketMap = r.timerToSocketMap ∧ next.statusOf = r.statusOf ∨
      ∃ id, r.timerToSocketMap firing.timerId = some id ∧
        next.socketToTimerMap = Function.update r.socketToTimerMap id none ∧
        next.timerToSocketMap = Function.update r.timerToSocketMap firing.timerId none ∧
        next.statusOf = Function.update r.statusOf id none) : Watched known next := by
  obtain ⟨failed, subset, issued, accounts⟩ := watched.accounts
  obtain ⟨ptr, timer, fired⟩ := issued.timed.indexed.checkTurn_some turned
  obtain ⟨-, sameId, live⟩ := watched.linked.fired fired
  have still := issued.fired turned fired
  rw [sameId] at maps
  rcases maps with ⟨unmapped, socketTimers, timerSockets, status⟩ |
    ⟨id, mapped, socketTimers, timerSockets, status⟩
  · apply Watched.of_accounts served _ watched.range subset still
    · rw [status, socketTimers]
      exact accounts
    · exact watched.linked.ended fired.found live (.inl ⟨unmapped, socketTimers, timerSockets⟩)
  · apply Watched.of_accounts served _ watched.range subset still
    · rw [status, socketTimers]
      apply account_update accounts subset_rfl fun _ _ => Iff.rfl
      exact ⟨by simp, by simp, by simp, by simp⟩
    · exact watched.linked.ended fired.found live
        (.inr ⟨id, mapped, socketTimers, timerSockets⟩)

end EpollReactor

namespace NetThread

variable {Callback Message : Type} [BaseStruct Message] {server : GameServer Message}
  {thread : NetThread Callback Message} {known : Finset SocketId} {now : Timestamp}
  {firing : Firing ReactorTimer} {heap : TimerHeap ReactorTimer}

/-- The timer of a failed send goes off: its socket is reported and closed, if it is there. -/
theorem checkTimeout_expires (server : GameServer Message) {callback : Callback}
    (given : thread.newNetCmdCb = some callback)
    (served : Served thread.reactor)
    (turned : thread.reactor.timerHeap.checkTurn now = some (firing, heap))
    (own : firing.timerCb = .sendMessageError) {id : SocketId}
    (mapped : thread.reactor.timerToSocketMap firing.timerId = some id) :
    ∃ next handed, thread.handle server (.checkTimeout now) = some (next, handed) ∧
      Served next.reactor ∧ next.newNetCmdCb = some callback ∧ next.reactor.timerHeap = heap ∧
      next.reactor.socketToTimerMap = Function.update thread.reactor.socketToTimerMap id none ∧
      next.reactor.timerToSocketMap =
        Function.update thread.reactor.timerToSocketMap firing.timerId none ∧
      next.reactor.statusOf = Function.update thread.reactor.statusOf id none ∧
      ∀ connection, thread.reactor.connections id = some connection →
        ({ thread.reactor with timerHeap := heap }.onSendMessageError firing.timerId).2 =
          [.errorCb id connection.errorCode] := by
  let forgotten := { thread.reactor with
    timerHeap := heap
    timerToSocketMap := Function.update thread.reactor.timerToSocketMap firing.timerId none
    socketToTimerMap := Function.update thread.reactor.socketToTimerMap id none }
  have still : Served forgotten := served.of_tables rfl rfl
  have turn : thread.handle server (.checkTimeout now) =
      (thread.setReactor { thread.reactor with timerHeap := heap }).afterReactor server
        ({ thread.reactor with timerHeap := heap }.onSendMessageError firing.timerId) := by
    simp only [handle, checkTimeoutTurn, turned, own]
    rfl
  cases found : thread.reactor.connections id with
  | none =>
      have gone := served.sockets_none.mpr found
      have quiet : ({ thread.reactor with timerHeap := heap } : EpollReactor).onSendMessageError
          firing.timerId = (forgotten, []) := by
        simp only [onSendMessageError, mapped, gone]
        rfl
      rw [turn, quiet]
      refine ⟨thread.setReactor forgotten, [], rfl, still, given, rfl, rfl, rfl, ?_, ?_⟩
      · exact (Function.update_eq_self_iff.mpr (statusOf_none.mpr found).symm).symm
      · intro connection live
        cases live
  | some connection =>
      obtain ⟨socket, device⟩ := Option.isSome_iff_exists.mp
        ((served.attached id).trans (by rw [found]; rfl))
      have reports : ({ thread.reactor with timerHeap := heap } : EpollReactor).onSendMessageError
          firing.timerId = (forgotten, [.errorCb id connection.errorCode]) := by
        simp only [onSendMessageError, mapped, device, found]
        rfl
      have steady := still.closeSocket_steady id
      rw [turn, reports, afterReactor_single]
      refine ⟨thread.setReactor (forgotten.closeSocket id),
        [(callback, .plain .close (thread.netId id))], ?_, still.closeSocket id, given,
        steady.timerHeap, steady.socketTimers, steady.timerSockets,
        still.closeSocket_statusOf id, ?_⟩
      · simp only [onReactorCall, onError, closeSocket, sendNetCommand, setReactor, given]
        rfl
      · intro other same
        cases same
        rfl

theorem checkTimeout_watched {callback : Callback} (given : thread.newNetCmdCb = some callback)
    (watched : Watched known thread.reactor)
    {outcome : NetThread Callback Message × Handed Callback Message}
    (handled : thread.handle server (.checkTimeout now) = some outcome) :
    Watched known outcome.1.reactor := by
  cases turned : thread.reactor.timerHeap.checkTurn now with
  | none =>
      simp only [handle, checkTimeoutTurn, turned, Option.some.injEq] at handled
      rw [← handled]
      exact watched
  | some fired =>
      obtain ⟨firing, heap⟩ := fired
      obtain ⟨failed, -, issued, -, -⟩ := watched.counted
      obtain ⟨ptr, timer, fired⟩ := issued.timed.indexed.checkTurn_some turned
      have own := (watched.linked.fired fired).1
      cases mapped : thread.reactor.timerToSocketMap firing.timerId with
      | some id =>
          obtain ⟨next, handed, turn, served, -, timerHeap, socketTimers, timerSockets, status, -⟩ :=
            checkTimeout_expires server given watched.served turned own mapped
          rw [turn, Option.some.injEq] at handled
          rw [← handled]
          rw [← timerHeap] at turned
          exact watched.expired served turned (.inr ⟨id, mapped, socketTimers, timerSockets, status⟩)
      | none =>
          have quiet : thread.handle server (.checkTimeout now) =
              some (thread.setReactor { thread.reactor with timerHeap := heap }, []) := by
            simp only [handle, checkTimeoutTurn, turned, own, onSendMessageError, setReactor, mapped]
            rfl
          rw [quiet, Option.some.injEq] at handled
          rw [← handled]
          have served : Served (thread.setReactor { thread.reactor with timerHeap := heap }).reactor :=
            watched.served.of_tables rfl rfl
          exact watched.expired served turned (.inl ⟨mapped, rfl, rfl, rfl⟩)

theorem handle_watched {callback : Callback} (given : thread.newNetCmdCb = some callback)
    (watched : Watched known thread.reactor) {event : NetThreadEvent Message}
    {outcome : NetThread Callback Message × Handed Callback Message}
    (handled : thread.handle server event = some outcome) : Watched known outcome.1.reactor := by
  by_cases expiry : ∃ now, event = .checkTimeout now
  · obtain ⟨now, rfl⟩ := expiry
    exact checkTimeout_watched given watched handled
  · have timeless (now : Timestamp) : event ≠ .checkTimeout now := fun same => expiry ⟨now, same⟩
    exact watched.effects (handle_effects watched.served timeless handled)

end NetThread

namespace EpollReactor

theorem attachSocket_timerMaps (r : EpollReactor) (id : SocketId) (socket : TcpSocket)
    (granted : Bool) :
    (r.attachSocket id socket granted).2.socketToTimerMap = r.socketToTimerMap ∧
      (r.attachSocket id socket granted).2.timerToSocketMap = r.timerToSocketMap := by
  rw [attachSocket]
  split
  · exact ⟨rfl, rfl⟩
  · dsimp only
    split <;> exact ⟨rfl, rfl⟩

variable {r : EpollReactor} {id : SocketId} {known : Finset SocketId}

theorem Watched.attachSocket (watched : Watched known r) (new : id ∉ known)
    (range : 0 ≤ id ∧ id < 2 ^ 63) (granted : Bool) :
    Watched (insert id known) (r.attachSocket id .create granted).2 := by
  have absent : r.connections id = none := by
    rw [← statusOf_none]
    by_contra present
    exact new (watched.present id present)
  obtain ⟨served, timerHeap, status⟩ := watched.served.attachSocket .create granted absent
  obtain ⟨socketTimers, timerSockets⟩ := attachSocket_timerMaps r id .create granted
  obtain ⟨failed, subset, issued, accounts⟩ := watched.accounts
  have fresh : id ∉ failed := fun before => new (subset before)
  have untimed : r.socketToTimerMap id = none := by
    by_contra timed
    exact fresh ((accounts id).named timed)
  rw [← timerHeap] at issued
  apply Watched.of_accounts served _ _ (subset.trans (Finset.subset_insert id known)) issued
  · rw [status, socketTimers, ← Function.update_eq_self id r.socketToTimerMap]
    apply account_update accounts (Finset.subset_insert id known) fun _ _ => Iff.rfl
    rw [untimed]
    constructor
    · intro pending
      split at pending
      · cases pending
      · cases pending
    · exact fun _ => Finset.mem_insert_self id known
    · exact fun timed => absurd rfl timed
    · exact fun before => absurd before fresh
  · exact watched.linked.of_tables timerHeap socketTimers timerSockets
  · intro other member
    rcases Finset.mem_insert.mp member with rfl | before
    · exact range
    · exact watched.range other before

theorem Watched.empty (sockets : ∀ id, r.sockets id = none)
    (connections : ∀ id, r.connections id = none) (heap : r.timerHeap = .empty)
    (socketTimers : ∀ id, r.socketToTimerMap id = none)
    (timerSockets : ∀ timerId, r.timerToSocketMap timerId = none) : Watched ∅ r := by
  have status (id : SocketId) : r.statusOf id = none := statusOf_none.mpr (connections id)
  have linked : Linked r := by
    constructor
    · intro timerId id
      rw [socketTimers, timerSockets]
      simp
    · intro timerId id mapped
      cases (timerSockets timerId).symm.trans mapped
    · intro ptr timer live
      rw [heap] at live
      cases live
  have issued : Issued (∅ : Finset SocketId).card r.timerHeap := by
    rw [heap]
    exact empty_issued
  apply Watched.of_accounts (.of_empty sockets connections) linked _ subset_rfl issued
  · intro id
    rw [status, socketTimers]
    exact ⟨by simp, by simp, by simp, by simp⟩
  · intro id member
    cases member

end EpollReactor

structure PendingRun (Callback Message : Type) where
  thread : NetThread Callback Message
  attached : Finset SocketId

namespace PendingRun

variable {Callback Message : Type} [BaseStruct Message]

/-- Every attach is of a new socket, whose id is a non-negative `int64_t`; it may fail. -/
def step (server : GameServer Message) (s : PendingRun Callback Message) :
    BroadcastEvent Message → Option (PendingRun Callback Message)
  | .attach socketId granted =>
      if socketId ∉ s.attached ∧ 0 ≤ socketId ∧ socketId < 2 ^ 63 then
        (s.thread.attach socketId granted).map fun outcome =>
          { thread := outcome.1, attached := insert socketId s.attached }
      else none
  | .handle event =>
      (s.thread.handle server event).map fun outcome => { s with thread := outcome.1 }

def Expires (server : GameServer Message) (thread : NetThread Callback Message) (id : SocketId)
    (errorCode : Int) (timerId : TimerId) : Prop :=
  ∀ now firing heap, thread.reactor.timerHeap.checkTurn now = some (firing, heap) →
    firing.timerId = timerId → firing.timerCb = .sendMessageError ∧
      ({ thread.reactor with timerHeap := heap }.onSendMessageError timerId).2 =
        [.errorCb id errorCode] ∧
      ∃ next handed, thread.handle server (.checkTimeout now) = some (next, handed) ∧
        next.reactor.connections id = none ∧ next.reactor.timerHeap.timerMap timerId = none

/-- Every connection with an error has a live timer that is called once, for this socket, and no
connection is left with a peer that has closed. -/
structure Unstuck (server : GameServer Message) (s : PendingRun Callback Message) : Prop where
  watched : ∀ id connection, s.thread.reactor.connections id = some connection →
    connection.status = .pendingError → ∃ timerId ptr timer,
      s.thread.reactor.socketToTimerMap id = some timerId ∧
      s.thread.reactor.timerToSocketMap timerId = some id ∧
      s.thread.reactor.timerHeap.timerMap timerId = some ptr ∧
      s.thread.reactor.timerHeap.timers ptr = some timer ∧
      s.thread.reactor.timerHeap.Stored ptr ∧
      timer.timerId = timerId ∧ timer.callTimes = 1 ∧
      Expires server s.thread id connection.errorCode timerId
  open_ : ∀ id connection, s.thread.reactor.connections id = some connection →
    connection.status ≠ .peerClosed

structure Sound (s : PendingRun Callback Message) : Prop where
  watched : Watched s.attached s.thread.reactor
  callback : ∃ callback, s.thread.newNetCmdCb = some callback

variable {server : GameServer Message} {s next : PendingRun Callback Message}
  {event : BroadcastEvent Message}

theorem Sound.step (sound : Sound s) (taken : s.step server event = some next) : Sound next := by
  obtain ⟨callback, given⟩ := sound.callback
  cases event with
  | attach socketId granted =>
      rw [PendingRun.step] at taken
      split at taken
      · rename_i fresh
        rw [Option.map_eq_some_iff] at taken
        obtain ⟨outcome, attached, rfl⟩ := taken
        have kept := NetThread.attach_kept sound.watched.served attached
        refine ⟨?_, callback, kept.2.trans given⟩
        obtain ⟨thread, handed⟩ := outcome
        obtain ⟨rfl, -⟩ := NetThread.attach_some attached
        exact sound.watched.attachSocket fresh.1 fresh.2 granted
      · cases taken
  | handle event =>
      rw [PendingRun.step, Option.map_eq_some_iff] at taken
      obtain ⟨outcome, handled, rfl⟩ := taken
      have kept := NetThread.handle_kept sound.watched.served handled
      exact ⟨NetThread.handle_watched given sound.watched handled, callback, kept.2.trans given⟩

theorem Sound.unstuck (sound : Sound s) : Unstuck server s := by
  obtain ⟨watched, callback, given⟩ := sound
  obtain ⟨failed, -, issued, -, -⟩ := watched.counted
  have indexed := issued.timed.indexed
  constructor
  · intro id connection found pending
    obtain ⟨timerId, timed⟩ := watched.pending id (by simp [statusOf, found, pending])
    have mapped := (watched.linked.paired timerId id).mpr timed
    obtain ⟨ptr, timer, live, named⟩ := watched.linked.running timerId id mapped
    obtain ⟨stored, memory, rfl⟩ := live_some live
    have once : stored.callTimes = 1 := (watched.linked.own ptr _ live).2
    refine ⟨timerId, ptr, stored, timed, mapped, (indexed.mapped timerId ptr).mpr ⟨_, live, named⟩,
      memory, (indexed.owned ptr).mpr (by rw [live]; rfl), named, once, ?_⟩
    intro now firing heap turned same
    obtain ⟨place, entry, fired⟩ := indexed.checkTurn_some turned
    obtain ⟨own, sameId, gone⟩ := watched.linked.fired fired
    rw [← same] at mapped
    obtain ⟨next, handed, handled, -, -, timerHeap, -, -, status, reports⟩ :=
      NetThread.checkTimeout_expires server given watched.served turned own mapped
    rw [← same]
    refine ⟨own, reports connection found, next, handed, handled, ?_, ?_⟩
    · rw [← statusOf_none, status, Function.update_self]
    · rw [timerHeap, Option.eq_none_iff_forall_ne_some]
      intro other still
      obtain ⟨another, running, anotherId⟩ := (fired.indexed.mapped _ other).mp still
      rw [gone] at running
      dsimp only at running
      split at running
      · cases running
      · rename_i apart
        have first := (indexed.mapped firing.timerId place).mpr ⟨entry, fired.found, sameId.symm⟩
        have second := (indexed.mapped firing.timerId other).mpr ⟨another, running, anotherId⟩
        rw [first, Option.some.injEq] at second
        exact apart second.symm
  · intro id connection found closed
    rcases watched.served.status id connection found with connected | pending
    · cases closed.symm.trans connected
    · cases closed.symm.trans pending

/-- Over every run of a server's thread that has been initialised, whatever its sockets, commands
and timers bring. -/
theorem unstuck_every (server : GameServer Message) (createMessageFunc : Int → Option Message)
    (maxRecvPacketLength id : Int) (maxSendPacketLength maxRecvBufferSize maxSendBufferSize : Nat)
    (callback : Callback) (events : List (BroadcastEvent Message)) :
    let thread := ((NetThread.create maxRecvPacketLength maxSendPacketLength
      createMessageFunc).init id maxRecvBufferSize maxSendBufferSize (some callback) true).2
    Every (step server) (Unstuck server) { thread := thread, attached := ∅ } events := by
  intro thread
  have initial : Sound { thread := thread, attached := ∅ } :=
    ⟨.empty (fun _ => rfl) (fun _ => rfl) rfl (fun _ => rfl) (fun _ => rfl), callback, rfl⟩
  have preserved {s next : PendingRun Callback Message} {event : BroadcastEvent Message}
      (sound : Sound s)
      (_ : (fun _ _ => True : PendingRun Callback Message → BroadcastEvent Message → Prop) s event)
      (taken : s.step server event = some next) : Sound next :=
    sound.step taken
  exact (every_of_invariant preserved initial (along_always _ events)).mono
    fun sound => sound.unstuck

end PendingRun

end ZBlueNet
