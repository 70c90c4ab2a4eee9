import ZBlueNet.ServiceStart

/-!
How `TcpService::onNewConnCallback` spreads connections over the net threads of a service that has
been set up, while connections close between the accepts.
-/

namespace ZBlueNet

open Runs EpollReactor

/-- `accepted` are the ids that the acceptor has given out. -/
structure ServiceLoad (Message : Type) where
  netThreads : StartingThreads Message
  accepted : List SocketId

inductive LoadEvent
  | accept (socketId : SocketId)
  | close (i : Nat) (socketId : SocketId)
deriving DecidableEq, Repr

namespace ServiceLoad

variable {Message : Type}

def start (netThreadNum : Nat) (createMessageFunc : Int → Option Message) :
    ServiceLoad Message :=
  { netThreads := (List.range netThreadNum).map fun (i : Nat) =>
      some ((StartingThread.create createMessageFunc).buildReactor.setCallbacks (i : Int))
    accepted := [] }

/-- Every way to lose a connection ends in `Reactor::closeSocket` of its thread. -/
def close (i : Nat) (socketId : SocketId) (s : ServiceLoad Message) : ServiceLoad Message :=
  { s with netThreads := s.netThreads.modify i (Option.map fun starting =>
      { thread := starting.thread.setReactor (starting.thread.reactor.closeSocket socketId)
        connectionIds := starting.connectionIds.map fun ids => ids.erase socketId }) }

def step (s : ServiceLoad Message) : LoadEvent → Option (ServiceLoad Message)
  | .accept socketId =>
      match TcpService.onNewConnCallback s.netThreads socketId true with
      | .ok (true, netThreads, _) => some ⟨netThreads, s.accepted ++ [socketId]⟩
      | _ => none
  | .close i socketId => some (s.close i socketId)

def idsAt (s : ServiceLoad Message) (i : Nat) : List SocketId :=
  match TcpService.threadAt s.netThreads i with
  | .ok found => found.2
  | .error _ => []

def connectionNum (s : ServiceLoad Message) (i : Nat) : Nat := (s.idsAt i).length

def Fresh (s : ServiceLoad Message) : LoadEvent → Prop
  | .accept socketId => socketId ∉ s.accepted
  | .close _ _ => True

instance (s : ServiceLoad Message) (event : LoadEvent) : Decidable (s.Fresh event) := by
  cases event <;> simp only [Fresh] <;> infer_instance

/-- A new connection is attached, to a thread that has as few as any, and the others keep theirs. -/
def Chooses (s : ServiceLoad Message) : Prop :=
  ∀ socketId, socketId ∉ s.accepted → ∃ chosen next,
    s.step (.accept socketId) = some next ∧ chosen < s.netThreads.length ∧
      (∀ j < s.netThreads.length, s.connectionNum chosen ≤ s.connectionNum j) ∧
      next.idsAt chosen = s.idsAt chosen ++ [socketId] ∧
      ∀ j, j ≠ chosen → next.netThreads[j]? = s.netThreads[j]?

def Level (s : ServiceLoad Message) : Prop :=
  ∀ i < s.netThreads.length, ∀ j < s.netThreads.length, s.connectionNum i = s.connectionNum j

def Balanced (s : ServiceLoad Message) : Prop :=
  ∀ i < s.netThreads.length, ∀ j < s.netThreads.length, s.connectionNum i ≤ s.connectionNum j + 1

structure Serving (accepted : List SocketId) (thread : NetThread Unit Message)
    (ids : List SocketId) : Prop where
  called : thread.newNetCmdCb = some ()
  holding : Holding accepted thread.reactor ids
  attached : ∀ id socket, thread.reactor.sockets id = some socket → socket.attached = true

structure Formed (s : ServiceLoad Message) : Prop where
  inhabited : 0 < s.netThreads.length
  serving : ∀ i < s.netThreads.length, ∃ thread ids,
    s.netThreads[i]? = some (some ⟨thread, some ids⟩) ∧ Serving s.accepted thread ids

variable {accepted ids : List SocketId} {thread : NetThread Unit Message} {socketId : SocketId}

theorem Serving.mono (serving : Serving accepted thread ids) :
    Serving (accepted ++ [socketId]) thread ids :=
  ⟨serving.called, serving.holding.mono, serving.attached⟩

theorem Serving.attach (serving : Serving accepted thread ids) (new : socketId ∉ accepted) :
    ∃ after pushed, thread.attach socketId true = some (after, pushed) ∧
      (thread.reactor.attachSocket socketId .create true).1 = true ∧
      Serving (accepted ++ [socketId]) after (ids ++ [socketId]) := by
  obtain ⟨called, holding, attached⟩ := serving
  obtain ⟨taken, held⟩ := holding.attachSocket new true
  have done : ∃ pushed, thread.attach socketId true =
      some ({ thread with reactor := (thread.reactor.attachSocket socketId .create true).2 },
        pushed) := by
    simp only [NetThread.attach, NetThread.sendNetCommand, called, Option.map_some]
    exact ⟨_, rfl⟩
  obtain ⟨pushed, done⟩ := done
  refine ⟨_, pushed, done, taken, called, held rfl, ?_⟩
  intro id socket found
  dsimp only at found
  simp only [EpollReactor.attachSocket] at taken found
  split at found
  · exact attached id socket found
  · rename_i unknown
    simp only [unknown] at taken
    split at found
    · simp only [insertConnection, setSocket, Function.update_apply] at found
      split at found
      · cases found
        rfl
      · exact attached id socket found
    · exact attached id socket found

theorem closeSocket_registered {r : EpollReactor}
    (attached : ∀ socket, r.sockets socketId = some socket → socket.attached = true)
    (unknown : r.sockets socketId = none → r.epoller.registered socketId = none) :
    (r.closeSocket socketId).epoller.registered =
      Function.update r.epoller.registered socketId none := by
  rw [EpollReactor.closeSocket]
  cases found : r.sockets socketId with
  | none => rw [← unknown found, Function.update_eq_self]
  | some socket =>
      simp only [detachIOService, found, attached socket found, if_true, setSocket]
      rw [Epoller.del]
      cases here : r.epoller.registered socketId with
      | none =>
          have same : Function.update r.epoller.registered socketId none =
              r.epoller.registered := by
            rw [← here, Function.update_eq_self]
          simp only [same]
      | some mask => rfl

theorem Serving.closeSocket (serving : Serving accepted thread ids) (socketId : SocketId) :
    Serving accepted (thread.setReactor (thread.reactor.closeSocket socketId))
      (ids.erase socketId) := by
  obtain ⟨called, holding, attached⟩ := serving
  have connections := holding.served.closeSocket_connections socketId
  have sockets := closeSocket_sockets thread.reactor socketId
  refine ⟨called, ⟨holding.served.closeSocket socketId, holding.nodup.erase socketId, ?_, ?_, ?_⟩, ?_⟩
  · intro id
    rw [holding.nodup.mem_erase_iff, holding.keys, NetThread.setReactor, connections,
      Function.update_apply]
    split <;> simp_all
  · intro id listed
    exact holding.known id (List.mem_of_mem_erase listed)
  · intro id unlisted
    have registered := closeSocket_registered (attached socketId) fun unknown => by
      apply holding.registered
      rw [holding.keys, not_not]
      exact holding.served.sockets_none.mp unknown
    rw [NetThread.setReactor, registered, Function.update_apply]
    split
    · rfl
    · rename_i other
      apply holding.registered
      rwa [List.mem_erase_of_ne other] at unlisted
  · intro id socket found
    rw [NetThread.setReactor, sockets, Function.update_apply] at found
    split at found
    · cases found
    · exact attached id socket found

variable {s next : ServiceLoad Message}

theorem idsAt_of_found {i : Nat} (found : s.netThreads[i]? = some (some ⟨thread, some ids⟩)) :
    s.idsAt i = ids := by
  rw [idsAt, TcpService.threadAt_ok found]

theorem start_formed {netThreadNum : Nat} (positive : 1 ≤ netThreadNum)
    (createMessageFunc : Int → Option Message) :
    (start netThreadNum createMessageFunc).Formed := by
  constructor
  case inhabited =>
    rw [start, List.length_map, List.length_range]
    exact positive
  case serving =>
    intro i inside
    have below : i < netThreadNum := by simpa [start] using inside
    refine ⟨((StartingThread.create createMessageFunc).buildReactor.setCallbacks i).thread, [], ?_,
      rfl, Holding.empty [], ?_⟩
    · rw [start, List.getElem?_map, List.getElem?_range below]
      rfl
    · intro id socket found
      cases found

theorem Formed.counted (formed : s.Formed) :
    ∀ i < s.netThreads.length,
      TcpService.getConnectionNum s.netThreads i = .ok (s.connectionNum i) := by
  intro i inside
  obtain ⟨thread, ids, found, -⟩ := formed.serving i inside
  rw [connectionNum, idsAt_of_found found]
  exact TcpService.getConnectionNum_ok.mpr ⟨thread, ids, found, rfl⟩

theorem Formed.accept (formed : s.Formed) (new : socketId ∉ s.accepted) :
    ∃ chosen thread ids after next,
      TcpService.Least s.connectionNum s.netThreads.length chosen ∧
      s.netThreads[chosen]? = some (some ⟨thread, some ids⟩) ∧
      Serving (s.accepted ++ [socketId]) after (ids ++ [socketId]) ∧
      s.step (.accept socketId) = some next ∧
      next = ⟨s.netThreads.set chosen (some ⟨after, some (ids ++ [socketId])⟩),
        s.accepted ++ [socketId]⟩ := by
  obtain ⟨chosen, least, called⟩ :=
    TcpService.onNewConnCallback_least formed.counted formed.inhabited socketId true
  obtain ⟨thread, ids, found, serving⟩ := formed.serving chosen least.inside
  obtain ⟨after, pushed, done, taken, still⟩ := serving.attach new
  refine ⟨chosen, thread, ids, after, _, least, found, still, ?_, rfl⟩
  rw [step, called, TcpService.attachTo, TcpService.threadAt_ok found]
  simp only [Except.bind, done, taken, if_true]

theorem Formed.chooses (formed : s.Formed) : s.Chooses := by
  intro socketId new
  obtain ⟨chosen, thread, ids, after, next, least, found, -, taken, rfl⟩ := formed.accept new
  have inside := least.inside
  refine ⟨chosen, _, taken, inside, least.least, ?_, ?_⟩
  · rw [idsAt_of_found found]
    exact idsAt_of_found (List.getElem?_set_self inside)
  · intro j other
    exact List.getElem?_set_ne other.symm

theorem Formed.close (formed : s.Formed) (i : Nat) (socketId : SocketId) :
    (s.close i socketId).Formed := by
  have size : (s.close i socketId).netThreads.length = s.netThreads.length :=
    List.length_modify ..
  constructor
  case inhabited => rw [size]; exact formed.inhabited
  case serving =>
    rw [size]
    intro j inside
    obtain ⟨thread, ids, found, serving⟩ := formed.serving j inside
    rw [ServiceLoad.close, List.getElem?_modify, found]
    by_cases same : i = j
    · simp only [if_pos same]
      exact ⟨_, _, rfl, serving.closeSocket socketId⟩
    · simp only [if_neg same]
      exact ⟨_, _, rfl, serving⟩

theorem Formed.step (formed : s.Formed) {event : LoadEvent} (fresh : s.Fresh event)
    (taken : s.step event = some next) : next.Formed := by
  cases event with
  | close i socketId =>
      cases taken
      exact formed.close i socketId
  | accept socketId =>
      obtain ⟨chosen, thread, ids, after, _, least, -, serving, step, rfl⟩ := formed.accept fresh
      cases step.symm.trans taken
      constructor
      case inhabited =>
        rw [List.length_set]
        exact formed.inhabited
      case serving =>
        rw [List.length_set]
        intro j inside
        by_cases same : chosen = j
        · subst same
          exact ⟨after, _, List.getElem?_set_self inside, serving⟩
        · obtain ⟨other, others, found, still⟩ := formed.serving j inside
          exact ⟨other, others, (List.getElem?_set_ne same).trans found, still.mono⟩

theorem idsAt_congr {i : Nat} (same : next.netThreads[i]? = s.netThreads[i]?) :
    next.idsAt i = s.idsAt i := by
  simp only [idsAt, TcpService.threadAt, same]

theorem Formed.balanced_accept (formed : s.Formed) (balanced : s.Balanced)
    (new : socketId ∉ s.accepted) (taken : s.step (.accept socketId) = some next) :
    next.Balanced := by
  obtain ⟨chosen, thread, ids, after, _, least, found, -, step, rfl⟩ := formed.accept new
  cases step.symm.trans taken
  have inside := least.inside
  have more : connectionNum ⟨s.netThreads.set chosen (some ⟨after, some (ids ++ [socketId])⟩),
      s.accepted ++ [socketId]⟩ chosen = s.connectionNum chosen + 1 := by
    rw [connectionNum, idsAt_of_found (List.getElem?_set_self inside), connectionNum,
      idsAt_of_found found, List.length_append, List.length_singleton]
  have others (j : Nat) (other : j ≠ chosen) :
      connectionNum ⟨s.netThreads.set chosen (some ⟨after, some (ids ++ [socketId])⟩),
        s.accepted ++ [socketId]⟩ j = s.connectionNum j := by
    rw [connectionNum, idsAt_congr (List.getElem?_set_ne other.symm), connectionNum]
  intro i iInside j jInside
  rw [List.length_set] at iInside jInside
  have before := balanced i iInside j jInside
  have fewest := least.least j jInside
  by_cases iChosen : i = chosen
  · by_cases jChosen : j = chosen
    · rw [iChosen, jChosen]
      omega
    · rw [iChosen, more, others j jChosen]
      omega
  · rw [others i iChosen]
    by_cases jChosen : j = chosen
    · rw [jChosen] at before
      rw [jChosen, more]
      omega
    · rw [others j jChosen]
      omega

/-- Every new connection goes to a thread with the fewest, and while none closes, counts that were
equal once stay within one of each other. -/
theorem spread_evenly {netThreadNum : Nat} (positive : 1 ≤ netThreadNum)
    (createMessageFunc : Int → Option Message) {events : List LoadEvent}
    (fresh : Along step Fresh (start netThreadNum createMessageFunc) events) :
    Every step Chooses (start netThreadNum createMessageFunc) events ∧
      ∀ before after middle, events = before ++ after →
        run step (start netThreadNum createMessageFunc) before = some middle → middle.Level →
        (∀ event ∈ after, ∃ socketId, event = .accept socketId) →
        Every step Balanced middle after := by
  have formed := start_formed positive createMessageFunc
  have keeps {s next : ServiceLoad Message} {event : LoadEvent} (formed : s.Formed)
      (fresh : s.Fresh event) (taken : s.step event = some next) : next.Formed :=
    formed.step fresh taken
  constructor
  · exact (every_of_invariant keeps formed fresh).mono fun formed => formed.chooses
  · intro before after middle cut reached level accepts
    rw [cut, along_append] at fresh
    have middleFormed := run_invariant keeps formed fresh.1 reached
    have balanced : middle.Balanced := by
      intro i iInside j jInside
      rw [level i iInside j jInside]
      exact Nat.le_succ _
    have allowed := (fresh.2 middle reached).and (Along.of_forall accepts middle)
    have every : Every step (fun s => s.Formed ∧ s.Balanced) middle after := by
      refine every_of_invariant ?_ ⟨middleFormed, balanced⟩ allowed
      rintro s event next ⟨formed, balanced⟩ ⟨fresh, socketId, rfl⟩ taken
      exact ⟨formed.step fresh taken, formed.balanced_accept balanced fresh taken⟩
    exact every.mono fun both => both.2

def clientLeaves : List LoadEvent := [.accept 7, .accept 8, .close 0 7, .accept 9]

theorem spread_evenly_clientLeaves :
    Every step Chooses (start 2 fun _ => (none : Option Unit)) clientLeaves ∧
      ∀ before after middle, clientLeaves = before ++ after →
        run step (start 2 fun _ => (none : Option Unit)) before = some middle → middle.Level →
        (∀ event ∈ after, ∃ socketId, event = .accept socketId) →
        Every step Balanced middle after :=
  spread_evenly (by decide) (fun _ => none) (by decide)

end ServiceLoad

end ZBlueNet
