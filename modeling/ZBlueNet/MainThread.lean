import ZBlueNet.HandledMessages
import Mathlib.Algebra.BigOperators.Group.Finset.Basic

/-!
What the main thread of a service makes of the commands that are under way to it: a
connection that it has forgotten stays silent, and the commands run dry.
-/

namespace ZBlueNet

open Runs EpollReactor

namespace HandledRun

variable {n : Nat} {Message : Type} [BaseStruct Message] {server : GameServer Message}
  {messageHandlers : Int → Option Nat} {pipeCapacity : Nat} {s next : HandledRun n Message}
  {id : NetId}

/-! A connection that is closed. -/

structure Opened (id : NetId) (net : NetThreads n Message) : Prop where
  attached : id ∈ net.attached
  opened : ¬Has net.clientNetCommandQueue.queue .new id

omit [BaseStruct Message] in
theorem opened_of_known (formed : s.run.Formed) (known : s.run.service.connectionInfos id ≠ none) :
    Opened id s.run.net := by
  obtain ⟨i, socketId, rfl⟩ := formed.housed id known
  have coherent := formed.coherent i socketId
  have stored : (s.run.link i socketId).known = true := Option.isSome_iff_ne_none.mpr known
  constructor
  · by_contra new
    have unattached : (s.run.link i socketId).attached = false := decide_eq_false new
    have unknown := (coherent.fresh unattached).2.1
    cases stored.symm.trans unknown
  · intro new
    have opening : (s.run.link i socketId).opening = true := decide_eq_true new
    cases opening.symm.trans (coherent.once stored)

theorem Opened.netStep {net : NetThreads n Message} (formed : s.run.Formed)
    (opened : Opened id s.run.net) {event : NetThreadsEvent n Message}
    (stepped : s.run.net.step server pipeCapacity event = some net) : Opened id net := by
  have reacts {i : Fin n} {thread : NetThread Unit Message} {event : NetThreadEvent Message}
      (reacted : s.run.net.react server i thread event = some net) : Opened id net := by
    simp only [NetThreads.react] at reacted
    split at reacted
    · obtain ⟨outcome, handled, rfl⟩ := Option.map_eq_some_iff.mp reacted
      exact ⟨opened.attached, opened.opened⟩
    · cases reacted
  cases event with
  | attach i socketId granted =>
      simp only [NetThreads.step] at stepped
      split at stepped
      · rename_i fresh
        obtain ⟨outcome, attached, rfl⟩ := Option.map_eq_some_iff.mp stepped
        obtain ⟨-, callback, -, handed⟩ := NetThread.attach_some attached
        refine ⟨List.mem_append_left _ opened.attached, ?_⟩
        dsimp only
        rw [handed, List.map_singleton, List.foldl_cons, List.foldl_nil, MessageQueue.push_queue,
          SetupRun.has_snoc]
        rintro (before | ⟨-, same⟩)
        · exact opened.opened before
        · have other : id ≠ (s.run.net.threads i).netId socketId := fun mine =>
            fresh.1 (mine ▸ opened.attached)
          exact other same.symm
      · cases stepped
  | handle i event =>
      simp only [NetThreads.step] at stepped
      split at stepped
      · cases stepped
      · exact reacts stepped
  | onNetCommand i env =>
      simp only [NetThreads.step, Option.bind_eq_some_iff] at stepped
      obtain ⟨popped, -, reacted⟩ := stepped
      exact reacts reacted
  | pushClientNetCommand i =>
      simp only [NetThreads.step] at stepped
      split at stepped
      · cases stepped
      · rename_i cmd rest waiting
        cases stepped
        refine ⟨opened.attached, ?_⟩
        dsimp only
        rw [MessageQueue.push_queue, SetupRun.has_snoc]
        rintro (before | ⟨new, -⟩)
        · exact opened.opened before
        · exact (formed.own i cmd (waiting ▸ List.mem_cons_self)).1 new
  | push i cmd =>
      simp only [NetThreads.step] at stepped
      split at stepped
      · cases stepped
      · cases stepped
        exact ⟨opened.attached, opened.opened⟩

theorem Opened.step (formed : s.run.Formed) (opened : Opened id s.run.net)
    {event : ServiceEvent n Message} (taken : s.step server pipeCapacity event = some next) :
    Opened id next.run.net := by
  obtain ⟨run, stepped, rfl⟩ := Option.map_eq_some_iff.mp taken
  cases event with
  | net event =>
      simp only [ServiceRun.step, Option.map_eq_some_iff] at stepped
      obtain ⟨net, stepped, rfl⟩ := stepped
      exact opened.netStep formed stepped
  | processNetCommand now =>
      simp only [ServiceRun.step, Option.bind_eq_some_iff, Option.map_eq_some_iff] at stepped
      obtain ⟨popped, popping, net, performed, rfl⟩ := stepped
      have pushed := ServiceRun.perform_pushed performed
      refine ⟨pushed.attached ▸ opened.attached, ?_⟩
      rw [pushed.queue]
      intro new
      apply opened.opened
      rw [MessageQueue.pop_some popping]
      exact has_cons.mpr (.inr new)
  | disconnect other =>
      simp only [ServiceRun.step] at stepped
      split at stepped
      · cases stepped
      · obtain ⟨net, performed, rfl⟩ := Option.map_eq_some_iff.mp stepped
        have pushed := ServiceRun.perform_pushed performed
        exact ⟨pushed.attached ▸ opened.attached, pushed.queue ▸ opened.opened⟩

/-- A connection that the service does not know gets no message, and only a NEW command makes it
known. -/
theorem Opened.silent (opened : Opened id s.run.net)
    (unknown : s.run.service.connectionInfos id = none) {event : ServiceEvent n Message}
    (taken : s.step server pipeCapacity event = some next) :
    next.run.service.connectionInfos id = none ∧ next.handled id = s.handled id := by
  obtain ⟨run, stepped, rfl⟩ := Option.map_eq_some_iff.mp taken
  cases event with
  | net event =>
      simp only [ServiceRun.step, Option.map_eq_some_iff] at stepped
      obtain ⟨net, stepped, rfl⟩ := stepped
      exact ⟨unknown, List.append_nil _⟩
  | processNetCommand now =>
      simp only [ServiceRun.step, Option.bind_eq_some_iff, Option.map_eq_some_iff] at stepped
      obtain ⟨popped, popping, net, performed, rfl⟩ := stepped
      have quiet : handledOf id (s.run.service.processNetCommand now popped.1).2 = [] ∧
          (s.run.service.processNetCommand now popped.1).1.connectionInfos id = none := by
        by_cases mine : popped.1.type = .message ∧ popped.1.id = id
        · obtain ⟨isMessage, named⟩ := mine
          have same : s.run.service.processNetCommand now popped.1 =
              s.run.service.onMessage now popped.1 := by
            rw [TcpService.processNetCommand, isMessage]
          obtain ⟨gets, known⟩ := (s.run.service.onMessage_handled now popped.1 id).2.2 named
          rw [same]
          constructor
          · rcases gets with nothing | ⟨knows, -⟩
            · exact nothing
            · exact absurd unknown knows
          · by_contra knows
            exact (known knows).1 unknown
        · have apart (isMessage : popped.1.type = .message) : popped.1.id ≠ id := fun named =>
            mine ⟨isMessage, named⟩
          obtain ⟨nothing, known⟩ := (s.run.service.processNetCommand_handled now popped.1 id).2 apart
          refine ⟨nothing, ?_⟩
          by_contra knows
          rcases known knows with before | new
          · exact before unknown
          · apply opened.opened
            rw [MessageQueue.pop_some popping]
            exact has_cons.mpr (.inl new)
      refine ⟨quiet.2, ?_⟩
      simp only [calls, popping, quiet.1, List.append_nil]
  | disconnect other =>
      simp only [ServiceRun.step] at stepped
      split at stepped
      · cases stepped
      · obtain ⟨net, performed, rfl⟩ := Option.map_eq_some_iff.mp stepped
        refine ⟨?_, List.append_nil _⟩
        by_cases same : id = other
        · simp [TcpService.disconnect, TcpService.onDisconnect, TcpService.setInfo, same]
        · simpa [TcpService.disconnect, TcpService.onDisconnect, TcpService.setInfo, same] using unknown

/-- A connection that the service forgets, because the program disconnects it, the limit of requests
is exceeded or its CLOSE command comes, gets no further message and does not come back. -/
theorem forgotten_stays_silent (server : GameServer Message) (pipeCapacity n : Nat)
    (createMessageFunc : Int → Option Message) (maxRequestPerSecond : Int)
    (messageHandlers : Int → Option Nat) (before after : List (ServiceEvent n Message))
    {s forgot : HandledRun n Message} {event : ServiceEvent n Message} {id : NetId}
    (reached : Runs.run (step server pipeCapacity)
      (start n createMessageFunc maxRequestPerSecond messageHandlers) before = some s)
    (known : s.run.service.connectionInfos id ≠ none)
    (taken : s.step server pipeCapacity event = some forgot)
    (unknown : forgot.run.service.connectionInfos id = none) :
    Every (step server pipeCapacity) (fun later => later.run.service.connectionInfos id = none ∧
      later.handled id = forgot.handled id) forgot after := by
  have steps {s next : HandledRun n Message} {event : ServiceEvent n Message}
      (formed : s.run.Formed) (taken : s.step server pipeCapacity event = some next) :
      next.run.Formed := by
    obtain ⟨run, stepped, rfl⟩ := Option.map_eq_some_iff.mp taken
    exact formed.step stepped
  have formed : s.run.Formed := by
    have initial : (start n createMessageFunc maxRequestPerSecond messageHandlers).run.Formed :=
      (Sound.initial server createMessageFunc maxRequestPerSecond messageHandlers).formed
    exact run_invariant (fun formed _ taken => steps formed taken) initial
      (along_always _ before) reached
  have opened := (opened_of_known formed known).step formed taken
  have every : Every (step server pipeCapacity) (fun later => later.run.Formed ∧
      Opened id later.run.net ∧ later.run.service.connectionInfos id = none ∧
      later.handled id = forgot.handled id) forgot after := by
    apply every_of_invariant ?_ ⟨steps formed taken, opened, unknown, rfl⟩ (along_always _ after)
    rintro state event next ⟨formed, opened, unknown, same⟩ - taken
    obtain ⟨still, silent⟩ := opened.silent unknown taken
    exact ⟨steps formed taken, opened.step formed taken, still, silent.trans same⟩
  exact every.mono fun later => later.2.2

theorem forgotten_stays_silent_disconnect :
    ∃ s forgot, Runs.run (step (rawServer 40960) 16)
        (start 1 (rawServer 40960).netProtocol.createMessageFunc 0 oneHandler)
        (twoMessages.take 7) = some s ∧
      s.step (rawServer 40960) 16 (.disconnect ⟨0, 9⟩) = some forgot ∧
      s.handled ⟨0, 9⟩ = [(3, some ⟨[5]⟩)] ∧
      Every (step (rawServer 40960) 16) (fun later =>
        later.run.service.connectionInfos ⟨0, 9⟩ = none ∧
          later.handled ⟨0, 9⟩ = forgot.handled ⟨0, 9⟩) forgot [.processNetCommand 0] := by
  have facts : (Runs.run (step (rawServer 40960) 16)
      (start 1 (rawServer 40960).netProtocol.createMessageFunc 0 oneHandler)
      (twoMessages.take 7)).map (fun s => (s.run.service.connectionInfos ⟨0, 9⟩ ≠ none ∧
        s.handled ⟨0, 9⟩ = [(3, some ⟨[5]⟩)] ∧
        ∃ forgot ∈ s.step (rawServer 40960) 16 (.disconnect ⟨0, 9⟩),
          forgot.run.service.connectionInfos ⟨0, 9⟩ = none : Bool)) = some true := by
    decide +kernel
  obtain ⟨s, reached, facts⟩ := Option.map_eq_some_iff.mp facts
  obtain ⟨known, handled, forgot, taken, unknown⟩ := of_decide_eq_true facts
  exact ⟨s, forgot, reached, taken, handled, forgotten_stays_silent (rawServer 40960) 16 1 _ 0
    oneHandler (twoMessages.take 7) [.processNetCommand 0] reached known taken unknown⟩

/-! Commands that are under way. -/

def MovesOn : ServiceEvent n Message → Prop
  | .net (.pushClientNetCommand _) | .processNetCommand _ => True
  | _ => False

/-- A command that a net thread still has to push counts twice. -/
def underWay (net : NetThreads n Message) : Nat :=
  2 * ∑ i, (net.handed i).length + net.clientNetCommandQueue.queue.length

omit [BaseStruct Message] in
theorem sum_handed_update {handed : Fin n → List (NetCommand Message)} {i : Fin n}
    {cmd : NetCommand Message} {rest : List (NetCommand Message)} (front : handed i = cmd :: rest) :
    ∑ j, (handed j).length = ∑ j, (Function.update handed i rest j).length + 1 := by
  have others : ∑ j ∈ Finset.univ.erase i, (Function.update handed i rest j).length =
      ∑ j ∈ Finset.univ.erase i, (handed j).length := by
    apply Finset.sum_congr rfl
    intro j member
    rw [Function.update_of_ne (Finset.ne_of_mem_erase member)]
  rw [← Finset.add_sum_erase _ _ (Finset.mem_univ i),
    ← Finset.add_sum_erase _ (fun j => (Function.update handed i rest j).length)
      (Finset.mem_univ i), others, Function.update_self, front, List.length_cons]
  omega

theorem MovesOn.less {event : ServiceEvent n Message} (moves : MovesOn event)
    (taken : s.step server pipeCapacity event = some next) :
    underWay next.run.net < underWay s.run.net ∧ next.received = s.received := by
  obtain ⟨run, stepped, rfl⟩ := Option.map_eq_some_iff.mp taken
  cases event with
  | net event =>
      cases event with
      | pushClientNetCommand i =>
          simp only [ServiceRun.step, Option.map_eq_some_iff] at stepped
          obtain ⟨net, stepped, rfl⟩ := stepped
          simp only [NetThreads.step] at stepped
          split at stepped
          · cases stepped
          · rename_i cmd rest front
            cases stepped
            refine ⟨?_, funext fun id => List.append_nil _⟩
            have sum := sum_handed_update front
            simp only [underWay, MessageQueue.push_queue, List.length_append, List.length_singleton]
            omega
      | attach | handle | onNetCommand | push => exact moves.elim
  | processNetCommand now =>
      simp only [ServiceRun.step, Option.bind_eq_some_iff, Option.map_eq_some_iff] at stepped
      obtain ⟨popped, popping, net, performed, rfl⟩ := stepped
      have pushed := ServiceRun.perform_pushed performed
      refine ⟨?_, funext fun id => List.append_nil _⟩
      simp only [underWay, pushed.handed, pushed.queue, MessageQueue.pop_some popping,
        List.length_cons]
      omega
  | disconnect id => exact moves.elim

omit [BaseStruct Message] in
theorem processNetCommand_performs (pipeCapacity : Nat) {s : ServiceRun n Message}
    (formed : s.Formed)
    {popped : NetCommand Message × MessageQueue (NetCommand Message)}
    (popping : s.net.clientNetCommandQueue.pop = some popped) (now : Int) :
    (ServiceRun.perform pipeCapacity { s.net with clientNetCommandQueue := popped.2 }
      (s.service.processNetCommand now popped.1).2).isSome := by
  have listed : popped.1 ∈ s.net.clientNetCommandQueue.queue := by
    rw [MessageQueue.pop_some popping]
    exact List.mem_cons_self
  obtain ⟨i, socketId, own⟩ := formed.named popped.1 listed
  rw [TcpService.processNetCommand]
  cases popped.1.type with
  | message =>
      simp only [TcpService.onMessage]
      split
      · rfl
      · split
        · split
          · have close : (NetCommand.plain .close popped.1.id : NetCommand Message).id =
                ServiceRun.netId i socketId := own
            simp only [TcpService.disconnect, ServiceRun.perform, ServiceRun.push_own _ close]
            rfl
          · rw [ServiceRun.perform_callMessageHandler]
            rfl
        · rw [ServiceRun.perform_callMessageHandler]
          rfl
  | new | close | enableBroadcast | disableBroadcast | broadcast => rfl

theorem moves_on (server : GameServer Message) (pipeCapacity : Nat) (formed : s.run.Formed)
    (busy : 0 < underWay s.run.net) :
    ∃ event, MovesOn event ∧ (s.step server pipeCapacity event).isSome := by
  by_cases idle : ∀ i, s.run.net.handed i = []
  · have nothing : ∑ i, (s.run.net.handed i).length = 0 := by
      apply Finset.sum_eq_zero
      intro i _
      rw [idle i, List.length_nil]
    rw [underWay, nothing] at busy
    cases popping : s.run.net.clientNetCommandQueue.pop with
    | none =>
        rw [MessageQueue.pop_none popping] at busy
        exact absurd busy (by simp)
    | some popped =>
        refine ⟨.processNetCommand 0, trivial, ?_⟩
        have performs := processNetCommand_performs pipeCapacity formed popping 0
        simp only [HandledRun.step, ServiceRun.step, popping, Option.bind_some, Option.isSome_map]
        exact performs
  · push Not at idle
    obtain ⟨i, waits⟩ := idle
    refine ⟨.net (.pushClientNetCommand i), trivial, ?_⟩
    cases front : s.run.net.handed i with
    | nil => exact absurd front waits
    | cons cmd rest =>
        simp only [HandledRun.step, ServiceRun.step, NetThreads.step, front, Option.isSome_map]
        rfl

theorem Sound.rest (sound : Sound server messageHandlers s) (rest : underWay s.run.net = 0)
    (i : Fin n) (socketId : SocketId)
    (open_ : (s.run.net.threads i).reactor.connections socketId ≠ none)
    (known : s.run.service.connectionInfos (ServiceRun.netId i socketId) ≠ none) :
    s.handled (ServiceRun.netId i socketId) = handledAs messageHandlers
      (parsedFrom server.netProtocol (s.received (ServiceRun.netId i socketId))) := by
  have queue : s.run.net.clientNetCommandQueue.queue = [] := by
    apply List.length_eq_zero_iff.mp
    rw [underWay] at rest
    omega
  have handed : s.run.net.handed i = [] := by
    have sum : ∑ j, (s.run.net.handed j).length = 0 := by
      rw [underWay] at rest
      omega
    exact List.length_eq_zero_iff.mp (Finset.sum_eq_zero_iff.mp sum i (Finset.mem_univ i))
  exact (sound.inOrder i socketId).2 queue handed open_ known

/-- The commands that are under way are taken in finitely many steps, none of which can be blocked
for ever; then the handlers have got all that was received on the connections that are left. -/
theorem commands_drain (server : GameServer Message)
    (limit : server.netProtocol.maxPacketLength ≤ 81920) (pipeCapacity n : Nat)
    (createMessageFunc : Int → Option Message) (maxRequestPerSecond : Int)
    (messageHandlers : Int → Option Nat) (events moves : List (ServiceEvent n Message))
    (answered : ∀ event ∈ events, Answered event) (each : ∀ event ∈ moves, MovesOn event)
    {s t : HandledRun n Message}
    (reached : Runs.run (step server pipeCapacity)
      (start n createMessageFunc maxRequestPerSecond messageHandlers) events = some s)
    (moved : Runs.run (step server pipeCapacity) s moves = some t) :
    moves.length ≤ underWay s.run.net ∧ t.received = s.received ∧
      ((∃ event, MovesOn event ∧ (t.step server pipeCapacity event).isSome) ∨
        ∀ (i : Fin n) (socketId : SocketId),
          (t.run.net.threads i).reactor.connections socketId ≠ none →
          t.run.service.connectionInfos (ServiceRun.netId i socketId) ≠ none →
            t.handled (ServiceRun.netId i socketId) = handledAs messageHandlers
              (parsedFrom server.netProtocol (s.received (ServiceRun.netId i socketId)))) := by
  have initial : Sound server messageHandlers
      (start n createMessageFunc maxRequestPerSecond messageHandlers) := .initial ..
  have first : Sound server messageHandlers s :=
    run_invariant (fun sound fits taken => sound.step limit fits taken) initial
      (Along.of_forall answered _) reached
  have silent {event : ServiceEvent n Message} (moves : MovesOn event) : Answered event := by
    cases event with
    | net event =>
        cases event with
        | pushClientNetCommand i => trivial
        | attach | handle | onNetCommand | push => exact moves.elim
    | processNetCommand now => trivial
    | disconnect id => exact moves.elim
  have preserved {state next : HandledRun n Message} {event : ServiceEvent n Message}
      (holds : Sound server messageHandlers state ∧ state.received = s.received)
      (moves : MovesOn event) (taken : state.step server pipeCapacity event = some next) :
      (Sound server messageHandlers next ∧ next.received = s.received) ∧
        underWay next.run.net < underWay state.run.net := by
    obtain ⟨less, same⟩ := moves.less taken
    exact ⟨⟨holds.1.step limit (silent moves) taken, same.trans holds.2⟩, less⟩
  have along : Along (step server pipeCapacity) (fun _ event => MovesOn event) s moves :=
    Along.of_forall each s
  have last : Sound server messageHandlers t ∧ t.received = s.received :=
    run_invariant (fun holds moves taken => (preserved holds moves taken).1) ⟨first, rfl⟩ along moved
  have length := run_length_le preserved ⟨first, rfl⟩ along moved
  refine ⟨by omega, last.2, ?_⟩
  by_cases rest : underWay t.run.net = 0
  · right
    intro i socketId open_ known
    rw [← last.2]
    exact last.1.rest rest i socketId open_ known
  · exact .inl (moves_on server pipeCapacity last.1.formed (Nat.pos_of_ne_zero rest))

theorem commands_drain_twoMessages :
    ∃ s t, Runs.run (step (rawServer 40960) 16)
        (start 1 (rawServer 40960).netProtocol.createMessageFunc 0 oneHandler)
        (twoMessages.take 3) = some s ∧
      Runs.run (step (rawServer 40960) 16) s (twoMessages.drop 3) = some t ∧
      underWay s.run.net = 5 ∧ (twoMessages.drop 3).length ≤ underWay s.run.net := by
  have facts : (Runs.run (step (rawServer 40960) 16)
      (start 1 (rawServer 40960).netProtocol.createMessageFunc 0 oneHandler)
      (twoMessages.take 3)).map (fun s => (underWay s.run.net = 5 ∧
        (Runs.run (step (rawServer 40960) 16) s (twoMessages.drop 3)).isSome : Bool)) =
          some true := by
    decide +kernel
  obtain ⟨s, reached, facts⟩ := Option.map_eq_some_iff.mp facts
  obtain ⟨five, moved⟩ := of_decide_eq_true facts
  obtain ⟨t, moved⟩ := Option.isSome_iff_exists.mp moved
  refine ⟨s, t, reached, moved, five, ?_⟩
  refine (commands_drain (rawServer 40960) (by decide) 16 1 _ 0 oneHandler (twoMessages.take 3)
    (twoMessages.drop 3) ?_ ?_ reached moved).1
  · intro event member
    exact twoMessages_answered event (List.mem_of_mem_take member)
  · intro event member
    simp only [twoMessages, List.drop_succ_cons, List.drop_zero, List.mem_cons, List.not_mem_nil,
      or_false] at member
    rcases member with rfl | rfl | rfl | rfl | rfl <;> trivial

end HandledRun

end ZBlueNet
