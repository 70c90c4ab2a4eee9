import ZBlueNet.ServiceAgreement

/-!
A socket that the reactor does not take. `NetThread::attach` drops the result of
`attachSocket`, so the main thread is told of it like of any other, and keeps an entry
for a connection that no thread has.
-/

namespace ZBlueNet

open Runs EpollReactor

theorem EpollReactor.attachSocket_refused {r : EpollReactor} {id : SocketId} {socket : TcpSocket}
    {granted : Bool} (refused : (r.attachSocket id socket granted).1 = false) :
    (r.attachSocket id socket granted).2 = r := by
  unfold EpollReactor.attachSocket Epoller.add at refused ⊢
  cases known : r.sockets id with
  | some _ => rfl
  | none =>
      simp only [known] at refused ⊢
      split
      · rename_i added
        rw [if_pos added] at refused
        cases refused
      · rfl

theorem EpollReactor.Served.absent {r : EpollReactor} {id : SocketId} {socket : TcpSocket}
    {granted : Bool} (served : Served r) (taken : (r.attachSocket id socket granted).1 = true) :
    r.connections id = none := by
  by_contra present
  rw [served.attachSocket_known present] at taken
  cases taken

namespace NetThread

variable {Callback Message : Type} {thread : NetThread Callback Message} {socketId : SocketId}
  {granted : Bool}

/-- A socket that the reactor does not take leaves the thread as it was, and the main thread is told
nothing. -/
def AttachTraceless (thread : NetThread Callback Message) (socketId : SocketId) (granted : Bool) :
    Prop :=
  (thread.reactor.attachSocket socketId .create granted).1 = false →
    ∀ outcome, thread.attach socketId granted = some outcome → outcome = (thread, [])

theorem attach_refused (callback : Callback) (found : thread.newNetCmdCb = some callback)
    (refused : (thread.reactor.attachSocket socketId .create granted).1 = false) :
    thread.attach socketId granted =
      some (thread, [(callback, .plain .new (thread.netId socketId))]) := by
  have sent : thread.sendNetCommand .new socketId =
      some [(callback, .plain .new (thread.netId socketId))] := by
    rw [sendNetCommand, found]
    rfl
  rw [attach, sent, attachSocket_refused refused]
  rfl

theorem attachTraceless_iff :
    thread.AttachTraceless socketId granted ↔
      (thread.reactor.attachSocket socketId .create granted).1 = true ∨
        thread.newNetCmdCb = none := by
  constructor
  · intro traceless
    by_contra neither
    rw [not_or, Bool.not_eq_true] at neither
    obtain ⟨refused, callback⟩ := neither
    obtain ⟨callback, found⟩ := Option.ne_none_iff_exists'.mp callback
    have same := traceless refused _ (attach_refused callback found refused)
    cases congrArg Prod.snd same
  · rintro (taken | alone) refused
    · rw [taken] at refused
      cases refused
    · intro outcome attached
      rw [attach, sendNetCommand, alone] at attached
      cases attached

theorem handle_silent [BaseStruct Message] {server : GameServer Message}
    (served : Served thread.reactor) {event : NetThreadEvent Message}
    {outcome : NetThread Callback Message × Handed Callback Message}
    (handled : thread.handle server event = some outcome) :
    ∀ cmd ∈ outcome.2.map Prod.snd, cmd.type ≠ .new := by
  rcases handle_cases served handled with ⟨cmd, rfl⟩ | deeds
  · exact List.forall_mem_nil _
  · intro cmd listed new
    obtain ⟨item, member, rfl⟩ := List.mem_map.mp listed
    rcases (deeds.handed_own item member).1 with message | closing
    · cases message.symm.trans new
    · cases closing.symm.trans new

end NetThread

structure AnnounceRun (n : Nat) (Message : Type) where
  run : ServiceRun n Message
  announced : List NetId

/-- Any socket may be attached, also one that the reactor does not take. -/
inductive AnnounceEvent (n : Nat) (Message : Type)
  | attach (i : Fin n) (socketId : SocketId) (granted : Bool)
  | service (event : ServiceEvent n Message)

namespace AnnounceRun

variable {n : Nat} {Message : Type}

def start (n : Nat) (createMessageFunc : Int → Option Message) (maxRequestPerSecond : Int) :
    AnnounceRun n Message :=
  { run := .start n createMessageFunc maxRequestPerSecond, announced := [] }

def announcedBy (s : AnnounceRun n Message) : ServiceEvent n Message → List NetId
  | .processNetCommand _ =>
      match s.run.net.clientNetCommandQueue.queue with
      | [] => []
      | cmd :: _ => if cmd.type = .new then [cmd.id] else []
  | _ => []

def attach (pipeCapacity : Nat) (net : NetThreads n Message) (i : Fin n) (socketId : SocketId)
    (granted : Bool) : Option (NetThreads n Message) :=
  ((net.threads i).attach socketId granted).map fun outcome =>
    { net with
      threads := Function.update net.threads i outcome.1
      clientNetCommandQueue := (outcome.2.map Prod.snd).foldl (MessageQueue.push pipeCapacity)
        net.clientNetCommandQueue
      attached :=
        if ((net.threads i).reactor.attachSocket socketId .create granted).1 then
          net.attached ++ [(net.threads i).netId socketId]
        else net.attached }

def step [BaseStruct Message] (server : GameServer Message) (pipeCapacity : Nat)
    (s : AnnounceRun n Message) : AnnounceEvent n Message → Option (AnnounceRun n Message)
  | .attach i socketId granted =>
      (attach pipeCapacity s.run.net i socketId granted).map fun net =>
        { s with run := { s.run with net := net } }
  | .service event =>
      match event with
      | .net (.attach _ _ _) => none
      | _ =>
          (s.run.step server pipeCapacity event).map fun run =>
            { run := run, announced := s.announced ++ s.announcedBy event }

def Welcomed (s : AnnounceRun n Message) : Prop := ∀ id ∈ s.announced, id ∈ s.run.net.attached

instance decidableWelcomed : DecidablePred (Welcomed : AnnounceRun n Message → Prop) :=
  fun s => inferInstanceAs (Decidable (∀ id ∈ s.announced, id ∈ s.run.net.attached))

def AttachesTraceless (s : AnnounceRun n Message) : AnnounceEvent n Message → Prop
  | .attach i socketId granted => (s.run.net.threads i).AttachTraceless socketId granted
  | .service _ => True

def AttachesTaken (s : AnnounceRun n Message) : AnnounceEvent n Message → Prop
  | .attach i socketId granted =>
      ((s.run.net.threads i).reactor.attachSocket socketId .create granted).1 = true
  | .service _ => True

/-- NEW commands under way to the main thread are for attached sockets, and only `attach` sends
them. -/
structure Welcoming (net : NetThreads n Message) : Prop where
  callback : ∀ i, (net.threads i).newNetCmdCb = some ()
  served : ∀ i, Served (net.threads i).reactor
  silent : ∀ i, ∀ cmd ∈ net.handed i, cmd.type ≠ .new
  waiting : ∀ cmd ∈ net.clientNetCommandQueue.queue, cmd.type = .new → cmd.id ∈ net.attached

namespace Welcoming

variable {net next : NetThreads n Message} {i : Fin n} {s : AnnounceRun n Message} {id : NetId}

theorem reacted (welcoming : Welcoming net) (thread : NetThread Unit Message)
    {handed : List (NetCommand Message)} (callback : thread.newNetCmdCb = some ())
    (served : Served thread.reactor) (silent : ∀ cmd ∈ handed, cmd.type ≠ .new) :
    Welcoming { net with
      threads := Function.update net.threads i thread
      handed := Function.update net.handed i handed } := by
  refine ⟨?_, ?_, ?_, welcoming.waiting⟩
  · apply (Function.forall_update_iff net.threads fun _ other => other.newNetCmdCb = some ()).mpr
    exact ⟨callback, fun j _ => welcoming.callback j⟩
  · apply (Function.forall_update_iff net.threads fun _ other => Served other.reactor).mpr
    exact ⟨served, fun j _ => welcoming.served j⟩
  · apply (Function.forall_update_iff net.handed fun _ handed =>
      ∀ cmd ∈ handed, cmd.type ≠ .new).mpr
    exact ⟨silent, fun j _ => welcoming.silent j⟩

theorem pushTo (welcoming : Welcoming net) (pipeCapacity : Nat)
    (cmd : Option (NetCommand Message)) : Welcoming (net.pushTo pipeCapacity i cmd) := by
  let pushed := (net.threads i).push pipeCapacity cmd
  have same : net.pushTo pipeCapacity i cmd =
      { net with
        threads := Function.update net.threads i pushed
        handed := Function.update net.handed i (net.handed i) } := by
    rw [Function.update_eq_self]
    rfl
  rw [same]
  exact welcoming.reacted pushed (welcoming.callback i) (welcoming.served i) (welcoming.silent i)

theorem perform (welcoming : Welcoming net) {pipeCapacity : Nat}
    {calls : List (ServiceCall Message)}
    (performed : ServiceRun.perform pipeCapacity net calls = some next) :
    Welcoming next ∧ next.attached = net.attached := by
  induction calls generalizing net with
  | nil =>
      cases performed
      exact ⟨welcoming, rfl⟩
  | cons call calls ih =>
      cases call with
      | push cmd =>
          simp only [ServiceRun.perform, Option.bind_eq_some_iff, NetThreads.push,
            Option.dite_none_right_eq_some, Option.some.injEq] at performed
          obtain ⟨middle, ⟨inside, rfl⟩, rest⟩ := performed
          have later := ih (welcoming.pushTo pipeCapacity (some cmd)) rest
          exact later
      | messageHandler | onExceedRequestFrequencyLimit => exact ih welcoming performed

theorem react [BaseStruct Message] {server : GameServer Message} (welcoming : Welcoming net)
    (thread : NetThread Unit Message) {event : NetThreadEvent Message}
    (callback : thread.newNetCmdCb = some ()) (served : Served thread.reactor)
    (handled : net.react server i thread event = some next) :
    Welcoming next ∧ next.attached = net.attached := by
  simp only [NetThreads.react, Option.ite_none_right_eq_some, Option.map_eq_some_iff] at handled
  obtain ⟨-, outcome, handled, rfl⟩ := handled
  obtain ⟨still, kept⟩ := NetThread.handle_kept served handled
  have silent := NetThread.handle_silent served handled
  exact ⟨welcoming.reacted outcome.1 (kept.trans callback) still silent, rfl⟩

theorem attach (welcoming : Welcoming net) {pipeCapacity : Nat} {socketId : SocketId}
    {granted : Bool}
    (taken : ((net.threads i).reactor.attachSocket socketId .create granted).1 = true)
    (attached : AnnounceRun.attach pipeCapacity net i socketId granted = some next) :
    Welcoming next ∧ ∀ id ∈ net.attached, id ∈ next.attached := by
  simp only [AnnounceRun.attach, if_pos taken, Option.map_eq_some_iff] at attached
  obtain ⟨⟨thread, handed⟩, announced, rfl⟩ := attached
  obtain ⟨rfl, callback, -, rfl⟩ := NetThread.attach_some announced
  have absent := (welcoming.served i).absent taken
  have served := ((welcoming.served i).attachSocket .create granted absent).1
  obtain ⟨callbacks, threads, silent, -⟩ := welcoming.reacted
    ((net.threads i).setReactor
      ((net.threads i).reactor.attachSocket socketId .create granted).2)
    (welcoming.callback i) served (welcoming.silent i)
  rw [Function.update_eq_self] at silent
  refine ⟨⟨callbacks, threads, silent, ?_⟩, fun id listed => List.mem_append_left _ listed⟩
  intro cmd listed new
  rw [List.map_singleton, List.foldl_cons, List.foldl_nil, MessageQueue.push_queue,
    List.mem_append, List.mem_singleton] at listed
  rcases listed with before | rfl
  · exact List.mem_append_left _ (welcoming.waiting cmd before new)
  · exact List.mem_append_right _ (List.mem_singleton_self _)

theorem processed (welcoming : Welcoming s.run.net) {now : Int}
    (told : id ∈ s.announcedBy (.processNetCommand now)) : id ∈ s.run.net.attached := by
  rw [announcedBy] at told
  split at told
  · cases told
  · rename_i cmd rest queue
    split at told
    · rename_i new
      have first : cmd ∈ s.run.net.clientNetCommandQueue.queue := by
        rw [queue]
        exact List.mem_cons_self
      rw [List.mem_singleton.mp told]
      exact welcoming.waiting cmd first new
    · cases told

section Steps

variable [BaseStruct Message] {server : GameServer Message} {pipeCapacity : Nat}

theorem netStep (welcoming : Welcoming net) {event : NetThreadsEvent n Message}
    (other : ∀ i socketId granted, event ≠ .attach i socketId granted)
    (taken : net.step server pipeCapacity event = some next) :
    Welcoming next ∧ next.attached = net.attached := by
  cases event with
  | attach i socketId granted => exact absurd rfl (other i socketId granted)
  | handle i event =>
      simp only [NetThreads.step] at taken
      split at taken
      · cases taken
      · exact welcoming.react (net.threads i) (welcoming.callback i) (welcoming.served i) taken
  | onNetCommand i env =>
      simp only [NetThreads.step, Option.bind_eq_some_iff] at taken
      obtain ⟨popped, -, handled⟩ := taken
      exact welcoming.react { net.threads i with commandQueue := popped.2 }
        (welcoming.callback i) (welcoming.served i) handled
  | pushClientNetCommand i =>
      simp only [NetThreads.step] at taken
      split at taken
      · cases taken
      · rename_i cmd rest waiting
        cases taken
        have silent := welcoming.silent i
        rw [waiting, List.forall_mem_cons] at silent
        obtain ⟨callback, served, still, -⟩ :=
          welcoming.reacted (net.threads i) (welcoming.callback i) (welcoming.served i) silent.2
        rw [Function.update_eq_self] at callback served
        refine ⟨⟨callback, served, still, ?_⟩, rfl⟩
        intro late listed new
        rw [MessageQueue.push_queue, List.mem_append, List.mem_singleton] at listed
        rcases listed with before | rfl
        · exact welcoming.waiting late before new
        · exact absurd new silent.1
  | push i cmd =>
      simp only [NetThreads.step] at taken
      split at taken
      · cases taken
      · cases taken
        exact ⟨welcoming.pushTo pipeCapacity cmd, rfl⟩

theorem serviceStep {service next : ServiceRun n Message} (welcoming : Welcoming service.net)
    {event : ServiceEvent n Message}
    (other : ∀ i socketId granted, event ≠ .net (.attach i socketId granted))
    (taken : service.step server pipeCapacity event = some next) :
    Welcoming next.net ∧ next.net.attached = service.net.attached := by
  cases event with
  | net event =>
      simp only [ServiceRun.step, Option.map_eq_some_iff] at taken
      obtain ⟨net, taken, rfl⟩ := taken
      apply welcoming.netStep ?_ taken
      intro i socketId granted same
      exact other i socketId granted (congrArg ServiceEvent.net same)
  | processNetCommand now =>
      simp only [ServiceRun.step, Option.bind_eq_some_iff, Option.map_eq_some_iff] at taken
      obtain ⟨popped, popping, net, performed, rfl⟩ := taken
      have waiting := welcoming.waiting
      rw [MessageQueue.pop_some popping, List.forall_mem_cons] at waiting
      have fewer : Welcoming { service.net with clientNetCommandQueue := popped.2 } :=
        ⟨welcoming.callback, welcoming.served, welcoming.silent, waiting.2⟩
      exact fewer.perform performed
  | disconnect id =>
      simp only [ServiceRun.step, Option.ite_none_left_eq_some, Option.map_eq_some_iff] at taken
      obtain ⟨-, net, performed, rfl⟩ := taken
      exact welcoming.perform performed

end Steps

end Welcoming

variable {s next : AnnounceRun n Message}

theorem start_welcoming (createMessageFunc : Int → Option Message) (maxRequestPerSecond : Int) :
    Welcoming (start n createMessageFunc maxRequestPerSecond).run.net := by
  constructor
  · intro _
    rfl
  · intro _
    exact .of_empty (fun _ => rfl) (fun _ => rfl)
  · intro _
    exact List.forall_mem_nil _
  · exact List.forall_mem_nil _

theorem announcedBy_attached (welcoming : Welcoming s.run.net) {event : ServiceEvent n Message}
    {id : NetId} (told : id ∈ s.announcedBy event) : id ∈ s.run.net.attached := by
  cases event with
  | net event => cases told
  | processNetCommand now => exact welcoming.processed told
  | disconnect id => cases told

theorem attachesTraceless_iff (welcoming : Welcoming s.run.net) {event : AnnounceEvent n Message} :
    AttachesTraceless s event ↔ AttachesTaken s event := by
  cases event with
  | attach i socketId granted =>
      apply NetThread.attachTraceless_iff.trans
      apply or_iff_left
      rw [welcoming.callback i]
      exact Option.some_ne_none _
  | service event => exact Iff.rfl

section Steps

variable [BaseStruct Message] {server : GameServer Message} {pipeCapacity : Nat}

theorem welcomed_step {event : AnnounceEvent n Message}
    (holds : Welcoming s.run.net ∧ Welcomed s) (attaches : AttachesTaken s event)
    (taken : s.step server pipeCapacity event = some next) :
    Welcoming next.run.net ∧ Welcomed next := by
  obtain ⟨welcoming, welcomed⟩ := holds
  cases event with
  | attach i socketId granted =>
      simp only [AnnounceRun.step, Option.map_eq_some_iff] at taken
      obtain ⟨net, attached, rfl⟩ := taken
      obtain ⟨still, more⟩ := welcoming.attach attaches attached
      exact ⟨still, fun id told => more id (welcomed id told)⟩
  | service event =>
      simp only [AnnounceRun.step] at taken
      split at taken
      · cases taken
      · rename_i other
        rw [Option.map_eq_some_iff] at taken
        obtain ⟨run, taken, rfl⟩ := taken
        have elsewhere (i : Fin n) (socketId : SocketId) (granted : Bool) :
            event ≠ .net (.attach i socketId granted) :=
          fun same => other i socketId granted same
        obtain ⟨still, same⟩ := welcoming.serviceStep elsewhere taken
        refine ⟨still, ?_⟩
        intro id told
        rw [same]
        rcases List.mem_append.mp told with before | now
        · exact welcomed id before
        · exact announcedBy_attached welcoming now

/-- Attaches leave nothing behind when they fail, and the main thread hears of attached sockets
only, exactly as long as no attach fails. -/
theorem traceless_welcomed_iff (server : GameServer Message) (pipeCapacity n : Nat)
    (createMessageFunc : Int → Option Message) (maxRequestPerSecond : Int) :
    (∀ (thread : NetThread Unit Message) (socketId : SocketId) (granted : Bool),
      thread.AttachTraceless socketId granted ↔
        (thread.reactor.attachSocket socketId .create granted).1 = true ∨
          thread.newNetCmdCb = none) ∧
    ∀ events : List (AnnounceEvent n Message),
      Along (step server pipeCapacity) AttachesTraceless
          (start n createMessageFunc maxRequestPerSecond) events ∧
        Every (step server pipeCapacity) Welcomed
          (start n createMessageFunc maxRequestPerSecond) events ↔
      Along (step server pipeCapacity) AttachesTaken
        (start n createMessageFunc maxRequestPerSecond) events := by
  refine ⟨fun thread socketId granted => NetThread.attachTraceless_iff, ?_⟩
  intro events
  let start : AnnounceRun n Message := start n createMessageFunc maxRequestPerSecond
  have initial : Welcoming start.run.net ∧ Welcomed start :=
    ⟨start_welcoming createMessageFunc maxRequestPerSecond, List.forall_mem_nil _⟩
  have same : Along (step server pipeCapacity) AttachesTaken start events ↔
      Along (step server pipeCapacity) AttachesTraceless start events := by
    apply along_iff_of_invariant welcomed_step ?_ initial
    intro state event holds
    exact (attachesTraceless_iff holds.1).symm
  constructor
  · intro both
    exact same.mpr both.1
  · intro taken
    have every := every_of_invariant welcomed_step initial taken
    exact ⟨same.mp taken, every.mono fun holds => holds.2⟩

end Steps

def refusedSocket : List (AnnounceEvent 1 RawMessage) :=
  [.attach (Fin.last 0) 9 false, .service (.processNetCommand 0)]

theorem refusedSocket_announced :
    ¬(rawThread 0).AttachTraceless 9 false ∧
      ¬Every (step (rawServer 40960) 65536) Welcomed
        (start 1 (rawServer 40960).netProtocol.createMessageFunc 10) refusedSocket := by
  constructor
  · rw [NetThread.attachTraceless_iff]
    decide +kernel
  · decide +kernel

end AnnounceRun

end ZBlueNet
