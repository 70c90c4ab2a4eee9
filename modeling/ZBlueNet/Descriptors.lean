import ZBlueNet.ReactorCore
import ZBlueNet.SocketAddress
import ZBlueNet.Lib.Handles
import ZBlueNet.Lib.Runs

/-!
The descriptors of the sockets, the pipes of the queues and the epollers: which system
calls an object makes when it is opened, what it closes when one of them fails, and what
is left when it is gone. The kernel gives the number of a closed descriptor out again.
-/

namespace ZBlueNet

open Handles

def econnaborted : Int := 103

inductive DescriptorField
  | socket (name : Nat)
  | pipe (name : Nat)
  | pipe1 (name : Nat)
  | epoller (name : Nat)
deriving DecidableEq, Repr

/-- The fields of an object that is not there are -1. -/
structure Descriptors where
  kernel : Table Int
  fds : DescriptorField → Int

/-- What the system calls answer; `fd` is the new descriptor, if there is one. -/
structure OpenAnswers where
  fd : Option Int
  closeOnExec : Bool
  reuseAddr : Bool
  tcpNoDelay : Bool
  connect : Bool
  bind : Bool
  listen : Bool
  nonblock : Bool

/-- A turn of the loop in `onListenSocketRead`; `errno` is read if it accepts nothing. -/
structure AcceptTurn where
  peer : Nat
  answers : OpenAnswers
  errno : Int

inductive DescriptorEvent
  | activeOpen (name : Nat) (protocol : Protocol) (answers : OpenAnswers)
  | activeOpenNonblock (name : Nat) (protocol : Protocol) (answers : OpenAnswers)
  | passiveOpen (name : Nat) (protocol : Protocol) (answers : OpenAnswers)
  | passiveOpenNonblock (name : Nat) (protocol : Protocol) (answers : OpenAnswers)
  | closeSocket (name : Nat)
  | accept (peer : Nat) (newConnCb : Bool) (answers : OpenAnswers)
  | onListenSocketRead (newConnCb : Bool) (turns : List AcceptTurn)
  | openPipe (name : Nat) (answer : Option (Int × Int))
  | closePipe (name : Nat)
  | newEpoller (name : Nat) (answers : OpenAnswers)
  | destroyEpoller (name : Nat)

namespace Descriptors

def start : Descriptors := { kernel := .empty, fds := fun _ => -1 }

/-- A system call gives a descriptor, which overwrites the field. -/
def give (s : Descriptors) (field : DescriptorField) (fd : Int) : Option Descriptors :=
  if fd < 0 then none
  else (s.kernel.give fd).map fun kernel =>
    { kernel := kernel, fds := Function.update s.fds field fd }

/-- `TcpSocket::close`, `Epoller::destroy`, and the half of `SelfPipe::close`. -/
def close (s : Descriptors) (field : DescriptorField) : Descriptors :=
  if s.fds field ≠ -1 then
    { kernel := s.kernel.close (s.fds field), fds := Function.update s.fds field (-1) }
  else s

def openSocket (s : Descriptors) (name : Nat) (protocol : Protocol) (answers : OpenAnswers) :
    Option (Bool × Descriptors) :=
  let closed := s.close (.socket name)
  if protocol = .unknown then some (false, closed)
  else
    match answers.fd with
    | none => some (false, closed)
    | some fd =>
        (closed.give (.socket name) fd).map fun opened =>
          if answers.closeOnExec = false then (false, opened.close (.socket name))
          else (true, opened)

def orClose (name : Nat) (succeeds : Bool) (opened : Bool × Descriptors) : Bool × Descriptors :=
  if opened.1 = false then opened
  else if succeeds = false then (false, opened.2.close (.socket name))
  else opened

def activeOpen (s : Descriptors) (name : Nat) (protocol : Protocol) (answers : OpenAnswers) :
    Option (Bool × Descriptors) :=
  (s.openSocket name protocol answers).map
    (orClose name (answers.reuseAddr && answers.tcpNoDelay && answers.connect))

def activeOpenNonblock (s : Descriptors) (name : Nat) (protocol : Protocol)
    (answers : OpenAnswers) : Option (Bool × Descriptors) :=
  (s.activeOpen name protocol answers).map (orClose name answers.nonblock)

def passiveOpen (s : Descriptors) (name : Nat) (protocol : Protocol) (answers : OpenAnswers) :
    Option (Bool × Descriptors) :=
  (s.openSocket name protocol answers).map
    (orClose name (answers.reuseAddr && answers.tcpNoDelay && answers.bind && answers.listen))

def passiveOpenNonblock (s : Descriptors) (name : Nat) (protocol : Protocol)
    (answers : OpenAnswers) : Option (Bool × Descriptors) :=
  (s.passiveOpen name protocol answers).map (orClose name answers.nonblock)

/-- `setFD` does not close what the peer socket held. -/
def accept (s : Descriptors) (peer : Nat) (answers : OpenAnswers) : Option (Bool × Descriptors) :=
  match answers.fd with
  | none => some (false, s)
  | some fd =>
      (s.give (.socket peer) fd).map fun accepted =>
        if answers.closeOnExec = false then (false, accepted.close (.socket peer))
        else (true, accepted)

/-- A peer socket that cannot be set keeps its descriptor. -/
def acceptNonblock (s : Descriptors) (peer : Nat) (answers : OpenAnswers) :
    Option (Bool × Descriptors) :=
  (s.accept peer answers).map fun accepted =>
    if accepted.1 = false then accepted
    else (answers.tcpNoDelay && answers.nonblock, accepted.2)

/-- `Acceptor::accept`: the peer socket is a new one, and its destructor closes it if it is not
handed over. -/
def acceptNew (s : Descriptors) (peer : Nat) (newConnCb : Bool) (answers : OpenAnswers) :
    Option (Bool × Descriptors) :=
  if s.fds (.socket peer) ≠ -1 then none
  else (s.acceptNonblock peer answers).map fun accepted =>
    (accepted.1,
      if accepted.1 && newConnCb then accepted.2 else accepted.2.close (.socket peer))

/-- `EPollAcceptor::onListenSocketRead`, with what it returns if its loop ends. -/
def onListenSocketRead (s : Descriptors) (newConnCb : Bool) :
    List AcceptTurn → Option (Option Int × Descriptors)
  | [] => some (none, s)
  | turn :: turns =>
      (s.acceptNew turn.peer newConnCb turn.answers).bind fun accepted =>
        if accepted.1 = true then accepted.2.onListenSocketRead newConnCb turns
        else if turn.errno = eagain then some (some 0, accepted.2)
        else if turn.errno = econnaborted then accepted.2.onListenSocketRead newConnCb turns
        else some (some (-1), accepted.2)

def closePipe (s : Descriptors) (name : Nat) : Descriptors :=
  (s.close (.pipe name)).close (.pipe1 name)

def openPipe (s : Descriptors) (name : Nat) (answer : Option (Int × Int)) :
    Option (Bool × Descriptors) :=
  let closed := if s.fds (.pipe name) ≠ -1 then s.closePipe name else s
  match answer with
  | none => some (false, closed)
  | some (fd, fd1) =>
      (closed.give (.pipe name) fd).bind fun first =>
        (first.give (.pipe1 name) fd1).map fun both => (true, both)

/-- `Epoller::create`; the descriptor 0 is not destroyed before. -/
def createEpoller (s : Descriptors) (name : Nat) (answers : OpenAnswers) :
    Option (Int × Descriptors) :=
  let destroyed := if 0 < s.fds (.epoller name) then s.close (.epoller name) else s
  match answers.fd with
  | none =>
      some (-1, { destroyed with fds := Function.update destroyed.fds (.epoller name) (-1) })
  | some fd =>
      (destroyed.give (.epoller name) fd).map fun created =>
        (if answers.closeOnExec = false then -1 else 0, created)

/-- Epollers are created by the constructors of their owners. -/
def newEpoller (s : Descriptors) (name : Nat) (answers : OpenAnswers) :
    Option (Int × Descriptors) :=
  if s.fds (.epoller name) ≠ -1 then none else s.createEpoller name answers

def step (s : Descriptors) : DescriptorEvent → Option Descriptors
  | .activeOpen name protocol answers => (s.activeOpen name protocol answers).map Prod.snd
  | .activeOpenNonblock name protocol answers =>
      (s.activeOpenNonblock name protocol answers).map Prod.snd
  | .passiveOpen name protocol answers => (s.passiveOpen name protocol answers).map Prod.snd
  | .passiveOpenNonblock name protocol answers =>
      (s.passiveOpenNonblock name protocol answers).map Prod.snd
  | .closeSocket name => some (s.close (.socket name))
  | .accept peer newConnCb answers => (s.acceptNew peer newConnCb answers).map Prod.snd
  | .onListenSocketRead newConnCb turns => (s.onListenSocketRead newConnCb turns).map Prod.snd
  | .openPipe name answer => (s.openPipe name answer).map Prod.snd
  | .closePipe name => some (s.closePipe name)
  | .newEpoller name answers => (s.newEpoller name answers).map Prod.snd
  | .destroyEpoller name => some (s.close (.epoller name))

/-- Every descriptor of the process is in one field, and none was closed behind its object's
back. -/
structure Accounted (s : Descriptors) : Prop where
  opened : ∀ fd, s.kernel.opened fd = true ↔ fd ≠ -1 ∧ ∃ field, s.fds field = fd
  apart : ∀ field other, s.fds field = s.fds other → s.fds field ≠ -1 → field = other
  stray : s.kernel.stray = []

def OpensOrCloses (s : Descriptors) : Prop :=
  ∀ opener ∈ [activeOpen, activeOpenNonblock, passiveOpen, passiveOpenNonblock],
    ∀ name protocol answers outcome, opener s name protocol answers = some outcome →
      (outcome.1 = true ↔ outcome.2.fds (.socket name) ≠ -1)

def keeps (s : Descriptors) (field : DescriptorField) : Option Int :=
  if s.fds field = -1 then none else some (s.fds field)

structure Sound (s : Descriptors) : Prop where
  kept : Kept s.kernel s.keeps
  halves : ∀ name, s.fds (.pipe name) = -1 ↔ s.fds (.pipe1 name) = -1

variable {s next : Descriptors} {field other : DescriptorField} {fd : Int} {name : Nat}

theorem keeps_some : s.keeps field = some fd ↔ fd ≠ -1 ∧ s.fds field = fd := by
  rw [keeps]
  split
  · rename_i nothing
    simp only [reduceCtorEq, nothing, false_iff, not_and]
    intro present same
    exact present same.symm
  · rename_i present
    rw [Option.some.injEq]
    constructor
    · rintro rfl
      exact ⟨present, rfl⟩
    · exact And.right

theorem Sound.accounted (sound : Sound s) : Accounted s := by
  refine ⟨?_, ?_, sound.kept.stray⟩
  · intro fd
    rw [sound.kept.opened]
    simp only [keeps_some]
    exact exists_and_left
  · intro field other same present
    exact sound.kept.apart field other _ (keeps_some.mpr ⟨present, rfl⟩)
      (keeps_some.mpr ⟨present, same.symm⟩)

theorem keeps_update (kernel : Table Int) :
    (⟨kernel, Function.update s.fds field fd⟩ : Descriptors).keeps =
      Function.update s.keeps field (if fd = -1 then none else some fd) := by
  funext any
  by_cases same : any = field
  · subst same
    simp only [keeps, Function.update_self]
  · simp only [keeps, Function.update_of_ne same]

/-! What is behind a call that works on one field. -/

structure Settled (s : Descriptors) (field : DescriptorField) (next : Descriptors) : Prop where
  kept : Kept next.kernel next.keeps
  others : ∀ other ≠ field, next.fds other = s.fds other

theorem Settled.trans {between : Descriptors} (first : Settled s field between)
    (second : Settled between field next) : Settled s field next :=
  ⟨second.kept, fun other apart => (second.others other apart).trans (first.others other apart)⟩

theorem settled_close (kept : Kept s.kernel s.keeps) (field : DescriptorField) :
    Settled s field (s.close field) ∧ (s.close field).fds field = -1 := by
  rw [close]
  split
  · rename_i present
    refine ⟨⟨?_, fun other apart => Function.update_of_ne apart ..⟩, Function.update_self ..⟩
    rw [keeps_update, if_pos rfl]
    exact kept.close (keeps_some.mpr ⟨present, rfl⟩)
  · rename_i nothing
    exact ⟨⟨kept, fun _ _ => rfl⟩, not_not.mp nothing⟩

theorem settled_give (kept : Kept s.kernel s.keeps) (nothing : s.fds field = -1)
    (given : s.give field fd = some next) : Settled s field next ∧ next.fds field ≠ -1 := by
  rw [give] at given
  split at given
  · cases given
  · rename_i descriptor
    obtain ⟨kernel, taken, rfl⟩ := Option.map_eq_some_iff.mp given
    have present : fd ≠ -1 := by omega
    refine ⟨⟨?_, fun other apart => Function.update_of_ne apart ..⟩, ?_⟩
    · rw [keeps_update, if_neg present]
      exact kept.give taken (if_pos nothing)
    · dsimp only
      rw [Function.update_self]
      exact present

/-! Sockets. -/

structure Opens (s : Descriptors) (name : Nat) (outcome : Bool × Descriptors) : Prop where
  settled : Settled s (.socket name) outcome.2
  holds : outcome.1 = true ↔ outcome.2.fds (.socket name) ≠ -1

variable {protocol : Protocol} {answers : OpenAnswers} {outcome : Bool × Descriptors}

theorem opens_false (settled : Settled s (.socket name) next)
    (nothing : next.fds (.socket name) = -1) : Opens s name (false, next) :=
  ⟨settled, by simp [nothing]⟩

theorem openSocket_opens (kept : Kept s.kernel s.keeps)
    (opened : s.openSocket name protocol answers = some outcome) : Opens s name outcome := by
  obtain ⟨closed, empty⟩ := settled_close kept (.socket name)
  dsimp only [openSocket] at opened
  split at opened
  · cases opened
    exact opens_false closed empty
  · split at opened
    · cases opened
      exact opens_false closed empty
    · obtain ⟨between, given, rfl⟩ := Option.map_eq_some_iff.mp opened
      obtain ⟨settled, present⟩ := settled_give closed.kept empty given
      split
      · obtain ⟨again, gone⟩ := settled_close settled.kept (.socket name)
        exact opens_false ((closed.trans settled).trans again) gone
      · exact ⟨closed.trans settled, by simp [present]⟩

theorem Opens.orClose (opens : Opens s name outcome) (succeeds : Bool) :
    Opens s name (orClose name succeeds outcome) := by
  rw [Descriptors.orClose]
  split
  · exact opens
  · split
    · obtain ⟨closed, gone⟩ := settled_close opens.settled.kept (.socket name)
      exact opens_false (opens.settled.trans closed) gone
    · exact opens

theorem activeOpen_opens (kept : Kept s.kernel s.keeps)
    (opened : s.activeOpen name protocol answers = some outcome) : Opens s name outcome := by
  obtain ⟨first, called, rfl⟩ := Option.map_eq_some_iff.mp opened
  exact (openSocket_opens kept called).orClose _

theorem activeOpenNonblock_opens (kept : Kept s.kernel s.keeps)
    (opened : s.activeOpenNonblock name protocol answers = some outcome) :
    Opens s name outcome := by
  obtain ⟨first, called, rfl⟩ := Option.map_eq_some_iff.mp opened
  exact (activeOpen_opens kept called).orClose _

theorem passiveOpen_opens (kept : Kept s.kernel s.keeps)
    (opened : s.passiveOpen name protocol answers = some outcome) : Opens s name outcome := by
  obtain ⟨first, called, rfl⟩ := Option.map_eq_some_iff.mp opened
  exact (openSocket_opens kept called).orClose _

theorem passiveOpenNonblock_opens (kept : Kept s.kernel s.keeps)
    (opened : s.passiveOpenNonblock name protocol answers = some outcome) :
    Opens s name outcome := by
  obtain ⟨first, called, rfl⟩ := Option.map_eq_some_iff.mp opened
  exact (passiveOpen_opens kept called).orClose _

theorem Sound.opensOrCloses (sound : Sound s) : OpensOrCloses s := by
  intro opener listed name protocol answers outcome opened
  simp only [List.mem_cons, List.not_mem_nil, or_false] at listed
  rcases listed with rfl | rfl | rfl | rfl
  · exact (activeOpen_opens sound.kept opened).holds
  · exact (activeOpenNonblock_opens sound.kept opened).holds
  · exact (passiveOpen_opens sound.kept opened).holds
  · exact (passiveOpenNonblock_opens sound.kept opened).holds

theorem accept_settled (kept : Kept s.kernel s.keeps) (nothing : s.fds (.socket name) = -1)
    (accepted : s.accept name answers = some outcome) : Settled s (.socket name) outcome.2 := by
  rw [accept] at accepted
  split at accepted
  · cases accepted
    exact ⟨kept, fun _ _ => rfl⟩
  · obtain ⟨between, given, rfl⟩ := Option.map_eq_some_iff.mp accepted
    have settled := (settled_give kept nothing given).1
    split
    · exact settled.trans (settled_close settled.kept (.socket name)).1
    · exact settled

theorem acceptNonblock_settled (kept : Kept s.kernel s.keeps)
    (nothing : s.fds (.socket name) = -1)
    (accepted : s.acceptNonblock name answers = some outcome) :
    Settled s (.socket name) outcome.2 := by
  obtain ⟨first, answered, rfl⟩ := Option.map_eq_some_iff.mp accepted
  have settled := accept_settled kept nothing answered
  split
  · exact settled
  · exact settled

theorem acceptNew_settled (kept : Kept s.kernel s.keeps) {newConnCb : Bool}
    (accepted : s.acceptNew name newConnCb answers = some outcome) :
    Settled s (.socket name) outcome.2 := by
  rw [acceptNew] at accepted
  split at accepted
  · cases accepted
  · rename_i nothing
    obtain ⟨second, called, rfl⟩ := Option.map_eq_some_iff.mp accepted
    have settled := acceptNonblock_settled kept (not_not.mp nothing) called
    dsimp only
    split
    · exact settled
    · exact settled.trans (settled_close settled.kept (.socket name)).1

/-! What one step keeps. -/

theorem Sound.beside (sound : Sound s) (settled : Settled s field next)
    (apart : ∀ name, field ≠ .pipe name ∧ field ≠ .pipe1 name) : Sound next := by
  refine ⟨settled.kept, ?_⟩
  intro name
  rw [settled.others _ (apart name).1.symm, settled.others _ (apart name).2.symm]
  exact sound.halves name

theorem Sound.socket (sound : Sound s) (settled : Settled s (.socket name) next) : Sound next :=
  sound.beside settled fun _ => ⟨by simp, by simp⟩

theorem Sound.epoller (sound : Sound s) (settled : Settled s (.epoller name) next) : Sound next :=
  sound.beside settled fun _ => ⟨by simp, by simp⟩

theorem Sound.onListenSocketRead {newConnCb : Bool} {turns : List AcceptTurn}
    {read : Option Int × Descriptors} (sound : Sound s)
    (called : s.onListenSocketRead newConnCb turns = some read) : Sound read.2 := by
  induction turns generalizing s with
  | nil =>
      cases called
      exact sound
  | cons turn turns ih =>
      rw [Descriptors.onListenSocketRead, Option.bind_eq_some_iff] at called
      obtain ⟨accepted, now, later⟩ := called
      have next : Sound accepted.2 := sound.socket (acceptNew_settled sound.kept now)
      split at later
      · exact ih next later
      · split at later
        · cases later
          exact next
        · split at later
          · exact ih next later
          · cases later
            exact next

theorem Sound.closePipe (sound : Sound s) (name : Nat) :
    Sound (s.closePipe name) ∧ (s.closePipe name).fds (.pipe name) = -1 ∧
      (s.closePipe name).fds (.pipe1 name) = -1 := by
  obtain ⟨first, gone⟩ := settled_close sound.kept (.pipe name)
  obtain ⟨second, gone1⟩ := settled_close first.kept (.pipe1 name)
  have still : (s.closePipe name).fds (.pipe name) = -1 :=
    (second.others _ (by simp)).trans gone
  refine ⟨⟨second.kept, ?_⟩, still, gone1⟩
  intro any
  by_cases same : any = name
  · rw [same, still]
    exact ⟨fun _ => gone1, fun _ => rfl⟩
  · have pipe : (s.closePipe name).fds (.pipe any) = s.fds (.pipe any) :=
      (second.others _ (by simp)).trans (first.others _ (by simp [same]))
    have pipe1 : (s.closePipe name).fds (.pipe1 any) = s.fds (.pipe1 any) :=
      (second.others _ (by simp [same])).trans (first.others _ (by simp))
    rw [pipe, pipe1]
    exact sound.halves any

theorem Sound.openPipe {answer : Option (Int × Int)} (sound : Sound s)
    (opened : s.openPipe name answer = some outcome) : Sound outcome.2 := by
  let closed := if s.fds (.pipe name) ≠ -1 then s.closePipe name else s
  have before : Sound closed ∧ closed.fds (.pipe name) = -1 ∧ closed.fds (.pipe1 name) = -1 := by
    dsimp only [closed]
    split
    · exact sound.closePipe name
    · rename_i nothing
      exact ⟨sound, not_not.mp nothing, (sound.halves name).mp (not_not.mp nothing)⟩
  obtain ⟨still, gone, gone1⟩ := before
  cases answer with
  | none =>
      cases opened
      exact still
  | some pair =>
      obtain ⟨fd, fd1⟩ := pair
      obtain ⟨between, given, second⟩ := Option.bind_eq_some_iff.mp opened
      obtain ⟨last, given1, rfl⟩ := Option.map_eq_some_iff.mp second
      obtain ⟨first, present⟩ := settled_give still.kept gone given
      have nothing : between.fds (.pipe1 name) = -1 := (first.others _ (by simp)).trans gone1
      obtain ⟨after, present1⟩ := settled_give first.kept nothing given1
      refine ⟨after.kept, ?_⟩
      intro any
      by_cases same : any = name
      · have kept : last.fds (.pipe name) = between.fds (.pipe name) := after.others _ (by simp)
        rw [same, kept]
        exact ⟨fun none => absurd none present, fun none => absurd none present1⟩
      · have pipe : last.fds (.pipe any) = closed.fds (.pipe any) :=
          (after.others _ (by simp)).trans (first.others _ (by simp [same]))
        have pipe1 : last.fds (.pipe1 any) = closed.fds (.pipe1 any) :=
          (after.others _ (by simp [same])).trans (first.others _ (by simp))
        rw [pipe, pipe1]
        exact still.halves any

theorem Sound.newEpoller {created : Int × Descriptors} (sound : Sound s)
    (made : s.newEpoller name answers = some created) : Sound created.2 := by
  rw [Descriptors.newEpoller] at made
  split at made
  · cases made
  · rename_i present
    have nothing : s.fds (.epoller name) = -1 := not_not.mp present
    dsimp only [createEpoller] at made
    rw [if_neg (by rw [nothing]; decide)] at made
    split at made
    · cases made
      have same : Function.update s.fds (.epoller name) (-1) = s.fds := by
        rw [← nothing, Function.update_eq_self]
      rw [same]
      exact sound
    · obtain ⟨between, given, rfl⟩ := Option.map_eq_some_iff.mp made
      exact sound.epoller (settled_give sound.kept nothing given).1

theorem Sound.step {event : DescriptorEvent} (sound : Sound s)
    (stepped : s.step event = some next) : Sound next := by
  cases event with
  | activeOpen name protocol answers =>
      obtain ⟨outcome, called, rfl⟩ := Option.map_eq_some_iff.mp stepped
      exact sound.socket (activeOpen_opens sound.kept called).settled
  | activeOpenNonblock name protocol answers =>
      obtain ⟨outcome, called, rfl⟩ := Option.map_eq_some_iff.mp stepped
      exact sound.socket (activeOpenNonblock_opens sound.kept called).settled
  | passiveOpen name protocol answers =>
      obtain ⟨outcome, called, rfl⟩ := Option.map_eq_some_iff.mp stepped
      exact sound.socket (passiveOpen_opens sound.kept called).settled
  | passiveOpenNonblock name protocol answers =>
      obtain ⟨outcome, called, rfl⟩ := Option.map_eq_some_iff.mp stepped
      exact sound.socket (passiveOpenNonblock_opens sound.kept called).settled
  | closeSocket name =>
      cases stepped
      exact sound.socket (settled_close sound.kept (.socket name)).1
  | accept peer newConnCb answers =>
      obtain ⟨outcome, called, rfl⟩ := Option.map_eq_some_iff.mp stepped
      exact sound.socket (acceptNew_settled sound.kept called)
  | onListenSocketRead newConnCb turns =>
      obtain ⟨read, called, rfl⟩ := Option.map_eq_some_iff.mp stepped
      exact sound.onListenSocketRead called
  | openPipe name answer =>
      obtain ⟨outcome, called, rfl⟩ := Option.map_eq_some_iff.mp stepped
      exact sound.openPipe called
  | closePipe name =>
      cases stepped
      exact (sound.closePipe name).1
  | newEpoller name answers =>
      obtain ⟨created, called, rfl⟩ := Option.map_eq_some_iff.mp stepped
      exact sound.newEpoller called
  | destroyEpoller name =>
      cases stepped
      exact sound.epoller (settled_close sound.kept (.epoller name)).1

/-- Whatever the system calls answer, and however the kernel uses the numbers again. -/
theorem descriptors_accounted (events : List DescriptorEvent) :
    Runs.Every step (fun s => Accounted s ∧ OpensOrCloses s) start events := by
  have initial : Sound start := by
    refine ⟨?_, fun _ => Iff.rfl⟩
    have nothing : start.keeps = fun _ => none := rfl
    rw [nothing]
    exact kept_empty
  have every : Runs.Every step Sound start events :=
    Runs.every_of_invariant (fun sound _ taken => sound.step taken) initial
      (Runs.along_always start events)
  exact every.mono fun sound => ⟨sound.accounted, sound.opensOrCloses⟩

end Descriptors

end ZBlueNet
