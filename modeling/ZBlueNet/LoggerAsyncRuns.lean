import ZBlueNet.LoggerAsyncSink

/-!
The runs of `LoggerAsyncSink`: the threads meet at the queue, and what the callers push is what the
log thread logs.
-/

namespace ZBlueNet

open Runs Ownership ConditionVariable

namespace LoggerAsyncSink

variable {Thread : Type} [DecidableEq Thread] {s next : LoggerAsyncSink Thread} {queueSize : Nat}
  {thread : Thread} {pointer : Pointer} {bytes : List UInt8} {memory : Memory DynamicBuffer}
  {b : DynamicBuffer}

theorem Formed.onWaiters (formed : Formed queueSize s)
    {queue : ConcurrentQueue (LogParty Thread) (Option Pointer)} (sound : queue.Sound queueSize)
    (items : queue.queue = s.queue.queue)
    (pushers : ∀ party, queue.notFullCond.Inside party →
      s.queue.notFullCond.Inside party ∨ queueSize ≠ 0 ∧
        ((∃ thread pointer bytes,
          party = .caller thread ∧ s.calling thread = .written pointer bytes) ∨
        party = .destructor ∧ s.closing = .pushing))
    (popper : ∀ party, queue.notEmptyCond.Inside party →
      s.queue.notEmptyCond.Inside party ∨ party = .logThread ∧ s.logTurn = .popping) :
    Formed queueSize { s with queue := queue } := by
  obtain ⟨owned, contents, protocol⟩ := formed
  have ahead : ({ s with queue := queue } : LoggerAsyncSink Thread).ahead = s.ahead := by
    rw [LoggerAsyncSink.ahead, LoggerAsyncSink.ahead, items]
  constructor
  case owned =>
    apply owned.same
    funext place
    cases place with
    | queue => exact congrArg List.reduceOption items
    | pool | caller | logThread => rfl
  case contents => exact contents.of_same rfl rfl rfl contents.turn ahead rfl rfl
  case protocol =>
    constructor
    case queue => exact sound
    case items =>
      dsimp only
      rw [items]
      exact protocol.items
    case accounts => exact protocol.accounts
    case quiet => exact protocol.quiet
    case ended =>
      dsimp only
      rw [items]
      exact protocol.ended
    case closed => exact protocol.closed
    case pushers =>
      intro party inside
      exact (pushers party inside).elim (protocol.pushers party) id
    case popper =>
      intro party inside
      exact (popper party inside).elim (protocol.popper party) id
    case launched => exact protocol.launched

theorem Formed.enqueue (formed : Formed queueSize s)
    (written : s.calling thread = .written pointer bytes)
    {queue : ConcurrentQueue (LogParty Thread) (Option Pointer)} (sound : queue.Sound queueSize)
    (items : queue.queue = s.queue.queue ++ [some pointer])
    (pushers : ∀ party, queue.notFullCond.Inside party →
      party ≠ .caller thread ∧ s.queue.notFullCond.Inside party)
    (popper : ∀ party, queue.notEmptyCond.Inside party → s.queue.notEmptyCond.Inside party) :
    Formed queueSize { s.setCalling thread .outside with
      queue := queue, pushed := s.pushed ++ [(thread, bytes)] } := by
  obtain ⟨owned, contents, protocol⟩ := formed
  have busy : s.calling thread ≠ .outside := by
    rw [written]
    simp
  have running := protocol.running_of_busy busy
  have going : s.logTurn ≠ .ended := by
    intro ended
    simpa [running] using (protocol.ended ended).1
  have queued : queue.queue.reduceOption = s.queue.queue.reduceOption ++ [pointer] := by
    rw [items, List.reduceOption_append]
    rfl
  obtain ⟨b, object, sized, content⟩ : Behind s.memory pointer (Filled bytes) := by
    have fits := contents.calls thread
    rwa [written] at fits
  constructor
  case owned =>
    have between : Place.caller thread ≠ .queue := by simp
    have front : s.held (.caller thread) = pointer :: [] := by
      rw [held, written]
      rfl
    apply owned.move between front
    · simp [held, setCalling, LogCall.pointers]
    · exact queued
    · intro other source goal
      cases other with
      | queue => exact absurd rfl goal
      | caller other =>
          have apart : other ≠ thread := by
            rintro rfl
            exact source rfl
          simp [held, setCalling, apart]
      | pool | logThread => rfl
  case contents =>
    obtain ⟨pool, calls, turn, aheadFits, order⟩ := contents
    have ahead : ({ s.setCalling thread .outside with
        queue := queue, pushed := s.pushed ++ [(thread, bytes)] } : LoggerAsyncSink Thread).ahead =
        s.ahead ++ [pointer] := by
      simp only [LoggerAsyncSink.ahead, setCalling, queued]
      split <;> rfl
    constructor
    case pool => exact pool
    case calls =>
      have nothing : CallFits s.memory .outside := trivial
      exact callFits_update nothing fun other _ => calls other
    case turn => exact turn
    case ahead =>
      rw [ahead]
      intro other listed
      rw [List.mem_append, List.mem_singleton] at listed
      rcases listed with old | rfl
      · exact aheadFits other old
      · exact ⟨b, object, sized⟩
    case order =>
      have here : bytesAt s.memory pointer = bytes := by
        rw [bytesAt, object, ← content]
        rfl
      rw [ahead, List.map_append, List.map_append, ← order, List.append_assoc]
      exact congrArg (fun last => s.logged ++ (s.ahead.map (bytesAt s.memory) ++ [last])) here
  case protocol =>
    have still : ¬ s.Null := by
      rintro ⟨closing | closing, -⟩ <;> simp [running] at closing
    constructor
    case queue => exact sound
    case items =>
      obtain ⟨pointers, ⟨null, -⟩ | ⟨-, only⟩⟩ := protocol.items
      · exact absurd null still
      · refine ⟨pointers ++ [pointer], .inr ⟨still, ?_⟩⟩
        dsimp only
        rw [items, only, List.map_append]
        rfl
    case accounts =>
      intro other
      have accounts := protocol.accounts other
      dsimp only [setCalling]
      rw [ofThread_append, ← accounts]
      by_cases same : other = thread
      · rw [same, Function.update_self, written, if_pos rfl]
        simp [LogCall.bytes]
      · rw [Function.update_of_ne same, if_neg (Ne.symm same), List.append_nil]
    case quiet => exact fun closing => absurd running closing
    case ended => exact fun ended => absurd ended going
    case closed =>
      intro closed
      simp [setCalling, running] at closed
    case pushers =>
      intro party inside
      obtain ⟨apart, old⟩ := pushers party inside
      obtain ⟨bounded, known⟩ := protocol.pushers party old
      refine ⟨bounded, known.imp_left ?_⟩
      rintro ⟨other, pointer, bytes, rfl, written⟩
      have different : other ≠ thread := by
        rintro rfl
        exact apart rfl
      exact ⟨other, pointer, bytes, rfl, (Function.update_of_ne different ..).trans written⟩
    case popper =>
      intro party inside
      exact protocol.popper party (popper party inside)
    case launched => exact protocol.launched

theorem Formed.enqueueNull (formed : Formed queueSize s) (pushing : s.closing = .pushing)
    {queue : ConcurrentQueue (LogParty Thread) (Option Pointer)} (sound : queue.Sound queueSize)
    (items : queue.queue = s.queue.queue ++ [none])
    (pushers : ∀ party, queue.notFullCond.Inside party →
      party ≠ .destructor ∧ s.queue.notFullCond.Inside party)
    (popper : ∀ party, queue.notEmptyCond.Inside party → s.queue.notEmptyCond.Inside party) :
    Formed queueSize { s with queue := queue, closing := .pushed } := by
  obtain ⟨owned, contents, protocol⟩ := formed
  have going : s.logTurn ≠ .ended := by
    intro ended
    simpa [pushing] using (protocol.ended ended).1
  have queued : queue.queue.reduceOption = s.queue.queue.reduceOption := by
    rw [items, List.reduceOption_append]
    exact List.append_nil _
  have ahead : ({ s with queue := queue, closing := .pushed } : LoggerAsyncSink Thread).ahead =
      s.ahead := by
    rw [LoggerAsyncSink.ahead, LoggerAsyncSink.ahead, queued]
  constructor
  case owned =>
    apply owned.same
    funext place
    cases place with
    | queue => exact queued
    | pool | caller | logThread => rfl
  case contents => exact contents.of_same rfl rfl rfl contents.turn ahead rfl rfl
  case protocol =>
    have before : ¬ s.Null := by
      rintro ⟨closing | closing, -⟩ <;> simp [pushing] at closing
    have outside := protocol.quiet (by simp [pushing])
    constructor
    case queue => exact sound
    case items =>
      obtain ⟨pointers, ⟨null, -⟩ | ⟨-, only⟩⟩ := protocol.items
      · exact absurd null before
      · refine ⟨pointers, .inl ⟨⟨.inl rfl, going⟩, ?_⟩⟩
        dsimp only
        rw [items, only]
    case accounts => exact protocol.accounts
    case quiet => exact fun _ => outside
    case ended => exact fun ended => absurd ended going
    case closed =>
      intro closed
      cases closed
    case pushers =>
      intro party inside
      obtain ⟨apart, old⟩ := pushers party inside
      rcases (protocol.pushers party old).2 with ⟨thread, pointer, bytes, -, written⟩ | ⟨same, -⟩
      · rw [outside thread] at written
        cases written
      · exact absurd same apart
    case popper =>
      intro party inside
      exact protocol.popper party (popper party inside)
    case launched => exact protocol.launched

theorem Formed.dequeue (formed : Formed queueSize s) (popping : s.logTurn = .popping)
    {queue : ConcurrentQueue (LogParty Thread) (Option Pointer)} (sound : queue.Sound queueSize)
    (items : s.queue.queue = some pointer :: queue.queue)
    (pushers : ∀ party, queue.notFullCond.Inside party → s.queue.notFullCond.Inside party)
    (popper : ∀ party, queue.notEmptyCond.Inside party →
      party ≠ .logThread ∧ s.queue.notEmptyCond.Inside party) :
    Formed queueSize { s with queue := queue, logTurn := .popped pointer } := by
  obtain ⟨owned, contents, protocol⟩ := formed
  have queued : s.queue.queue.reduceOption = pointer :: queue.queue.reduceOption := by
    rw [items]
    rfl
  have ahead : s.ahead = pointer :: queue.queue.reduceOption := by
    rw [LoggerAsyncSink.ahead, popping, queued]
  constructor
  case owned =>
    have between : (Place.queue : Place Thread) ≠ .logThread := by simp
    have front : s.held .queue = pointer :: queue.queue.reduceOption := queued
    apply owned.move between front rfl
    · simp [held, popping, LogTurn.pointers]
    · intro other source goal
      cases other with
      | queue => exact absurd rfl source
      | logThread => exact absurd rfl goal
      | pool | caller => rfl
  case contents =>
    obtain ⟨pool, calls, -, aheadFits, order⟩ := contents
    rw [ahead] at aheadFits order
    have first := aheadFits pointer List.mem_cons_self
    exact ⟨pool, calls, first, aheadFits, order⟩
  case protocol =>
    have null : ({ s with
        queue := queue, logTurn := .popped pointer } : LoggerAsyncSink Thread).Null ↔ s.Null := by
      simp [Null, popping]
    constructor
    case queue => exact sound
    case items =>
      obtain ⟨pointers, known⟩ := protocol.items
      rw [items] at known
      cases pointers with
      | nil => simp at known
      | cons first rest =>
          rw [null]
          simp only [List.map_cons, List.cons_append, List.cons.injEq] at known
          refine ⟨rest, ?_⟩
          rcases known with ⟨has, -, rest⟩ | ⟨hasNot, -, rest⟩
          · exact .inl ⟨has, rest⟩
          · exact .inr ⟨hasNot, rest⟩
    case accounts => exact protocol.accounts
    case quiet => exact protocol.quiet
    case ended =>
      intro ended
      cases ended
    case closed =>
      intro closed
      have ended := protocol.closed closed
      rw [popping] at ended
      cases ended
    case pushers =>
      intro party inside
      exact protocol.pushers party (pushers party inside)
    case popper =>
      intro party inside
      obtain ⟨apart, old⟩ := popper party inside
      exact absurd (protocol.popper party old).1 apart
    case launched => simp

theorem Formed.dequeueNull (formed : Formed queueSize s) (popping : s.logTurn = .popping)
    {queue : ConcurrentQueue (LogParty Thread) (Option Pointer)} (sound : queue.Sound queueSize)
    (items : s.queue.queue = none :: queue.queue)
    (pushers : ∀ party, queue.notFullCond.Inside party → s.queue.notFullCond.Inside party)
    (popper : ∀ party, queue.notEmptyCond.Inside party →
      party ≠ .logThread ∧ s.queue.notEmptyCond.Inside party) :
    Formed queueSize { s with queue := queue, logTurn := .ended } := by
  obtain ⟨owned, contents, protocol⟩ := formed
  obtain ⟨pushed, nothing⟩ :
      (s.closing = .pushed ∨ s.closing = .closed) ∧ queue.queue = [] := by
    obtain ⟨pointers, known⟩ := protocol.items
    rw [items] at known
    cases pointers with
    | nil =>
        rcases known with ⟨null, only⟩ | ⟨-, only⟩
        · exact ⟨null.1, by simpa using only⟩
        · simp at only
    | cons first rest => simp at known
  have queued : s.queue.queue.reduceOption = queue.queue.reduceOption := by
    rw [items]
    rfl
  have ahead : ({ s with queue := queue, logTurn := .ended } : LoggerAsyncSink Thread).ahead =
      s.ahead := by
    simp only [LoggerAsyncSink.ahead, popping, queued]
  constructor
  case owned =>
    apply owned.same
    funext place
    cases place with
    | queue => exact queued.symm
    | logThread => simp [held, popping, LogTurn.pointers]
    | pool | caller => rfl
  case contents => exact contents.of_same rfl rfl rfl trivial ahead rfl rfl
  case protocol =>
    constructor
    case queue => exact sound
    case items => exact ⟨[], .inr ⟨by simp [Null], nothing⟩⟩
    case accounts => exact protocol.accounts
    case quiet => exact protocol.quiet
    case ended => exact fun _ => ⟨pushed, nothing⟩
    case closed => exact fun _ => rfl
    case pushers =>
      intro party inside
      exact protocol.pushers party (pushers party inside)
    case popper =>
      intro party inside
      obtain ⟨apart, old⟩ := popper party inside
      exact absurd (protocol.popper party old).1 apart
    case launched => simp

theorem Protocol.setTurn (protocol : Protocol queueSize s) {turn : LogTurn}
    (busy : s.logTurn ≠ .popping) (going : s.logTurn ≠ .ended) (still : turn ≠ .ended)
    (there : turn ≠ .absent) : Protocol queueSize { s with logTurn := turn } := by
  constructor
  case queue => exact protocol.queue
  case items => simpa [Null, going, still] using protocol.items
  case accounts => exact protocol.accounts
  case quiet => exact protocol.quiet
  case ended => exact fun ended => absurd ended still
  case closed => exact fun closed => absurd (protocol.closed closed) going
  case pushers => exact protocol.pushers
  case popper => exact fun party inside => absurd (protocol.popper party inside).2 busy
  case launched => exact there

theorem Formed.log (formed : Formed queueSize s) (popped : s.logTurn = .popped pointer)
    {b : DynamicBuffer} (object : s.memory.objects pointer = some b) :
    Formed queueSize { s with logTurn := .logged pointer, logged := s.logged ++ [b.content] } := by
  obtain ⟨owned, ⟨pool, calls, turn, aheadFits, order⟩, protocol⟩ := formed
  have ahead : s.ahead = pointer :: s.queue.queue.reduceOption := by
    rw [LoggerAsyncSink.ahead, popped]
  have here : bytesAt s.memory pointer = b.content := by
    rw [bytesAt, object]
    rfl
  constructor
  case owned =>
    apply owned.same
    funext place
    cases place with
    | logThread => simp [held, popped, LogTurn.pointers]
    | pool | caller | queue => rfl
  case contents =>
    rw [ahead] at aheadFits order
    rw [popped] at turn
    refine ⟨pool, calls, turn, fun other listed => aheadFits other (.tail _ listed), ?_⟩
    rw [List.map_cons, here] at order
    rw [← order, ← List.append_cons]
    rfl
  case protocol =>
    have moved : Protocol queueSize { s with logTurn := .logged pointer } :=
      protocol.setTurn (by simp [popped]) (by simp [popped]) (by simp) (by simp)
    exact moved.of_same rfl rfl rfl rfl rfl rfl

theorem Formed.read (formed : Formed queueSize s) (logged : s.logTurn = .logged pointer)
    {b : DynamicBuffer} (object : s.memory.objects pointer = some b) :
    Formed queueSize { s with
      memory := s.memory.set pointer (b.read b.readableBytes), logTurn := .drained pointer } := by
  obtain ⟨owned, contents, protocol⟩ := formed
  have member : pointer ∈ s.held .logThread := by
    rw [held, logged]
    exact List.mem_singleton_self _
  have agrees := agreesOff_set owned member (b.read b.readableBytes)
  have cleared : Cleared (b.read b.readableBytes) := by
    have fits := contents.turn
    rw [logged] at fits
    obtain ⟨_, same, sized⟩ := fits
    rw [object] at same
    cases same
    exact sized.read
  constructor
  case owned =>
    apply (owned.set member _).same
    funext place
    cases place with
    | logThread => simp [held, logged, LogTurn.pointers]
    | pool | caller | queue => rfl
  case contents =>
    obtain ⟨aheadFits, aheadSame⟩ := contents.ahead_off agrees (by simp) (by simp [logged])
    have order := contents.order
    rw [← aheadSame] at order
    have ahead : s.ahead = s.queue.queue.reduceOption := by
      rw [LoggerAsyncSink.ahead, logged]
    rw [ahead] at aheadFits order
    constructor
    case pool => exact contents.pool_off agrees (by simp)
    case calls => exact fun thread => contents.calls_off agrees (by simp)
    case turn => exact ⟨_, Function.update_self .., cleared⟩
    case ahead => exact aheadFits
    case order => exact order
  case protocol =>
    have moved : Protocol queueSize { s with logTurn := .drained pointer } :=
      protocol.setTurn (by simp [logged]) (by simp [logged]) (by simp) (by simp)
    exact moved.of_same rfl rfl rfl rfl rfl rfl

theorem Formed.returnObject (formed : Formed queueSize s) (drained : s.logTurn = .drained pointer) :
    Formed queueSize { s with pool := s.pool ++ [pointer], logTurn := .popping } := by
  obtain ⟨owned, ⟨pool, calls, turn, aheadFits, order⟩, protocol⟩ := formed
  have ahead : s.ahead = s.queue.queue.reduceOption := by
    rw [LoggerAsyncSink.ahead, drained]
  rw [ahead] at aheadFits order
  rw [drained] at turn
  constructor
  case owned =>
    have between : (Place.logThread : Place Thread) ≠ .pool := by simp
    have front : s.held .logThread = pointer :: [] := by
      rw [held, drained]
      rfl
    apply owned.move between front
    · rfl
    · rfl
    · intro other source goal
      cases other with
      | pool => exact absurd rfl goal
      | logThread => exact absurd rfl source
      | queue | caller => rfl
  case contents =>
    refine ⟨?_, calls, trivial, aheadFits, order⟩
    intro other listed
    rw [List.mem_append, List.mem_singleton] at listed
    rcases listed with old | rfl
    · exact pool other old
    · exact turn
  case protocol =>
    have moved : Protocol queueSize { s with logTurn := .popping } :=
      protocol.setTurn (by simp [drained]) (by simp [drained]) (by simp) (by simp)
    exact moved.of_same rfl rfl rfl rfl rfl rfl

theorem Formed.destroy (formed : Formed queueSize s) (running : s.closing = .running)
    (outside : ∀ thread, s.calling thread = .outside) :
    Formed queueSize { s with closing := .pushing } := by
  obtain ⟨owned, contents, protocol⟩ := formed
  refine ⟨owned, contents.of_same rfl rfl rfl contents.turn rfl rfl rfl, ?_⟩
  have going : s.logTurn ≠ .ended := by
    intro ended
    simpa [running] using (protocol.ended ended).1
  constructor
  case queue => exact protocol.queue
  case items => simpa [Null, running] using protocol.items
  case accounts => exact protocol.accounts
  case quiet => exact fun _ => outside
  case ended => exact fun ended => absurd ended going
  case closed =>
    intro closed
    cases closed
  case pushers =>
    intro party inside
    obtain ⟨bounded, known⟩ := protocol.pushers party inside
    refine ⟨bounded, known.imp_right fun known => ?_⟩
    simp [running] at known
  case popper => exact protocol.popper
  case launched => exact protocol.launched

theorem Formed.close (formed : Formed queueSize s) (pushed : s.closing = .pushed)
    (ended : s.logTurn = .ended) : Formed queueSize { s with closing := .closed } := by
  obtain ⟨owned, contents, protocol⟩ := formed
  refine ⟨owned, contents.of_same rfl rfl rfl contents.turn rfl rfl rfl, ?_⟩
  have outside := protocol.quiet (by simp [pushed])
  constructor
  case queue => exact protocol.queue
  case items => simpa [Null, ended] using protocol.items
  case accounts => exact protocol.accounts
  case quiet => exact fun _ => outside
  case ended => exact fun ended => ⟨.inr rfl, (protocol.ended ended).2⟩
  case closed => exact fun _ => ended
  case pushers =>
    intro party inside
    obtain ⟨bounded, known⟩ := protocol.pushers party inside
    refine ⟨bounded, known.imp_right fun known => ?_⟩
    simp [pushed] at known
  case popper => exact protocol.popper
  case launched => exact protocol.launched

omit [DecidableEq Thread] in
theorem onBuffer_some {change : DynamicBuffer → DynamicBuffer}
    (taken : s.onBuffer pointer change = some next) :
    ∃ b, s.memory.objects pointer = some b ∧
      next = { s with memory := s.memory.set pointer (change b) } := by
  rw [LoggerAsyncSink.onBuffer, Option.map_eq_some_iff] at taken
  obtain ⟨b, object, rfl⟩ := taken
  exact ⟨b, object, rfl⟩

theorem Formed.onLine (formed : Formed queueSize s) {phase : LogCall}
    {change : DynamicBuffer → DynamicBuffer}
    (old : (s.calling thread).pointers = [pointer]) (new : phase.pointers = [pointer])
    (bytes : phase.bytes = (s.calling thread).bytes)
    (unwritten : ∀ pointer bytes, s.calling thread ≠ .written pointer bytes)
    (fits : ∀ b, s.memory.objects pointer = some b →
      CallFits (s.memory.set pointer (change b)) phase)
    (taken : (s.onBuffer pointer change).map (·.setCalling thread phase) = some next) :
    Formed queueSize next := by
  rw [Option.map_eq_some_iff] at taken
  obtain ⟨_, taken, rfl⟩ := taken
  obtain ⟨b, object, rfl⟩ := onBuffer_some taken
  exact formed.onBuffer old new bytes unwritten (fits b object)

theorem Behind.fine {fine : DynamicBuffer → Prop} (behind : Behind memory pointer fine)
    (object : memory.objects pointer = some b) : fine b := by
  obtain ⟨_, same, fine⟩ := behind
  rw [object] at same
  cases same
  exact fine

theorem behind_set {fine : DynamicBuffer → Prop} (holds : fine b) :
    Behind (memory.set pointer b) pointer fine :=
  ⟨b, Function.update_self .., holds⟩

theorem Formed.pushWaits (formed : Formed queueSize s) {pusher : LogParty Thread}
    {queue : ConcurrentQueue (LogParty Thread) (Option Pointer)} (sound : queue.Sound queueSize)
    (full : s.queue.fullNoLock = true) (items : queue.queue = s.queue.queue)
    (waits : (∃ thread pointer bytes,
        pusher = .caller thread ∧ s.calling thread = .written pointer bytes) ∨
      pusher = .destructor ∧ s.closing = .pushing)
    (pushers : ∀ party, queue.notFullCond.Inside party ↔
      party = pusher ∨ s.queue.notFullCond.Inside party)
    (popper : ∀ party, queue.notEmptyCond.Inside party ↔ s.queue.notEmptyCond.Inside party) :
    Formed queueSize { s with queue := queue } := by
  have bounded := (formed.protocol.queue.full_iff.mp full).1
  apply formed.onWaiters sound items
  · intro party inside
    rcases (pushers party).mp inside with rfl | old
    · exact .inr ⟨bounded, waits⟩
    · exact .inl old
  · exact fun party inside => .inl ((popper party).mp inside)

theorem Formed.push {notified : Option (LogParty Thread)} (formed : Formed queueSize s)
    (taken : s.step (.push thread notified) = some next) : Formed queueSize next := by
  simp only [LoggerAsyncSink.step] at taken
  split at taken
  next pointer bytes written =>
      simp only [Option.ite_none_left_eq_some, Option.map_eq_some_iff] at taken
      obtain ⟨awake, queue, pushed, rfl⟩ := taken
      have sound := formed.protocol.queue.push awake pushed
      obtain ⟨popper, ⟨full, items, pushers⟩ | ⟨room, items, pushers⟩⟩ :=
        ConcurrentQueue.push_turn awake pushed
      · rw [if_pos full]
        apply formed.pushWaits sound full items _ pushers popper
        exact .inl ⟨thread, pointer, bytes, rfl, written⟩
      · rw [if_neg (by simp [room])]
        apply formed.enqueue written sound items
        · exact fun party inside => (pushers party).mp inside
        · exact fun party inside => (popper party).mp inside
  next => cases taken

theorem Formed.pushNull {notified : Option (LogParty Thread)} (formed : Formed queueSize s)
    (taken : s.step (.pushNull notified) = some next) : Formed queueSize next := by
  simp only [LoggerAsyncSink.step] at taken
  split at taken
  next pushing =>
      simp only [Option.ite_none_left_eq_some, Option.map_eq_some_iff] at taken
      obtain ⟨awake, queue, pushed, rfl⟩ := taken
      have sound := formed.protocol.queue.push awake pushed
      obtain ⟨popper, ⟨full, items, pushers⟩ | ⟨room, items, pushers⟩⟩ :=
        ConcurrentQueue.push_turn awake pushed
      · rw [if_pos full]
        exact formed.pushWaits sound full items (.inr ⟨rfl, pushing⟩) pushers popper
      · rw [if_neg (by simp [room])]
        apply formed.enqueueNull pushing sound items
        · exact fun party inside => (pushers party).mp inside
        · exact fun party inside => (popper party).mp inside
  next => cases taken

theorem Formed.pop {notified : Option (LogParty Thread)} (formed : Formed queueSize s)
    (taken : s.step (.pop notified) = some next) : Formed queueSize next := by
  simp only [LoggerAsyncSink.step] at taken
  split at taken
  next popping =>
      simp only [Option.ite_none_left_eq_some, Option.map_eq_some_iff] at taken
      obtain ⟨awake, ⟨front, queue⟩, popped, rfl⟩ := taken
      have sound := formed.protocol.queue.pop popped
      obtain ⟨pushers, ⟨empty, rfl, items, popper⟩ | ⟨item, items, rfl, popper⟩⟩ :=
        ConcurrentQueue.pop_turn awake popped
      · apply formed.onWaiters sound (items.trans empty.symm)
        · exact fun party inside => .inl ((pushers party).mp inside)
        · intro party inside
          rcases (popper party).mp inside with rfl | old
          · exact .inr ⟨rfl, popping⟩
          · exact .inl old
      · cases item with
        | none =>
            apply formed.dequeueNull popping sound items
            · exact fun party inside => (pushers party).mp inside
            · exact fun party inside => (popper party).mp inside
        | some pointer =>
            apply formed.dequeue popping sound items
            · exact fun party inside => (pushers party).mp inside
            · exact fun party inside => (popper party).mp inside
  next => cases taken

theorem Formed.step {event : LogEvent Thread} (formed : Formed queueSize s)
    (promised : s.Promised event) (taken : s.step event = some next) : Formed queueSize next := by
  cases event with
  | call thread bytes =>
      simp only [LoggerAsyncSink.step] at taken
      split at taken
      next outside =>
          cases taken
          exact formed.call outside promised.1 promised.2
      next => cases taken
  | getObject thread =>
      simp only [LoggerAsyncSink.step] at taken
      split at taken
      next bytes entered =>
          cases taken
          exact Formed.getObject entered formed
      next => cases taken
  | reserve thread =>
      simp only [LoggerAsyncSink.step] at taken
      split at taken
      next pointer bytes got =>
          have fits := formed.contents.calls thread
          rw [got] at fits
          apply formed.onLine _ rfl _ (by simp [got]) _ taken
          · rw [got]
            rfl
          · rw [got]
            rfl
          · intro b object
            exact ⟨fits.1, behind_set ⟨b, fits.2.fine object, rfl⟩⟩
      next => cases taken
  | copy thread =>
      simp only [LoggerAsyncSink.step] at taken
      split at taken
      next pointer bytes reserved =>
          have fits := formed.contents.calls thread
          rw [reserved] at fits
          apply formed.onLine _ rfl _ (by simp [reserved]) _ taken
          · rw [reserved]
            rfl
          · rw [reserved]
            rfl
          · intro b object
            exact ⟨fits.1, behind_set ⟨b, fits.2.fine object, rfl⟩⟩
      next => cases taken
  | write thread =>
      simp only [LoggerAsyncSink.step] at taken
      split at taken
      next pointer bytes copied =>
          have fits := formed.contents.calls thread
          rw [copied] at fits
          apply formed.onLine _ rfl _ (by simp [copied]) _ taken
          · rw [copied]
            rfl
          · rw [copied]
            rfl
          · intro b object
            exact behind_set ((fits.2.fine object).write fits.1)
      next => cases taken
  | push thread notified => exact formed.push taken
  | pop notified => exact formed.pop taken
  | log =>
      simp only [LoggerAsyncSink.step] at taken
      split at taken
      next pointer popped =>
          rw [Option.map_eq_some_iff] at taken
          obtain ⟨b, object, rfl⟩ := taken
          exact formed.log popped object
      next => cases taken
  | read =>
      simp only [LoggerAsyncSink.step] at taken
      split at taken
      next pointer logged =>
          rw [Option.map_eq_some_iff] at taken
          obtain ⟨_, taken, rfl⟩ := taken
          obtain ⟨b, object, rfl⟩ := onBuffer_some taken
          exact formed.read logged object
      next => cases taken
  | returnObject =>
      simp only [LoggerAsyncSink.step] at taken
      split at taken
      next pointer drained =>
          cases taken
          exact formed.returnObject drained
      next => cases taken
  | destroy =>
      simp only [LoggerAsyncSink.step] at taken
      split at taken
      next running =>
          cases taken
          exact formed.destroy running promised
      next => cases taken
  | pushNull notified => exact formed.pushNull taken
  | close =>
      simp only [LoggerAsyncSink.step] at taken
      split at taken
      next pushed ended =>
          cases taken
          exact formed.close pushed ended
      next => cases taken
  | spuriousNotFull party =>
      simp only [LoggerAsyncSink.step, Option.map_eq_some_iff] at taken
      obtain ⟨cond, woke, rfl⟩ := taken
      apply formed.onWaiters (formed.protocol.queue.spuriousNotFull woke) rfl
      · exact fun other inside => .inl ((Waiters.inside_wake woke other).mp inside)
      · exact fun other inside => .inl inside
  | spuriousNotEmpty party =>
      simp only [LoggerAsyncSink.step, Option.map_eq_some_iff] at taken
      obtain ⟨cond, woke, rfl⟩ := taken
      apply formed.onWaiters (formed.protocol.queue.spuriousNotEmpty woke) rfl
      · exact fun other inside => .inl inside
      · exact fun other inside => .inl ((Waiters.inside_wake woke other).mp inside)

/-- Nothing is under way: the log thread waits for the next call, or the sink is gone. -/
def Settled (s : LoggerAsyncSink Thread) : Prop :=
  (∀ thread, s.calling thread = .outside) ∧ s.logged = s.pushed.map Prod.snd ∧
    (s.closing = .running ∧ s.logTurn = .popping ∨ s.closing = .closed)

def Advances (s : LoggerAsyncSink Thread) : LogEvent Thread → Prop
  | .call _ _ | .destroy | .spuriousNotFull _ | .spuriousNotEmpty _ => False
  | .push _ _ | .pushNull _ => s.queue.fullNoLock = false
  | .pop _ => s.queue.queue ≠ []
  | _ => True

def Moves (s : LoggerAsyncSink Thread) : Prop :=
  ∃ event, s.Advances event ∧ (s.step event).isSome

theorem Formed.logThread_moves (formed : Formed queueSize s)
    (work : s.logTurn = .popping → s.queue.queue ≠ []) (going : s.logTurn ≠ .ended) :
    s.Moves := by
  have holds := formed.contents.turn
  cases turn : s.logTurn with
  | absent => exact absurd turn formed.protocol.launched
  | popping =>
      have items := work turn
      obtain ⟨notified, possible⟩ := s.queue.pop_possible .logThread
      refine ⟨.pop notified, items, ?_⟩
      have awake : LogParty.logThread ∉ s.queue.notEmptyCond.waiting := by
        intro asleep
        have enough := formed.protocol.queue.poppers ⟨_, asleep⟩
        have nobody : s.queue.notEmptyCond.woken = ∅ := by
          apply Finset.eq_empty_of_forall_notMem
          intro party woken
          have same := (formed.protocol.popper party (.inr woken)).1
          rw [same] at woken
          exact Waiters.awake_of_woken woken asleep
        rw [nobody, Finset.card_empty, Nat.le_zero, List.length_eq_zero_iff] at enough
        exact items enough
      simp only [LoggerAsyncSink.step, turn]
      rwa [if_neg awake, Option.isSome_map]
  | popped pointer =>
      rw [turn] at holds
      obtain ⟨b, object, -⟩ := holds
      exact ⟨.log, trivial, by simp [LoggerAsyncSink.step, turn, object]⟩
  | logged pointer =>
      rw [turn] at holds
      obtain ⟨b, object, -⟩ := holds
      exact ⟨.read, trivial, by simp [LoggerAsyncSink.step, turn, LoggerAsyncSink.onBuffer, object]⟩
  | drained pointer => exact ⟨.returnObject, trivial, by simp [LoggerAsyncSink.step, turn]⟩
  | ended => exact absurd turn going

theorem moves_of_written (written : s.calling thread = .written pointer bytes)
    (room : s.queue.fullNoLock = false)
    (awake : LogParty.caller thread ∉ s.queue.notFullCond.waiting) : s.Moves := by
  obtain ⟨notified, possible⟩ := s.queue.push_possible (.caller thread) (some pointer)
  refine ⟨.push thread notified, room, ?_⟩
  simp only [LoggerAsyncSink.step, written]
  rwa [if_neg awake, Option.isSome_map]

theorem Formed.pusher_awake (formed : Formed queueSize s) (room : s.queue.fullNoLock = false)
    {party : LogParty Thread} (asleep : party ∈ s.queue.notFullCond.waiting) :
    ∃ other, other ∈ s.queue.notFullCond.woken := by
  have sound := formed.protocol.queue
  have bounded := (formed.protocol.pushers party (.inl asleep)).1
  have free : ¬ queueSize ≤ s.queue.queue.length := by
    intro filled
    have full := sound.full_iff.mpr ⟨bounded, filled⟩
    rw [room] at full
    cases full
  have enough := sound.pushers ⟨party, asleep⟩
  apply Finset.card_pos.mp
  omega

theorem Formed.caller_moves (formed : Formed queueSize s)
    (busy : s.calling thread ≠ .outside) : s.Moves := by
  have fits := formed.contents.calls thread
  have running := formed.protocol.running_of_busy busy
  cases phase : s.calling thread with
  | outside => exact absurd phase busy
  | entered bytes => exact ⟨.getObject thread, trivial, by simp [LoggerAsyncSink.step, phase]⟩
  | got pointer bytes =>
      rw [phase] at fits
      obtain ⟨-, b, object, -⟩ := fits
      refine ⟨.reserve thread, trivial, ?_⟩
      simp [LoggerAsyncSink.step, phase, LoggerAsyncSink.onBuffer, object]
  | reserved pointer bytes =>
      rw [phase] at fits
      obtain ⟨-, b, object, -⟩ := fits
      refine ⟨.copy thread, trivial, ?_⟩
      simp [LoggerAsyncSink.step, phase, LoggerAsyncSink.onBuffer, object]
  | copied pointer bytes =>
      rw [phase] at fits
      obtain ⟨-, b, object, -⟩ := fits
      refine ⟨.write thread, trivial, ?_⟩
      simp [LoggerAsyncSink.step, phase, LoggerAsyncSink.onBuffer, object]
  | written pointer bytes =>
      cases room : s.queue.fullNoLock with
      | true =>
          -- the log thread makes room
          have filled := formed.protocol.queue.full_iff.mp room
          apply formed.logThread_moves
          · intro _ empty
            rw [empty, List.length_nil] at filled
            omega
          · intro ended
            simpa [running] using (formed.protocol.ended ended).1
      | false =>
          by_cases asleep : LogParty.caller thread ∈ s.queue.notFullCond.waiting
          · -- then another one has been woken for the room
            obtain ⟨other, woken⟩ := formed.pusher_awake room asleep
            obtain ⟨-, ⟨other, pointer, bytes, rfl, written⟩ | ⟨-, pushing⟩⟩ :=
              formed.protocol.pushers other (.inr woken)
            · exact moves_of_written written room (Waiters.awake_of_woken woken)
            · rw [running] at pushing
              cases pushing
          · exact moves_of_written phase room asleep

theorem Formed.settled_or_moves (formed : Formed queueSize s) : s.Settled ∨ s.Moves := by
  have order := formed.contents.order
  have protocol := formed.protocol
  by_cases outside : ∀ thread, s.calling thread = .outside
  · by_cases working : s.logTurn ≠ .ended ∧ (s.logTurn = .popping → s.queue.queue ≠ [])
    · exact .inr (formed.logThread_moves working.2 working.1)
    · have empty : s.queue.queue = [] ∧ (s.logTurn = .popping ∨ s.logTurn = .ended) := by
        by_cases ended : s.logTurn = .ended
        · exact ⟨(protocol.ended ended).2, .inr ended⟩
        · have popping : s.logTurn = .popping ∧ s.queue.queue = [] := by
            simpa [ended] using working
          exact ⟨popping.2, .inl popping.1⟩
      have everything : s.logged = s.pushed.map Prod.snd := by
        have nothing : s.ahead = [] := by
          rw [ahead, empty.1]
          rcases empty.2 with turn | turn <;> rw [turn] <;> rfl
        rwa [nothing, List.map_nil, List.append_nil] at order
      rcases empty.2 with popping | ended
      · have still : ¬ s.Null := by
          intro null
          obtain ⟨pointers, ⟨-, items⟩ | ⟨hasNot, -⟩⟩ := protocol.items
          · simp [empty.1] at items
          · exact hasNot null
        simp only [Null, popping, ne_eq, reduceCtorEq, not_false_eq_true, and_true, not_or]
          at still
        cases closing : s.closing with
        | running => exact .inl ⟨outside, everything, .inl ⟨closing, popping⟩⟩
        | pushing =>
            obtain ⟨notified, possible⟩ := s.queue.push_possible .destructor (none : Option Pointer)
            have room : s.queue.fullNoLock = false := by
              by_contra full
              rw [Bool.not_eq_false, protocol.queue.full_iff, empty.1, List.length_nil] at full
              omega
            have awake : LogParty.destructor ∉ s.queue.notFullCond.waiting := by
              intro asleep
              obtain ⟨other, woken⟩ := formed.pusher_awake room asleep
              obtain ⟨-, ⟨thread, pointer, bytes, -, written⟩ | ⟨rfl, -⟩⟩ :=
                protocol.pushers other (.inr woken)
              · rw [outside thread] at written
                cases written
              · exact Waiters.awake_of_woken woken asleep
            refine .inr ⟨.pushNull notified, room, ?_⟩
            simp only [LoggerAsyncSink.step, closing]
            rwa [if_neg awake, Option.isSome_map]
        | pushed => exact absurd closing still.1
        | closed => exact absurd closing still.2
      · rcases (protocol.ended ended).1 with pushed | closed
        · exact .inr ⟨.close, trivial, by simp [LoggerAsyncSink.step, pushed, ended]⟩
        · exact .inl ⟨outside, everything, .inr closed⟩
  · rw [not_forall] at outside
    obtain ⟨thread, busy⟩ := outside
    exact .inr (formed.caller_moves busy)

theorem Formed.start (queueSize : Nat) :
    Formed queueSize (start queueSize false : LoggerAsyncSink Thread) := by
  constructor
  case owned =>
    apply owned_empty.same
    funext place
    cases place <;> rfl
  case contents =>
    constructor
    case pool => simp [LoggerAsyncSink.start]
    case calls => exact fun _ => trivial
    case turn => trivial
    case ahead =>
      rw [LoggerAsyncSink.ahead, start_launched]
      exact List.forall_mem_nil _
    case order => rfl
  case protocol =>
    constructor
    case queue => exact ConcurrentQueue.Sound.create queueSize
    case items => exact ⟨[], .inr ⟨by simp [Null, LoggerAsyncSink.start], rfl⟩⟩
    case accounts => exact fun _ => rfl
    case quiet => exact fun _ _ => rfl
    case ended => simp [start_launched]
    case closed => simp [LoggerAsyncSink.start]
    case pushers =>
      intro party inside
      simp [LoggerAsyncSink.start, ConcurrentQueue.create, Waiters.Inside, Waiters.empty] at inside
    case popper =>
      intro party inside
      simp [LoggerAsyncSink.start, ConcurrentQueue.create, Waiters.Inside, Waiters.empty] at inside
    case launched => simp [start_launched]

theorem perm_of_ofThread {first second : List (Thread × List UInt8)}
    (same : ∀ thread, ofThread thread first = ofThread thread second) : first.Perm second := by
  have counted (calls : List (Thread × List UInt8)) (thread : Thread) (bytes : List UInt8) :
      calls.count (thread, bytes) = (ofThread thread calls).count bytes := by
    induction calls with
    | nil => rfl
    | cons call calls ih =>
        obtain ⟨caller, sent⟩ := call
        by_cases its : caller = thread
        · simp [ofThread, its, List.count_cons, ih]
        · simp [ofThread, its, ih]
  rw [List.perm_iff_count]
  rintro ⟨thread, bytes⟩
  rw [counted, counted, same]

/-- The bytes of the calls come through, and each buffer has its place. -/
structure Faithful (s : LoggerAsyncSink Thread) : Prop where
  order : s.logged <+: s.pushed.map Prod.snd
  calls : ∀ thread, ofThread thread s.pushed ++ (s.calling thread).bytes = ofThread thread s.called
  ended : s.logTurn = .ended → s.logged = s.pushed.map Prod.snd ∧ s.pushed.Perm s.called
  place : ∀ pointer, (s.memory.objects pointer).isSome → ∃! place, pointer ∈ s.held place
  once : ∀ place, (s.held place).Nodup
  pool : ∀ pointer ∈ s.pool, ∃ b, s.memory.objects pointer = some b ∧ b.readableBytes = 0

theorem Formed.faithful (formed : Formed queueSize s) : s.Faithful := by
  obtain ⟨owned, contents, protocol⟩ := formed
  have order := contents.order
  constructor
  case order => exact ⟨_, order⟩
  case calls => exact protocol.accounts
  case ended =>
    intro ended
    obtain ⟨closing, empty⟩ := protocol.ended ended
    constructor
    · have nothing : s.ahead = [] := by
        rw [ahead, ended, empty]
        rfl
      rwa [nothing, List.map_nil, List.append_nil] at order
    · apply perm_of_ofThread
      intro thread
      have outside : s.calling thread = .outside := by
        apply protocol.quiet
        rcases closing with closing | closing <;> simp [closing]
      rw [← protocol.accounts, outside]
      exact (List.append_nil _).symm
  case place =>
    intro pointer present
    obtain ⟨place, member⟩ := (owned.live pointer).mp present
    exact ⟨place, member, fun other again => owned.apart other place pointer again member⟩
  case once => exact owned.nodup
  case pool =>
    intro pointer pooled
    obtain ⟨b, object, cleared⟩ := contents.pool pointer pooled
    refine ⟨b, object, ?_⟩
    rw [DynamicBuffer.readableBytes, cleared.writeIndex, Nat.zero_sub]

/-- In no run is anything lost or mixed, and none gets stuck before it is through. -/
def LosesNothing (Thread : Type) [DecidableEq Thread] (queueSize : Nat) (isRun : Bool) : Prop :=
  ∀ events : List (LogEvent Thread), Along step Promised (start queueSize isRun) events →
    Every step (fun s => s.Faithful ∧ (s.Settled ∨ s.Moves)) (start queueSize isRun) events

theorem absent_stuck (absent : s.logTurn = .absent) (outside : ∀ thread, s.calling thread = .outside)
    (pushed : s.closing = .pushed) : ¬ (s.Settled ∨ s.Moves) := by
  rintro (⟨-, -, ⟨running, -⟩ | closed⟩ | ⟨event, advances, taken⟩)
  · rw [pushed] at running
    cases running
  · rw [pushed] at closed
    cases closed
  · cases event with
    | call | destroy | spuriousNotFull | spuriousNotEmpty => exact advances
    | getObject thread | reserve thread | copy thread | write thread | push thread =>
        simp [step, outside thread] at taken
    | pop | log | read | returnObject | close => simp [step, absent, pushed] at taken
    | pushNull => simp [step, pushed] at taken

theorem destroyed_absent (queueSize : Nat) :
    ∃ (notified : Option (LogParty Thread)) (finish : LoggerAsyncSink Thread),
      run step (start queueSize true) [.destroy, .pushNull notified] = some finish ∧
        finish.logTurn = .absent ∧ (∀ thread, finish.calling thread = .outside) ∧
        finish.closing = .pushed := by
  have room : (start queueSize true : LoggerAsyncSink Thread).queue.fullNoLock = false := by
    cases queueSize <;> rfl
  obtain ⟨notified, possible⟩ := ConcurrentQueue.push_possible
    (start queueSize true : LoggerAsyncSink Thread).queue .destructor none
  obtain ⟨queue, pushed⟩ := Option.isSome_iff_exists.mp possible
  have awake : LogParty.destructor ∉
      (start queueSize true : LoggerAsyncSink Thread).queue.notFullCond.waiting :=
    Finset.notMem_empty _
  refine ⟨notified, { start queueSize true with queue := queue, closing := .pushed }, ?_,
    @start_refused Thread queueSize, fun _ => rfl, rfl⟩
  have destroyed : (start queueSize true : LoggerAsyncSink Thread).step .destroy =
      some { start queueSize true with closing := .pushing } := rfl
  rw [run, destroyed, Option.bind_some, run]
  simp only [step]
  rw [if_neg awake, pushed, Option.map_some, if_neg (by simp [room]), Option.bind_some]
  rfl

/-- The log thread is launched where `is_run_` happens to read as false, and only there. -/
theorem loses_nothing_iff (queueSize : Nat) (isRun : Bool) :
    LosesNothing Thread queueSize isRun ↔ isRun = false := by
  constructor
  · intro lossless
    by_contra refused
    rw [Bool.not_eq_false] at refused
    subst refused
    obtain ⟨notified, finish, reached, absent, outside, pushed⟩ :=
      @destroyed_absent Thread _ queueSize
    have promised : Along step Promised (start queueSize true : LoggerAsyncSink Thread)
        [.destroy, .pushNull notified] :=
      ⟨fun _ => rfl, fun next taken => ⟨trivial, fun _ _ => trivial⟩⟩
    have every := lossless _ promised
    exact absent_stuck absent outside pushed (every.finish reached).2
  · rintro rfl events promised
    have formed := every_of_invariant Formed.step (Formed.start queueSize) promised
    exact formed.mono fun formed => ⟨formed.faithful, formed.settled_or_moves⟩

def twoCallers : List (LogEvent Bool) :=
  [.call true [65, 66], .getObject true, .call false [], .reserve true, .copy true, .write true,
    .push true none, .getObject false, .reserve false, .copy false, .write false, .push false none,
    .pop (some (.caller false)), .log, .push false none, .read, .returnObject,
    .call true [67], .getObject true, .reserve true, .copy true, .write true,
    .pop none, .log, .read, .push true none, .destroy, .pushNull none, .returnObject,
    .pop (some .destructor), .pushNull none, .log, .read, .returnObject, .pop none, .close]

example : (run step (start 1 false) twoCallers).map logged = some [[65, 66], [], [67]] := by
  decide +kernel

/-- One call, then the destructor, where `is_run_` reads as true. -/
theorem call_never_logged : ¬ LosesNothing Bool 8 true := by
  intro lossless
  have every := lossless [.call true [65, 66], .getObject true, .reserve true, .copy true,
    .write true, .push true none, .destroy, .pushNull none] (by decide +kernel)
  have reached : ∃ finish, run step (start 8 true)
      [.call true [65, 66], .getObject true, .reserve true, .copy true, .write true,
        .push true none, .destroy, .pushNull none] = some finish ∧
      finish.logTurn = .absent ∧ finish.calling true = .outside ∧
      finish.calling false = .outside ∧ finish.closing = .pushed ∧ finish.logged = [] :=
    ⟨_, rfl, rfl, rfl, rfl, rfl, rfl⟩
  obtain ⟨finish, reached, absent, first, second, pushed, -⟩ := reached
  have outside : ∀ thread, finish.calling thread = .outside := by
    intro thread
    cases thread
    · exact second
    · exact first
  exact absent_stuck absent outside pushed (every.finish reached).2

end LoggerAsyncSink

end ZBlueNet
