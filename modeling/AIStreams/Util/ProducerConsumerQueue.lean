import AIStreams.Fifo.Bounded
import AIStreams.Util.Status
import AIStreams.Util.Time
import Mathlib.Logic.Function.Basic

/-!
# `ProducerConsumerQueue<T>`

`aistreams/util/producer_consumer_queue.h`.  A thread holds the mutex for a
*stretch*: from taking it to returning, or to waiting on a condition variable, which
gives the mutex back.  Each operation is written as the stretch it runs from its call,
and the stretch it runs when a wait is over; `TryPush` and `TryPop` look at the clock
in between.

* `Does`: all that a stretch of a call can do, guards included; `Call.first_does` and
  `Frame.resume_does` say that every operation keeps to it.
* `system`: any number of threads, their stretches in any order, `Signal`, timeouts
  and spurious wakeups.
* `toBuffer`: the queue refines the atomic bounded FIFO buffer.
-/

namespace AIStreams

open Transition

universe u v

/-- `std::numeric_limits<int>::max()`. -/
def intMax : ℕ := 2147483647

/-- The queue: `capacity_` and `q_`. -/
structure ProducerConsumerQueue (α : Type u) where
  capacity : ℕ
  q : List α
  capacity_pos : 0 < capacity
  capacity_le : capacity ≤ intMax

namespace ProducerConsumerQueue

variable {α : Type u}

/-- An empty queue of one place. -/
def onePlace (α : Type u) : ProducerConsumerQueue α := ⟨1, [], by decide, by decide⟩

/-- An empty queue of two places. -/
def twoPlaces (α : Type u) : ProducerConsumerQueue α := ⟨2, [], by decide, by decide⟩

/-- The constructor, fatal on a capacity that is not positive. -/
def create (α : Type u) (capacity : Int32) : OrFatal (ProducerConsumerQueue α) :=
  if h : capacity.toInt ≤ 0 then .error ⟨"A positive capacity is required"⟩
  else .ok
    { capacity := capacity.toInt.toNat
      q := []
      capacity_pos := by omega
      capacity_le := by
        have := capacity.toInt_lt
        simp only [intMax]
        omega }

def isLimitedCapacity (s : ProducerConsumerQueue α) : Bool := s.capacity != intMax

/-- The test in front of every insertion: the capacity is limited and reached. -/
def isFull (s : ProducerConsumerQueue α) : Bool :=
  s.isLimitedCapacity && decide (s.capacity ≤ s.q.length)

/-- The bound of the buffer this queue implements. -/
def bound (s : ProducerConsumerQueue α) : Option ℕ :=
  if s.isLimitedCapacity then some s.capacity else none

/-- `q_.emplace_back(v)`. -/
def pushBack (s : ProducerConsumerQueue α) (v : α) : ProducerConsumerQueue α :=
  { s with q := s.q ++ [v] }

/-- `q_.pop_front()`, `rest` being what stays. -/
def withRest (s : ProducerConsumerQueue α) (rest : List α) : ProducerConsumerQueue α :=
  { s with q := rest }

@[simp] theorem pushBack_q (s : ProducerConsumerQueue α) (v : α) : (s.pushBack v).q = s.q ++ [v] :=
  rfl
@[simp] theorem pushBack_capacity (s : ProducerConsumerQueue α) (v : α) :
    (s.pushBack v).capacity = s.capacity := rfl
@[simp] theorem withRest_q (s : ProducerConsumerQueue α) (l : List α) : (s.withRest l).q = l := rfl
@[simp] theorem withRest_capacity (s : ProducerConsumerQueue α) (l : List α) :
    (s.withRest l).capacity = s.capacity := rfl

theorem create_eq_ok {capacity : Int32} {s : ProducerConsumerQueue α}
    (h : create α capacity = .ok s) : s.q = [] ∧ s.capacity = capacity.toInt.toNat := by
  unfold create at h
  split at h
  · cases h
  · cases h
    exact ⟨rfl, rfl⟩

theorem isFull_eq_false_iff (s : ProducerConsumerQueue α) :
    s.isFull = false ↔ ∀ n ∈ s.bound, s.q.length < n := by
  cases h : s.isLimitedCapacity <;> simp [isFull, bound, h]

/-- There are `n` places left. -/
def HasPlaces (s : ProducerConsumerQueue α) (n : ℕ) : Prop := ∀ m ∈ s.bound, s.q.length + n ≤ m

theorem HasPlaces.mono {s : ProducerConsumerQueue α} {n n' : ℕ} (h : s.HasPlaces n) (hn : n' ≤ n) :
    s.HasPlaces n' :=
  fun m hm => Nat.le_trans (Nat.add_le_add_left hn _) (h m hm)

theorem hasPlaces_one_iff (s : ProducerConsumerQueue α) : s.HasPlaces 1 ↔ s.isFull = false :=
  (isFull_eq_false_iff s).symm

theorem q_ne_nil_of_isFull {s : ProducerConsumerQueue α} (h : s.isFull = true) : s.q ≠ [] := by
  intro hq
  have hpos := s.capacity_pos
  simp only [isFull, hq, List.length_nil, Bool.and_eq_true, decide_eq_true_eq] at h
  omega

theorem hasPlaces_pushBack_iff (s : ProducerConsumerQueue α) (v : α) (n : ℕ) :
    (s.pushBack v).HasPlaces n ↔ s.HasPlaces (n + 1) := by
  have hlen : (s.pushBack v).q.length + n = s.q.length + (n + 1) := by
    rw [pushBack_q, List.length_append, List.length_singleton]
    omega
  constructor
  · intro h m hm
    rw [← hlen]
    exact h m hm
  · intro h m hm
    rw [hlen]
    exact h m hm

/-! ### Calls and returns -/

inductive CondVar
  | notEmpty
  | notFull
  deriving DecidableEq

/-- A call of one of the five operations.  `tryPush p` has the object that the caller's
`unique_ptr` points to; `pop elem` and `tryPop elem` have what the caller's variable holds. -/
inductive Call (α : Type u)
  | emplace (v : α)
  | tryEmplace (v : α)
  | tryPush (p : α) (timeout : Duration)
  | pop (elem : α)
  | tryPop (elem : α) (timeout : Duration)

/-- What a call returns, with the caller's pointer or variable after it. -/
inductive Return (α : Type u)
  | emplace
  | tryEmplace (ok : Bool)
  | tryPush (ok : Bool) (p : Option α)
  | pop (elem : α)
  | tryPop (ok : Bool) (elem : α)

/-- A call inside a condition-variable wait, with its locals. -/
inductive Frame (α : Type u)
  | emplace (v : α)
  | tryPush (p : α) (timeout : Duration) (deadline : Time)
  | pop (elem : α)
  | tryPop (elem : α) (timeout : Duration) (deadline : Time)

def Frame.call : Frame α → Call α
  | .emplace v => .emplace v
  | .tryPush p timeout _ => .tryPush p timeout
  | .pop elem => .pop elem
  | .tryPop elem timeout _ => .tryPop elem timeout

/-- The condition variable a wait is on. -/
def Frame.cv : Frame α → CondVar
  | .emplace _ => .notFull
  | .tryPush _ _ _ => .notFull
  | .pop _ => .notEmpty
  | .tryPop _ _ _ => .notEmpty

/-- How a stretch ends: the mutex is released by a wait or by the return. -/
inductive Ended (α : Type u)
  | wait (f : Frame α)
  | done (r : Return α)

/-- What a thread leaves behind when it releases the mutex. -/
structure Stretch (α : Type u) where
  queue : ProducerConsumerQueue α
  signal : Option CondVar
  ended : Ended α

/-! ### The operations -/

/-- `InternalEmplace`, then the return. -/
def internalEmplace (s : ProducerConsumerQueue α) (v : α) (r : Return α) : Stretch α :=
  ⟨s.pushBack v, some .notEmpty, .done r⟩

/-- `InternalPop`, then the return. -/
def internalPop (s : ProducerConsumerQueue α) (rest : List α) (r : Return α) : Stretch α :=
  ⟨s.withRest rest, some .notFull, .done r⟩

/-- `Emplace`, from the lock and again from each wakeup. -/
def emplace (s : ProducerConsumerQueue α) (v : α) : Stretch α :=
  if s.isFull then ⟨s, none, .wait (.emplace v)⟩
  else s.internalEmplace v .emplace

def tryEmplace (s : ProducerConsumerQueue α) (v : α) : Stretch α :=
  if s.isFull then ⟨s, none, .done (.tryEmplace false)⟩
  else s.internalEmplace v (.tryEmplace true)

/-- The `while` of `TryPush`, and what follows it. -/
def tryPushLoop (s : ProducerConsumerQueue α) (p : α) (timeout : Duration) (deadline : Time)
    (timeLeft : Duration) : Stretch α :=
  if s.isFull && timeLeft.isPositive then ⟨s, none, .wait (.tryPush p timeout deadline)⟩
  else if s.isFull then ⟨s, none, .done (.tryPush false (some p))⟩
  else s.internalEmplace p (.tryPush true none)

/-- `TryPush(p, timeout)`, the clock showing `now`. -/
def tryPush (s : ProducerConsumerQueue α) (p : α) (timeout : Duration) (now : ℤ) : Stretch α :=
  s.tryPushLoop p timeout (Time.after now timeout) timeout

/-- `Pop`, from the lock and again from each wakeup. -/
def pop (s : ProducerConsumerQueue α) (elem : α) : Stretch α :=
  match s.q with
  | [] => ⟨s, none, .wait (.pop elem)⟩
  | v :: rest => s.internalPop rest (.pop v)

/-- The `while` of `TryPop`, and what follows it. -/
def tryPopLoop (s : ProducerConsumerQueue α) (elem : α) (timeout : Duration) (deadline : Time)
    (timeLeft : Duration) : Stretch α :=
  match s.q with
  | [] =>
    if timeLeft.isPositive then ⟨s, none, .wait (.tryPop elem timeout deadline)⟩
    else ⟨s, none, .done (.tryPop false elem)⟩
  | v :: rest => s.internalPop rest (.tryPop true v)

/-- `TryPop(elem, timeout)`, the clock showing `now`. -/
def tryPop (s : ProducerConsumerQueue α) (elem : α) (timeout : Duration) (now : ℤ) : Stretch α :=
  s.tryPopLoop elem timeout (Time.after now timeout) timeout

/-- The stretch from the call. -/
def Call.first (c : Call α) (now : ℤ) (s : ProducerConsumerQueue α) : Stretch α :=
  match c with
  | .emplace v => s.emplace v
  | .tryEmplace v => s.tryEmplace v
  | .tryPush p timeout => s.tryPush p timeout now
  | .pop elem => s.pop elem
  | .tryPop elem timeout => s.tryPop elem timeout now

/-- The stretch from the end of a wait: `time_left = deadline - absl::Now()`, then the
loop test again. -/
def Frame.resume (f : Frame α) (now : ℤ) (s : ProducerConsumerQueue α) : Stretch α :=
  match f with
  | .emplace v => s.emplace v
  | .tryPush p timeout deadline => s.tryPushLoop p timeout deadline (deadline.left now)
  | .pop elem => s.pop elem
  | .tryPop elem timeout deadline => s.tryPopLoop elem timeout deadline (deadline.left now)

/-! ### All that a stretch can do -/

/-- The values a call pushes, given how its stretch ended. -/
def Call.accepts : Call α → Ended α → List α
  | .emplace v, .done .emplace => [v]
  | .tryEmplace v, .done (.tryEmplace true) => [v]
  | .tryPush p _, .done (.tryPush true _) => [p]
  | _, _ => []

/-- The values a stretch hands to its caller. -/
def Ended.pops : Ended α → List α
  | .done (.pop v) => [v]
  | .done (.tryPop true v) => [v]
  | _ => []

/-- `Fails c r`: the call `c` may give up with `r`, which leaves the caller's pointer or
variable as it was. -/
inductive Fails : Call α → Return α → Prop
  | tryEmplace (v : α) : Fails (.tryEmplace v) (.tryEmplace false)
  | tryPush (p : α) (timeout : Duration) : Fails (.tryPush p timeout) (.tryPush false (some p))
  | tryPop (elem : α) (timeout : Duration) : Fails (.tryPop elem timeout) (.tryPop false elem)

/-- `Pushes c v r`: the call `c` pushes `v` and returns `r`. -/
inductive Pushes : Call α → α → Return α → Prop
  | emplace (v : α) : Pushes (.emplace v) v .emplace
  | tryEmplace (v : α) : Pushes (.tryEmplace v) v (.tryEmplace true)
  | tryPush (p : α) (timeout : Duration) : Pushes (.tryPush p timeout) p (.tryPush true none)

/-- `Pops c v r`: the call `c` takes `v` out and returns `r`. -/
inductive Pops : Call α → α → Return α → Prop
  | pop (elem v : α) : Pops (.pop elem) v (.pop v)
  | tryPop (elem : α) (timeout : Duration) (v : α) : Pops (.tryPop elem timeout) v (.tryPop true v)

/-- The calls that can be kept waiting, or fail, because the queue is full (`notFull`) or
empty (`notEmpty`). -/
def Call.needs : Call α → CondVar
  | .emplace _ => .notFull
  | .tryEmplace _ => .notFull
  | .tryPush _ _ => .notFull
  | .pop _ => .notEmpty
  | .tryPop _ _ => .notEmpty

theorem Frame.needs_call (f : Frame α) : f.call.needs = f.cv := by
  cases f <;> rfl

/-- The queue is in the state that makes a call for `cv` wait or fail. -/
def Blocks (s : ProducerConsumerQueue α) : CondVar → Prop
  | .notFull => s.isFull = true
  | .notEmpty => s.q = []

/-- **All that a stretch of a call can do**: wait, fail, push one value or pop the oldest. -/
inductive Does (s : ProducerConsumerQueue α) : Call α → Stretch α → Prop
  | wait (f : Frame α) : s.Blocks f.cv → Does s f.call ⟨s, none, .wait f⟩
  | fail (c : Call α) (r : Return α) : Fails c r → s.Blocks c.needs →
      Does s c ⟨s, none, .done r⟩
  | push (c : Call α) (v : α) (r : Return α) : Pushes c v r → s.isFull = false →
      Does s c ⟨s.pushBack v, some .notEmpty, .done r⟩
  | pop (c : Call α) (v : α) (rest : List α) (r : Return α) : Pops c v r → s.q = v :: rest →
      Does s c ⟨s.withRest rest, some .notFull, .done r⟩

theorem emplace_does (s : ProducerConsumerQueue α) (v : α) : Does s (.emplace v) (s.emplace v) := by
  unfold emplace
  split
  · exact .wait (.emplace v) ‹_›
  · exact .push _ v _ (.emplace v) (Bool.eq_false_iff.mpr ‹_›)

theorem tryEmplace_does (s : ProducerConsumerQueue α) (v : α) :
    Does s (.tryEmplace v) (s.tryEmplace v) := by
  unfold tryEmplace
  split
  · exact .fail _ _ (.tryEmplace v) ‹_›
  · exact .push _ v _ (.tryEmplace v) (Bool.eq_false_iff.mpr ‹_›)

theorem tryPushLoop_does (s : ProducerConsumerQueue α) (p : α) (timeout : Duration)
    (deadline : Time) (timeLeft : Duration) :
    Does s (.tryPush p timeout) (s.tryPushLoop p timeout deadline timeLeft) := by
  unfold tryPushLoop
  split
  · rename_i h
    rw [Bool.and_eq_true] at h
    exact .wait (.tryPush p timeout deadline) h.1
  · split
    · exact .fail _ _ (.tryPush p timeout) ‹_›
    · exact .push _ p _ (.tryPush p timeout) (Bool.eq_false_iff.mpr ‹_›)

theorem pop_does (s : ProducerConsumerQueue α) (elem : α) : Does s (.pop elem) (s.pop elem) := by
  unfold pop
  split
  · exact .wait (.pop elem) ‹_›
  · exact .pop _ _ _ _ (.pop elem _) ‹_›

theorem tryPopLoop_does (s : ProducerConsumerQueue α) (elem : α) (timeout : Duration)
    (deadline : Time) (timeLeft : Duration) :
    Does s (.tryPop elem timeout) (s.tryPopLoop elem timeout deadline timeLeft) := by
  unfold tryPopLoop
  split
  · split
    · exact .wait (.tryPop elem timeout deadline) ‹_›
    · exact .fail _ _ (.tryPop elem timeout) ‹_›
  · exact .pop _ _ _ _ (.tryPop elem timeout _) ‹_›

theorem Call.first_does (c : Call α) (now : ℤ) (s : ProducerConsumerQueue α) :
    Does s c (c.first now s) := by
  cases c with
  | emplace v => exact s.emplace_does v
  | tryEmplace v => exact s.tryEmplace_does v
  | tryPush p timeout => exact s.tryPushLoop_does p timeout _ _
  | pop elem => exact s.pop_does elem
  | tryPop elem timeout => exact s.tryPopLoop_does elem timeout _ _

theorem Frame.resume_does (f : Frame α) (now : ℤ) (s : ProducerConsumerQueue α) :
    Does s f.call (f.resume now s) := by
  cases f with
  | emplace v => exact s.emplace_does v
  | tryPush p timeout deadline => exact s.tryPushLoop_does p timeout deadline _
  | pop elem => exact s.pop_does elem
  | tryPop elem timeout deadline => exact s.tryPopLoop_does elem timeout deadline _

/-! ### Threads and their interleavings -/

/-- Where a thread is: in no operation, in a wait, or past its wait and about to take the
mutex again.  A wait ends by a signal, or by itself (`awake`: a timeout or a spurious
wakeup). -/
inductive Thread (α : Type u)
  | outside
  | waiting (f : Frame α)
  | signalled (f : Frame α)
  | awake (f : Frame α)

/-- `Calls th c`: a thread in state `th` can run a stretch of the call `c`. -/
inductive Thread.Calls : Thread α → Call α → Prop
  | outside (c : Call α) : Calls .outside c
  | signalled (f : Frame α) : Calls (.signalled f) f.call
  | awake (f : Frame α) : Calls (.awake f) f.call

/-- The queue and its threads, with the values accepted and popped so far. -/
structure State (Tid : Type v) (α : Type u) where
  queue : ProducerConsumerQueue α
  threads : Tid → Thread α
  accepted : List α
  popped : List α

inductive Label (Tid : Type v) (α : Type u)
  | wake (t : Tid)
  | run (t : Tid) (c : Call α) (e : Ended α)

variable {Tid : Type v} [DecidableEq Tid]

/-- `CondVar::Signal`: one thread that waits on the variable is signalled, if there is one. -/
inductive Signals : Option CondVar → (Tid → Thread α) → (Tid → Thread α) → Prop
  | none (threads : Tid → Thread α) : Signals none threads threads
  | nobody (cv : CondVar) (threads : Tid → Thread α) :
      (∀ t f, threads t = .waiting f → f.cv ≠ cv) → Signals (some cv) threads threads
  | one (t : Tid) (f : Frame α) (threads : Tid → Thread α) : threads t = .waiting f →
      Signals (some f.cv) threads (Function.update threads t (.signalled f))

/-- The thread state a stretch leaves its thread in. -/
def Ended.thread : Ended α → Thread α
  | .wait f => .waiting f
  | .done _ => .outside

/-- The state after thread `t` ran the stretch `r` of the call `c`, its signal having
turned the threads into `threads`. -/
def State.after (s : State Tid α) (t : Tid) (c : Call α) (r : Stretch α)
    (threads : Tid → Thread α) : State Tid α where
  queue := r.queue
  threads := Function.update threads t r.ended.thread
  accepted := s.accepted ++ c.accepts r.ended
  popped := s.popped ++ r.ended.pops

/-- The steps: a wait that ends by itself, a call, and a thread that is past its wait. -/
inductive Step : State Tid α → Label Tid α → State Tid α → Prop
  | wake {s : State Tid α} (t : Tid) (f : Frame α) : s.threads t = .waiting f →
      Step s (.wake t) { s with threads := Function.update s.threads t (.awake f) }
  | call {s : State Tid α} (t : Tid) (c : Call α) (now : ℤ) {threads : Tid → Thread α} :
      s.threads t = .outside → Signals (c.first now s.queue).signal s.threads threads →
      Step s (.run t c (c.first now s.queue).ended)
        (s.after t c (c.first now s.queue) threads)
  | resume {s : State Tid α} (t : Tid) (f : Frame α) (now : ℤ) {threads : Tid → Thread α} :
      s.threads t = .signalled f ∨ s.threads t = .awake f →
      Signals (f.resume now s.queue).signal s.threads threads →
      Step s (.run t f.call (f.resume now s.queue).ended)
        (s.after t f.call (f.resume now s.queue) threads)

/-- A queue just made, no thread inside it. -/
def initial (Tid : Type v) (queue : ProducerConsumerQueue α) : State Tid α where
  queue := queue
  threads _ := .outside
  accepted := []
  popped := []

/-- Any threads `Tid` on a queue of the given capacity. -/
def system (Tid : Type v) [DecidableEq Tid] (α : Type u) (capacity : Int32) :
    System (State Tid α) (Label Tid α) where
  init s := ∃ queue, create α capacity = .ok queue ∧ s = initial Tid queue
  step := Step

/-- **What a step of one thread is**: a stretch of a call it can run, which does one of the
four things of `Does`. -/
theorem Step.run_cases {s s' : State Tid α} {t : Tid} {c : Call α} {e : Ended α}
    (h : Step s (.run t c e) s') :
    ∃ r threads, (s.threads t).Calls c ∧ Does s.queue c r ∧ r.ended = e ∧
      Signals r.signal s.threads threads ∧ s' = s.after t c r threads := by
  cases h with
  | call _ _ now ho hsig =>
    exact ⟨_, _, ho ▸ .outside c, c.first_does now _, rfl, hsig, rfl⟩
  | resume _ f now hth hsig =>
    refine ⟨_, _, ?_, f.resume_does now _, rfl, hsig, rfl⟩
    rcases hth with hth | hth
    · exact hth ▸ .signalled f
    · exact hth ▸ .awake f

/-! ### The queue is a bounded FIFO buffer -/

/-- What a stretch does to queue and history, whoever runs it. -/
theorem Does.effect {s : ProducerConsumerQueue α} {c : Call α} {r : Stretch α} (h : Does s c r) :
    r.queue.capacity = s.capacity ∧
      ((r.queue = s ∧ c.accepts r.ended = [] ∧ r.ended.pops = []) ∨
        (∃ v, s.isFull = false ∧ r.queue = s.pushBack v ∧ c.accepts r.ended = [v] ∧
          r.ended.pops = []) ∨
        ∃ v rest, s.q = v :: rest ∧ r.queue = s.withRest rest ∧ c.accepts r.ended = [] ∧
          r.ended.pops = [v]) := by
  cases h with
  | wait f _ =>
    refine ⟨rfl, Or.inl ⟨rfl, ?_, rfl⟩⟩
    cases f <;> rfl
  | fail c r hf _ =>
    refine ⟨rfl, Or.inl ⟨rfl, ?_⟩⟩
    cases hf <;> exact ⟨rfl, rfl⟩
  | push c v r hp hfull =>
    refine ⟨rfl, Or.inr (Or.inl ⟨v, hfull, rfl, ?_⟩)⟩
    cases hp <;> exact ⟨rfl, rfl⟩
  | pop c v rest r hp hq =>
    refine ⟨rfl, Or.inr (Or.inr ⟨v, rest, hq, rfl, ?_⟩)⟩
    cases hp <;> exact ⟨rfl, rfl⟩

/-- The capacity never changes. -/
theorem capacity_of_reachable {capacity : Int32} {s : State Tid α}
    (h : (system Tid α capacity).Reachable s) : s.queue.capacity = capacity.toInt.toNat := by
  refine h.invariant (I := fun s => s.queue.capacity = capacity.toInt.toNat) ?_ ?_
  · rintro _ ⟨queue, hc, rfl⟩
    exact (create_eq_ok hc).2
  · intro s l s' _ ih hs
    cases l with
    | wake t =>
      cases hs
      exact ih
    | run t c e =>
      obtain ⟨r, threads, _, hd, _, _, rfl⟩ := Step.run_cases hs
      exact hd.effect.1.trans ih

/-- The queue with its history, the threads taken away. -/
def State.toBuffer (s : State Tid α) : Fifo.Buffer α := ⟨s.queue.q, s.accepted, s.popped⟩

/-- The bound that a capacity stands for: none for `INT_MAX`. -/
def boundOf (capacity : Int32) : Option ℕ :=
  if capacity.toInt.toNat = intMax then none else some capacity.toInt.toNat

theorem bound_eq_boundOf {s : ProducerConsumerQueue α} {capacity : Int32}
    (h : s.capacity = capacity.toInt.toNat) : s.bound = boundOf capacity := by
  by_cases hc : s.capacity = intMax
  · simp [bound, boundOf, isLimitedCapacity, ← h, hc]
  · simp [bound, boundOf, isLimitedCapacity, ← h, hc]

/-- **The queue refines the atomic bounded FIFO buffer**: a stretch that inserts is a push,
one that takes out is a pop, every other step leaves the buffer alone. -/
def toBuffer (Tid : Type v) [DecidableEq Tid] (α : Type u) (capacity : Int32) :
    Refinement (system Tid α capacity) (Fifo.system α (boundOf capacity)) where
  abs := State.toBuffer
  init := by
    rintro _ ⟨queue, hc, rfl⟩
    simp only [Fifo.system, State.toBuffer, initial, (create_eq_ok hc).1]
  step := by
    intro s l s' hr hs
    cases l with
    | wake t =>
      cases hs
      exact Or.inl rfl
    | run t c e =>
      obtain ⟨r, threads, _, hd, _, _, rfl⟩ := Step.run_cases hs
      have hb := bound_eq_boundOf (capacity_of_reachable hr)
      rcases hd.effect.2 with ⟨hq, ha, hp⟩ | ⟨v, hfull, hq, ha, hp⟩ | ⟨v, rest, hv, hq, ha, hp⟩
      · left
        simp only [State.toBuffer, State.after, hq, ha, hp, List.append_nil]
      · right
        refine ⟨.push v, ?_⟩
        simp only [State.toBuffer, State.after, hq, ha, hp, List.append_nil, pushBack_q]
        exact .push v (hb ▸ (isFull_eq_false_iff s.queue).mp hfull)
      · right
        refine ⟨.pop v, ?_⟩
        simp only [State.toBuffer, State.after, hq, ha, hp, List.append_nil, withRest_q]
        exact .pop hv

/-- What was popped, followed by what is queued, is what was accepted. -/
theorem history_of_reachable {capacity : Int32} {s : State Tid α}
    (h : (system Tid α capacity).Reachable s) : s.popped ++ s.queue.q = s.accepted :=
  Fifo.history_of_reachable ((toBuffer Tid α capacity).reachable h)

/-- A limited queue never holds more than its capacity. -/
theorem length_le_of_reachable {capacity : Int32} {s : State Tid α}
    (hc : capacity.toInt.toNat ≠ intMax) (h : (system Tid α capacity).Reachable s) :
    s.queue.q.length ≤ capacity.toInt.toNat :=
  Fifo.length_le_of_reachable ((toBuffer Tid α capacity).reachable h) _ (if_neg hc)

theorem hasPlaces_zero_of_reachable {capacity : Int32} {s : State Tid α}
    (h : (system Tid α capacity).Reachable s) : s.queue.HasPlaces 0 := by
  intro n hn
  rw [bound_eq_boundOf (capacity_of_reachable h)] at hn
  exact Fifo.length_le_of_reachable ((toBuffer Tid α capacity).reachable h) n hn

/-- A stretch that waits or fails changes nothing, neither the queue nor what the caller
passed; a `TryPush` that succeeds leaves the caller's pointer null. -/
theorem Step.effect {s s' : State Tid α} {t : Tid} {c : Call α} {e : Ended α}
    (h : Step s (.run t c e) s') :
    (∀ f, e = .wait f → s'.queue = s.queue) ∧
      (e = .done (.tryEmplace false) → s'.queue = s.queue) ∧
      (∀ p timeout p', c = .tryPush p timeout → e = .done (.tryPush false p') →
        s'.queue = s.queue ∧ p' = some p) ∧
      (∀ p', e = .done (.tryPush true p') → p' = none) ∧
      ∀ elem timeout elem', c = .tryPop elem timeout → e = .done (.tryPop false elem') →
        s'.queue = s.queue ∧ elem' = elem := by
  obtain ⟨r, threads, _, hd, rfl, _, rfl⟩ := h.run_cases
  cases hd with
  | wait f _ => simp [State.after]
  | fail c r hf _ => cases hf <;> simp [State.after]
  | push c v r hp _ => cases hp <;> simp
  | pop c v rest r hp _ => cases hp <;> simp

/-- **A call waits or gives up only on a queue that is full, or empty.** -/
theorem Step.blocks {s s' : State Tid α} {t : Tid} {c : Call α} {e : Ended α}
    (h : Step s (.run t c e) s') (he : (∃ f, e = .wait f) ∨ ∃ r, e = .done r ∧ Fails c r) :
    s.queue.Blocks c.needs := by
  obtain ⟨r, threads, _, hd, rfl, _, _⟩ := h.run_cases
  cases hd with
  | wait f hblocks =>
    rw [f.needs_call]
    exact hblocks
  | fail c r _ hblocks => exact hblocks
  | push c v r hp _ =>
    rcases he with ⟨f, hf⟩ | ⟨r', hr, hfails⟩
    · cases hf
    · cases hr
      cases hp <;> cases hfails
  | pop c v rest r hp _ =>
    rcases he with ⟨f, hf⟩ | ⟨r', hr, hfails⟩
    · cases hf
    · cases hr
      cases hp <;> cases hfails

/-- **`ProducerConsumerQueue` is a linearizable bounded FIFO.**  In every interleaving of
any number of threads the queue keeps to a limited capacity; what was popped, followed by
what is queued, is exactly what the pushing operations accepted; a call that gives up
has changed neither the queue nor the caller's pointer or variable; and it waits or gives up
only on a queue that is full, or empty. -/
theorem linearizable_bounded_fifo (capacity : Int32) {s : State Tid α}
    (h : (system Tid α capacity).Reachable s) :
    (capacity.toInt ≠ intMax → (s.queue.q.length : ℤ) ≤ capacity.toInt) ∧
      s.popped ++ s.queue.q = s.accepted ∧
      ∀ (t : Tid) (c : Call α) (e : Ended α) (s' : State Tid α), Step s (.run t c e) s' →
        ((∀ f, e = .wait f → s'.queue = s.queue) ∧
          (e = .done (.tryEmplace false) → s'.queue = s.queue) ∧
          (∀ p timeout p', c = .tryPush p timeout → e = .done (.tryPush false p') →
            s'.queue = s.queue ∧ p' = some p) ∧
          (∀ p', e = .done (.tryPush true p') → p' = none) ∧
          ∀ elem timeout elem', c = .tryPop elem timeout → e = .done (.tryPop false elem') →
            s'.queue = s.queue ∧ elem' = elem) ∧
        (((∃ f, e = .wait f) ∨ ∃ r, e = .done r ∧ Fails c r) → s.queue.Blocks c.needs) := by
  refine ⟨fun hc => ?_, history_of_reachable h, fun t c e s' hs => ⟨hs.effect, hs.blocks⟩⟩
  have hpos := s.queue.capacity_pos
  rw [capacity_of_reachable h] at hpos
  have := length_le_of_reachable (by omega) h
  omega

/-- A queue of one place: the first thread fills it, and the second thread's `TryPush`
without a timeout gives up, its pointer intact. -/
theorem linearizable_bounded_fifo_one :
    ∃ s s' : State (Fin 2) ℕ, (s.queue.q.length : ℤ) ≤ 1 ∧ s.accepted = [7] ∧
      s.popped ++ s.queue.q = s.accepted ∧
      Step s (.run 1 (.tryPush 9 .zero) (.done (.tryPush false (some 9)))) s' ∧
      s'.queue = s.queue := by
  let queue : ProducerConsumerQueue ℕ := ⟨1, [], by decide, by decide⟩
  let start : State (Fin 2) ℕ := initial (Fin 2) queue
  let full := start.after 0 (.tryEmplace 7) ((Call.tryEmplace 7).first 0 queue) start.threads
  have hfull : (system (Fin 2) ℕ 1).Reachable full :=
    .step (.init ⟨queue, rfl, rfl⟩)
      (Step.call 0 (.tryEmplace 7) 0 rfl (.nobody .notEmpty _ fun t f h => nomatch h))
  have hthread : full.threads 1 = .outside := rfl
  have hpush : Step full (.run 1 (.tryPush 9 .zero) (.done (.tryPush false (some 9)))) _ :=
    Step.call 1 (.tryPush 9 .zero) 0 hthread (.none _)
  obtain ⟨hlen, hhist, heff⟩ := linearizable_bounded_fifo 1 hfull
  exact ⟨full, _, hlen (by decide), rfl, hhist, hpush,
    ((heff _ _ _ _ hpush).1.2.2.1 9 .zero (some 9) rfl rfl).1⟩

end ProducerConsumerQueue

end AIStreams
