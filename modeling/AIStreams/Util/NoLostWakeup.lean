import AIStreams.Transition.Counting
import AIStreams.Util.QueueClient

/-!
# No lost wakeup in `ProducerConsumerQueue`

A push signals one thread that waits for the queue not to be empty, a pop one that waits for
it not to be full.  A signalled thread may find its item taken, another thread may barge in,
a wait may time out; the count of the signalled threads keeps up with the queue all the same.

* `Watched`: while a thread waits on a condition variable, there are no more items (places)
  than signalled threads; `watched_run` and `watched_wake` keep it.
* `no_lost_wakeup`: it holds in every reachable state.
-/

namespace AIStreams.ProducerConsumerQueue

open Transition

universe u v

variable {α : Type u} {Tid : Type v} [DecidableEq Tid]

/-- A thread in a wait on `cv` that nobody has signalled. -/
def Thread.WaitsOn (cv : CondVar) (th : Thread α) : Prop := ∃ f, th = .waiting f ∧ f.cv = cv

/-- A thread that was signalled on `cv` and has not run since. -/
def Thread.isSignalledOn (cv : CondVar) : Thread α → Bool
  | .signalled f => f.cv == cv
  | _ => false

/-- What the waiters of a condition variable wait for: items, or free places. -/
def stock (s : ProducerConsumerQueue α) : CondVar → ℕ
  | .notEmpty => s.q.length
  | .notFull => s.capacity - s.q.length

/-- A queue that makes a call wait or fail has nothing in stock for it. -/
theorem stock_of_blocks {s : ProducerConsumerQueue α} {cv : CondVar} (h : s.Blocks cv) :
    s.stock cv = 0 := by
  cases cv with
  | notEmpty =>
    rw [stock, show s.q = [] from h]
    rfl
  | notFull =>
    have hfull : s.isFull = true := h
    rw [isFull, Bool.and_eq_true, decide_eq_true_eq] at hfull
    rw [stock]
    omega

theorem Thread.Calls.needs_of_signalled {th : Thread α} {c : Call α} {cv : CondVar}
    (h : th.Calls c) (hs : th.isSignalledOn cv = true) : c.needs = cv := by
  cases h with
  | outside c => cases hs
  | signalled f => exact f.needs_call.trans (eq_of_beq hs)
  | awake f => cases hs

theorem Thread.Calls.not_waiting {th : Thread α} {c : Call α} (h : th.Calls c) (f : Frame α) :
    th ≠ .waiting f := by
  cases h <;> exact nofun

theorem isSignalledOn_ended (cv : CondVar) (e : Ended α) :
    e.thread.isSignalledOn cv = false := by
  cases e <;> rfl

/-- A thread that can run a stretch is not the one that is signalled meanwhile. -/
theorem Signals.runner {cv : Option CondVar} {threads threads' : Tid → Thread α}
    (h : Signals cv threads threads') {t : Tid} {c : Call α} (hc : (threads t).Calls c) :
    threads' t = threads t := by
  rcases h.thread t with he | ⟨f, hw, _⟩
  · exact he
  · exact absurd hw (hc.not_waiting f)

/-- Nobody starts to wait because of a signal. -/
theorem Signals.waitsOn {sig : Option CondVar} {threads threads' : Tid → Thread α}
    (h : Signals sig threads threads') {cv : CondVar} {t : Tid}
    (hw : (threads' t).WaitsOn cv) : (threads t).WaitsOn cv := by
  rcases h.thread t with he | ⟨f, _, he⟩
  · rw [he] at hw
    exact hw
  · obtain ⟨f', hf, _⟩ := hw
    rw [he] at hf
    cases hf

omit [DecidableEq Tid] in
/-- **What a stretch does to the stock**: it takes one of what its call needs, and adds one
where it signals. -/
theorem Does.stock_le {s : ProducerConsumerQueue α} {c : Call α} {r : Stretch α} (h : Does s c r)
    (cv : CondVar) :
    r.queue.stock cv ≤
      s.stock cv + (if r.signal = some cv then 1 else 0) - if c.needs = cv then 1 else 0 := by
  cases h with
  | wait f hb =>
    rw [if_neg nofun, f.needs_call, Nat.add_zero]
    by_cases hcv : f.cv = cv
    · rw [← hcv, stock_of_blocks hb]
      exact Nat.zero_le _
    · rw [if_neg hcv]
      exact Nat.le_refl _
  | fail c r hf hb =>
    rw [if_neg nofun, Nat.add_zero]
    by_cases hcv : c.needs = cv
    · rw [← hcv, stock_of_blocks hb]
      exact Nat.zero_le _
    · rw [if_neg hcv]
      exact Nat.le_refl _
  | push c v r hp _ =>
    rw [show c.needs = .notFull by cases hp <;> rfl]
    cases cv with
    | notEmpty =>
      rw [if_pos rfl, if_neg nofun]
      simp only [stock, pushBack_q, List.length_append, List.length_singleton]
      omega
    | notFull =>
      rw [if_neg nofun, if_pos rfl]
      simp only [stock, pushBack_q, pushBack_capacity, List.length_append, List.length_singleton]
      omega
  | pop c v rest r hp hq =>
    rw [show c.needs = .notEmpty by cases hp <;> rfl]
    cases cv with
    | notEmpty =>
      rw [if_neg nofun, if_pos rfl]
      simp only [stock, withRest_q, hq, List.length_cons]
      omega
    | notFull =>
      rw [if_pos rfl, if_neg nofun]
      simp only [stock, withRest_q, withRest_capacity, hq, List.length_cons]
      omega

/-- A thread that has just gone to sleep found nothing. -/
theorem stock_of_asleep {s : State Tid α} {t : Tid} {c : Call α} {r : Stretch α}
    {threads : Tid → Thread α} (hd : Does s.queue c r) {cv : CondVar}
    (hw : ((s.after t c r threads).threads t).WaitsOn cv) : r.queue.stock cv = 0 := by
  obtain ⟨f, hf, rfl⟩ := hw
  rw [show (s.after t c r threads).threads t = r.ended.thread from Function.update_self ..] at hf
  cases hd with
  | wait f' hb =>
    cases hf
    exact stock_of_blocks hb
  | fail _ _ _ _ => cases hf
  | push _ _ _ _ _ => cases hf
  | pop _ _ _ _ _ _ => cases hf

section Count

variable [Fintype Tid]

/-- The threads signalled on `cv` that have not run since. -/
def signalledOn (threads : Tid → Thread α) (cv : CondVar) : ℕ :=
  countWhere (Thread.isSignalledOn cv) threads

/-- **The invariant of one condition variable**: while a thread waits on it, there is no more
in stock than there are signalled threads to fetch it. -/
def Watched (s : State Tid α) (cv : CondVar) : Prop :=
  (∃ t, (s.threads t).WaitsOn cv) → s.queue.stock cv ≤ signalledOn s.threads cv

/-- **A signal is not lost while a thread waits for it.** -/
theorem Signals.count {sig : Option CondVar} {threads threads' : Tid → Thread α}
    (h : Signals sig threads threads') (cv : CondVar)
    (hw : sig = some cv → ∃ t, (threads' t).WaitsOn cv) :
    signalledOn threads' cv = signalledOn threads cv + if sig = some cv then 1 else 0 := by
  cases h with
  | none => rw [if_neg nofun, Nat.add_zero]
  | nobody cv' _ hno =>
    rw [if_neg, Nat.add_zero]
    intro he
    cases he
    obtain ⟨t, f, hf, hcv⟩ := hw rfl
    exact hno t f hf hcv
  | one t f _ hf =>
    have hu := countWhere_update (Thread.isSignalledOn cv) threads t (.signalled f)
    rw [hf] at hu
    simp only [Thread.isSignalledOn, Bool.toNat_false, Nat.add_zero] at hu
    rw [signalledOn, hu, signalledOn]
    by_cases hcv : f.cv = cv
    · simp [hcv]
    · have : ¬ some f.cv = some cv := fun h => hcv (Option.some.inj h)
      rw [if_neg this, beq_false_of_ne hcv, Bool.toNat_false]

/-- The thread that ran leaves the count, if it was in it. -/
theorem signalledOn_after {s : State Tid α} {t : Tid} {c : Call α} {r : Stretch α}
    {threads : Tid → Thread α} (hc : (s.threads t).Calls c)
    (hsig : Signals r.signal s.threads threads) (cv : CondVar) :
    signalledOn (s.after t c r threads).threads cv +
      ((s.threads t).isSignalledOn cv).toNat = signalledOn threads cv := by
  have hu := countWhere_update (Thread.isSignalledOn cv) threads t r.ended.thread
  rw [isSignalledOn_ended, Bool.toNat_false, Nat.add_zero, hsig.runner hc] at hu
  exact hu

/-- A thread that left the count needed what is in stock there. -/
theorem Thread.Calls.toNat_isSignalledOn {th : Thread α} {c : Call α} (h : th.Calls c)
    (cv : CondVar) : (th.isSignalledOn cv).toNat ≤ if c.needs = cv then 1 else 0 := by
  cases hs : th.isSignalledOn cv with
  | false => exact Nat.zero_le _
  | true =>
    rw [if_pos (h.needs_of_signalled hs)]
    exact Nat.le_refl 1

/-- **A stretch keeps a condition variable watched.** -/
theorem watched_run {s s' : State Tid α} {t : Tid} {c : Call α} {e : Ended α}
    (h : Step s (.run t c e) s') {cv : CondVar} (hi : Watched s cv) : Watched s' cv := by
  obtain ⟨r, threads, hc, hd, rfl, hsig, rfl⟩ := h.run_cases
  rintro ⟨t', hw⟩
  show r.queue.stock cv ≤ _
  by_cases ht : t' = t
  · subst ht
    rw [stock_of_asleep hd hw]
    exact Nat.zero_le _
  · -- another thread waited before, so that the stock was covered
    rw [show (s.after t c r threads).threads t' = threads t' from Function.update_of_ne ht ..] at hw
    have hbefore := hi ⟨t', hsig.waitsOn hw⟩
    have hcount := hsig.count cv fun _ => ⟨t', hw⟩
    have hleft := hc.toNat_isSignalledOn cv
    have hafter := signalledOn_after hc hsig cv
    have hstock := hd.stock_le cv
    omega

/-- **So does a wait that ends by itself.** -/
theorem watched_wake {s s' : State Tid α} {t : Tid} (h : Step s (.wake t) s') {cv : CondVar}
    (hi : Watched s cv) : Watched s' cv := by
  rintro ⟨t', f, hf, hcv⟩
  have hbefore := hi ⟨t', f, h.waiting_of_wake hf, hcv⟩
  rw [h.queue_wake.1]
  cases h with
  | wake _ f hw =>
    have hu := countWhere_update (Thread.isSignalledOn cv) s.threads t (.awake f)
    rw [hw] at hu
    simp only [Thread.isSignalledOn, Bool.toNat_false, Nat.add_zero] at hu
    exact Nat.le_trans hbefore (Nat.le_of_eq hu.symm)

/-- Both condition variables are watched in every run. -/
theorem watched_of_reachable {capacity : Int32} {s : State Tid α}
    (h : (system Tid α capacity).Reachable s) (cv : CondVar) : Watched s cv := by
  refine h.invariant (I := fun s => Watched s cv) ?_ ?_
  · rintro _ ⟨queue, hc, rfl⟩ ⟨t, f, hf, _⟩
    cases hf
  · intro s l s' _ hi hs
    cases l with
    | wake t => exact watched_wake hs hi
    | run t c e => exact watched_run hs hi

omit [DecidableEq Tid] in
/-- Beside a thread that sleeps, with nobody signalled, there is no item. -/
theorem Watched.q_eq_nil {s : State Tid α} (h : Watched s .notEmpty)
    (hw : ∃ t, (s.threads t).WaitsOn .notEmpty)
    (hnone : ∀ t, (s.threads t).isSignalledOn .notEmpty = false) : s.queue.q = [] := by
  have hlength : s.queue.q.length ≤ signalledOn s.threads .notEmpty := h hw
  rw [signalledOn, countWhere_eq_zero hnone] at hlength
  exact List.eq_nil_of_length_eq_zero (Nat.le_zero.mp hlength)

/-- A single consumer never sleeps next to an item. -/
theorem State.Attended.consumer_awake {s : State Tid α} {producer consumer : Tid}
    {oc : Option (Call α)} (h : s.Attended producer consumer oc) (hwatched : Watched s .notEmpty)
    (hq : s.queue.q ≠ []) (f : Frame α) : s.threads consumer ≠ .waiting f := by
  intro hw
  obtain ⟨elem, timeout, hat⟩ := h.consuming
  rw [hw] at hat
  obtain ⟨deadline, rfl⟩ := Frame.call_eq_tryPop hat
  refine hq (hwatched.q_eq_nil ⟨consumer, _, hw, rfl⟩ fun t => ?_)
  by_cases hc : t = consumer
  · rw [hc, hw]
    rfl
  · by_cases hp : t = producer
    · rw [hp]
      cases hth : s.threads producer with
      | signalled f =>
        have hruns := h.producing
        rw [hth] at hruns
        cases oc with
        | none => cases hruns
        | some c =>
          have hneeds := h.pushes c rfl
          rw [← show f.call = c from hruns, f.needs_call] at hneeds
          rw [Thread.isSignalledOn, hneeds]
          rfl
      | _ => rfl
    · rw [h.others t hp hc]
      rfl

/-- **No lost wakeup.**  In every interleaving of any number of threads: while a consumer
waits that nobody has signalled, the queued items are at most the signalled consumers that
have not run since; while a producer does, the same holds of the free places of a limited
queue.  So all consumers never sleep next to an item, nor all producers next to a place. -/
theorem no_lost_wakeup (capacity : Int32) {s : State Tid α}
    (h : (system Tid α capacity).Reachable s) :
    ((∃ t, (s.threads t).WaitsOn .notEmpty) →
      s.queue.q.length ≤ signalledOn s.threads .notEmpty) ∧
    (capacity.toInt ≠ intMax → (∃ t, (s.threads t).WaitsOn .notFull) →
      capacity.toInt - s.queue.q.length ≤ signalledOn s.threads .notFull) ∧
    ((∃ t, (s.threads t).WaitsOn .notEmpty) →
      (∀ t, (s.threads t).isSignalledOn .notEmpty = false) → s.queue.q = []) ∧
    (capacity.toInt ≠ intMax → (∃ t, (s.threads t).WaitsOn .notFull) →
      (∀ t, (s.threads t).isSignalledOn .notFull = false) →
        s.queue.q.length = capacity.toInt) := by
  have hitems : (∃ t, (s.threads t).WaitsOn .notEmpty) →
      s.queue.q.length ≤ signalledOn s.threads .notEmpty := watched_of_reachable h .notEmpty
  have hplaces : (∃ t, (s.threads t).WaitsOn .notFull) →
      s.queue.capacity - s.queue.q.length ≤ signalledOn s.threads .notFull :=
    watched_of_reachable h .notFull
  have hcap := capacity_of_reachable h
  have hpos := s.queue.capacity_pos
  refine ⟨hitems, fun _ hw => ?_, fun hw hnone => ?_, fun hlim hw hnone => ?_⟩
  · have := hplaces hw
    omega
  · exact (watched_of_reachable h .notEmpty).q_eq_nil hw hnone
  · have := hplaces hw
    rw [signalledOn, countWhere_eq_zero hnone] at this
    have := length_le_of_reachable (show capacity.toInt.toNat ≠ intMax by omega) h
    omega

end Count

/-- Two consumers came to an empty queue; a producer pushed an item, and signalled one of them. -/
theorem no_lost_wakeup_oneOfTwo :
    ∃ s : State (Fin 3) ℕ, (system (Fin 3) ℕ 1).Reachable s ∧ s.queue.q = [7] ∧
      s.threads 0 = .signalled (.pop 0) ∧ (s.threads 1).WaitsOn .notEmpty ∧
        1 ≤ signalledOn s.threads .notEmpty := by
  let start : State (Fin 3) ℕ := initial (Fin 3) (.onePlace ℕ)
  let sleeps (s : State (Fin 3) ℕ) (t : Fin 3) : State (Fin 3) ℕ :=
    s.after t (.pop 0) ((Call.pop 0).first 0 s.queue) s.threads
  have hstart : (system (Fin 3) ℕ 1).Reachable start := .init ⟨_, rfl, rfl⟩
  have hfirst : (system (Fin 3) ℕ 1).Reachable (sleeps start 0) :=
    hstart.step (Step.call 0 (.pop 0) 0 rfl (.none _))
  have hsecond : (system (Fin 3) ℕ 1).Reachable (sleeps (sleeps start 0) 1) :=
    hfirst.step (Step.call 1 (.pop 0) 0 rfl (.none _))
  have hpushed := hsecond.step (Step.call 2 (.emplace 7) 0 rfl (.one 0 (.pop 0) _ rfl))
  exact ⟨_, hpushed, rfl, rfl, ⟨.pop 0, rfl, rfl⟩,
    (no_lost_wakeup 1 hpushed).1 ⟨1, .pop 0, rfl, rfl⟩⟩

end AIStreams.ProducerConsumerQueue
