import AIStreams.Util.ProducerConsumerQueue

/-!
# A thread that uses a queue

What a client of a `ProducerConsumerQueue` has to know about its own thread and the others:
which call a thread is in (`Thread.Runs`), that the steps of one thread keep every other
thread in its call, and which calls come to an end by the thread's own steps and timeouts
alone (`Completes`).

* `Step.runs_self`, `Step.runs_other`: the call a thread is in, step by step.
* `tryPush_completes`: a `TryPush` with a finite timeout always comes to an end.
* `emplace_completes`: an `Emplace` does when the queue is not full.
* `Attended`: a queue with one producer and one consumer, an invariant of all their steps.
-/

namespace AIStreams.ProducerConsumerQueue

open Transition

universe u v

variable {α : Type u} {Tid : Type v} [DecidableEq Tid]

/-! ### The call a thread is in -/

theorem Frame.call_eq_emplace {f : Frame α} {v : α} (h : f.call = .emplace v) :
    f = .emplace v := by
  cases f <;> cases h
  rfl

theorem Frame.call_eq_tryPush {f : Frame α} {p : α} {timeout : Duration}
    (h : f.call = .tryPush p timeout) : ∃ deadline, f = .tryPush p timeout deadline := by
  cases f <;> cases h
  exact ⟨_, rfl⟩

theorem Frame.call_eq_tryPop {f : Frame α} {elem : α} {timeout : Duration}
    (h : f.call = .tryPop elem timeout) : ∃ deadline, f = .tryPop elem timeout deadline := by
  cases f <;> cases h
  exact ⟨_, rfl⟩

/-- The thread is in the call `c`, or about to make it. -/
def Thread.At (c : Call α) : Thread α → Prop
  | .outside => True
  | .waiting f => f.call = c
  | .signalled f => f.call = c
  | .awake f => f.call = c

/-- The thread is in the call `oc`, or in none. -/
def Thread.Runs (th : Thread α) : Option (Call α) → Prop
  | none => th = .outside
  | some c => th.At c

theorem Thread.outside_runs (oc : Option (Call α)) : (Thread.outside : Thread α).Runs oc := by
  cases oc with
  | none => rfl
  | some c => trivial

/-- Where a thread is whose wait has ended by a signal. -/
theorem Signals.thread {cv : Option CondVar} {threads threads' : Tid → Thread α}
    (h : Signals cv threads threads') (t : Tid) :
    threads' t = threads t ∨ ∃ f, threads t = .waiting f ∧ threads' t = .signalled f := by
  cases h with
  | none => exact Or.inl rfl
  | nobody _ _ _ => exact Or.inl rfl
  | one t₀ f _ hw =>
    by_cases ht : t = t₀
    · subst ht
      exact Or.inr ⟨f, hw, Function.update_self t _ threads⟩
    · exact Or.inl (Function.update_of_ne ht _ threads)

theorem Signals.runs {cv : Option CondVar} {threads threads' : Tid → Thread α}
    (h : Signals cv threads threads') {t : Tid} {oc : Option (Call α)}
    (hr : (threads t).Runs oc) : (threads' t).Runs oc := by
  rcases h.thread t with he | ⟨f, hw, he⟩
  · rw [he]
    exact hr
  · rw [hw] at hr
    rw [he]
    cases oc with
    | none => exact nomatch hr
    | some c => exact hr

/-- A signal finds the one thread that may be waiting for it. -/
theorem Signals.not_waiting {cv : CondVar} {threads threads' : Tid → Thread α}
    (h : Signals (some cv) threads threads') {t : Tid}
    (honly : ∀ t' f, threads t' = .waiting f → f.cv = cv → t' = t) (f : Frame α)
    (hw : threads' t = .waiting f) : f.cv ≠ cv := by
  intro hcv
  cases h with
  | nobody _ _ hno => exact hno t f hw hcv
  | one t₀ f₀ _ hw₀ =>
    obtain rfl := honly t₀ f₀ hw₀ rfl
    rw [Function.update_self] at hw
    cases hw

theorem exists_signals (cv : Option CondVar) (threads : Tid → Thread α) :
    ∃ threads', Signals cv threads threads' := by
  cases cv with
  | none => exact ⟨_, .none threads⟩
  | some cv =>
    by_cases h : ∃ t f, threads t = .waiting f ∧ f.cv = cv
    · obtain ⟨t, f, hw, rfl⟩ := h
      exact ⟨_, .one t f threads hw⟩
    · exact ⟨_, .nobody cv threads fun t f hw hcv => h ⟨t, f, hw, hcv⟩⟩

/-- What the thread that runs a stretch is in afterwards. -/
theorem Step.runs_self {s s' : State Tid α} {t : Tid} {c : Call α} {e : Ended α}
    (h : Step s (.run t c e) s') :
    (∀ f, e = .wait f → f.call = c ∧ s'.threads t = .waiting f) ∧
      ∀ r, e = .done r → s'.threads t = .outside := by
  obtain ⟨r, threads, _, hd, rfl, _, rfl⟩ := h.run_cases
  refine ⟨fun f hf => ?_, fun r' hr' => ?_⟩
  · cases hd with
    | wait f' _ =>
      cases hf
      exact ⟨rfl, Function.update_self t _ threads⟩
    | fail _ _ _ _ => cases hf
    | push _ _ _ _ _ => cases hf
    | pop _ _ _ _ _ _ => cases hf
  · show Function.update threads t r.ended.thread t = _
    rw [Function.update_self, hr']
    rfl

/-- Every other thread stays in its call. -/
theorem Step.runs_other {s s' : State Tid α} {t t' : Tid} {c : Call α} {e : Ended α}
    (h : Step s (.run t c e) s') (hne : t' ≠ t) {oc : Option (Call α)}
    (hr : (s.threads t').Runs oc) : (s'.threads t').Runs oc := by
  obtain ⟨r, threads, _, _, _, hsig, rfl⟩ := h.run_cases
  show (Function.update threads t r.ended.thread t').Runs oc
  rw [Function.update_of_ne hne]
  exact hsig.runs hr

/-- A wait that ends by itself leaves all threads in their calls. -/
theorem Step.runs_wake {s s' : State Tid α} {t : Tid} (h : Step s (.wake t) s') (t' : Tid)
    {oc : Option (Call α)} (hr : (s.threads t').Runs oc) : (s'.threads t').Runs oc := by
  cases h with
  | wake _ f hw =>
    by_cases ht : t' = t
    · subst ht
      show (Function.update s.threads t' (.awake f) t').Runs oc
      rw [Function.update_self]
      rw [hw] at hr
      cases oc with
      | none => exact nomatch hr
      | some c => exact hr
    · show (Function.update s.threads t (.awake f) t').Runs oc
      rw [Function.update_of_ne ht]
      exact hr

theorem Step.outside_other {s s' : State Tid α} {t t' : Tid} {c : Call α} {e : Ended α}
    (h : Step s (.run t c e) s') (hne : t' ≠ t) (ho : s.threads t' = .outside) :
    s'.threads t' = .outside :=
  h.runs_other hne (show (s.threads t').Runs none from ho)

theorem Step.outside_wake {s s' : State Tid α} {t t' : Tid} (h : Step s (.wake t) s')
    (ho : s.threads t' = .outside) : s'.threads t' = .outside :=
  h.runs_wake t' (show (s.threads t').Runs none from ho)

theorem Step.queue_wake {s s' : State Tid α} {t : Tid} (h : Step s (.wake t) s') :
    s'.queue = s.queue ∧ s'.accepted = s.accepted ∧ s'.popped = s.popped := by
  cases h
  exact ⟨rfl, rfl, rfl⟩

/-- A wait that ends puts no thread to sleep. -/
theorem Step.waiting_of_wake {s s' : State Tid α} {t t' : Tid} {f : Frame α}
    (h : Step s (.wake t) s') (hw : s'.threads t' = .waiting f) : s.threads t' = .waiting f := by
  cases h with
  | wake _ f₀ hw₀ =>
    by_cases ht : t' = t
    · subst ht
      exact absurd ((Function.update_self t' _ s.threads).symm.trans hw) (fun h => nomatch h)
    · exact (Function.update_of_ne ht _ s.threads).symm.trans hw

/-- What a stretch does to the queue and its history. -/
theorem Step.queue_run {s s' : State Tid α} {t : Tid} {c : Call α} {e : Ended α}
    (h : Step s (.run t c e) s') :
    s'.queue.capacity = s.queue.capacity ∧ s'.accepted = s.accepted ++ c.accepts e ∧
      s'.popped = s.popped ++ e.pops ∧
      s'.queue.q = (s.queue.q ++ c.accepts e).drop e.pops.length := by
  obtain ⟨r, threads, _, hd, rfl, _, rfl⟩ := h.run_cases
  refine ⟨hd.effect.1, rfl, rfl, ?_⟩
  rcases hd.effect.2 with ⟨hq, ha, hp⟩ | ⟨v, _, hq, ha, hp⟩ | ⟨v, rest, hv, hq, ha, hp⟩
  · rw [show (s.after t c r threads).queue = r.queue from rfl, hq, ha, hp]
    simp
  · rw [show (s.after t c r threads).queue = r.queue from rfl, hq, ha, hp]
    simp
  · rw [show (s.after t c r threads).queue = r.queue from rfl, hq, ha, hp]
    simp [hv]

/-- A stretch that neither pushes nor pops signals nobody. -/
theorem Step.quiet {s s' : State Tid α} {t : Tid} {c : Call α} {e : Ended α}
    (h : Step s (.run t c e) s') (ha : c.accepts e = []) (hp : e.pops = []) :
    s'.queue = s.queue ∧ ∀ t', t' ≠ t → s'.threads t' = s.threads t' := by
  obtain ⟨r, threads, _, hd, rfl, hsig, rfl⟩ := h.run_cases
  have hquiet : r.queue = s.queue ∧ r.signal = none := by
    cases hd with
    | wait f _ => exact ⟨rfl, rfl⟩
    | fail _ _ _ _ => exact ⟨rfl, rfl⟩
    | push _ _ _ hpush _ => cases hpush <;> cases ha
    | pop _ _ _ _ hpop _ => cases hpop <;> cases hp
  rw [hquiet.2] at hsig
  cases hsig
  exact ⟨hquiet.1, fun t' ht => Function.update_of_ne ht _ s.threads⟩

theorem Step.blocks_of_wait {s s' : State Tid α} {t : Tid} {c : Call α} {f : Frame α}
    (h : Step s (.run t c (.wait f)) s') : s.queue.Blocks f.cv := by
  obtain ⟨r, _, _, hd, he, _, _⟩ := h.run_cases
  cases hd with
  | wait f' hb =>
    cases he
    exact hb
  | fail _ _ _ _ => cases he
  | push _ _ _ _ _ => cases he
  | pop _ _ _ _ _ _ => cases he

/-! ### How a stretch of each call ends -/

theorem Step.emplace_ended {s s' : State Tid α} {t : Tid} {v : α} {e : Ended α}
    (h : Step s (.run t (.emplace v) e) s') :
    (∃ f, e = .wait f ∧ s.queue.isFull = true) ∨ e = .done .emplace ∧ s.queue.isFull = false := by
  obtain ⟨r, _, _, hd, rfl, _, _⟩ := h.run_cases
  generalize hc : Call.emplace v = c at hd
  cases hd with
  | wait f hb =>
    obtain rfl := Frame.call_eq_emplace hc.symm
    exact Or.inl ⟨_, rfl, hb⟩
  | fail _ _ hf _ => cases hf <;> cases hc
  | push _ _ _ hp hfull =>
    cases hp <;> cases hc
    exact Or.inr ⟨rfl, hfull⟩
  | pop _ _ _ _ hp _ => cases hp <;> cases hc

theorem Step.tryEmplace_ended {s s' : State Tid α} {t : Tid} {v : α} {e : Ended α}
    (h : Step s (.run t (.tryEmplace v) e) s') :
    e = .done (.tryEmplace (!s.queue.isFull)) := by
  obtain ⟨r, _, _, hd, rfl, _, _⟩ := h.run_cases
  generalize hc : Call.tryEmplace v = c at hd
  cases hd with
  | wait f _ => cases f <;> cases hc
  | fail _ _ hf hb =>
    cases hf <;> cases hc
    rw [show s.queue.isFull = true from hb]
    rfl
  | push _ _ _ hp hfull =>
    cases hp <;> cases hc
    rw [hfull]
    rfl
  | pop _ _ _ _ hp _ => cases hp <;> cases hc

/-- A `TryEmplace` adds its value, or nothing. -/
theorem Step.tryEmplace_history {s s' : State Tid α} {t : Tid} {v : α} {e : Ended α}
    (h : Step s (.run t (.tryEmplace v) e) s') :
    s'.popped = s.popped ∧ (s'.accepted = s.accepted ∨ s'.accepted = s.accepted ++ [v]) := by
  obtain ⟨_, hacc, hpop, _⟩ := h.queue_run
  rw [h.tryEmplace_ended] at hacc hpop
  refine ⟨hpop.trans (List.append_nil _), ?_⟩
  cases hfull : s.queue.isFull with
  | true =>
    rw [hfull] at hacc
    exact Or.inl (hacc.trans (List.append_nil _))
  | false =>
    rw [hfull] at hacc
    exact Or.inr hacc

theorem Step.tryPush_ended {s s' : State Tid α} {t : Tid} {p : α} {timeout : Duration}
    {e : Ended α} (h : Step s (.run t (.tryPush p timeout) e) s') :
    (∃ f, e = .wait f ∧ s.queue.isFull = true) ∨
      e = .done (.tryPush false (some p)) ∧ s.queue.isFull = true ∨
      e = .done (.tryPush true none) ∧ s.queue.isFull = false := by
  obtain ⟨r, _, _, hd, rfl, _, _⟩ := h.run_cases
  generalize hc : Call.tryPush p timeout = c at hd
  cases hd with
  | wait f hb =>
    obtain ⟨deadline, rfl⟩ := Frame.call_eq_tryPush hc.symm
    exact Or.inl ⟨_, rfl, hb⟩
  | fail _ _ hf hb =>
    cases hf <;> cases hc
    exact Or.inr (Or.inl ⟨rfl, hb⟩)
  | push _ _ _ hp hfull =>
    cases hp <;> cases hc
    exact Or.inr (Or.inr ⟨rfl, hfull⟩)
  | pop _ _ _ _ hp _ => cases hp <;> cases hc

theorem Step.tryPop_ended {s s' : State Tid α} {t : Tid} {elem : α} {timeout : Duration}
    {e : Ended α} (h : Step s (.run t (.tryPop elem timeout) e) s') :
    (∃ f, e = .wait f ∧ s.queue.q = []) ∨
      e = .done (.tryPop false elem) ∧ s.queue.q = [] ∨
      ∃ v rest, e = .done (.tryPop true v) ∧ s.queue.q = v :: rest ∧ s'.queue.q = rest := by
  obtain ⟨r, _, _, hd, rfl, _, rfl⟩ := h.run_cases
  generalize hc : Call.tryPop elem timeout = c at hd
  cases hd with
  | wait f hb =>
    obtain ⟨deadline, rfl⟩ := Frame.call_eq_tryPop hc.symm
    exact Or.inl ⟨_, rfl, hb⟩
  | fail _ _ hf hb =>
    cases hf <;> cases hc
    exact Or.inr (Or.inl ⟨rfl, hb⟩)
  | push _ _ _ hp _ => cases hp <;> cases hc
  | pop _ v rest _ hp hq =>
    cases hp <;> cases hc
    exact Or.inr (Or.inr ⟨v, rest, rfl, hq, rfl⟩)

/-- A `TryPop` without a timeout never waits. -/
theorem Step.tryPop_zero {s s' : State Tid α} {t : Tid} {elem : α} {e : Ended α}
    (h : Step s (.run t (.tryPop elem .zero) e) s') (ho : s.threads t = .outside) :
    ∃ r, e = .done r := by
  generalize hc : Call.tryPop elem Duration.zero = c at h
  cases h with
  | call _ _ now _ _ =>
    cases hc
    rw [Call.first, tryPop, tryPopLoop]
    cases s.queue.q with
    | nil => exact ⟨_, rfl⟩
    | cons v rest => exact ⟨_, rfl⟩
  | resume _ f now hth _ =>
    rw [ho] at hth
    rcases hth with hth | hth <;> cases hth

/-- A `TryPop` leaves no fewer places, and one more when it has popped. -/
theorem Step.tryPop_places {s s' : State Tid α} {t : Tid} {elem : α} {timeout : Duration}
    {e : Ended α} (h : Step s (.run t (.tryPop elem timeout) e) s') {n : ℕ}
    (hn : s.queue.HasPlaces n) :
    s'.queue.HasPlaces n ∧ (s.queue.q ≠ [] → s'.queue.HasPlaces (n + 1)) := by
  obtain ⟨hcap, _, _, _⟩ := h.queue_run
  have hbound : s'.queue.bound = s.queue.bound := by
    rw [bound, bound, isLimitedCapacity, isLimitedCapacity, hcap]
  have hquiet : e.pops = [] → s.queue.q = [] →
      s'.queue.HasPlaces n ∧ (s.queue.q ≠ [] → s'.queue.HasPlaces (n + 1)) := by
    intro hp hq
    rw [(h.quiet (by cases e <;> rfl) hp).1]
    exact ⟨hn, fun hne => absurd hq hne⟩
  rcases h.tryPop_ended with ⟨f, rfl, hq⟩ | ⟨rfl, hq⟩ | ⟨v, rest, rfl, hq, hrest⟩
  · exact hquiet rfl hq
  · exact hquiet rfl hq
  · have hmore : s'.queue.HasPlaces (n + 1) := by
      intro m hm
      rw [hbound] at hm
      have := hn m hm
      rw [hq, List.length_cons] at this
      rw [hrest]
      omega
    exact ⟨hmore.mono (Nat.le_succ n), fun _ => hmore⟩

/-- A `TryEmplace` takes the place that it finds. -/
theorem Step.tryEmplace_places {s s' : State Tid α} {t : Tid} {v : α} {e : Ended α}
    (h : Step s (.run t (.tryEmplace v) e) s') (n : ℕ) :
    s'.queue.HasPlaces (n + 1) ↔ s.queue.HasPlaces (n + 2) := by
  have hdone := h.tryEmplace_ended
  cases hfull : s.queue.isFull with
  | true =>
    rw [hdone, hfull] at h
    rw [(h.quiet rfl rfl).1]
    have hnone : ¬ s.queue.HasPlaces 1 := by
      rw [hasPlaces_one_iff, hfull]
      decide
    exact ⟨fun hp => absurd (hp.mono (by omega)) hnone, fun hp => absurd (hp.mono (by omega)) hnone⟩
  | false =>
    have hpush : s'.queue = s.queue.pushBack v := by
      rw [hdone, hfull] at h
      obtain ⟨r, threads, _, hd, he, _, rfl⟩ := h.run_cases
      generalize hc : Call.tryEmplace v = c at hd
      cases hd with
      | wait f _ => cases he
      | fail _ _ hf _ => cases hf <;> cases he
      | push _ _ _ hp _ =>
        cases hp <;> cases hc
        rfl
      | pop _ _ _ _ hp _ => cases hp <;> cases hc
    rw [hpush]
    exact hasPlaces_pushBack_iff s.queue v (n + 1)

/-- A `TryPop` that empties a place wakes the thread that may be waiting for one. -/
theorem Step.tryPop_not_waiting {s s' : State Tid α} {t t' : Tid} {elem v : α} {timeout : Duration}
    (h : Step s (.run t (.tryPop elem timeout) (.done (.tryPop true v))) s') (hne : t' ≠ t)
    (honly : ∀ t₀ f, s.threads t₀ = .waiting f → f.cv = .notFull → t₀ = t') (f : Frame α)
    (hw : s'.threads t' = .waiting f) : f.cv ≠ .notFull := by
  obtain ⟨r, threads, _, hd, he, hsig, rfl⟩ := h.run_cases
  have hsignal : r.signal = some .notFull := by
    generalize hc : Call.tryPop elem timeout = c at hd
    cases hd with
    | wait f _ => cases he
    | fail _ _ hf _ => cases hf <;> cases he
    | push _ _ _ hp _ => cases hp <;> cases he
    | pop _ _ _ _ _ _ => rfl
  rw [hsignal] at hsig
  have hw' : threads t' = .waiting f := by
    rw [← hw]
    exact (Function.update_of_ne hne _ threads).symm
  exact hsig.not_waiting honly f hw'

/-! ### Calls that come to an end -/

/-- A wait that the clock ends. -/
def Frame.isTimed : Frame α → Bool
  | .tryPush _ _ _ => true
  | .tryPop _ _ _ => true
  | _ => false

/-- The call `c` of thread `t` returns `r`, by steps of `t` and timeouts of its waits. -/
inductive Completes (t : Tid) (c : Call α) : State Tid α → Return α → State Tid α → Prop
  | done {s s' : State Tid α} {r : Return α} : Step s (.run t c (.done r)) s' →
      Completes t c s r s'
  | wait {s s₁ s' : State Tid α} {f : Frame α} {r : Return α} :
      Step s (.run t c (.wait f)) s₁ → Completes t c s₁ r s' → Completes t c s r s'
  | timeout {s s₁ s' : State Tid α} {f : Frame α} {r : Return α} :
      s.threads t = .waiting f → f.isTimed = true → Step s (.wake t) s₁ →
      Completes t c s₁ r s' → Completes t c s r s'

theorem exists_call {s : State Tid α} {t : Tid} (c : Call α) (now : ℤ)
    (h : s.threads t = .outside) :
    ∃ s', Step s (.run t c (c.first now s.queue).ended) s' ∧
      s'.queue = (c.first now s.queue).queue := by
  obtain ⟨threads, hsig⟩ := exists_signals (c.first now s.queue).signal s.threads
  exact ⟨_, .call t c now h hsig, rfl⟩

theorem exists_resume {s : State Tid α} {t : Tid} {f : Frame α} (now : ℤ)
    (h : s.threads t = .signalled f ∨ s.threads t = .awake f) :
    ∃ s', Step s (.run t f.call (f.resume now s.queue).ended) s' ∧
      s'.queue = (f.resume now s.queue).queue := by
  obtain ⟨threads, hsig⟩ := exists_signals (f.resume now s.queue).signal s.threads
  exact ⟨_, .resume t f now h hsig, rfl⟩

/-- The queue after a call that finds nobody inside. -/
def State.called (s : State Tid α) (t : Tid) (c : Call α) : State Tid α :=
  s.after t c (c.first 0 s.queue) s.threads

theorem called_step {s : State Tid α} (h : ∀ t, s.threads t = .outside) (t : Tid) (c : Call α) :
    Step s (.run t c (c.first 0 s.queue).ended) (s.called t c) := by
  refine .call t c 0 (h t) ?_
  have hnobody : ∀ cv, Signals (some cv) s.threads s.threads := by
    intro cv
    refine .nobody cv _ fun t' f hw => ?_
    rw [h t'] at hw
    cases hw
  cases hsig : (c.first 0 s.queue).signal with
  | none => exact .none _
  | some cv => exact hnobody cv

/-- A call that returns leaves a queue that nobody else is in to nobody. -/
theorem Step.all_outside {s s' : State Tid α} {t : Tid} {c : Call α} {r : Return α}
    (h : Step s (.run t c (.done r)) s') (ho : ∀ t', s.threads t' = .outside) (t' : Tid) :
    s'.threads t' = .outside := by
  by_cases ht : t' = t
  · rw [ht]
    exact h.runs_self.2 r rfl
  · exact h.outside_other ht (ho t')

theorem exists_tryPop {s : State Tid α} {t : Tid} (ho : s.threads t = .outside) {v : α}
    {rest : List α} (hq : s.queue.q = v :: rest) (elem : α) (timeout : Duration) :
    ∃ s', Step s (.run t (.tryPop elem timeout) (.done (.tryPop true v))) s' := by
  obtain ⟨s', hs, _⟩ := exists_call (.tryPop elem timeout) 0 ho
  rcases hs.tryPop_ended with ⟨f, _, hnil⟩ | ⟨_, hnil⟩ | ⟨u, rest', he, hcons, _⟩
  · rw [hq] at hnil
    cases hnil
  · rw [hq] at hnil
    cases hnil
  · obtain ⟨rfl, _⟩ := List.cons.inj (hq.symm.trans hcons)
    rw [he] at hs
    exact ⟨s', hs⟩

theorem exists_tryPush {s : State Tid α} {t : Tid} (ho : s.threads t = .outside)
    (hfull : s.queue.isFull = false) (p : α) (timeout : Duration) :
    ∃ s', Step s (.run t (.tryPush p timeout) (.done (.tryPush true none))) s' := by
  obtain ⟨s', hs, _⟩ := exists_call (.tryPush p timeout) 0 ho
  rcases hs.tryPush_ended with ⟨f, _, h⟩ | ⟨_, h⟩ | ⟨he, _⟩
  · rw [hfull] at h
    cases h
  · rw [hfull] at h
    cases h
  · rw [he] at hs
    exact ⟨s', hs⟩

theorem exists_emplace {s : State Tid α} {t : Tid} (ho : s.threads t = .outside)
    (hfull : s.queue.isFull = false) (v : α) :
    ∃ s', Step s (.run t (.emplace v) (.done .emplace)) s' := by
  obtain ⟨s', hs, _⟩ := exists_call (.emplace v) 0 ho
  rcases hs.emplace_ended with ⟨f, _, h⟩ | ⟨he, _⟩
  · rw [hfull] at h
    cases h
  · rw [he] at hs
    exact ⟨s', hs⟩

/-- **A value passes through an empty queue** that nobody is in. -/
theorem Step.passes {s s₁ : State Tid α} {producer : Tid} {c : Call α} {r : Return α} {v : α}
    (h : Step s (.run producer c (.done r)) s₁) (ho : ∀ t, s.threads t = .outside)
    (hempty : s.queue.q = []) (hacc : c.accepts (.done r) = [v])
    (hpops : (Ended.done r).pops = []) (consumer : Tid) (elem : α) (timeout : Duration) :
    ∃ s₂, Step s₁ (.run consumer (.tryPop elem timeout) (.done (.tryPop true v))) s₂ ∧
      (∀ t, s₂.threads t = .outside) ∧ s₂.queue.q = [] ∧ s₂.popped = s.popped ++ [v] := by
  obtain ⟨_, _, hpopped, hqueue⟩ := h.queue_run
  rw [hacc, hpops, hempty] at hqueue
  rw [hpops, List.append_nil] at hpopped
  have ho₁ := h.all_outside ho
  obtain ⟨s₂, hpop⟩ := exists_tryPop (ho₁ consumer) hqueue elem timeout
  obtain ⟨_, _, hpopped₂, hqueue₂⟩ := hpop.queue_run
  refine ⟨s₂, hpop, hpop.all_outside ho₁, ?_, ?_⟩
  · rw [hqueue₂, hqueue]
    rfl
  · rw [hpopped₂, hpopped]
    rfl

/-- **An `Emplace` comes to an end** when the queue is not full and the thread not asleep. -/
theorem emplace_completes {s : State Tid α} {t : Tid} {v : α} (hat : (s.threads t).At (.emplace v))
    (hawake : ∀ f, s.threads t ≠ .waiting f) (hfull : s.queue.isFull = false) :
    ∃ s', Completes t (.emplace v) s .emplace s' := by
  have hrun : s.queue.emplace v = s.queue.internalEmplace v .emplace := if_neg (by simp [hfull])
  have hframe : ∀ f, f.call = .emplace v → s.threads t = .signalled f ∨ s.threads t = .awake f →
      ∃ s', Completes t (.emplace v) s .emplace s' := by
    intro f hf hth
    obtain rfl := Frame.call_eq_emplace hf
    obtain ⟨s', hs, _⟩ := exists_resume 0 hth
    rw [Frame.resume, hrun] at hs
    exact ⟨s', .done hs⟩
  cases hth : s.threads t with
  | outside =>
    obtain ⟨s', hs, _⟩ := exists_call (.emplace v) 0 hth
    rw [Call.first, hrun] at hs
    exact ⟨s', .done hs⟩
  | waiting f => exact absurd hth (hawake f)
  | signalled f =>
    rw [hth] at hat
    exact hframe f hat (Or.inl hth)
  | awake f =>
    rw [hth] at hat
    exact hframe f hat (Or.inr hth)

/-- The deadline of a timed wait is the time of its call plus its timeout. -/
def Frame.WellTimed : Frame α → Prop
  | .tryPush _ timeout deadline => ∃ now, deadline = Time.after now timeout
  | .tryPop _ timeout deadline => ∃ now, deadline = Time.after now timeout
  | _ => True

def Thread.WellTimed : Thread α → Prop
  | .outside => True
  | .waiting f => f.WellTimed
  | .signalled f => f.WellTimed
  | .awake f => f.WellTimed

theorem emplace_wellTimed (s : ProducerConsumerQueue α) (v : α) :
    (s.emplace v).ended.thread.WellTimed := by
  unfold emplace
  split <;> trivial

theorem tryEmplace_wellTimed (s : ProducerConsumerQueue α) (v : α) :
    (s.tryEmplace v).ended.thread.WellTimed := by
  unfold tryEmplace
  split <;> trivial

theorem pop_wellTimed (s : ProducerConsumerQueue α) (elem : α) :
    (s.pop elem).ended.thread.WellTimed := by
  unfold pop
  split <;> trivial

theorem tryPushLoop_wellTimed (s : ProducerConsumerQueue α) (p : α) {timeout : Duration}
    {deadline : Time} (h : ∃ now, deadline = Time.after now timeout) (timeLeft : Duration) :
    (s.tryPushLoop p timeout deadline timeLeft).ended.thread.WellTimed := by
  unfold tryPushLoop
  split
  · exact h
  · split <;> trivial

theorem tryPopLoop_wellTimed (s : ProducerConsumerQueue α) (elem : α) {timeout : Duration}
    {deadline : Time} (h : ∃ now, deadline = Time.after now timeout) (timeLeft : Duration) :
    (s.tryPopLoop elem timeout deadline timeLeft).ended.thread.WellTimed := by
  unfold tryPopLoop
  split
  · split
    · exact h
    · trivial
  · trivial

theorem Call.first_wellTimed (c : Call α) (now : ℤ) (s : ProducerConsumerQueue α) :
    (c.first now s).ended.thread.WellTimed := by
  cases c with
  | emplace v => exact s.emplace_wellTimed v
  | tryEmplace v => exact s.tryEmplace_wellTimed v
  | tryPush p timeout => exact s.tryPushLoop_wellTimed p ⟨now, rfl⟩ timeout
  | pop elem => exact s.pop_wellTimed elem
  | tryPop elem timeout => exact s.tryPopLoop_wellTimed elem ⟨now, rfl⟩ timeout

theorem Frame.resume_wellTimed {f : Frame α} (hf : f.WellTimed) (now : ℤ)
    (s : ProducerConsumerQueue α) : (f.resume now s).ended.thread.WellTimed := by
  cases f with
  | emplace v => exact s.emplace_wellTimed v
  | tryPush p timeout deadline => exact s.tryPushLoop_wellTimed p hf _
  | pop elem => exact s.pop_wellTimed elem
  | tryPop elem timeout deadline => exact s.tryPopLoop_wellTimed elem hf _

theorem Signals.wellTimed {cv : Option CondVar} {threads threads' : Tid → Thread α}
    (h : Signals cv threads threads') (t : Tid) (ht : (threads t).WellTimed) :
    (threads' t).WellTimed := by
  rcases h.thread t with he | ⟨f, hw, he⟩
  · rw [he]
    exact ht
  · rw [hw] at ht
    rw [he]
    exact ht

/-- Every deadline is kept as it was computed. -/
theorem wellTimed_of_reachable {capacity : Int32} {s : State Tid α}
    (h : (system Tid α capacity).Reachable s) (t : Tid) : (s.threads t).WellTimed := by
  refine h.invariant (I := fun s => ∀ t, (s.threads t).WellTimed) ?_ ?_ t
  · rintro _ ⟨queue, _, rfl⟩ t
    trivial
  · intro s l s' _ ih hs t
    have hupdate : ∀ (threads : Tid → Thread α) (t₀ : Tid) (th : Thread α),
        (∀ t, (threads t).WellTimed) → th.WellTimed →
        (Function.update threads t₀ th t).WellTimed := by
      intro threads t₀ th hall hth
      by_cases ht : t = t₀
      · subst ht
        rw [Function.update_self]
        exact hth
      · rw [Function.update_of_ne ht]
        exact hall t
    cases hs with
    | wake t₀ f hw =>
      have hf : (s.threads t₀).WellTimed := ih t₀
      rw [hw] at hf
      exact hupdate _ t₀ _ ih hf
    | call t₀ c now _ hsig =>
      exact hupdate _ t₀ _ (fun t => hsig.wellTimed t (ih t)) (c.first_wellTimed now _)
    | resume t₀ f now hth hsig =>
      have hf : f.WellTimed := by
        have := ih t₀
        rcases hth with hth | hth <;> rw [hth] at this <;> exact this
      exact hupdate _ t₀ _ (fun t => hsig.wellTimed t (ih t)) (Frame.resume_wellTimed hf now _)

/-- What `TryPush` returns when it stops waiting. -/
def tryPushReturn (s : ProducerConsumerQueue α) (p : α) : Return α :=
  if s.isFull then .tryPush false (some p) else .tryPush true none

theorem tryPushLoop_of_not_isPositive (s : ProducerConsumerQueue α) (p : α) (timeout : Duration)
    (deadline : Time) {timeLeft : Duration} (h : timeLeft.isPositive = false) :
    (s.tryPushLoop p timeout deadline timeLeft).ended = .done (s.tryPushReturn p) := by
  unfold tryPushLoop tryPushReturn
  cases hfull : s.isFull <;> simp [h, internalEmplace]

/-- Past its wait, a `TryPush` whose deadline has come returns. -/
theorem tryPush_completes_of_woken {s : State Tid α} {t : Tid} {p : α} {n d : ℤ}
    (hth : s.threads t = .signalled (.tryPush p (.ticks n) (.ticks d)) ∨
      s.threads t = .awake (.tryPush p (.ticks n) (.ticks d))) :
    ∃ s', Completes t (.tryPush p (.ticks n)) s (s.queue.tryPushReturn p) s' := by
  obtain ⟨s', hs, _⟩ := exists_resume d hth
  have hleft : (Time.left (.ticks d) d).isPositive = false := by
    simp only [Time.left, Duration.addTicks, Duration.isPositive, decide_eq_false_iff_not]
    omega
  rw [Frame.resume, tryPushLoop_of_not_isPositive _ _ _ _ hleft] at hs
  exact ⟨s', .done hs⟩

/-- Asleep, a `TryPush` with a finite deadline returns after its timeout. -/
theorem tryPush_completes_of_waiting {s : State Tid α} {t : Tid} {p : α} {n d : ℤ}
    (hth : s.threads t = .waiting (.tryPush p (.ticks n) (.ticks d))) :
    ∃ s', Completes t (.tryPush p (.ticks n)) s (s.queue.tryPushReturn p) s' := by
  let f : Frame α := .tryPush p (.ticks n) (.ticks d)
  let s₁ : State Tid α := { s with threads := Function.update s.threads t (.awake f) }
  have hwake : Step s (.wake t) s₁ := .wake t f hth
  have hawake : s₁.threads t = .awake f := Function.update_self t _ s.threads
  obtain ⟨s', hs⟩ := tryPush_completes_of_woken (Or.inr hawake)
  exact ⟨s', .timeout hth rfl hwake hs⟩

/-- **A `TryPush` with a finite timeout comes to an end**: it has pushed if and only if the
queue is not full. -/
theorem tryPush_completes {s : State Tid α} {t : Tid} {p : α} {n : ℤ}
    (hat : (s.threads t).At (.tryPush p (.ticks n))) (htimed : (s.threads t).WellTimed) :
    ∃ s', Completes t (.tryPush p (.ticks n)) s (s.queue.tryPushReturn p) s' := by
  have hdeadline : ∀ f : Frame α, f.call = .tryPush p (.ticks n) → f.WellTimed →
      ∃ d, f = .tryPush p (.ticks n) (.ticks d) := by
    intro f hf hw
    obtain ⟨deadline, rfl⟩ := Frame.call_eq_tryPush hf
    obtain ⟨now, rfl⟩ := hw
    exact ⟨n + now, rfl⟩
  cases hth : s.threads t with
  | outside =>
    obtain ⟨s₁, hs, hq⟩ := exists_call (.tryPush p (.ticks n)) 0 hth
    rw [Call.first, tryPush] at hs hq
    by_cases hwait : (s.queue.isFull && (Duration.ticks n).isPositive) = true
    · have hloop : s.queue.tryPushLoop p (.ticks n) (Time.after 0 (.ticks n)) (.ticks n) =
          ⟨s.queue, none, .wait (.tryPush p (.ticks n) (.ticks (n + 0)))⟩ := if_pos hwait
      rw [hloop] at hs hq
      obtain ⟨s', hc⟩ := tryPush_completes_of_waiting (hs.runs_self.1 _ rfl).2
      rw [hq] at hc
      exact ⟨s', .wait hs hc⟩
    · have hret : (s.queue.tryPushLoop p (.ticks n) (Time.after 0 (.ticks n)) (.ticks n)).ended =
          .done (s.queue.tryPushReturn p) := by
        unfold tryPushLoop tryPushReturn
        rw [if_neg hwait]
        cases s.queue.isFull <;> simp [internalEmplace]
      rw [hret] at hs
      exact ⟨s₁, .done hs⟩
  | waiting f =>
    rw [hth] at hat htimed
    obtain ⟨d, rfl⟩ := hdeadline f hat htimed
    exact tryPush_completes_of_waiting hth
  | signalled f =>
    rw [hth] at hat htimed
    obtain ⟨d, rfl⟩ := hdeadline f hat htimed
    exact tryPush_completes_of_woken (Or.inl hth)
  | awake f =>
    rw [hth] at hat htimed
    obtain ⟨d, rfl⟩ := hdeadline f hat htimed
    exact tryPush_completes_of_woken (Or.inr hth)

/-- A call that completes is completed in every system that runs its stretches and the timeouts
of its waits: `I q s` says that the state `s` is inside the call, the queue being `q`. -/
theorem Completes.canReach {σ ℓ : Type*} {M : System σ ℓ} {t : Tid} {c : Call α}
    {I : State Tid α → σ → Prop} {G : Return α → State Tid α → σ → Prop}
    (hdone : ∀ q q' r s, I q s → Step q (.run t c (.done r)) q' →
      ∃ l s', M.step s l s' ∧ G r q' s')
    (hwait : ∀ q q' f s, I q s → Step q (.run t c (.wait f)) q' →
      ∃ l s', M.step s l s' ∧ I q' s')
    (hwake : ∀ q q' f s, I q s → q.threads t = .waiting f → f.isTimed = true →
      Step q (.wake t) q' → ∃ l s', M.step s l s' ∧ I q' s')
    {q q' : State Tid α} {r : Return α} (h : Completes t c q r q') {s : σ} (hs : I q s) :
    M.CanReach (G r q') s := by
  induction h generalizing s with
  | done hstep =>
    obtain ⟨l, s', hM, hG⟩ := hdone _ _ _ s hs hstep
    exact .step hM (.here hG)
  | wait hstep _ ih =>
    obtain ⟨l, s', hM, hI⟩ := hwait _ _ _ s hs hstep
    exact .step hM (ih hI)
  | timeout hw htimed hstep _ ih =>
    obtain ⟨l, s', hM, hI⟩ := hwake _ _ _ s hs hw htimed hstep
    exact .step hM (ih hI)

/-! ### One producer and one consumer -/

/-- The call a thread is in after a stretch of `c`. -/
def Ended.callAfter (c : Call α) : Ended α → Option (Call α)
  | .wait _ => some c
  | .done _ => none

/-- A queue that one thread pushes to, another pops from, and every other thread is outside of:
the producer, inside the call `oc`, sleeps on a full queue only. -/
structure State.Attended (s : State Tid α) (producer consumer : Tid) (oc : Option (Call α)) :
    Prop where
  pushes : ∀ c, oc = some c → c.needs = .notFull
  producing : (s.threads producer).Runs oc
  consuming : ∃ elem timeout, (s.threads consumer).At (.tryPop elem timeout)
  others : ∀ t, t ≠ producer → t ≠ consumer → s.threads t = .outside
  asleep : ∀ f, s.threads producer = .waiting f → s.queue.isFull = true

section Attended

variable {producer consumer : Tid} {oc : Option (Call α)} {s s' : State Tid α}

omit [DecidableEq Tid] in
theorem attended_initial (queue : ProducerConsumerQueue α) (elem : α) :
    (initial Tid queue).Attended producer consumer none :=
  ⟨nofun, rfl, ⟨elem, .zero, trivial⟩, fun _ _ _ => rfl, nofun⟩

/-- A thread inside a call that pushes waits for a place. -/
theorem Thread.Runs.cv_of_waiting {th : Thread α} (hr : th.Runs oc)
    (hpush : ∀ c, oc = some c → c.needs = .notFull) {f : Frame α} (hw : th = .waiting f) :
    f.cv = .notFull := by
  rw [hw] at hr
  cases oc with
  | none => cases hr
  | some c =>
    have hc : f.call = c := hr
    rw [← f.needs_call, hc]
    exact hpush c rfl

/-- Nobody else waits for a place. -/
theorem State.Attended.eq_producer (h : s.Attended producer consumer oc) (t : Tid) (f : Frame α)
    (hw : s.threads t = .waiting f) (hcv : f.cv = .notFull) : t = producer := by
  by_contra hne
  by_cases ht : t = consumer
  · obtain ⟨elem, timeout, hat⟩ := h.consuming
    rw [← ht, hw] at hat
    obtain ⟨deadline, rfl⟩ := Frame.call_eq_tryPop hat
    cases hcv
  · exact absurd ((h.others t hne ht).symm.trans hw) (fun h => nomatch h)

omit [DecidableEq Tid] in
/-- Outside of every call, the producer can make any call that pushes. -/
theorem State.Attended.begin (h : s.Attended producer consumer none) {oc : Option (Call α)}
    (hpush : ∀ c, oc = some c → c.needs = .notFull) : s.Attended producer consumer oc := by
  have hout : s.threads producer = .outside := h.producing
  refine ⟨hpush, ?_, h.consuming, h.others, h.asleep⟩
  rw [hout]
  exact Thread.outside_runs oc

/-- A stretch of the producer. -/
theorem State.Attended.run_producer (hne : consumer ≠ producer) {c : Call α}
    (h : s.Attended producer consumer (some c)) {e : Ended α}
    (hs : Step s (.run producer c e) s') : s'.Attended producer consumer (e.callAfter c) := by
  obtain ⟨elem, timeout, hat⟩ := h.consuming
  have hconsumer : (s'.threads consumer).Runs (some (.tryPop elem timeout)) :=
    hs.runs_other hne hat
  have hothers : ∀ t, t ≠ producer → t ≠ consumer → s'.threads t = .outside :=
    fun t hp hc => hs.outside_other hp (h.others t hp hc)
  cases e with
  | wait f =>
    obtain ⟨hf, hth⟩ := hs.runs_self.1 f rfl
    refine ⟨fun c' hc' => ?_, ?_, ⟨elem, timeout, hconsumer⟩, hothers, fun f' hw => ?_⟩
    · rw [← Option.some.inj hc']
      exact h.pushes c rfl
    · rw [hth]
      exact hf
    · have hcv : f.cv = .notFull := by
        rw [← f.needs_call, hf]
        exact h.pushes c rfl
      have hblocks := hs.blocks_of_wait
      rw [hcv] at hblocks
      rw [(hs.quiet (by cases c <;> rfl) rfl).1]
      exact hblocks
  | done r =>
    have hth := hs.runs_self.2 r rfl
    refine ⟨nofun, hth, ⟨elem, timeout, hconsumer⟩, hothers, fun f hw => ?_⟩
    exact absurd (hth.symm.trans hw) (fun h => nomatch h)

/-- A stretch of the consumer: a place that it makes wakes the producer. -/
theorem State.Attended.run_consumer (hne : producer ≠ consumer)
    (h : s.Attended producer consumer oc) {elem : α} {timeout : Duration} {e : Ended α}
    (hs : Step s (.run consumer (.tryPop elem timeout) e) s') :
    s'.Attended producer consumer oc := by
  have hproducer : (s'.threads producer).Runs oc := hs.runs_other hne h.producing
  have hself : (s'.threads consumer).At (.tryPop elem timeout) := by
    cases e with
    | wait f =>
      obtain ⟨hf, hth⟩ := hs.runs_self.1 f rfl
      rw [hth]
      exact hf
    | done r =>
      rw [hs.runs_self.2 r rfl]
      trivial
  have hothers : ∀ t, t ≠ producer → t ≠ consumer → s'.threads t = .outside :=
    fun t hp hc => hs.outside_other hc (h.others t hp hc)
  have hquiet : e.pops = [] → ∀ f, s'.threads producer = .waiting f → s'.queue.isFull = true := by
    intro hp f hw
    obtain ⟨hqueue, hsame⟩ := hs.quiet (by cases e <;> rfl) hp
    rw [hsame producer hne] at hw
    rw [hqueue]
    exact h.asleep f hw
  refine ⟨h.pushes, hproducer, ⟨elem, timeout, hself⟩, hothers, fun f hw => ?_⟩
  rcases hs.tryPop_ended with ⟨f, rfl, _⟩ | ⟨rfl, _⟩ | ⟨v, rest, rfl, _, _⟩
  · exact hquiet rfl _ hw
  · exact hquiet rfl _ hw
  · exact absurd (hproducer.cv_of_waiting h.pushes hw)
      (hs.tryPop_not_waiting hne h.eq_producer f hw)

/-- A `TryEmplace` of another thread finds a full queue, or a producer that is not asleep. -/
theorem State.Attended.run_other (h : s.Attended producer consumer oc) {t : Tid}
    (hp : t ≠ producer) (hc : t ≠ consumer) {v : α} {e : Ended α}
    (hs : Step s (.run t (.tryEmplace v) e) s') : s'.Attended producer consumer oc := by
  obtain ⟨elem, timeout, hat⟩ := h.consuming
  have hconsumer : (s'.threads consumer).Runs (some (.tryPop elem timeout)) :=
    hs.runs_other (Ne.symm hc) hat
  have hdone := hs.tryEmplace_ended
  refine ⟨h.pushes, hs.runs_other (Ne.symm hp) h.producing, ⟨elem, timeout, hconsumer⟩,
    fun t' hp' hc' => ?_, fun f hw => ?_⟩
  · by_cases ht : t' = t
    · rw [ht]
      exact hs.runs_self.2 _ hdone
    · exact hs.outside_other ht (h.others t' hp' hc')
  · have hfull : s.queue.isFull = true := by
      obtain ⟨r, threads, _, _, _, hsig, rfl⟩ := hs.run_cases
      have hw' : threads producer = .waiting f :=
        (Function.update_of_ne (Ne.symm hp) _ threads).symm.trans hw
      rcases hsig.thread producer with hsame | ⟨f', _, hsignalled⟩
      · exact h.asleep f (hsame.symm.trans hw')
      · exact absurd (hsignalled.symm.trans hw') (fun h => nomatch h)
    rw [hdone, hfull] at hs
    rw [(hs.quiet rfl rfl).1]
    exact hfull

/-- A wait that ends by itself. -/
theorem State.Attended.wake (h : s.Attended producer consumer oc) {t : Tid}
    (hs : Step s (.wake t) s') : s'.Attended producer consumer oc := by
  obtain ⟨elem, timeout, hat⟩ := h.consuming
  have hconsumer : (s'.threads consumer).Runs (some (.tryPop elem timeout)) :=
    hs.runs_wake consumer hat
  refine ⟨h.pushes, hs.runs_wake producer h.producing, ⟨elem, timeout, hconsumer⟩,
    fun t' hp hc => hs.outside_wake (h.others t' hp hc), fun f hw => ?_⟩
  rw [hs.queue_wake.1]
  exact h.asleep f (hs.waiting_of_wake hw)

/-- A consumer that is not asleep can pop. -/
theorem State.Attended.exists_pop (h : s.Attended producer consumer oc)
    (hawake : ∀ f, s.threads consumer ≠ .waiting f) :
    ∃ elem timeout e s', Step s (.run consumer (.tryPop elem timeout) e) s' := by
  obtain ⟨elem, timeout, hat⟩ := h.consuming
  have hframe : ∀ f, f.call = .tryPop elem timeout →
      s.threads consumer = .signalled f ∨ s.threads consumer = .awake f →
      ∃ elem timeout e s', Step s (.run consumer (.tryPop elem timeout) e) s' := by
    intro f hf hth
    obtain ⟨s', hs, _⟩ := exists_resume 0 hth
    rw [hf] at hs
    exact ⟨elem, timeout, _, s', hs⟩
  cases hth : s.threads consumer with
  | outside =>
    obtain ⟨s', hs, _⟩ := exists_call (.tryPop elem timeout) 0 hth
    exact ⟨elem, timeout, _, s', hs⟩
  | waiting f => exact absurd hth (hawake f)
  | signalled f =>
    rw [hth] at hat
    exact hframe f hat (Or.inl hth)
  | awake f =>
    rw [hth] at hat
    exact hframe f hat (Or.inr hth)

/-- Without a consumer that takes something out, an `Emplace` of the producer comes to an end
when there is a place. -/
theorem State.Attended.emplace_completes {v : α}
    (h : s.Attended producer consumer (some (.emplace v))) (hfull : s.queue.isFull = false) :
    ∃ s', Completes producer (.emplace v) s .emplace s' := by
  refine ProducerConsumerQueue.emplace_completes h.producing (fun f hw => ?_) hfull
  exact absurd (hfull.symm.trans (h.asleep f hw)) (by decide)

end Attended

end AIStreams.ProducerConsumerQueue
