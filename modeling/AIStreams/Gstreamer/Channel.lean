import AIStreams.Util.Status

/-!
# Channels between workers

`aistreams/util/completion_signal.{h,cc}` and the workers' receive loops of
`aistreams/gstreamer/gstreamer_video_exporter.cc`.  A worker that receives polls the queue
of its channel with `TryPop`, and looks at the source when that times out.
-/

namespace AIStreams

/-! ### `CompletionSignal` -/

/-- `class CompletionSignal`. -/
structure CompletionSignal where
  isCompleted : Bool
  status : Status
  deriving DecidableEq

namespace CompletionSignal

/-- `CompletionSignal()`: a signal that was never started is completed. -/
def default : CompletionSignal := ⟨true, okStatus⟩

def start (c : CompletionSignal) : CompletionSignal := { c with isCompleted := false }

def setStatus (c : CompletionSignal) (status : Status) : CompletionSignal :=
  { c with status := status }

/-- `End()`. -/
def finish (c : CompletionSignal) : CompletionSignal := { c with isCompleted := true }

@[simp] theorem isCompleted_start (c : CompletionSignal) : c.start.isCompleted = false := rfl

@[simp] theorem isCompleted_setStatus (c : CompletionSignal) (status : Status) :
    (c.setStatus status).isCompleted = c.isCompleted := rfl

@[simp] theorem isCompleted_finish (c : CompletionSignal) : c.finish.isCompleted = true := rfl

end CompletionSignal

/-! ### `Channel` -/

/-- Which ends of a `Channel` are set. -/
structure Channel where
  hasSrc : Bool
  hasDst : Bool

/-- How a worker's thread stands. -/
inductive Outcome
  | running
  | returned (status : Status)
  | crashed (e : Fatal)
  deriving DecidableEq

/-- One turn of `while (!TryPop(value, 5s)) { if (IsSrcCompleted()) ... }`. -/
inductive Poll (α : Type)
  | popped (v : StatusOr α)
  | timedOut (srcCompleted : Bool)

/-- The poll ends the stream: an EOS, or a source that has completed. -/
def Poll.Ends {α : Type} : Poll α → Prop
  | .popped v => v.status.code = .kNotFound
  | .timedOut completed => completed = true

/-- The values that a sequence of polls delivers. -/
def pollValues {α : Type} (polls : List (Poll α)) : List (StatusOr α) :=
  polls.filterMap fun
    | .popped v => some v
    | .timedOut _ => none

section PollValues

variable {α : Type} (polls : List (Poll α))

@[simp] theorem pollValues_nil : pollValues ([] : List (Poll α)) = [] := rfl

@[simp] theorem pollValues_popped (v : StatusOr α) :
    pollValues (.popped v :: polls) = v :: pollValues polls := rfl

@[simp] theorem pollValues_timedOut (completed : Bool) :
    pollValues (.timedOut completed :: polls) = pollValues polls := rfl

theorem pollValues_map_popped (vs : List (StatusOr α)) : pollValues (vs.map .popped) = vs := by
  induction vs with
  | nil => rfl
  | cons v vs ih => rw [List.map_cons, pollValues_popped, ih]

theorem popped_not_timedOut (vs : List (StatusOr α)) : .timedOut true ∉ vs.map Poll.popped := by
  intro hmem
  obtain ⟨v, _, hv⟩ := List.mem_map.mp hmem
  cases hv

/-- The poll that delivers a value, and the polls that deliver what comes before it. -/
theorem pollValues_eq_append_cons {polls : List (Poll α)} {vs us : List (StatusOr α)}
    {v : StatusOr α} (h : pollValues polls = vs ++ v :: us) :
    ∃ before after, polls = before ++ .popped v :: after ∧ pollValues before = vs := by
  obtain ⟨first, second, rfl, hfirst, hsecond⟩ := List.filterMap_eq_append_iff.mp h
  obtain ⟨quiet, p, rest, rfl, hquiet, hp, _⟩ := List.filterMap_eq_cons_iff.mp hsecond
  cases p with
  | timedOut completed => cases hp
  | popped u =>
    cases hp
    refine ⟨first ++ quiet, rest, List.append_assoc _ _ _ |>.symm, ?_⟩
    rw [pollValues, List.filterMap_append, hfirst, List.filterMap_eq_nil_iff.mpr hquiet,
      List.append_nil]

end PollValues

end AIStreams
