import AIStreams.Base.ExponentialBackoff
import AIStreams.Base.ManagementClient
import AIStreams.Base.Packet
import Mathlib.Tactic.NormNum

/-!
# Waiting for a long running operation

`WaitOperation` of `aistreams/base/management_client.cc`.  The service answers the `n`-th
`GetOperation` of a call in any way.

* `pollLoop_of_decided`, `pollLoop_of_pending`: the two ways in which the loop ends.
* `waitOperation_decisive`: a bounded number of polls, the first answer that is not pending, and
  the sleeps between the polls.
-/

namespace AIStreams

open ExactDuration (seconds scale)

/-! ### The messages -/

/-- `google.rpc.Status`. -/
structure RpcError where
  code : Int32
  message : String
  deriving DecidableEq

/-- The oneof `result` of an operation. -/
inductive OperationResult
  | notSet
  | error (e : RpcError)
  | response (any : ProtoAny)
  deriving DecidableEq

/-- `google.longrunning.Operation`. -/
structure Operation where
  name : String
  done : Bool
  result : OperationResult
  deriving DecidableEq

namespace Operation

def hasError (o : Operation) : Bool :=
  match o.result with
  | .error _ => true
  | _ => false

/-- `response()`; one that is not set reads as its default. -/
def response (o : Operation) : ProtoAny :=
  match o.result with
  | .response any => any
  | _ => ⟨"", []⟩

end Operation

/-! ### The function -/

def kMaxTrials : ℕ := 15

/-- What `WaitOperation` asks of gRPC: whether there is a channel to a service, whether there is a
stub, and what the `n`-th `GetOperation` of a call answers. -/
structure OperationsService where
  createChannel : String → Bool
  newStub : Bool
  getOperation : ℕ → List (String × String) → (name : String) → GrpcStatus × Operation

/-- What the loop does that shows outside. -/
inductive PollEvent
  | getOperation
  | sleepFor (d : ExactDuration)
  deriving DecidableEq

/-- What an answer is returned as; one that is still pending is not. -/
def verdict (answer : GrpcStatus × Operation) : Option (StatusOr Operation) :=
  if answer.1.errorCode ≠ .ok then
    some (.ofStatus (unknownError "Encountered error calling RPC WaitOperation"))
  else if answer.2.hasError then some (.ofStatus (unknownError "Operation failed."))
  else if answer.2.done then some (.value answer.2)
  else none

/-- The loop, when `kMaxTrials - num_trials` is `remaining`; `answers` are those still to come. -/
def pollLoop (answers : ℕ → GrpcStatus × Operation) (backoff : ExponentialBackoff)
    (remaining : ℕ) : List PollEvent × StatusOr Operation :=
  match verdict (answers 0), remaining with
  | some result, _ => ([.getOperation], result)
  | none, 0 => ([.getOperation], .ofStatus (deadlineExceededError "Failed waiting for operation."))
  | none, remaining + 1 =>
    let (events, result) := pollLoop (fun k => answers (k + 1)) backoff.wait.2 remaining
    (.getOperation :: .sleepFor backoff.wait.1 :: events, result)

/-- The back-off of `WaitOperation`. -/
def operationBackoff : ExponentialBackoff := .create (seconds 2) (seconds 120) 2

/-- What the `n`-th poll of an operation is answered. -/
def OperationsService.answer (service : OperationsService) (operationName parent : String)
    (n : ℕ) : GrpcStatus × Operation :=
  service.getOperation n [(kGrpcMetadata, "parent=" ++ parent)] operationName

def waitOperation (service : OperationsService) (operationName serviceName parent : String) :
    List PollEvent × StatusOr Operation :=
  if service.createChannel serviceName = false then
    ([], .ofStatus (unknownError "Failed to create a gRPC channel"))
  else if service.newStub = false then
    ([], .ofStatus (unknownError "Failed to create a gRPC stub"))
  else pollLoop (service.answer operationName parent) operationBackoff kMaxTrials

/-! ### What the loop does -/

/-- `n` polls that find the operation pending, each with its sleep, and one more. -/
def pollEvents (backoff : ExponentialBackoff) (n : ℕ) : List PollEvent :=
  (List.range n).flatMap (fun k => [.getOperation, .sleepFor (backoff.waitTime k)]) ++
    [.getOperation]

theorem pollEvents_succ (backoff : ExponentialBackoff) (n : ℕ) : pollEvents backoff (n + 1) =
    .getOperation :: .sleepFor backoff.wait.1 :: pollEvents backoff.wait.2 n := by
  simp only [pollEvents, List.range_succ_eq_map, List.flatMap_cons, List.flatMap_map]
  rfl

theorem count_pollEvents (backoff : ExponentialBackoff) (n : ℕ) :
    (pollEvents backoff n).count .getOperation = n + 1 := by
  induction n generalizing backoff with
  | zero => rfl
  | succ n ih => simp [pollEvents_succ, ih]

section Loop

variable {answers : ℕ → GrpcStatus × Operation} {backoff : ExponentialBackoff}

theorem pollLoop_decided {result : StatusOr Operation} (h : verdict (answers 0) = some result)
    (remaining : ℕ) : pollLoop answers backoff remaining = ([.getOperation], result) := by
  unfold pollLoop
  rw [h]

theorem pollLoop_pending (h : verdict (answers 0) = none) (remaining : ℕ) :
    pollLoop answers backoff (remaining + 1) =
      (.getOperation :: .sleepFor backoff.wait.1 ::
          (pollLoop (fun k => answers (k + 1)) backoff.wait.2 remaining).1,
        (pollLoop (fun k => answers (k + 1)) backoff.wait.2 remaining).2) := by
  conv_lhs => unfold pollLoop
  rw [h]

/-- **The first answer that is not pending is returned.** -/
theorem pollLoop_of_decided {k remaining : ℕ} (hk : k ≤ remaining)
    (hpending : ∀ j < k, verdict (answers j) = none) {result : StatusOr Operation}
    (h : verdict (answers k) = some result) :
    pollLoop answers backoff remaining = (pollEvents backoff k, result) := by
  induction k generalizing answers backoff remaining with
  | zero => exact pollLoop_decided h remaining
  | succ k ih =>
    obtain ⟨remaining, rfl⟩ : ∃ r, remaining = r + 1 := ⟨remaining - 1, by omega⟩
    have hrest : pollLoop (fun j => answers (j + 1)) backoff.wait.2 remaining = _ :=
      ih (Nat.le_of_succ_le_succ hk) (fun j hj => hpending (j + 1) (by omega)) h
    rw [pollLoop_pending (hpending 0 k.succ_pos), hrest, pollEvents_succ]

/-- **Otherwise the loop gives up.** -/
theorem pollLoop_of_pending {remaining : ℕ}
    (hpending : ∀ j ≤ remaining, verdict (answers j) = none) :
    pollLoop answers backoff remaining = (pollEvents backoff remaining,
      .ofStatus (deadlineExceededError "Failed waiting for operation.")) := by
  induction remaining generalizing answers backoff with
  | zero =>
    unfold pollLoop
    rw [hpending 0 le_rfl]
    rfl
  | succ remaining ih =>
    have hrest : pollLoop (fun j => answers (j + 1)) backoff.wait.2 remaining = _ :=
      ih fun j hj => hpending (j + 1) (by omega)
    rw [pollLoop_pending (hpending 0 (by omega)), hrest, pollEvents_succ]

end Loop

/-! ### What an answer says -/

/-- The operation is still running. -/
def Pending (answer : GrpcStatus × Operation) : Prop :=
  answer.1.errorCode = .ok ∧ answer.2.hasError = false ∧ answer.2.done = false

/-- What an answer that is not pending should be returned as. -/
structure Settles (answer : GrpcStatus × Operation) (result : StatusOr Operation) : Prop where
  rpcError : answer.1.errorCode ≠ .ok → result.status.code = .kUnknown
  operationError : answer.2.hasError = true → result.status.code = .kUnknown
  response : answer.1.errorCode = .ok → answer.2.hasError = false → answer.2.done = true →
    result = .value answer.2

theorem verdict_eq_none_iff (answer : GrpcStatus × Operation) :
    verdict answer = none ↔ Pending answer := by
  unfold verdict Pending
  by_cases hrpc : answer.1.errorCode = .ok
  · cases herror : answer.2.hasError <;> cases hdone : answer.2.done <;> simp [hrpc]
  · simp [hrpc]

/-- An answer that is not pending is returned as it should be. -/
theorem exists_verdict {answer : GrpcStatus × Operation} (h : ¬ Pending answer) :
    ∃ result, verdict answer = some result ∧ Settles answer result ∧
      result.status.code ≠ .kDeadlineExceeded := by
  unfold verdict
  by_cases hrpc : answer.1.errorCode = .ok
  · rw [if_neg (not_not.mpr hrpc)]
    cases herror : answer.2.hasError with
    | true =>
      refine ⟨_, if_pos rfl, ⟨fun h' => absurd hrpc h', fun _ => rfl, fun _ h' => ?_⟩, nofun⟩
      rw [herror] at h'
      cases h'
    | false =>
      have hdone : answer.2.done = true := by
        by_contra hdone
        exact h ⟨hrpc, herror, Bool.eq_false_iff.mpr hdone⟩
      refine ⟨.value answer.2, ?_, ⟨fun h' => absurd hrpc h', fun h' => ?_, fun _ _ _ => rfl⟩,
        nofun⟩
      · rw [if_neg nofun, if_pos hdone]
      · rw [herror] at h'
        cases h'
  · exact ⟨_, if_pos hrpc, ⟨fun _ => rfl, fun _ => rfl, fun h' => absurd h' hrpc⟩, nofun⟩

/-! ### The whole call -/

/-- What is expected of a wait: at most 16 polls, the first answer that is not pending, and a
deadline exactly if 16 are pending. -/
structure Decisive (answers : ℕ → GrpcStatus × Operation)
    (waited : List PollEvent × StatusOr Operation) : Prop where
  bounded : waited.1.count .getOperation ≤ 16
  first : ∀ k < 16, (∀ j < k, Pending (answers j)) → ¬ Pending (answers k) →
    Settles (answers k) waited.2 ∧ waited.1 = pollEvents operationBackoff k
  deadline_iff : waited.2.status.code = .kDeadlineExceeded ↔ ∀ k < 16, Pending (answers k)
  last : (∀ k < 16, Pending (answers k)) → waited.1 = pollEvents operationBackoff 15

/-- What is expected of the wait times: a closed form, growing up to the maximum. -/
structure LawfulWaits (initial maximum : ExactDuration) (multiplier : ℚ)
    (waitTime : ℕ → ExactDuration) : Prop where
  eq_min : ∀ k, waitTime k = min maximum (scale (multiplier ^ k) initial)
  monotone : Monotone waitTime
  le : ∀ k, waitTime k ≤ maximum

theorem decisive_pollLoop (answers : ℕ → GrpcStatus × Operation) :
    Decisive answers (pollLoop answers operationBackoff kMaxTrials) := by
  by_cases hall : ∀ k < 16, Pending (answers k)
  · have hpoll : pollLoop answers operationBackoff kMaxTrials = _ := pollLoop_of_pending
      fun j hj => (verdict_eq_none_iff (answers j)).mpr (hall j (Nat.lt_succ_of_le hj))
    rw [hpoll]
    refine ⟨(count_pollEvents _ _).le, fun k hk _ hsettled => absurd (hall k hk) hsettled, ?_,
      fun _ => rfl⟩
    exact ⟨fun _ => hall, fun _ => rfl⟩
  · obtain ⟨k, hk, hfirst, hsettled⟩ :
        ∃ k < 16, (∀ j < k, Pending (answers j)) ∧ ¬ Pending (answers k) := by
      push Not at hall
      classical
      obtain ⟨hlt, hnot⟩ := Nat.find_spec hall
      refine ⟨Nat.find hall, hlt, fun j hj => ?_, hnot⟩
      by_contra hj'
      exact Nat.find_min hall hj ⟨hj.trans hlt, hj'⟩
    obtain ⟨result, hverdict, hsettles, hcode⟩ := exists_verdict hsettled
    have hpoll : pollLoop answers operationBackoff kMaxTrials = _ :=
      pollLoop_of_decided (Nat.le_of_lt_succ hk)
        (fun j hj => (verdict_eq_none_iff (answers j)).mpr (hfirst j hj)) hverdict
    rw [hpoll]
    refine ⟨?_, fun j hj hbefore hj' => ?_, ⟨fun h => absurd h hcode, fun h => absurd h hall⟩,
      fun h => absurd h hall⟩
    · rw [count_pollEvents]
      exact hk
    · -- the first answer that is not pending is one
      obtain hlt | rfl | hlt := Nat.lt_trichotomy j k
      · exact absurd (hfirst j hlt) hj'
      · exact ⟨hsettles, rfl⟩
      · exact absurd (hbefore k hlt) hsettled

theorem lawfulWaits_create (initialWaitTime maxWaitTime : ExactDuration)
    (waitTimeMultiplier : ℚ) :
    LawfulWaits (max initialWaitTime .zero) (max maxWaitTime (max initialWaitTime .zero))
      (max waitTimeMultiplier 1)
      (ExponentialBackoff.create initialWaitTime maxWaitTime waitTimeMultiplier).waitTime where
  eq_min k := by rw [ExponentialBackoff.waitTime_eq, min_comm]
  monotone := ExponentialBackoff.monotone_waitTime _ _ _
  le := ExponentialBackoff.waitTime_le _ _ _

theorem lawfulWaits_operation :
    LawfulWaits (seconds 2) (seconds 120) 2 operationBackoff.waitTime := by
  have h := lawfulWaits_create (seconds 2) (seconds 120) 2
  have hzero : max (seconds 2) .zero = seconds 2 :=
    max_eq_left (ExactDuration.seconds_le_seconds.mpr (by norm_num))
  have hmax : max (seconds 120) (seconds 2) = seconds 120 :=
    max_eq_left (ExactDuration.seconds_le_seconds.mpr (by norm_num))
  have hone : max (2 : ℚ) 1 = 2 := max_eq_left (by norm_num)
  rwa [hzero, hmax, hone] at h

/-- **Waiting for an operation is bounded and decisive**, and the sleeps between the polls follow
the law of every back-off. -/
theorem waitOperation_decisive (service : OperationsService)
    (operationName serviceName parent : String)
    (hchannel : service.createChannel serviceName = true) (hstub : service.newStub = true) :
    Decisive (service.answer operationName parent)
        (waitOperation service operationName serviceName parent) ∧
      LawfulWaits (seconds 2) (seconds 120) 2 operationBackoff.waitTime ∧
      ∀ (initialWaitTime maxWaitTime : ExactDuration) (waitTimeMultiplier : ℚ),
        LawfulWaits (max initialWaitTime .zero) (max maxWaitTime (max initialWaitTime .zero))
          (max waitTimeMultiplier 1)
          (ExponentialBackoff.create initialWaitTime maxWaitTime waitTimeMultiplier).waitTime := by
  refine ⟨?_, lawfulWaits_operation, lawfulWaits_create⟩
  have hwait : waitOperation service operationName serviceName parent =
      pollLoop (service.answer operationName parent) operationBackoff kMaxTrials := by
    simp [waitOperation, hchannel, hstub]
  rw [hwait]
  exact decisive_pollLoop _

/-- A service whose operation is pending at the first poll. -/
def secondPollService : OperationsService where
  createChannel _ := true
  newStub := true
  getOperation n _ name :=
    (⟨.ok, ""⟩, if n = 0 then ⟨name, false, .notSet⟩ else ⟨name, true, .response ⟨"", []⟩⟩)

theorem waitOperation_decisive_secondPoll :
    waitOperation secondPollService "create" "service" "p" =
      ([.getOperation, .sleepFor (seconds 2), .getOperation],
        .value ⟨"create", true, .response ⟨"", []⟩⟩) := by
  obtain ⟨hdecisive, _, _⟩ :=
    waitOperation_decisive secondPollService "create" "service" "p" rfl rfl
  have hpending : ∀ j < 1, Pending (secondPollService.answer "create" "p" j) := by
    intro j hj
    obtain rfl := Nat.lt_one_iff.mp hj
    exact ⟨rfl, rfl, rfl⟩
  have hdone : ¬ Pending (secondPollService.answer "create" "p" 1) := by
    rintro ⟨_, _, hdone⟩
    cases hdone
  obtain ⟨hsettles, hevents⟩ := hdecisive.first 1 (by decide) hpending hdone
  exact Prod.ext hevents (hsettles.response rfl rfl rfl)

end AIStreams
