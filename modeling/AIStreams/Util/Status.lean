import Mathlib.Data.Int.Notation

/-!
# `Status`, `StatusOr` and the grpc status delegate

`aistreams/util/status/status.{h,cc}`, `canonical_errors.h`, `statusor.{h,cc}` and
`aistreams/util/grpc_status_delegate.cc`.  A `Status` keeps the optional `state_` of
the source, so a status built from `kOk` is not the same value as `okStatus`
although both are `ok`.  A `StatusOr` carries the reason it has no value.

`mapStatusCode_eq_kOk` and `makeStatusFromRpcStatus_ok`: the translation of a grpc
status is OK exactly when the grpc status is.
-/

namespace AIStreams

universe u

/-- What a `LOG(FATAL)` or a failed `CHECK` leaves behind: the process is gone. -/
structure Fatal where
  message : String
  deriving DecidableEq

/-- A computation that may reach a `LOG(FATAL)`. -/
abbrev OrFatal (α : Type u) := Except Fatal α

theorem OrFatal.ok_bind {α β : Type u} (a : α) (f : α → OrFatal β) :
    (.ok a : OrFatal α) >>= f = f a := rfl

theorem OrFatal.of_bind_eq_ok {α β : Type u} {x : OrFatal α} {f : α → OrFatal β} {b : β}
    (h : x >>= f = .ok b) : ∃ a, x = .ok a ∧ f a = .ok b := by
  cases x with
  | error e => cases h
  | ok a => exact ⟨a, rfl, h⟩

/-- `enum class StatusCode`.  The reserved enumerator and the numbers that the C API
casts into the enumeration are `unlisted`. -/
inductive StatusCode
  | kOk
  | kCancelled
  | kUnknown
  | kInvalidArgument
  | kDeadlineExceeded
  | kNotFound
  | kAlreadyExists
  | kPermissionDenied
  | kResourceExhausted
  | kFailedPrecondition
  | kAborted
  | kOutOfRange
  | kUnimplemented
  | kInternal
  | kUnavailable
  | kDataLoss
  | kUnauthenticated
  | unlisted (value : ℤ) (h : ¬ (0 ≤ value ∧ value ≤ 16))
  deriving DecidableEq

/-- `Status::State`. -/
structure Status.State where
  code : StatusCode
  msg : String
  deriving DecidableEq

/-- `class Status`; `state = none` is the null `state_` of `Status()`. -/
structure Status where
  state : Option Status.State
  deriving DecidableEq

namespace Status

/-- `Status(code, msg)`. -/
def make (code : StatusCode) (msg : String) : Status := ⟨some ⟨code, msg⟩⟩

def ok (s : Status) : Bool :=
  match s.state with
  | none => true
  | some st => st.code == .kOk

def code (s : Status) : StatusCode :=
  match s.state with
  | none => .kOk
  | some st => st.code

def errorMessage (s : Status) : String :=
  match s.state with
  | none => ""
  | some st => if st.code = .kOk then "" else st.msg

def message (s : Status) : String := s.errorMessage

/-- `Status::ToString`. -/
def toString (s : Status) : String :=
  match s.state with
  | none => "OK"
  | some st =>
    let type :=
      match st.code with
      | .kCancelled => "Cancelled"
      | .kUnknown => "Unknown"
      | .kInvalidArgument => "Invalid argument"
      | .kDeadlineExceeded => "Deadline exceeded"
      | .kNotFound => "Not found"
      | .kAlreadyExists => "Already exists"
      | .kPermissionDenied => "Permission denied"
      | .kUnauthenticated => "Unauthenticated"
      | .kResourceExhausted => "Resource exhausted"
      | .kFailedPrecondition => "Failed precondition"
      | .kAborted => "Aborted"
      | .kOutOfRange => "Out of range"
      | .kUnimplemented => "Unimplemented"
      | .kInternal => "Internal"
      | .kUnavailable => "Unavailable"
      | .kDataLoss => "Data loss"
      -- `kOk` has no case of its own in the source and falls to the default
      | .kOk => "Unknown code(0)"
      | .unlisted n _ => "Unknown code(" ++ ToString.toString n ++ ")"
    type ++ ": " ++ st.msg

@[simp] theorem ok_make (c : StatusCode) (m : String) : (make c m).ok = (c == .kOk) := rfl

@[simp] theorem code_make (c : StatusCode) (m : String) : (make c m).code = c := rfl

theorem ok_iff_code (s : Status) : s.ok = true ↔ s.code = .kOk := by
  obtain ⟨_ | st⟩ := s
  · simp [ok, code]
  · simp [ok, code]

theorem message_make {c : StatusCode} (h : c ≠ .kOk) (m : String) : (make c m).message = m :=
  if_neg h

/-- An OK status has no message, whatever it was built with. -/
theorem message_of_ok {s : Status} (h : s.ok = true) : s.message = "" := by
  obtain ⟨_ | st⟩ := s
  · rfl
  · exact if_pos (by simpa [ok] using h)

end Status

/-- `OkStatus()`. -/
def okStatus : Status := ⟨none⟩

@[simp] theorem okStatus_ok : okStatus.ok = true := rfl

@[simp] theorem okStatus_code : okStatus.code = .kOk := rfl

/-! ### Canonical errors -/

def deadlineExceededError (message : String) : Status := .make .kDeadlineExceeded message
def failedPreconditionError (message : String) : Status := .make .kFailedPrecondition message
def internalError (message : String) : Status := .make .kInternal message
def invalidArgumentError (message : String) : Status := .make .kInvalidArgument message
def notFoundError (message : String) : Status := .make .kNotFound message
def unavailableError (message : String) : Status := .make .kUnavailable message
def unimplementedError (message : String) : Status := .make .kUnimplemented message
def unknownError (message : String) : Status := .make .kUnknown message

def isCancelled (s : Status) : Bool := s.code == .kCancelled
def isResourceExhausted (s : Status) : Bool := s.code == .kResourceExhausted

@[simp] theorem deadlineExceededError_ok (m : String) : (deadlineExceededError m).ok = false := rfl
@[simp] theorem failedPreconditionError_ok (m : String) :
    (failedPreconditionError m).ok = false := rfl
@[simp] theorem internalError_ok (m : String) : (internalError m).ok = false := rfl
@[simp] theorem invalidArgumentError_ok (m : String) : (invalidArgumentError m).ok = false := rfl
@[simp] theorem notFoundError_ok (m : String) : (notFoundError m).ok = false := rfl
@[simp] theorem unavailableError_ok (m : String) : (unavailableError m).ok = false := rfl
@[simp] theorem unimplementedError_ok (m : String) : (unimplementedError m).ok = false := rfl
@[simp] theorem unknownError_ok (m : String) : (unknownError m).ok = false := rfl

/-! ### `StatusOr` -/

/-- `StatusOr<T>`: a value, or a status that is not OK. -/
inductive StatusOr (α : Type u)
  | error (status : Status) (h : status.ok = false)
  | value (a : α)

namespace StatusOr

variable {α : Type u}

/-- `StatusOr(status)`: an OK argument is replaced by an internal error
(`Helper::HandleInvalidStatusCtorArg`). -/
def ofStatus (s : Status) : StatusOr α :=
  if h : s.ok = false then .error s h
  else .error (internalError "An OK status is not a valid constructor argument to StatusOr<T>") rfl

def status : StatusOr α → Status
  | error s _ => s
  | value _ => okStatus

def ok (s : StatusOr α) : Bool := s.status.ok

/-- `ValueOrDie()`, with the crash of `Helper::Crash`. -/
def valueOrDie : StatusOr α → OrFatal α
  | error s _ =>
    .error ⟨"Attempting to fetch value instead of handling error " ++ s.toString⟩
  | value a => .ok a

@[simp] theorem ok_value (a : α) : (value a).ok = true := rfl

@[simp] theorem ok_error (s : Status) (h : s.ok = false) : (error s h : StatusOr α).ok = false := h

theorem ok_iff {s : StatusOr α} : s.ok = true ↔ ∃ a, s = .value a := by
  cases s with
  | error st h => simp
  | value a => simp

theorem ofStatus_of_not_ok {s : Status} (h : s.ok = false) :
    (ofStatus s : StatusOr α) = .error s h := by
  simp [ofStatus, h]

@[simp] theorem ok_ofStatus (s : Status) : (ofStatus s : StatusOr α).ok = false := by
  unfold ofStatus
  split
  · assumption
  · rfl

theorem ofStatus_ne_value (s : Status) (a : α) : ofStatus s ≠ .value a := by
  intro h
  have hok : (ofStatus s : StatusOr α).ok = false := ok_ofStatus s
  rw [h] at hok
  cases hok

/-- **`ValueOrDie` crashes exactly on a `StatusOr` without a value.** -/
theorem valueOrDie_eq_ok_iff {s : StatusOr α} : (∃ a, s.valueOrDie = .ok a) ↔ s.ok = true := by
  cases s with
  | error st h => simp [valueOrDie]
  | value a => simp [valueOrDie]

end StatusOr

/-! ### grpc statuses -/

/-- `grpc::StatusCode`; `DO_NOT_USE` and every other number are `unlisted`. -/
inductive GrpcStatusCode
  | ok
  | cancelled
  | unknown
  | invalidArgument
  | deadlineExceeded
  | notFound
  | alreadyExists
  | permissionDenied
  | resourceExhausted
  | failedPrecondition
  | aborted
  | outOfRange
  | unimplemented
  | internal
  | unavailable
  | dataLoss
  | unauthenticated
  | unlisted (value : ℤ) (h : ¬ (0 ≤ value ∧ value ≤ 16))
  deriving DecidableEq

/-- `grpc::Status`. -/
structure GrpcStatus where
  errorCode : GrpcStatusCode
  errorMessage : String
  deriving DecidableEq

def mapStatusCode : GrpcStatusCode → StatusCode
  | .ok => .kOk
  | .cancelled => .kCancelled
  | .unknown => .kUnknown
  | .invalidArgument => .kInvalidArgument
  | .deadlineExceeded => .kDeadlineExceeded
  | .notFound => .kNotFound
  | .alreadyExists => .kAlreadyExists
  | .permissionDenied => .kPermissionDenied
  | .unauthenticated => .kUnauthenticated
  | .resourceExhausted => .kResourceExhausted
  | .failedPrecondition => .kFailedPrecondition
  | .aborted => .kAborted
  | .outOfRange => .kOutOfRange
  | .unimplemented => .kUnimplemented
  | .internal => .kInternal
  | .unavailable => .kUnavailable
  | .dataLoss => .kDataLoss
  | .unlisted _ _ => .kUnknown

/-- `MakeStatusFromRpcStatus`. -/
def makeStatusFromRpcStatus (status : GrpcStatus) : Status :=
  .make (mapStatusCode status.errorCode) status.errorMessage

theorem mapStatusCode_eq_kOk (c : GrpcStatusCode) : mapStatusCode c = .kOk ↔ c = .ok := by
  cases c <;> simp [mapStatusCode]

/-- **A translated grpc status is OK exactly when the grpc status is.** -/
theorem makeStatusFromRpcStatus_ok (s : GrpcStatus) :
    (makeStatusFromRpcStatus s).ok = true ↔ s.errorCode = .ok := by
  rw [Status.ok_iff_code, makeStatusFromRpcStatus, Status.code_make, mapStatusCode_eq_kOk]

end AIStreams
