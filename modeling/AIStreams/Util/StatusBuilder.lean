import AIStreams.Util.Status
import Mathlib.Data.List.Induction
import Mathlib.Logic.Function.Basic

/-!
# `StatusBuilder`

`aistreams/util/status/status_builder.{h,cc}`: an original status, and what is to be joined to its
message or logged when the builder is converted to a status.

* `code_of_toStatus`: the converted status has the code of the builder.
* `asPromised_iff`: a builder keeps the promise of its documentation in every state reached exactly
  as long as `SetCode` does not lead from an OK status to one that is not, or back.
-/

namespace AIStreams

/-- `SourceLocation`.  A null `file_name_` prints as an empty one. -/
structure SourceLocation where
  line : UInt32
  fileName : String
  deriving DecidableEq

/-- `google::LogSeverity`. -/
inductive LogSeverity
  | info
  | warning
  | error
  | fatal
  deriving DecidableEq

/-- One `LogMessage`. -/
structure LogEntry where
  severity : LogSeverity
  fileName : String
  line : UInt32
  text : String

/-- What logging reads and changes: the verbosity, the sites of `LogEveryN` with their counts, the
current stack trace, and the log. -/
structure Logger where
  vlogIsOn : Int32 → Bool
  countsByFileAndLine : SourceLocation → UInt32
  stackTrace : String
  entries : List LogEntry

/-- The destructor of a `LogMessage`, which ends the process at `FATAL`. -/
def logMessage (logger : Logger) (loc : SourceLocation) (severity : LogSeverity) (text : String) :
    OrFatal Logger :=
  if severity = .fatal then .error ⟨text⟩
  else .ok { logger with entries := logger.entries ++ [⟨severity, loc.fileName, loc.line, text⟩] }

namespace StatusBuilder

inductive MessageJoinStyle
  | kAnnotate
  | kAppend
  | kPrepend
  deriving DecidableEq

inductive LoggingMode
  | kDisabled
  | kLog
  | kVLog
  | kLogEveryN
  deriving DecidableEq

/-- The `log_severity`, `verbose_level` and `n` of a new `Rep` are left unset.  They are used only
in the logging modes that set them. -/
structure Rep where
  loggingMode : LoggingMode := .kDisabled
  logSeverity : LogSeverity := .info
  verboseLevel : Int32 := 0
  n : Int32 := 0
  streamMessage : String := ""
  shouldLogStackTrace : Bool := false
  messageJoinStyle : MessageJoinStyle := .kAnnotate

/-- `Rep(const Rep& r)`. -/
def Rep.copy (r : Rep) : Rep where
  loggingMode := r.loggingMode
  logSeverity := r.logSeverity
  verboseLevel := r.verboseLevel
  n := r.n
  streamMessage := r.streamMessage
  shouldLogStackTrace := r.shouldLogStackTrace
  messageJoinStyle := r.messageJoinStyle

end StatusBuilder

structure StatusBuilder where
  status : Status
  loc : SourceLocation
  rep : Option StatusBuilder.Rep

namespace StatusBuilder

/-! ### The operations -/

def ofStatus (originalStatus : Status) (location : SourceLocation) : StatusBuilder :=
  ⟨originalStatus, location, none⟩

def copy (sb : StatusBuilder) : StatusBuilder := ⟨sb.status, sb.loc, sb.rep.map Rep.copy⟩

/-- `operator=`. -/
def assign (b sb : StatusBuilder) : StatusBuilder :=
  { b with status := sb.status, loc := sb.loc, rep := sb.rep.map Rep.copy }

/-- `if (rep_ == nullptr) rep_ = std::make_unique<Rep>();`, then `f`. -/
def onRep (b : StatusBuilder) (f : Rep → Rep) : StatusBuilder :=
  { b with rep := some (f (b.rep.getD {})) }

def setPrepend (b : StatusBuilder) : StatusBuilder :=
  if b.status.ok then b else b.onRep fun r => { r with messageJoinStyle := .kPrepend }

def setAppend (b : StatusBuilder) : StatusBuilder :=
  if b.status.ok then b else b.onRep fun r => { r with messageJoinStyle := .kAppend }

def setNoLogging (b : StatusBuilder) : StatusBuilder :=
  { b with
    rep := b.rep.map fun r => { r with loggingMode := .kDisabled, shouldLogStackTrace := false } }

def log (level : LogSeverity) (b : StatusBuilder) : StatusBuilder :=
  if b.status.ok then b else b.onRep fun r => { r with loggingMode := .kLog, logSeverity := level }

def logEveryN (level : LogSeverity) (n : Int32) (b : StatusBuilder) : StatusBuilder :=
  if b.status.ok then b
  else if n < 1 then b.log level
  else b.onRep fun r => { r with loggingMode := .kLogEveryN, logSeverity := level, n := n }

def vLog (verboseLevel : Int32) (b : StatusBuilder) : StatusBuilder :=
  if b.status.ok then b
  else b.onRep fun r => { r with loggingMode := .kVLog, verboseLevel := verboseLevel }

def emitStackTrace (b : StatusBuilder) : StatusBuilder :=
  if b.status.ok then b
  else
    -- a new `Rep` logs at `INFO`, otherwise nothing would be emitted
    let r := b.rep.getD { loggingMode := .kLog, logSeverity := .info }
    { b with rep := some { r with shouldLogStackTrace := true } }

/-- `operator<<`, for a value that prints as `text`. -/
def stream (text : String) (b : StatusBuilder) : StatusBuilder :=
  if b.status.ok then b else b.onRep fun r => { r with streamMessage := r.streamMessage ++ text }

def setCode (code : StatusCode) (b : StatusBuilder) : StatusBuilder :=
  { b with status := .make code b.status.message }

def code (b : StatusBuilder) : StatusCode := b.status.code

/-! ### Conversion to a status -/

def joinMessageToStatus (b : StatusBuilder) (s : Status) (msg : String)
    (style : MessageJoinStyle) : Status :=
  if s.ok || msg.isEmpty then s
  else
    let newMsg :=
      match style with
      | .kAnnotate =>
        let formattedMsg :=
          "[" ++ b.loc.fileName ++ ":" ++ toString b.loc.line ++ "] " ++ msg
        if !s.message.isEmpty then s.message ++ "; " ++ formattedMsg else formattedMsg
      | .kPrepend => msg ++ s.message
      | .kAppend => s.message ++ msg
    .make s.code newMsg

def conditionallyLog (loc : SourceLocation) (rep : Rep) (logger : Logger) (result : Status) :
    OrFatal Logger :=
  let maybeStackTrace := if rep.shouldLogStackTrace then " " ++ logger.stackTrace else ""
  let text := result.toString ++ maybeStackTrace
  match rep.loggingMode with
  | .kDisabled => .ok logger
  | .kLog => logMessage logger loc rep.logSeverity text
  | .kVLog =>
    if logger.vlogIsOn rep.verboseLevel then logMessage logger loc .info text else .ok logger
  | .kLogEveryN =>
    let count := logger.countsByFileAndLine loc
    let logger := { logger with
      countsByFileAndLine := Function.update logger.countsByFileAndLine loc (count + 1) }
    if count % rep.n.toUInt32 ≠ 0 then .ok logger
    else logMessage logger loc rep.logSeverity text

/-- The status, the builder that is left, and the logger. -/
def createStatusAndConditionallyLog (b : StatusBuilder) (rep : Rep) (logger : Logger) :
    OrFatal (Status × StatusBuilder × Logger) := do
  let result := b.joinMessageToStatus b.status rep.streamMessage rep.messageJoinStyle
  let logger ← conditionallyLog b.loc rep logger result
  -- the status was consumed; it is set to an error so that nobody relies on its being OK
  return (result, { b with status := unknownError "", rep := none }, logger)

/-- `operator Status() &&`. -/
def intoStatus (b : StatusBuilder) (logger : Logger) : OrFatal (Status × StatusBuilder × Logger) :=
  match b.rep with
  | none => .ok (b.status, b, logger)
  | some rep => b.createStatusAndConditionallyLog rep logger

/-- `operator Status() const&`, which converts a copy. -/
def toStatus (b : StatusBuilder) (logger : Logger) : OrFatal (Status × Logger) :=
  match b.rep with
  | none => .ok (b.status, logger)
  | some _ => do
    let (result, _, logger) ← b.copy.intoStatus logger
    return (result, logger)

/-! ### Sequences of operations -/

/-- The operations.  `copy` goes on with a copy, and `assignTo` with another builder that this one
is assigned to. -/
inductive Op
  | setPrepend
  | setAppend
  | setNoLogging
  | log (level : LogSeverity)
  | logEveryN (level : LogSeverity) (n : Int32)
  | vLog (verboseLevel : Int32)
  | emitStackTrace
  | stream (text : String)
  | setCode (code : StatusCode)
  | copy
  | assignTo (other : StatusBuilder)

def apply (b : StatusBuilder) : Op → StatusBuilder
  | .setPrepend => b.setPrepend
  | .setAppend => b.setAppend
  | .setNoLogging => b.setNoLogging
  | .log level => b.log level
  | .logEveryN level n => b.logEveryN level n
  | .vLog verboseLevel => b.vLog verboseLevel
  | .emitStackTrace => b.emitStackTrace
  | .stream text => b.stream text
  | .setCode code => b.setCode code
  | .copy => b.copy
  | .assignTo other => other.assign b

/-- The builder after `ops`. -/
def built (original : Status) (location : SourceLocation) (ops : List Op) : StatusBuilder :=
  ops.foldl apply (ofStatus original location)

def Op.code? : Op → Option StatusCode
  | .setCode code => some code
  | _ => none

def Op.style? : Op → Option MessageJoinStyle
  | .setPrepend => some .kPrepend
  | .setAppend => some .kAppend
  | _ => none

def Op.text? : Op → Option String
  | .stream text => some text
  | _ => none

def Op.severity? : Op → Option LogSeverity
  | .log level => some level
  | .logEveryN level _ => some level
  | _ => none

/-- The code set last, that of the original status if none is. -/
def lastCode (original : Status) (ops : List Op) : StatusCode :=
  (ops.filterMap Op.code?).getLastD original.code

/-- The style selected last, annotation if none is. -/
def lastStyle (ops : List Op) : MessageJoinStyle := (ops.filterMap Op.style?).getLastD .kAnnotate

/-- All streamed values, one after the other. -/
def streamed (ops : List Op) : String := String.join (ops.filterMap Op.text?)

/-- The message of an original status with an additional one. -/
def MessageJoinStyle.join (location : SourceLocation) (message extra : String) :
    MessageJoinStyle → String
  | .kAnnotate =>
    (if message = "" then "" else message ++ "; ") ++
      ("[" ++ location.fileName ++ ":" ++ toString location.line ++ "] " ++ extra)
  | .kPrepend => extra ++ message
  | .kAppend => message ++ extra

/-- The message of `original` after `ops`, unchanged when nothing was streamed. -/
def joinedMessage (original : Status) (location : SourceLocation) (ops : List Op) : String :=
  if streamed ops = "" then original.message
  else (lastStyle ops).join location original.message (streamed ops)

/-- **What the documentation promises** of the conversion after `ops`. -/
structure AsPromised (original : Status) (location : SourceLocation) (ops : List Op) : Prop where
  /-- On an OK status all operations are without effect and nothing is logged. -/
  inert : original.ok = true → ∀ logger,
    ∃ result, (built original location ops).toStatus logger = .ok (result, logger) ∧
      result.ok = true
  /-- Any other status gets the last code and the joined message. -/
  joined : original.ok = false → ∀ logger logger' result,
    (built original location ops).toStatus logger = .ok (result, logger') →
      result.code = lastCode original ops ∧ result.message = joinedMessage original location ops
  /-- Without a request to log at `FATAL` the conversion returns. -/
  returns : (∀ op ∈ ops, op.severity? ≠ some .fatal) → ∀ logger,
    ∃ converted, (built original location ops).toStatus logger = .ok converted

/-- `SetCode` leads from an OK original to an OK status, and from any other to one that is not. -/
def Op.KeepsOk (original : Status) : Op → Prop
  | .setCode code => code = .kOk ↔ original.ok = true
  | _ => True

/-! ### Lemmas -/

@[simp] theorem copy_eq (b : StatusBuilder) : b.copy = b := by
  obtain ⟨status, loc, _ | rep⟩ := b <;> rfl

@[simp] theorem assign_eq (b sb : StatusBuilder) : b.assign sb = sb := copy_eq sb

/-- The `Rep` of a builder, a new one if it has none yet. -/
def options (b : StatusBuilder) : Rep := b.rep.getD {}

@[simp] theorem onRep_options (b : StatusBuilder) (f : Rep → Rep) :
    (b.onRep f).options = f b.options := rfl

@[simp] theorem setCode_options (b : StatusBuilder) (code : StatusCode) :
    (b.setCode code).options = b.options := rfl

theorem built_append (original : Status) (location : SourceLocation) (ops : List Op) (op : Op) :
    built original location (ops ++ [op]) = (built original location ops).apply op := by
  simp [built]

/-! ### The conversion -/

theorem exists_of_logMessage {severity : LogSeverity} (h : severity ≠ .fatal) (logger : Logger)
    (loc : SourceLocation) (text : String) :
    ∃ logger', logMessage logger loc severity text = .ok logger' := by
  rw [logMessage, if_neg h]
  exact ⟨_, rfl⟩

theorem exists_of_conditionallyLog {rep : Rep} (h : rep.logSeverity ≠ .fatal)
    (loc : SourceLocation) (logger : Logger) (result : Status) :
    ∃ logger', conditionallyLog loc rep logger result = .ok logger' := by
  unfold conditionallyLog
  cases rep.loggingMode with
  | kDisabled => exact ⟨logger, rfl⟩
  | kLog => exact exists_of_logMessage h _ _ _
  | kVLog =>
    dsimp only
    split
    · exact exists_of_logMessage (by decide) _ _ _
    · exact ⟨logger, rfl⟩
  | kLogEveryN =>
    dsimp only
    split
    · exact ⟨_, rfl⟩
    · exact exists_of_logMessage h _ _ _

/-- The status with the additional message. -/
def joinedStatus (b : StatusBuilder) : Status :=
  b.joinMessageToStatus b.status b.options.streamMessage b.options.messageJoinStyle

theorem toStatus_of_none {b : StatusBuilder} (h : b.rep = none) (logger : Logger) :
    b.toStatus logger = .ok (b.status, logger) := by
  rw [toStatus, h]

theorem joinedStatus_of_none {b : StatusBuilder} (h : b.rep = none) :
    b.joinedStatus = b.status := by
  simp [joinedStatus, options, h, joinMessageToStatus]

theorem toStatus_of_some {b : StatusBuilder} {rep : Rep} (h : b.rep = some rep) (logger : Logger) :
    b.toStatus logger =
      conditionallyLog b.loc rep logger b.joinedStatus >>= fun logger =>
        .ok (b.joinedStatus, logger) := by
  simp only [toStatus, h, copy_eq, intoStatus, createStatusAndConditionallyLog, joinedStatus,
    options, Option.getD_some]
  cases conditionallyLog b.loc rep logger _ <;> rfl

/-- Both conversions give one status and log alike. -/
theorem intoStatus_eq_toStatus (b : StatusBuilder) (logger : Logger) :
    (b.intoStatus logger >>= fun r => .ok (r.1, r.2.2)) = b.toStatus logger := by
  cases h : b.rep with
  | none =>
    rw [toStatus_of_none h, intoStatus, h]
    rfl
  | some rep =>
    rw [toStatus, h, copy_eq]
    rfl

theorem eq_of_toStatus {b : StatusBuilder} {logger logger' : Logger} {result : Status}
    (h : b.toStatus logger = .ok (result, logger')) : result = b.joinedStatus := by
  cases hrep : b.rep with
  | none =>
    rw [toStatus_of_none hrep] at h
    rw [joinedStatus_of_none hrep]
    cases h
    rfl
  | some rep =>
    rw [toStatus_of_some hrep] at h
    obtain ⟨_, _, hresult⟩ := OrFatal.of_bind_eq_ok h
    cases hresult
    rfl

theorem exists_of_toStatus {b : StatusBuilder} (h : b.options.logSeverity ≠ .fatal)
    (logger : Logger) : ∃ converted, b.toStatus logger = .ok converted := by
  cases hrep : b.rep with
  | none => exact ⟨_, toStatus_of_none hrep logger⟩
  | some rep =>
    rw [options, hrep, Option.getD_some] at h
    obtain ⟨logger', hlog⟩ := exists_of_conditionallyLog h b.loc logger b.joinedStatus
    rw [toStatus_of_some hrep, hlog]
    exact ⟨_, rfl⟩

theorem joinMessageToStatus_of_ok {b : StatusBuilder} {s : Status} (h : s.ok = true) (msg : String)
    (style : MessageJoinStyle) : b.joinMessageToStatus s msg style = s := by
  simp [joinMessageToStatus, h]

/-- The code of the joined status is that of the builder. -/
theorem joinMessageToStatus_code (b : StatusBuilder) (s : Status) (msg : String)
    (style : MessageJoinStyle) : (b.joinMessageToStatus s msg style).code = s.code := by
  unfold joinMessageToStatus
  split <;> rfl

theorem joinMessageToStatus_message {b : StatusBuilder} {s : Status} (h : s.ok = false)
    (msg : String) (style : MessageJoinStyle) :
    (b.joinMessageToStatus s msg style).message =
      if msg = "" then s.message else style.join b.loc s.message msg := by
  have hcode : s.code ≠ .kOk := by
    intro hcode
    rw [(Status.ok_iff_code s).mpr hcode] at h
    cases h
  by_cases hmsg : msg = ""
  · simp [joinMessageToStatus, hmsg]
  · cases style <;> by_cases hs : s.message = "" <;>
      simp [joinMessageToStatus, h, hmsg, hs, Status.message_make hcode, MessageJoinStyle.join,
        String.append_assoc]

/-- **The converted status has the code of the builder.** -/
theorem code_of_toStatus {b : StatusBuilder} {logger logger' : Logger} {result : Status}
    (h : b.toStatus logger = .ok (result, logger')) : result.code = b.code := by
  rw [eq_of_toStatus h]
  exact joinMessageToStatus_code b b.status _ _

/-! ### What the operations preserve -/

/-- A builder that does nothing: its status is OK and it has no `Rep`. -/
structure Inert (b : StatusBuilder) : Prop where
  ok : b.status.ok = true
  rep : b.rep = none

theorem Inert.apply {original : Status} {b : StatusBuilder} (hb : Inert b)
    (horiginal : original.ok = true) {op : Op} (hop : op.KeepsOk original) :
    Inert (b.apply op) := by
  obtain ⟨hok, hrep⟩ := hb
  cases op with
  | setNoLogging => exact ⟨hok, by simp [StatusBuilder.apply, setNoLogging, hrep]⟩
  | setCode code =>
    have hcode : code = .kOk := hop.mpr horiginal
    exact ⟨by simp [StatusBuilder.apply, setCode, hcode], hrep⟩
  | copy =>
    rw [StatusBuilder.apply, copy_eq]
    exact ⟨hok, hrep⟩
  | assignTo other =>
    rw [StatusBuilder.apply, assign_eq]
    exact ⟨hok, hrep⟩
  | _ =>
    -- these return at once, as the status is OK
    constructor <;>
      simp [StatusBuilder.apply, setPrepend, setAppend, log, logEveryN, vLog, emitStackTrace,
        stream, hok, hrep]

/-- A builder of an original status that is not OK has collected what `ops` add to it. -/
structure Collects (original : Status) (location : SourceLocation) (ops : List Op)
    (b : StatusBuilder) : Prop where
  notOk : b.status.ok = false
  code : b.status.code = lastCode original ops
  message : b.status.message = original.message
  loc : b.loc = location
  text : b.options.streamMessage = streamed ops
  style : b.options.messageJoinStyle = lastStyle ops
  severity : b.options.logSeverity = .fatal → ∃ op ∈ ops, op.severity? = some .fatal

@[simp] theorem lastCode_append (original : Status) (ops : List Op) (op : Op) :
    lastCode original (ops ++ [op]) = op.code?.getD (lastCode original ops) := by
  cases h : op.code? <;> simp [lastCode, List.filterMap_append, h]

@[simp] theorem lastStyle_append (ops : List Op) (op : Op) :
    lastStyle (ops ++ [op]) = op.style?.getD (lastStyle ops) := by
  cases h : op.style? <;> simp [lastStyle, List.filterMap_append, h]

@[simp] theorem streamed_append (ops : List Op) (op : Op) :
    streamed (ops ++ [op]) = streamed ops ++ op.text?.getD "" := by
  cases h : op.text? <;> simp [streamed, List.filterMap_append, String.join_append, h]

variable {original : Status} {location : SourceLocation} {ops : List Op} {b : StatusBuilder}

theorem collects_ofStatus (h : original.ok = false) :
    Collects original location [] (ofStatus original location) where
  notOk := h
  code := rfl
  message := rfl
  loc := rfl
  text := rfl
  style := rfl
  severity h := by cases h

/-- An operation that keeps the status collects what it changes of the options. -/
theorem Collects.of_options (hb : Collects original location ops b) {b' : StatusBuilder} {op : Op}
    (hcode : op.code? = none) (hstatus : b'.status = b.status) (hloc : b'.loc = b.loc)
    (htext : b'.options.streamMessage = b.options.streamMessage ++ op.text?.getD "")
    (hstyle : b'.options.messageJoinStyle = op.style?.getD b.options.messageJoinStyle)
    (hseverity : b'.options.logSeverity = .fatal →
      b.options.logSeverity = .fatal ∨ op.severity? = some .fatal) :
    Collects original location (ops ++ [op]) b' where
  notOk := by rw [hstatus, hb.notOk]
  code := by rw [hstatus, hb.code, lastCode_append, hcode, Option.getD_none]
  message := by rw [hstatus, hb.message]
  loc := by rw [hloc, hb.loc]
  text := by rw [htext, hb.text, streamed_append]
  style := by rw [hstyle, hb.style, lastStyle_append]
  severity h := by
    rcases hseverity h with hold | hnew
    · obtain ⟨op', hmem, hfatal⟩ := hb.severity hold
      exact ⟨op', List.mem_append_left _ hmem, hfatal⟩
    · exact ⟨op, by simp, hnew⟩

theorem Collects.setCode (hb : Collects original location ops b) {code : StatusCode}
    (hcode : code ≠ .kOk) :
    Collects original location (ops ++ [.setCode code]) (b.setCode code) where
  notOk := by simpa [StatusBuilder.setCode] using hcode
  code := by simp [StatusBuilder.setCode, Op.code?]
  message := by rw [StatusBuilder.setCode, Status.message_make hcode, hb.message]
  loc := hb.loc
  text := by simpa [Op.text?] using hb.text
  style := by simpa [Op.style?] using hb.style
  severity h := by
    obtain ⟨op', hmem, hfatal⟩ := hb.severity h
    exact ⟨op', List.mem_append_left _ hmem, hfatal⟩

theorem Collects.log (hb : Collects original location ops b) (level : LogSeverity) {op : Op}
    (hop : op = .log level ∨ ∃ n, op = .logEveryN level n) :
    Collects original location (ops ++ [op]) (b.log level) := by
  have hlog :
      b.log level = b.onRep fun r => { r with loggingMode := .kLog, logSeverity := level } :=
    if_neg (by simp [hb.notOk])
  rw [hlog]
  rcases hop with rfl | ⟨n, rfl⟩
  all_goals
    refine hb.of_options rfl rfl rfl (by simp [Op.text?]) rfl fun h => ?_
    exact .inr (congrArg some h)

/-- **What one operation does** to a builder whose original status is not OK. -/
theorem Collects.apply (hb : Collects original location ops b) (horiginal : original.ok = false)
    {op : Op} (hop : op.KeepsOk original) :
    Collects original location (ops ++ [op]) (b.apply op) := by
  have hok : ¬ b.status.ok = true := by simp [hb.notOk]
  cases op with
  | setPrepend =>
    rw [StatusBuilder.apply, setPrepend, if_neg hok]
    exact hb.of_options rfl rfl rfl (by simp [Op.text?]) rfl .inl
  | setAppend =>
    rw [StatusBuilder.apply, setAppend, if_neg hok]
    exact hb.of_options rfl rfl rfl (by simp [Op.text?]) rfl .inl
  | setNoLogging =>
    have hoptions : b.setNoLogging.options =
        { b.options with
          loggingMode := .kDisabled
          shouldLogStackTrace := false } := by
      cases h : b.rep <;> simp [options, setNoLogging, h]
    refine hb.of_options rfl rfl rfl ?_ ?_ ?_
    · simp [StatusBuilder.apply, hoptions, Op.text?]
    · simp [StatusBuilder.apply, hoptions, Op.style?]
    · simp only [StatusBuilder.apply, hoptions]
      exact .inl
  | log level => exact hb.log level (.inl rfl)
  | logEveryN level n =>
    rw [StatusBuilder.apply, logEveryN, if_neg hok]
    split
    · exact hb.log level (.inr ⟨n, rfl⟩)
    · refine hb.of_options rfl rfl rfl (by simp [Op.text?]) rfl fun h => ?_
      exact .inr (congrArg some h)
  | vLog verboseLevel =>
    rw [StatusBuilder.apply, vLog, if_neg hok]
    exact hb.of_options rfl rfl rfl (by simp [Op.text?]) rfl .inl
  | emitStackTrace =>
    rw [StatusBuilder.apply, emitStackTrace, if_neg hok]
    refine hb.of_options rfl rfl rfl ?_ ?_ ?_
    · cases h : b.rep <;> simp [options, h, Op.text?]
    · cases h : b.rep <;> simp [options, h, Op.style?]
    · cases h : b.rep <;> simp [options, h]
      exact .inl
  | stream text =>
    rw [StatusBuilder.apply, stream, if_neg hok]
    exact hb.of_options rfl rfl rfl rfl rfl .inl
  | setCode code =>
    refine hb.setCode fun hcode => ?_
    rw [hop.mp hcode] at horiginal
    cases horiginal
  | copy =>
    rw [StatusBuilder.apply, copy_eq]
    exact hb.of_options rfl rfl rfl (by simp [Op.text?]) rfl .inl
  | assignTo other =>
    rw [StatusBuilder.apply, assign_eq]
    exact hb.of_options rfl rfl rfl (by simp [Op.text?]) rfl .inl

/-! ### Runs -/

theorem inert_built (horiginal : original.ok = true) (hops : ∀ op ∈ ops, op.KeepsOk original) :
    Inert (built original location ops) := by
  induction ops using List.reverseRecOn with
  | nil => exact ⟨horiginal, rfl⟩
  | append_singleton ops op ih =>
    rw [built_append]
    apply Inert.apply _ horiginal
    · exact hops op (by simp)
    · exact ih fun op' hmem => hops op' (List.mem_append_left _ hmem)

theorem collects_built (horiginal : original.ok = false) (hops : ∀ op ∈ ops, op.KeepsOk original) :
    Collects original location ops (built original location ops) := by
  induction ops using List.reverseRecOn with
  | nil => exact collects_ofStatus horiginal
  | append_singleton ops op ih =>
    rw [built_append]
    apply Collects.apply _ horiginal
    · exact hops op (by simp)
    · exact ih fun op' hmem => hops op' (List.mem_append_left _ hmem)

theorem Collects.joinedStatus (hb : Collects original location ops b) :
    b.joinedStatus.code = lastCode original ops ∧
      b.joinedStatus.message = joinedMessage original location ops := by
  refine ⟨(joinMessageToStatus_code b b.status _ _).trans hb.code, ?_⟩
  rw [StatusBuilder.joinedStatus, joinMessageToStatus_message hb.notOk, hb.text, hb.style,
    hb.message, hb.loc, joinedMessage]

example : (built (.make .kAborted "hello") ⟨1337, "/foo/foo.cc"⟩ [.stream "world"]).joinedStatus =
    .make .kAborted "hello; [/foo/foo.cc:1337] world" := by decide

/-- **A builder keeps its promise** as long as `SetCode` keeps the status OK or not OK. -/
theorem asPromised (location : SourceLocation) (hops : ∀ op ∈ ops, op.KeepsOk original) :
    AsPromised original location ops where
  inert horiginal logger := by
    have hb : Inert (built original location ops) := inert_built horiginal hops
    exact ⟨_, toStatus_of_none hb.rep logger, hb.ok⟩
  joined horiginal logger logger' result h := by
    rw [eq_of_toStatus h]
    exact (collects_built horiginal hops).joinedStatus
  returns hfatal logger := by
    cases horiginal : original.ok with
    | true => exact ⟨_, toStatus_of_none (inert_built horiginal hops).rep logger⟩
    | false =>
      apply exists_of_toStatus
      intro hseverity
      obtain ⟨op, hmem, hop⟩ := (collects_built horiginal hops).severity hseverity
      exact hfatal op hmem hop

/-! ### When the promise is broken -/

theorem join_ne_empty (location : SourceLocation) (message : String) {extra : String}
    (h : extra ≠ "") (style : MessageJoinStyle) : style.join location message extra ≠ "" := by
  cases style <;> simp [MessageJoinStyle.join, h]

/-- A logger that has logged nothing. -/
def silent : Logger where
  vlogIsOn _ := false
  countsByFileAndLine _ := 0
  stackTrace := ""
  entries := []

/-- A builder that has left OK breaks the promise at once. -/
theorem not_asPromised_of_ok (horiginal : original.ok = true)
    (hb : (built original location ops).status.ok = false) (logger : Logger) :
    ¬ AsPromised original location ops := by
  intro h
  obtain ⟨result, hresult, hok⟩ := h.inert horiginal logger
  have hcode := code_of_toStatus hresult
  rw [(Status.ok_iff_code result).mp hok] at hcode
  rw [(Status.ok_iff_code _).mpr hcode.symm] at hb
  cases hb

/-- After `SetNoLogging` nothing is logged. -/
theorem toStatus_setNoLogging (b : StatusBuilder) (logger : Logger) :
    b.setNoLogging.toStatus logger = .ok (b.setNoLogging.joinedStatus, logger) := by
  cases hrep : b.rep with
  | none =>
    have hnone : b.setNoLogging.rep = none := by simp [setNoLogging, hrep]
    rw [toStatus_of_none hnone, joinedStatus_of_none hnone]
  | some rep =>
    have hsome : b.setNoLogging.rep =
        some { rep with loggingMode := .kDisabled, shouldLogStackTrace := false } := by
      simp [setNoLogging, hrep]
    rw [toStatus_of_some hsome]
    rfl

/-- A builder that has become OK drops what is streamed into it. -/
theorem not_asPromised_stream (horiginal : original.ok = false)
    (hb : (built original location ops).status.ok = true) {text : String} (htext : text ≠ "") :
    ¬ AsPromised original location (ops ++ [.setNoLogging] ++ [.stream text]) := by
  intro h
  let b := (built original location ops).setNoLogging
  have hok : b.status.ok = true := hb
  have hbuilt : built original location (ops ++ [.setNoLogging] ++ [.stream text]) = b := by
    rw [built_append, built_append]
    exact if_pos hok
  have hstatus := toStatus_setNoLogging (built original location ops) silent
  obtain ⟨-, hmessage⟩ := h.joined horiginal silent silent b.joinedStatus
    (by rw [hbuilt]; exact hstatus)
  have hstreamed : streamed (ops ++ [.setNoLogging] ++ [.stream text]) ≠ "" := by
    rw [streamed_append]
    simp [Op.text?, htext]
  rw [joinedStatus, joinMessageToStatus_of_ok hok, Status.message_of_ok hok, joinedMessage,
    if_neg hstreamed] at hmessage
  exact join_ne_empty _ _ hstreamed _ hmessage.symm

theorem not_asPromised_of_setCode (location : SourceLocation) (ops : List Op) {code : StatusCode}
    (hcode : ¬ (Op.setCode code).KeepsOk original) :
    ∃ more : List Op, (∀ op ∈ more, op.code? = none) ∧
      ¬ AsPromised original location (ops ++ [.setCode code] ++ more) := by
  have hstatus : (built original location (ops ++ [.setCode code])).status.ok = (code == .kOk) := by
    rw [built_append]
    rfl
  cases horiginal : original.ok with
  | true =>
    have hne : code ≠ .kOk := fun heq => hcode ⟨fun _ => horiginal, fun _ => heq⟩
    refine ⟨[], by simp, ?_⟩
    rw [List.append_nil]
    exact not_asPromised_of_ok horiginal (by simpa [hstatus] using hne) silent
  | false =>
    have heq : code = .kOk := by
      by_contra hne
      exact hcode ⟨fun heq => absurd heq hne, fun hok => by rw [hok] at horiginal; cases horiginal⟩
    have hok : (built original location (ops ++ [.setCode code])).status.ok = true := by
      rw [hstatus, heq]
      rfl
    have htext : "x" ≠ "" := by decide
    refine ⟨[.setNoLogging, .stream "x"], by simp [Op.code?], ?_⟩
    simpa using not_asPromised_stream horiginal hok htext

/-- **When a builder keeps its promise**, in every state reached and after any operations from there
that set no code: exactly if no `SetCode` leads from an OK original to a status that is not OK, or
from another original to an OK status. -/
theorem asPromised_iff (original : Status) (location : SourceLocation) (ops : List Op) :
    (∀ before, before <+: ops → ∀ more : List Op, (∀ op ∈ more, op.code? = none) →
      AsPromised original location (before ++ more)) ↔ ∀ op ∈ ops, op.KeepsOk original := by
  constructor
  · intro h op hmem
    by_contra hnot
    obtain ⟨before, after, rfl⟩ := List.append_of_mem hmem
    cases op with
    | setCode code =>
      obtain ⟨more, hmore, hbroken⟩ := not_asPromised_of_setCode location before hnot
      exact hbroken (h _ ⟨after, by simp⟩ more hmore)
    | _ => exact hnot trivial
  · intro hops before hbefore more hmore
    apply asPromised
    intro op hmem
    rcases List.mem_append.mp hmem with hold | hnew
    · exact hops op (hbefore.mem hold)
    · have hcode := hmore op hnew
      cases op with
      | setCode code => cases hcode
      | _ => trivial

/-- `SetCode` makes an OK status an error. -/
theorem not_asPromised_setCode :
    ¬ AsPromised okStatus ⟨1337, "/foo/foo.cc"⟩ [.setCode .kInternal] := by
  intro h
  obtain ⟨result, hresult, hok⟩ := h.inert rfl silent
  cases hresult
  cases hok

end StatusBuilder

end AIStreams
