import AIStreams.Transition.System
import AIStreams.Util.Status
import Mathlib.Logic.Function.Basic

/-!
# The properties of `aissink` and `aissrc`

The setters, `start` and `stop` of `aistreams/gstreamer/gst-plugins/aissink.c` and `aissrc.c`,
over the repeated life cycles of an element.  Whether the connection is open is only kept in a
pointer, `ais_sender` or `ais_receiver`.

* `writable_iff`: the setters follow the life cycle exactly as long as no `stop` has left the
  pointer behind.
* `rejects_of_stopped`: after a `stop` every set is turned down, until the next `start`.
* `opened_eq`: the connection is the one that the properties describe.
-/

namespace AIStreams

/-! ### Elements -/

/-- `ais_sender` or `ais_receiver`: `NULL`, an object that was opened with these properties, or
one that has been deleted. -/
inductive AisPointer (P : Type)
  | null
  | opened (properties : P → String)
  | deleted

def AisPointer.isNull {P : Type} : AisPointer P → Bool
  | .null => true
  | .opened _ => false
  | .deleted => false

/-- An element, as far as its string properties are concerned. -/
structure AisElement (P : Type) where
  properties : P → String
  connection : AisPointer P

/-- The error of a setter: a `GError` of the code `GST_URI_ERROR_BAD_STATE`, or an error that is
posted as `RESOURCE, NOT_FOUND`. -/
inductive AisSetError
  | badState (message : String)
  | notFound (message : String)
  deriving DecidableEq

/-- How a setter returns. -/
structure AisSetResult (P : Type) where
  ok : Bool
  element : AisElement P
  error : Option AisSetError

namespace AisElement

variable {P : Type} [DecidableEq P]

def write (e : AisElement P) (property : P) (value : String) : AisElement P :=
  { e with properties := Function.update e.properties property value }

/-- A setter for which `NULL` is the empty string. -/
def setString (property : P) (streamAlreadyOpen : String) (e : AisElement P)
    (value : Option String) : AisSetResult P :=
  if e.connection.isNull = false then ⟨false, e, some (.badState streamAlreadyOpen)⟩
  else ⟨true, e.write property (value.getD ""), none⟩

/-- The setter of the target address, which must not be `NULL`. -/
def setAddress (property : P) (streamAlreadyOpen : String) (e : AisElement P)
    (address : Option String) : AisSetResult P :=
  if e.connection.isNull = false then ⟨false, e, some (.badState streamAlreadyOpen)⟩
  else
    match address with
    | none => ⟨false, e, some (.notFound "A NULL target address was specified.")⟩
    | some address => ⟨true, e.write property address, none⟩

/-- `start`; `created` is whether `AIS_NewSender` or `AIS_NewReceiver` gives an object. -/
def start (created : Bool) (e : AisElement P) : Bool × AisElement P :=
  if created then (true, { e with connection := .opened e.properties })
  else (false, { e with connection := .null })

end AisElement

/-! ### `aissink` -/

inductive AisSinkProperty
  | targetAddress
  | streamName
  | sslDomainName
  | sslRootCertPath
  deriving DecidableEq

abbrev AisSinkElement := AisElement AisSinkProperty

def aisSinkInit : AisSinkElement where
  properties
    | .targetAddress => ""
    | .streamName => ""
    | .sslDomainName => "aistreams.googleapis.com"
    | .sslRootCertPath => ""
  connection := .null

def aisSinkSetTargetAddress : AisSinkElement → Option String → AisSetResult AisSinkProperty :=
  AisElement.setAddress .targetAddress
    "Changing the 'target_address' property when the client already connected is not supported"

def aisSinkSetStreamName : AisSinkElement → Option String → AisSetResult AisSinkProperty :=
  AisElement.setString .streamName
    "Changing the 'stream_name' property when the client already connected is not supported"

def aisSinkSetSslDomainName : AisSinkElement → Option String → AisSetResult AisSinkProperty :=
  AisElement.setString .sslDomainName
    "Changing the 'ssl_domain_name' property when the client already connected is not supported"

def aisSinkSetSslRootCertPath : AisSinkElement → Option String → AisSetResult AisSinkProperty :=
  AisElement.setString .sslRootCertPath
    "Changing the 'ssl_root_cert_path' property when the client already connected is not supported"

def aisSinkSetProperty (e : AisSinkElement) (value : Option String) :
    AisSinkProperty → AisSetResult AisSinkProperty
  | .targetAddress => aisSinkSetTargetAddress e value
  | .streamName => aisSinkSetStreamName e value
  | .sslDomainName => aisSinkSetSslDomainName e value
  | .sslRootCertPath => aisSinkSetSslRootCertPath e value

def aisSinkStart : Bool → AisSinkElement → Bool × AisSinkElement := AisElement.start

/-- `ais_sink_stop`, which sends an EOS over the sender before it deletes it. -/
def aisSinkStop (sink : AisSinkElement) : OrFatal AisSinkElement :=
  match sink.connection with
  | .null => .error ⟨"AIS_SendPacket over a NULL sender"⟩
  | .opened _ => .ok { sink with connection := .deleted }
  | .deleted => .error ⟨"AIS_SendPacket over a deleted sender"⟩

/-! ### `aissrc` -/

inductive AisSrcProperty
  | targetAddress
  | streamName
  | receiverName
  | sslDomainName
  | sslRootCertPath
  deriving DecidableEq

abbrev AisSrcElement := AisElement AisSrcProperty

def aisSrcInit : AisSrcElement where
  properties
    | .targetAddress => ""
    | .streamName => ""
    | .receiverName => ""
    | .sslDomainName => "aistreams.googleapis.com"
    | .sslRootCertPath => ""
  connection := .null

def aisSrcSetTargetAddress : AisSrcElement → Option String → AisSetResult AisSrcProperty :=
  AisElement.setAddress .targetAddress
    "Changing the 'target_address' property when the client is already connected is not supported"

def aisSrcSetReceiverName : AisSrcElement → Option String → AisSetResult AisSrcProperty :=
  AisElement.setString .receiverName
    ("Changing the `receiver_name' property when the stream server is already connected " ++
      "is not supported")

def aisSrcSetStreamName : AisSrcElement → Option String → AisSetResult AisSrcProperty :=
  AisElement.setString .streamName
    "Changing the 'stream_name' property when the client already connected is not supported"

def aisSrcSetSslDomainName : AisSrcElement → Option String → AisSetResult AisSrcProperty :=
  AisElement.setString .sslDomainName
    "Changing the 'ssl_domain_name' property when the client already connected is not supported"

def aisSrcSetSslRootCertPath : AisSrcElement → Option String → AisSetResult AisSrcProperty :=
  AisElement.setString .sslRootCertPath
    "Changing the 'ssl_root_cert_path' property when the client already connected is not supported"

def aisSrcSetProperty (e : AisSrcElement) (value : Option String) :
    AisSrcProperty → AisSetResult AisSrcProperty
  | .targetAddress => aisSrcSetTargetAddress e value
  | .streamName => aisSrcSetStreamName e value
  | .receiverName => aisSrcSetReceiverName e value
  | .sslDomainName => aisSrcSetSslDomainName e value
  | .sslRootCertPath => aisSrcSetSslRootCertPath e value

def aisSrcStart : Bool → AisSrcElement → Bool × AisSrcElement := AisElement.start

/-- `ais_src_stop`; to delete `NULL` is to do nothing. -/
def aisSrcStop (src : AisSrcElement) : OrFatal AisSrcElement :=
  match src.connection with
  | .null => .ok src
  | .opened _ => .ok { src with connection := .deleted }
  | .deleted => .error ⟨"AIS_DeleteReceiver of a deleted receiver"⟩

/-! ### Life cycles -/

namespace AisElement

open Transition

/-- The class of an element. -/
structure Class (P : Type) where
  init : AisElement P
  targetAddress : P
  setProperty : AisElement P → Option String → P → AisSetResult P
  start : Bool → AisElement P → Bool × AisElement P
  stop : AisElement P → OrFatal (AisElement P)

def sinkClass : Class AisSinkProperty :=
  ⟨aisSinkInit, .targetAddress, aisSinkSetProperty, aisSinkStart, aisSinkStop⟩

def srcClass : Class AisSrcProperty :=
  ⟨aisSrcInit, .targetAddress, aisSrcSetProperty, aisSrcStart, aisSrcStop⟩

inductive Op (P : Type)
  | start (created : Bool)
  | stop
  | set (property : P) (value : Option String)

/-- An element in its life cycle: whether it is between a successful `start` and the following
`stop`, and whether a `stop` was the last of both. -/
structure State (P : Type) where
  element : AisElement P
  connected : Bool
  stopped : Bool

variable {P : Type}

inductive Step (C : Class P) : State P → Op P → State P → Prop
  | start {s : State P} (created : Bool) :
      Step C s (.start created)
        ⟨(C.start created s.element).2, (C.start created s.element).1 || s.connected, false⟩
  | stop {s : State P} {e : AisElement P} : s.connected = true → C.stop s.element = .ok e →
      Step C s .stop ⟨e, false, true⟩
  | set {s : State P} (property : P) (value : Option String) :
      Step C s (.set property value)
        { s with element := (C.setProperty s.element value property).element }

/-- Every sequence of operations, a `stop` only after a successful `start`. -/
def system (C : Class P) : System (State P) (Op P) where
  init s := s = ⟨C.init, false, false⟩
  step := Step C

/-- No start fails on a connected element.  GStreamer never starts an element twice. -/
def NoFailedRestart (s : State P) (op : Op P) (_ : State P) : Prop :=
  op = .start false → s.connected = false

/-! ### What one operation does -/

variable [DecidableEq P]

/-- A set takes effect: it returns `TRUE`, and the property has the value. -/
def TakesEffect (C : Class P) (e : AisElement P) (value : Option String) (property : P) : Prop :=
  C.setProperty e value property = ⟨true, e.write property (value.getD ""), none⟩

/-- What both classes have in common. -/
structure Guarded (C : Class P) : Prop where
  init : C.init.connection = .null
  accepts : ∀ e value property, e.connection.isNull = true →
    (value ≠ none ∨ property ≠ C.targetAddress) → TakesEffect C e value property
  rejectsNull : ∀ e, e.connection.isNull = true → ∃ error,
    C.setProperty e none C.targetAddress = ⟨false, e, some error⟩
  rejects : ∀ e value property, e.connection.isNull = false → ∃ error,
    C.setProperty e value property = ⟨false, e, some error⟩
  start : ∀ created e, C.start created e = AisElement.start created e
  stop : ∀ e properties, e.connection = .opened properties →
    C.stop e = .ok { e with connection := .deleted }

section Setters

variable {property : P} {message : String} {e : AisElement P} {value : Option String}

theorem setString_of_null (h : e.connection.isNull = true) :
    setString property message e value = ⟨true, e.write property (value.getD ""), none⟩ := by
  simp [setString, h]

theorem setString_of_notNull (h : e.connection.isNull = false) :
    setString property message e value = ⟨false, e, some (.badState message)⟩ := by
  simp [setString, h]

theorem setAddress_of_null (h : e.connection.isNull = true) (hvalue : value ≠ none) :
    setAddress property message e value = ⟨true, e.write property (value.getD ""), none⟩ := by
  cases value with
  | none => exact absurd rfl hvalue
  | some address => simp [setAddress, h]

theorem setAddress_none (h : e.connection.isNull = true) :
    setAddress property message e none =
      ⟨false, e, some (.notFound "A NULL target address was specified.")⟩ := by
  simp [setAddress, h]

theorem setAddress_of_notNull (h : e.connection.isNull = false) :
    setAddress property message e value = ⟨false, e, some (.badState message)⟩ := by
  simp [setAddress, h]

end Setters

/-- A class whose setters are those of one address and of strings. -/
theorem guarded_of_setters {C : Class P} (init : C.init.connection = .null)
    (address : ∃ message, ∀ e value,
      C.setProperty e value C.targetAddress = setAddress C.targetAddress message e value)
    (strings : ∀ property, property ≠ C.targetAddress → ∃ message, ∀ e value,
      C.setProperty e value property = setString property message e value)
    (start : ∀ created e, C.start created e = AisElement.start created e)
    (stop : ∀ e properties, e.connection = .opened properties →
      C.stop e = .ok { e with connection := .deleted }) : Guarded C where
  init := init
  accepts e value property h hvalue := by
    by_cases hp : property = C.targetAddress
    · obtain ⟨message, hset⟩ := address
      rw [TakesEffect, hp, hset]
      exact setAddress_of_null h (hvalue.resolve_right fun hne => hne hp)
    · obtain ⟨message, hset⟩ := strings property hp
      rw [TakesEffect, hset]
      exact setString_of_null h
  rejectsNull e h := by
    obtain ⟨message, hset⟩ := address
    rw [hset]
    exact ⟨_, setAddress_none h⟩
  rejects e value property h := by
    by_cases hp : property = C.targetAddress
    · obtain ⟨message, hset⟩ := address
      rw [hp, hset]
      exact ⟨_, setAddress_of_notNull h⟩
    · obtain ⟨message, hset⟩ := strings property hp
      rw [hset]
      exact ⟨_, setString_of_notNull h⟩
  start := start
  stop := stop

theorem sinkClass_guarded : Guarded sinkClass := by
  refine guarded_of_setters rfl ⟨_, fun _ _ => rfl⟩ ?_ (fun _ _ => rfl) ?_
  · intro property hne
    cases property with
    | targetAddress => exact absurd rfl hne
    | streamName => exact ⟨_, fun _ _ => rfl⟩
    | sslDomainName => exact ⟨_, fun _ _ => rfl⟩
    | sslRootCertPath => exact ⟨_, fun _ _ => rfl⟩
  · intro e properties h
    show aisSinkStop e = _
    rw [aisSinkStop, h]

theorem srcClass_guarded : Guarded srcClass := by
  refine guarded_of_setters rfl ⟨_, fun _ _ => rfl⟩ ?_ (fun _ _ => rfl) ?_
  · intro property hne
    cases property with
    | targetAddress => exact absurd rfl hne
    | streamName => exact ⟨_, fun _ _ => rfl⟩
    | receiverName => exact ⟨_, fun _ _ => rfl⟩
    | sslDomainName => exact ⟨_, fun _ _ => rfl⟩
    | sslRootCertPath => exact ⟨_, fun _ _ => rfl⟩
  · intro e properties h
    show aisSrcStop e = _
    rw [aisSrcStop, h]

/-- A set that does not take effect leaves the element as it is. -/
theorem Guarded.set_cases {C : Class P} (hC : Guarded C) (e : AisElement P)
    (value : Option String) (property : P) : TakesEffect C e value property ∧
        e.connection.isNull = true ∨
      ∃ error, C.setProperty e value property = ⟨false, e, some error⟩ := by
  cases hnull : e.connection.isNull with
  | false => exact .inr (hC.rejects e value property hnull)
  | true =>
    by_cases hvalue : value ≠ none ∨ property ≠ C.targetAddress
    · exact .inl ⟨hC.accepts e value property hnull hvalue, rfl⟩
    · obtain ⟨rfl, rfl⟩ : value = none ∧ property = C.targetAddress := by
        simpa [not_or] using hvalue
      exact .inr (hC.rejectsNull e hnull)

/-! ### Runs -/

/-- How the pointer keeps track of the life cycle: it does until a `stop`. -/
structure Inv (s : State P) : Prop where
  connected : s.connected = true → s.stopped = false ∧
    s.element.connection = .opened s.element.properties
  idle : s.connected = false → s.stopped = false → s.element.connection = .null
  stopped : s.stopped = true → s.element.connection = .deleted

theorem inv_start {C : Class P} (hC : Guarded C) {s : State P} {created : Bool}
    (hrestart : created = false → s.connected = false) :
    Inv ⟨(C.start created s.element).2, (C.start created s.element).1 || s.connected, false⟩ := by
  rw [hC.start]
  cases created with
  | true => exact ⟨fun _ => ⟨rfl, rfl⟩, nofun, nofun⟩
  | false =>
    have hidle := hrestart rfl
    refine ⟨fun hc => ?_, fun _ _ => rfl, nofun⟩
    rw [hidle] at hc
    cases hc

theorem inv_set {C : Class P} (hC : Guarded C) {s : State P} (h : Inv s) (property : P)
    (value : Option String) :
    Inv { s with element := (C.setProperty s.element value property).element } := by
  rcases hC.set_cases s.element value property with ⟨heffect, hnull⟩ | ⟨error, hreject⟩
  · rw [heffect]
    refine ⟨fun hc => ?_, h.idle, h.stopped⟩
    rw [(h.connected hc).2] at hnull
    cases hnull
  · rw [hreject]
    exact h

theorem inv_step {C : Class P} (hC : Guarded C) {s s' : State P} {op : Op P} (h : Inv s)
    (hs : Step C s op s') (hrestart : NoFailedRestart s op s') : Inv s' := by
  cases hs with
  | start created => exact inv_start hC fun hc => hrestart (by rw [hc])
  | stop hconnected hstop =>
    rw [hC.stop _ _ (h.connected hconnected).2] at hstop
    cases hstop
    exact ⟨nofun, nofun, fun _ => rfl⟩
  | set property value => exact inv_set hC h property value

theorem inv_of_reachable {C : Class P} (hC : Guarded C) {s : State P}
    (h : ((system C).restrict NoFailedRestart).Reachable s) : Inv s := by
  refine h.invariant ?_ ?_
  · rintro _ rfl
    exact ⟨nofun, fun _ _ => hC.init, nofun⟩
  · intro _ _ _ _ hi hs
    exact inv_step hC hi hs.1 hs.2

/-! ### What the setters make of it -/

/-- The properties are writable exactly while the element is not connected, a set that is turned
down changes nothing, and the pointer that is tested is not a dangling one. -/
structure Writable (C : Class P) (s : State P) : Prop where
  takesEffect : ∀ value property, (value ≠ none ∨ property ≠ C.targetAddress) →
    (TakesEffect C s.element value property ↔ s.connected = false)
  rejected : ∀ value property, (C.setProperty s.element value property).ok = false →
    (C.setProperty s.element value property).element = s.element
  pointer : s.element.connection.isNull = true ∨
    ∃ properties, s.element.connection = .opened properties

theorem not_takesEffect {C : Class P} (hC : Guarded C) {e : AisElement P}
    (h : e.connection.isNull = false) (value : Option String) (property : P) :
    ¬ TakesEffect C e value property := by
  intro heffect
  obtain ⟨error, hreject⟩ := hC.rejects e value property h
  rw [TakesEffect, hreject] at heffect
  cases heffect

/-- **After a `stop` every set is turned down**, although the element is not connected. -/
theorem rejects_of_stopped {C : Class P} (hC : Guarded C) {s : State P}
    (h : ((system C).restrict NoFailedRestart).Reachable s) (hstopped : s.stopped = true)
    (value : Option String) (property : P) :
    s.connected = false ∧ ¬ TakesEffect C s.element value property := by
  have hinv := inv_of_reachable hC h
  constructor
  · cases hconnected : s.connected with
    | false => rfl
    | true =>
      rw [(hinv.connected hconnected).1] at hstopped
      cases hstopped
  · exact not_takesEffect hC (by rw [hinv.stopped hstopped]; rfl) value property

/-- **The connection of an element is the one that its properties describe.** -/
theorem opened_eq {C : Class P} (hC : Guarded C) {s : State P}
    (h : ((system C).restrict NoFailedRestart).Reachable s) {properties : P → String}
    (hopened : s.element.connection = .opened properties) : properties = s.element.properties := by
  have hinv := inv_of_reachable hC h
  cases hconnected : s.connected with
  | true =>
    rw [(hinv.connected hconnected).2] at hopened
    cases hopened
    rfl
  | false =>
    cases hstopped : s.stopped with
    | false =>
      rw [hinv.idle hconnected hstopped] at hopened
      cases hopened
    | true =>
      rw [hinv.stopped hstopped] at hopened
      cases hopened

theorem Guarded.rejected {C : Class P} (hC : Guarded C) (e : AisElement P) (value : Option String)
    (property : P) (h : (C.setProperty e value property).ok = false) :
    (C.setProperty e value property).element = e := by
  rcases hC.set_cases e value property with ⟨heffect, _⟩ | ⟨error, hreject⟩
  · rw [heffect] at h
    cases h
  · rw [hreject]

theorem writable_of_inv {C : Class P} (hC : Guarded C) {s : State P} (h : Inv s)
    (hstopped : s.stopped = false) : Writable C s := by
  refine ⟨fun value property hvalue => ?_, hC.rejected s.element, ?_⟩
  · cases hconnected : s.connected with
    | true =>
      have hopened := (h.connected hconnected).2
      exact ⟨fun heffect => absurd heffect
        (not_takesEffect hC (by rw [hopened]; rfl) value property), nofun⟩
    | false =>
      have hnull := h.idle hconnected hstopped
      exact ⟨fun _ => rfl, fun _ => hC.accepts _ _ _ (by rw [hnull]; rfl) hvalue⟩
  · cases hconnected : s.connected with
    | true => exact .inr ⟨_, (h.connected hconnected).2⟩
    | false => exact .inl (by rw [h.idle hconnected hstopped]; rfl)

theorem Writable.not_stopped {C : Class P} {s : State P} (h : Writable C s) (hinv : Inv s) :
    s.stopped = false := by
  cases hstopped : s.stopped with
  | false => rfl
  | true =>
    have hdeleted := hinv.stopped hstopped
    rcases h.pointer with hnull | ⟨properties, hopened⟩
    · rw [hdeleted] at hnull
      cases hnull
    · rw [hdeleted] at hopened
      cases hopened

/-- **The properties of both elements are writable exactly while they are disconnected, as long
as the last `start` or `stop` was not a `stop`**, which leaves the pointer to what it deletes. -/
theorem writable_iff {sink : State AisSinkProperty} {src : State AisSrcProperty}
    (hsink : ((system sinkClass).restrict NoFailedRestart).Reachable sink)
    (hsrc : ((system srcClass).restrict NoFailedRestart).Reachable src) :
    (Writable sinkClass sink ↔ sink.stopped = false) ∧
      (Writable srcClass src ↔ src.stopped = false) := by
  constructor
  · have hinv := inv_of_reachable sinkClass_guarded hsink
    exact ⟨fun hw => hw.not_stopped hinv, writable_of_inv sinkClass_guarded hinv⟩
  · have hinv := inv_of_reachable srcClass_guarded hsrc
    exact ⟨fun hw => hw.not_stopped hinv, writable_of_inv srcClass_guarded hinv⟩

/-! ### One life cycle -/

theorem started_reachable {C : Class P} (hC : Guarded C) :
    ((system C).restrict NoFailedRestart).Reachable
      ⟨{ C.init with connection := .opened C.init.properties }, true, false⟩ := by
  have hstep := Step.start (C := C) (s := ⟨C.init, false, false⟩) true
  rw [hC.start] at hstep
  exact .step (.init rfl) ⟨hstep, nofun⟩

theorem stopped_reachable {C : Class P} (hC : Guarded C) :
    ((system C).restrict NoFailedRestart).Reachable
      ⟨{ C.init with connection := .deleted }, false, true⟩ :=
  .step (started_reachable hC) ⟨.stop rfl (hC.stop _ _ rfl), nofun⟩

/-- While the elements are connected the setters are right. -/
theorem writable_started :
    Writable sinkClass ⟨{ aisSinkInit with connection := .opened aisSinkInit.properties }, true,
        false⟩ ∧
      Writable srcClass ⟨{ aisSrcInit with connection := .opened aisSrcInit.properties }, true,
        false⟩ := by
  have h := writable_iff (started_reachable sinkClass_guarded) (started_reachable srcClass_guarded)
  exact ⟨h.1.mpr rfl, h.2.mpr rfl⟩

theorem not_writable_of_stopped {C : Class P} (hC : Guarded C) :
    ¬ ∀ s, (system C).Reachable s → Writable C s := by
  intro h
  have hreachable := stopped_reachable hC
  have hw := h _ hreachable.of_restrict
  cases hw.not_stopped (inv_of_reachable hC hreachable)

/-- **After one life cycle they are not.** -/
theorem not_writable_stopped :
    (¬ ∀ s, (system sinkClass).Reachable s → Writable sinkClass s) ∧
      ¬ ∀ s, (system srcClass).Reachable s → Writable srcClass s :=
  ⟨not_writable_of_stopped sinkClass_guarded, not_writable_of_stopped srcClass_guarded⟩

end AisElement

end AIStreams
