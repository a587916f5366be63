import AIStreams.Storage.Slots
import AIStreams.Transition.System
import AIStreams.Util.Status
import Mathlib.Data.Finset.Erase
import Mathlib.Data.Finset.Insert

/-!
# `StatusOrData`

`aistreams/util/status/statusor_internals.h` and `statusor.h`: a `StatusOr` in memory, the status
and the value each in a union, so that constructors and destructors are called by hand.  The value
type's own operations neither throw nor touch another `StatusOr`.

* `statusOrs`: any number of objects under any sequence of operations.
* `exists_assignValue`, `exists_assignStatus`: an assignment runs from both states of its target and
  leaves the state that its argument has.
-/

namespace AIStreams

namespace StatusOr

variable {α : Type}

def value? : StatusOr α → Option α
  | error _ _ => none
  | value a => some a

def mapValue (f : α → α) : StatusOr α → StatusOr α
  | error s h => error s h
  | value a => value (f a)

@[simp] theorem value?_value (a : α) : (value a).value? = some a := rfl

@[simp] theorem value?_error (s : Status) (h : s.ok = false) :
    (error s h : StatusOr α).value? = none := rfl

theorem value?_ofStatus (s : Status) : (ofStatus s : StatusOr α).value? = none := by
  cases h : s.ok with
  | true =>
    rw [ofStatus, dif_neg (by simp [h])]
    rfl
  | false => rw [ofStatus_of_not_ok h, value?_error]

@[simp] theorem status_value (a : α) : (value a).status = okStatus := rfl

@[simp] theorem status_error (s : Status) (h : s.ok = false) :
    (error s h : StatusOr α).status = s := rfl

end StatusOr

namespace StatusOrData

open Storage

/-- Why a call does not return. -/
inductive Stop
  | misuse (misuse : Misuse)
  | crash (fatal : Fatal)

/-- The slots of the `StatusOr` objects `ι`. -/
structure Memory (ι V : Type) where
  /-- `status_` -/
  statuses : Slots ι Status
  /-- `data_`, and under `none` the temporary that a conversion makes -/
  data : Slots (Option ι) V
  /-- The objects between their constructor and their destructor, as the caller knows them. -/
  objects : Finset ι

/-- A constructor of `T` from an argument with content `v`: what the new object holds, and what the
argument holds afterwards. -/
structure Transfer (V : Type) where
  made : V → V
  left : V → V

namespace Transfer

variable {V : Type}

/-- `T(const T&)` -/
def copy : Transfer V := ⟨id, id⟩

/-- `T(T&&)` -/
def move (movedFrom : V → V) : Transfer V := ⟨id, movedFrom⟩

/-- `T(const U&)` -/
def convertCopy (convert : V → V) : Transfer V := ⟨convert, id⟩

/-- `T(U&&)` -/
def convertMove (convert movedFrom : V → V) : Transfer V := ⟨convert, movedFrom⟩

end Transfer

/-- What a reference refers to: a value of the caller, or one in a slot. -/
inductive Ref (ι V : Type)
  | outside (v : V)
  | slot (p : Option ι)

variable {ι V : Type} [DecidableEq ι]

/-! ### The slots of an object -/

def makeStatus (o : ι) (s : Status) (m : Memory ι V) : Except Stop (Memory ι V) := do
  let statuses ← (m.statuses.construct o s).mapError .misuse
  return { m with statuses := statuses }

/-- `status_ = s`. -/
def setStatus (o : ι) (s : Status) (m : Memory ι V) : Except Stop (Memory ι V) := do
  let statuses ← (m.statuses.assign o s).mapError .misuse
  return { m with statuses := statuses }

/-- `status_.~Status()`. -/
def destroyStatus (o : ι) (m : Memory ι V) : Except Stop (Memory ι V) := do
  let statuses ← (m.statuses.destroy o).mapError .misuse
  return { m with statuses := statuses }

def status (o : ι) (m : Memory ι V) : Except Stop Status := (m.statuses.read o).mapError .misuse

/-- `PlacementNew<T>`. -/
def makeValue (p : Option ι) (t : Transfer V) (arg : Ref ι V) (m : Memory ι V) :
    Except Stop (Memory ι V) :=
  match arg with
  | .outside v => do
    let data ← (m.data.construct p (t.made v)).mapError .misuse
    return { m with data := data }
  | .slot q => do
    let v ← (m.data.read q).mapError .misuse
    let data ← (m.data.construct p (t.made v)).mapError .misuse
    let data ← (data.assign q (t.left v)).mapError .misuse
    return { m with data := data }

/-- `data_.~T()`. -/
def destroyValue (p : Option ι) (m : Memory ι V) : Except Stop (Memory ι V) := do
  let data ← (m.data.destroy p).mapError .misuse
  return { m with data := data }

def ok (o : ι) (m : Memory ι V) : Except Stop Bool := do
  let s ← status o m
  return s.ok

/-! ### `StatusOrData` -/

def handleInvalidStatusCtorArg (o : ι) (m : Memory ι V) : Except Stop (Memory ι V) :=
  setStatus o (internalError "An OK status is not a valid constructor argument to StatusOr<T>") m

def crash (s : Status) : Stop :=
  .crash ⟨"Attempting to fetch value instead of handling error " ++ s.toString⟩

def clear (o : ι) (m : Memory ι V) : Except Stop (Memory ι V) := do
  if ← ok o m then destroyValue (some o) m else return m

def ensureOk (o : ι) (m : Memory ι V) : Except Stop Unit := do
  if !(← ok o m) then throw (crash (← status o m))

def ensureNotOk (o : ι) (m : Memory ι V) : Except Stop (Memory ι V) := do
  if ← ok o m then handleInvalidStatusCtorArg o m else return m

/-- `StatusOrData(const StatusOrData&)`, `(StatusOrData&&)`, `(const StatusOrData<U>&)` and
`(StatusOrData<U>&&)`.  A `Status` has no move constructor: one that is moved is copied. -/
def construct (t : Transfer V) (o other : ι) (m : Memory ι V) : Except Stop (Memory ι V) := do
  if ← ok other m then
    let m ← makeValue (some o) t (.slot (some other)) m
    makeStatus o okStatus m
  else
    let s ← status other m
    makeStatus o s m

/-- `StatusOrData(const T&)` and `(T&&)`. -/
def constructValue (t : Transfer V) (o : ι) (value : V) (m : Memory ι V) :
    Except Stop (Memory ι V) := do
  let m ← makeValue (some o) t (.outside value) m
  makeStatus o okStatus m

/-- `StatusOrData(const Status&)` and `(Status&&)`. -/
def constructStatus (o : ι) (s : Status) (m : Memory ι V) : Except Stop (Memory ι V) := do
  let m ← makeStatus o s m
  ensureNotOk o m

/-- `Assign(const T&)` and `Assign(T&&)`. -/
def assignValue (t : Transfer V) (o : ι) (value : Ref ι V) (m : Memory ι V) :
    Except Stop (Memory ι V) := do
  if ← ok o m then
    let m ← destroyValue (some o) m
    makeValue (some o) t value m
  else
    let m ← makeValue (some o) t value m
    setStatus o okStatus m

/-- `Assign(const Status&)` and `Assign(Status&&)`.  The argument may be the status of the object
itself, which `clear` leaves alone. -/
def assignStatus (o : ι) (s : Status) (m : Memory ι V) : Except Stop (Memory ι V) := do
  let m ← clear o m
  let m ← setStatus o s m
  ensureNotOk o m

/-- `operator=(const StatusOrData&)` and `operator=(StatusOrData&&)`. -/
def assign (t : Transfer V) (o other : ι) (m : Memory ι V) : Except Stop (Memory ι V) := do
  if o = other then return m
  if ← ok other m then assignValue t o (.slot (some other)) m
  else
    let s ← status other m
    assignStatus o s m

/-- `~StatusOrData()`. -/
def destructor (o : ι) (m : Memory ι V) : Except Stop (Memory ι V) := do
  if ← ok o m then
    let m ← destroyStatus o m
    destroyValue (some o) m
  else destroyStatus o m

/-! ### `StatusOr` -/

/-- `ValueOrDie()`: the content of the value that the reference refers to. -/
def valueOrDie (o : ι) (m : Memory ι V) : Except Stop V := do
  ensureOk o m
  (m.data.read (some o)).mapError .misuse

/-- `operator=(const StatusOr<U>&)` and `operator=(StatusOr<U>&&)`.  A `T` is made from the `U` as
the argument of `Assign`, a temporary that `moved` passes on, unless the `U` is a `T` itself. -/
def assignConverted (t : Transfer V) (moved : Option (Transfer V)) (o other : ι)
    (m : Memory ι V) : Except Stop (Memory ι V) := do
  if ← ok other m then
    let _ ← valueOrDie other m
    match moved with
    | none => assignValue t o (.slot (some other)) m
    | some moved =>
      let m ← makeValue none t (.slot (some other)) m
      let m ← assignValue moved o (.slot none) m
      destroyValue none m
  else
    let s ← status other m
    assignStatus o s m

/-- The caller changes the value through what `ValueOrDie()` returns. -/
def useValue (o : ι) (f : V → V) (m : Memory ι V) : Except Stop (Memory ι V) := do
  let v ← valueOrDie o m
  let data ← (m.data.assign (some o) (f v)).mapError .misuse
  return { m with data := data }

/-! ### Sequences of operations -/

/-- The operations.  `statusor = value` is made of three of them: another object is constructed
from the value, assigned, and destroyed. -/
inductive Op (ι V : Type)
  | default (o : ι)
  | constructValue (t : Transfer V) (o : ι) (value : V)
  | constructStatus (o : ι) (s : Status)
  | construct (t : Transfer V) (o other : ι)
  | assignValue (t : Transfer V) (o : ι) (value : V)
  | assignStatus (o : ι) (s : Status)
  | assign (t : Transfer V) (o other : ι)
  | assignConverted (t : Transfer V) (moved : Option (Transfer V)) (o other : ι)
  | useValue (o : ι) (f : V → V)
  | destructor (o : ι)

/-- What the language asks of a caller: an object is constructed where there is none, and is used
and destroyed where there is one.  A conversion leads to an object of another type. -/
def Op.Legal (objects : Finset ι) : Op ι V → Prop
  | .default o => o ∉ objects
  | .constructValue _ o _ => o ∉ objects
  | .constructStatus o _ => o ∉ objects
  | .construct _ o other => o ∉ objects ∧ other ∈ objects
  | .assignValue _ o _ => o ∈ objects
  | .assignStatus o _ => o ∈ objects
  | .assign _ o other => o ∈ objects ∧ other ∈ objects
  | .assignConverted _ _ o other => o ∈ objects ∧ other ∈ objects ∧ o ≠ other
  | .useValue o _ => o ∈ objects
  | .destructor o => o ∈ objects

instance (objects : Finset ι) (op : Op ι V) : Decidable (op.Legal objects) :=
  match op with
  | .default o => inferInstanceAs (Decidable (o ∉ objects))
  | .constructValue _ o _ => inferInstanceAs (Decidable (o ∉ objects))
  | .constructStatus o _ => inferInstanceAs (Decidable (o ∉ objects))
  | .construct _ o other => inferInstanceAs (Decidable (o ∉ objects ∧ other ∈ objects))
  | .assignValue _ o _ => inferInstanceAs (Decidable (o ∈ objects))
  | .assignStatus o _ => inferInstanceAs (Decidable (o ∈ objects))
  | .assign _ o other => inferInstanceAs (Decidable (o ∈ objects ∧ other ∈ objects))
  | .assignConverted _ _ o other =>
    inferInstanceAs (Decidable (o ∈ objects ∧ other ∈ objects ∧ o ≠ other))
  | .useValue o _ => inferInstanceAs (Decidable (o ∈ objects))
  | .destructor o => inferInstanceAs (Decidable (o ∈ objects))

def Op.objects (objects : Finset ι) : Op ι V → Finset ι
  | .default o => insert o objects
  | .constructValue _ o _ => insert o objects
  | .constructStatus o _ => insert o objects
  | .construct _ o _ => insert o objects
  | .destructor o => objects.erase o
  | _ => objects

def Op.run : Op ι V → Memory ι V → Except Stop (Memory ι V)
  | .default o => StatusOrData.constructStatus o (.make .kUnknown "")
  | .constructValue t o value => StatusOrData.constructValue t o value
  | .constructStatus o s => StatusOrData.constructStatus o s
  | .construct t o other => StatusOrData.construct t o other
  | .assignValue t o value => StatusOrData.assignValue t o (.outside value)
  | .assignStatus o s => StatusOrData.assignStatus o s
  | .assign t o other => StatusOrData.assign t o other
  | .assignConverted t moved o other => StatusOrData.assignConverted t moved o other
  | .useValue o f => StatusOrData.useValue o f
  | .destructor o => StatusOrData.destructor o

def exec (op : Op ι V) (m : Memory ι V) : Except Stop (Memory ι V) := do
  let m' ← op.run m
  return { m' with objects := op.objects m.objects }

/-- No object, and raw storage only. -/
def Memory.start : Memory ι V := ⟨.raw ι Status, .raw (Option ι) V, ∅⟩

/-- Any number of `StatusOr` objects under any sequence of operations. -/
def statusOrs (ι V : Type) [DecidableEq ι] : Transition.System (Memory ι V) (Op ι V) where
  init m := m = .start
  step m op m' := op.Legal m.objects ∧ exec op m = .ok m'

/-! ### What the steps on the slots do -/

theorem exists_makeStatus {m : Memory ι V} {o : ι} (h : m.statuses.content o = none) (s : Status) :
    ∃ m', makeStatus o s m = .ok m' ∧ m'.data = m.data ∧
      m'.statuses.content = Function.update m.statuses.content o (some s) := by
  obtain ⟨statuses, hstatuses, hcontent⟩ := Slots.exists_construct h s
  exact ⟨{ m with statuses := statuses }, by rw [makeStatus, hstatuses]; rfl, rfl, hcontent⟩

theorem exists_setStatus {m : Memory ι V} {o : ι} {old : Status}
    (h : m.statuses.content o = some old) (s : Status) :
    ∃ m', setStatus o s m = .ok m' ∧ m'.data = m.data ∧
      m'.statuses.content = Function.update m.statuses.content o (some s) := by
  obtain ⟨statuses, hstatuses, hcontent⟩ := Slots.exists_assign h s
  exact ⟨{ m with statuses := statuses }, by rw [setStatus, hstatuses]; rfl, rfl, hcontent⟩

theorem exists_destroyStatus {m : Memory ι V} {o : ι} {s : Status}
    (h : m.statuses.content o = some s) :
    ∃ m', destroyStatus o m = .ok m' ∧ m'.data = m.data ∧
      m'.statuses.content = Function.update m.statuses.content o none := by
  obtain ⟨statuses, hstatuses, hcontent⟩ := Slots.exists_destroy h
  exact ⟨{ m with statuses := statuses }, by rw [destroyStatus, hstatuses]; rfl, rfl, hcontent⟩

theorem exists_destroyValue {m : Memory ι V} {p : Option ι} {v : V}
    (h : m.data.content p = some v) :
    ∃ m', destroyValue p m = .ok m' ∧ m'.statuses = m.statuses ∧
      m'.data.content = Function.update m.data.content p none := by
  obtain ⟨data, hdata, hcontent⟩ := Slots.exists_destroy h
  exact ⟨{ m with data := data }, by rw [destroyValue, hdata]; rfl, rfl, hcontent⟩

omit [DecidableEq ι] in
theorem status_eq {m : Memory ι V} {o : ι} {s : Status} (h : m.statuses.content o = some s) :
    status o m = .ok s := by
  rw [status, Slots.read_eq h]
  rfl

omit [DecidableEq ι] in
theorem ok_eq {m : Memory ι V} {o : ι} {s : Status} (h : m.statuses.content o = some s) :
    ok o m = .ok s.ok := by
  rw [ok, status_eq h]
  rfl

/-- A reference leads to a value with content `v`. -/
def Ref.Holds (content : Option ι → Option V) (v : V) : Ref ι V → Prop
  | .outside w => w = v
  | .slot q => content q = some v

/-- What is left where a reference leads to. -/
def Ref.leave (content : Option ι → Option V) (left : V) : Ref ι V → Option ι → Option V
  | .outside _ => content
  | .slot q => Function.update content q (some left)

theorem exists_makeValue {m : Memory ι V} {p : Option ι} (hp : m.data.content p = none)
    (t : Transfer V) {arg : Ref ι V} {v : V} (harg : arg.Holds m.data.content v) :
    ∃ m', makeValue p t arg m = .ok m' ∧ m'.statuses = m.statuses ∧ m'.data.content =
      arg.leave (Function.update m.data.content p (some (t.made v))) (t.left v) := by
  obtain ⟨data, hdata, hcontent⟩ := Slots.exists_construct hp (t.made v)
  cases arg with
  | outside w =>
    obtain rfl : w = v := harg
    exact ⟨{ m with data := data }, by rw [makeValue, hdata]; rfl, rfl, hcontent⟩
  | slot q =>
    have hq : m.data.content q = some v := harg
    have hne : q ≠ p := by
      rintro rfl
      rw [hp] at hq
      cases hq
    have hleft : data.content q = some v := by rw [hcontent, Function.update_of_ne hne, hq]
    obtain ⟨data', hdata', hcontent'⟩ := Slots.exists_assign hleft (t.left v)
    refine ⟨{ m with data := data' }, ?_, rfl, ?_⟩
    · rw [makeValue, Slots.read_eq hq]
      change ((m.data.construct p (t.made v)).mapError Stop.misuse >>= _) = _
      rw [hdata]
      change ((data.assign q (t.left v)).mapError Stop.misuse >>= _) = _
      rw [hdata']
      rfl
    · rw [hcontent', hcontent]
      rfl

/-! ### What the functions do -/

theorem ok_bind {α β : Type} (a : α) (f : α → Except Stop β) :
    (.ok a : Except Stop α) >>= f = f a := rfl

theorem Ref.Holds.update {content : Option ι → Option V} {v : V} {arg : Ref ι V}
    (h : arg.Holds content v) {p : Option ι} (hne : arg ≠ .slot p) (x : Option V) :
    arg.Holds (Function.update content p x) v := by
  cases arg with
  | outside w => exact h
  | slot q =>
    have hq : q ≠ p := by
      rintro rfl
      exact hne rfl
    rw [Ref.Holds, Function.update_of_ne hq]
    exact h

/-- `Assign(value)` leaves an OK object, whatever the object was, if `value` is not its own. -/
theorem exists_assignValue {m : Memory ι V} {o : ι} {x : StatusOr V}
    (hstatus : m.statuses.content o = some x.status) (hdata : m.data.content (some o) = x.value?)
    (t : Transfer V) {arg : Ref ι V} {v : V} (harg : arg.Holds m.data.content v)
    (hne : arg ≠ .slot (some o)) :
    ∃ m', assignValue t o arg m = .ok m' ∧
      m'.statuses.content = Function.update m.statuses.content o (some okStatus) ∧
      m'.data.content =
        arg.leave (Function.update m.data.content (some o) (some (t.made v))) (t.left v) := by
  rw [assignValue, ok_eq hstatus, ok_bind]
  cases x with
  | value w =>
    obtain ⟨m₁, hm₁, hstatuses₁, hdata₁⟩ := exists_destroyValue hdata
    have hraw : m₁.data.content (some o) = none := by rw [hdata₁, Function.update_self]
    have harg₁ : arg.Holds m₁.data.content v := by
      rw [hdata₁]
      exact harg.update hne none
    obtain ⟨m₂, hm₂, hstatuses₂, hdata₂⟩ := exists_makeValue hraw t harg₁
    refine ⟨m₂, ?_, ?_, ?_⟩
    · rw [StatusOr.status_value, okStatus_ok, if_pos rfl, hm₁, ok_bind, hm₂]
    · rw [hstatuses₂, hstatuses₁, Function.eq_update_self_iff, hstatus]
      rfl
    · rw [hdata₂, hdata₁, Function.update_idem]
  | error s h =>
    obtain ⟨m₁, hm₁, hstatuses₁, hdata₁⟩ := exists_makeValue hdata t harg
    have hstatus₁ : m₁.statuses.content o = some s := by
      rw [hstatuses₁, hstatus, StatusOr.status_error]
    obtain ⟨m₂, hm₂, hdata₂, hstatuses₂⟩ := exists_setStatus hstatus₁ okStatus
    refine ⟨m₂, ?_, ?_, ?_⟩
    · rw [StatusOr.status_error, h, if_neg Bool.false_ne_true, hm₁, ok_bind, hm₂]
    · rw [hstatuses₂, hstatuses₁]
    · rw [hdata₂, hdata₁]

/-- An object whose status has just been written is left with an error. -/
theorem exists_ensureNotOk {m : Memory ι V} {o : ι} {s : Status}
    (h : m.statuses.content o = some s) :
    ∃ m', ensureNotOk o m = .ok m' ∧ m'.data = m.data ∧ m'.statuses.content =
      Function.update m.statuses.content o (some (StatusOr.ofStatus s : StatusOr V).status) := by
  rw [ensureNotOk, ok_eq h, ok_bind]
  cases hok : s.ok with
  | true =>
    rw [if_pos rfl, handleInvalidStatusCtorArg]
    have hof : (StatusOr.ofStatus s : StatusOr V).status =
        internalError "An OK status is not a valid constructor argument to StatusOr<T>" := by
      rw [StatusOr.ofStatus, dif_neg (by simp [hok])]
      rfl
    rw [hof]
    exact exists_setStatus h _
  | false =>
    refine ⟨m, rfl, rfl, ?_⟩
    rw [StatusOr.ofStatus_of_not_ok hok, StatusOr.status_error, Function.eq_update_self_iff, h]

/-- `Assign(status)` leaves an error, whatever the object was. -/
theorem exists_assignStatus {m : Memory ι V} {o : ι} {x : StatusOr V}
    (hstatus : m.statuses.content o = some x.status) (hdata : m.data.content (some o) = x.value?)
    (s : Status) :
    ∃ m', assignStatus o s m = .ok m' ∧ m'.statuses.content =
        Function.update m.statuses.content o (some (StatusOr.ofStatus s : StatusOr V).status) ∧
      m'.data.content = Function.update m.data.content (some o) none := by
  obtain ⟨m₁, hm₁, hstatuses₁, hdata₁⟩ : ∃ m₁, clear o m = .ok m₁ ∧ m₁.statuses = m.statuses ∧
      m₁.data.content = Function.update m.data.content (some o) none := by
    rw [clear, ok_eq hstatus, ok_bind]
    cases x with
    | value w => exact exists_destroyValue hdata
    | error s' h =>
      rw [StatusOr.status_error, h, if_neg Bool.false_ne_true]
      exact ⟨m, rfl, rfl, Function.eq_update_self_iff.mpr hdata⟩
  obtain ⟨m₂, hm₂, hdata₂, hstatuses₂⟩ :=
    exists_setStatus (m := m₁) (by rw [hstatuses₁]; exact hstatus) s
  obtain ⟨m₃, hm₃, hdata₃, hstatuses₃⟩ :=
    exists_ensureNotOk (m := m₂) (by rw [hstatuses₂, Function.update_self])
  refine ⟨m₃, ?_, ?_, ?_⟩
  · rw [assignStatus, hm₁, ok_bind, hm₂, ok_bind, hm₃]
  · rw [hstatuses₃, hstatuses₂, Function.update_idem, hstatuses₁]
  · rw [hdata₃, hdata₂, hdata₁]

end StatusOrData

end AIStreams
