import AIStreams.Util.StatusOrData

/-!
# The lifetimes of the values of `StatusOr`

* `exec_denotes`: an operation does to the objects in memory what it does to `StatusOr` as a value.
* `exists_denotes`: so the memory holds values of `StatusOr` in every reachable state.
* `reachable_managesLifetimes`: every sequence of operations manages the lifetimes of the values.
-/

namespace AIStreams.StatusOrData

open Storage

variable {ι V : Type} [DecidableEq ι]

/-! ### Lifetimes -/

/-- **Lifetimes are managed** in a memory. -/
structure ManagesLifetimes (m : Memory ι V) : Prop where
  /-- `status_` is alive in every object, and `data_` exactly if the object is OK. -/
  alive : ∀ o ∈ m.objects, ∃ s, m.statuses.content o = some s ∧
    ((m.data.content (some o)).isSome = true ↔ s.ok = true)
  /-- Outside the objects nothing is alive, and no temporary. -/
  raw : (∀ o ∉ m.objects, m.statuses.content o = none ∧ m.data.content (some o) = none) ∧
    m.data.content none = none
  /-- No operation misuses a slot. -/
  safe : ∀ op : Op ι V, op.Legal m.objects → ∀ misuse, exec op m ≠ .error (.misuse misuse)
  /-- An operation returns, unless it asks for the value of an object that is not OK. -/
  returns : ∀ op : Op ι V, op.Legal m.objects → (∃ m', exec op m = .ok m') ∨
    ∃ o f s, op = .useValue o f ∧ m.statuses.content o = some s ∧ s.ok = false
  /-- An OK status as argument leaves the object not OK. -/
  notOk : ∀ (op : Op ι V) o s m', op = .constructStatus o s ∨ op = .assignStatus o s →
    s.ok = true → op.Legal m.objects → exec op m = .ok m' → ok o m' = .ok false
  /-- `ValueOrDie()` reaches the value if that is alive, and crashes on an object that is not OK. -/
  valueOrDie : ∀ o ∈ m.objects, (∃ v, m.data.content (some o) = some v ∧ valueOrDie o m = .ok v) ∨
    ∃ s, m.statuses.content o = some s ∧ s.ok = false ∧ valueOrDie o m = .error (crash s)
  /-- No value is destroyed twice, and once all objects are gone each has been destroyed. -/
  once : (∀ n, m.data.destroyed.count n ≤ 1) ∧
    (m.objects = ∅ → ∀ n < m.data.constructed, m.data.destroyed.count n = 1)

/-! ### `StatusOr` as a value -/

/-- `o` is made from `other`, which is left as it may be. -/
def transfer (made left : V → V) (o other : ι) (abs : ι → Option (StatusOr V)) :
    ι → Option (StatusOr V) :=
  Function.update (Function.update abs o ((abs other).map (.mapValue made))) other
    ((abs other).map (.mapValue left))

/-- What an operation does to the objects as values of `StatusOr`. -/
def Op.apply (abs : ι → Option (StatusOr V)) : Op ι V → ι → Option (StatusOr V)
  | .default o => Function.update abs o (some (.ofStatus (.make .kUnknown "")))
  | .constructValue t o value => Function.update abs o (some (.value (t.made value)))
  | .constructStatus o s => Function.update abs o (some (.ofStatus s))
  | .construct t o other => transfer t.made t.left o other abs
  | .assignValue t o value => Function.update abs o (some (.value (t.made value)))
  | .assignStatus o s => Function.update abs o (some (.ofStatus s))
  | .assign t o other => if o = other then abs else transfer t.made t.left o other abs
  | .assignConverted t none o other => transfer t.made t.left o other abs
  | .assignConverted t (some moved) o other => transfer (moved.made ∘ t.made) t.left o other abs
  | .useValue o f => Function.update abs o ((abs o).map (.mapValue f))
  | .destructor o => Function.update abs o none

/-- The contents of the slots are what `abs` says, with a `temporary` beside. -/
structure Represents (statuses : ι → Option Status) (data : Option ι → Option V)
    (temporary : Option V) (abs : ι → Option (StatusOr V)) : Prop where
  status : ∀ o, statuses o = (abs o).map StatusOr.status
  value : ∀ o, data (some o) = (abs o).bind StatusOr.value?
  temporary : data none = temporary

/-- The memory holds the objects of `abs`, and nothing else. -/
structure Denotes (m : Memory ι V) (abs : ι → Option (StatusOr V)) : Prop where
  slots : Represents m.statuses.content m.data.content none abs
  objects : ∀ o, o ∈ m.objects ↔ (abs o).isSome = true

/-! ### The functions on values -/

section Represents

variable {statuses : ι → Option Status} {data : Option ι → Option V} {temporary : Option V}
  {abs : ι → Option (StatusOr V)}

theorem Represents.update (h : Represents statuses data temporary abs) (o : ι)
    (x : Option (StatusOr V)) :
    Represents (Function.update statuses o (x.map StatusOr.status))
      (Function.update data (some o) (x.bind StatusOr.value?)) temporary
      (Function.update abs o x) where
  status o' := by
    by_cases ho : o' = o
    · rw [ho, Function.update_self, Function.update_self]
    · rw [Function.update_of_ne ho, Function.update_of_ne ho, h.status]
  value o' := by
    by_cases ho : o' = o
    · rw [ho, Function.update_self, Function.update_self]
    · rw [Function.update_of_ne ho, Function.update_of_ne (by simpa using ho), h.value]
  temporary := by rw [Function.update_of_ne (by simp), h.temporary]

/-- The value of an object gets another content. -/
theorem Represents.setValue (h : Represents statuses data temporary abs) {o : ι} {v : V}
    (ho : abs o = some (.value v)) (w : V) :
    Represents statuses (Function.update data (some o) (some w)) temporary
      (Function.update abs o (some (.value w))) := by
  have hstatus : statuses = Function.update statuses o (some okStatus) := by
    rw [Function.eq_update_self_iff, h.status, ho]
    rfl
  have hset := h.update o (some (.value w))
  rw [Option.map_some, StatusOr.status_value, ← hstatus] at hset
  exact hset

/-- An object without a value gets another error, or its first. -/
theorem Represents.setError (h : Represents statuses data temporary abs) {o : ι}
    (hdata : data (some o) = none) {x : StatusOr V} (hx : x.value? = none) :
    Represents (Function.update statuses o (some x.status)) data temporary
      (Function.update abs o (some x)) := by
  have hset := h.update o (some x)
  have hsame : Function.update data (some o) none = data := by
    rw [eq_comm, Function.eq_update_self_iff, hdata]
  rw [Option.map_some, Option.bind_some, hx, hsame] at hset
  exact hset

theorem Represents.setTemporary (h : Represents statuses data temporary abs) (x : Option V) :
    Represents statuses (Function.update data none x) x abs where
  status := h.status
  value o := by rw [Function.update_of_ne (by simp), h.value]
  temporary := Function.update_self ..

end Represents

variable {m : Memory ι V} {temporary : Option V} {abs : ι → Option (StatusOr V)} {o other : ι}

/-- The memory after `step` represents `abs'`. -/
def Leads (step : Except Stop (Memory ι V)) (temporary : Option V)
    (abs' : ι → Option (StatusOr V)) : Prop :=
  ∃ m', step = .ok m' ∧ Represents m'.statuses.content m'.data.content temporary abs'

omit [DecidableEq ι] in
theorem Represents.status_eq (hm : Represents m.statuses.content m.data.content temporary abs)
    {x : StatusOr V} (ho : abs o = some x) : m.statuses.content o = some x.status := by
  rw [hm.status, ho, Option.map_some]

omit [DecidableEq ι] in
theorem Represents.value_eq (hm : Represents m.statuses.content m.data.content temporary abs)
    {x : StatusOr V} (ho : abs o = some x) : m.data.content (some o) = x.value? := by
  rw [hm.value, ho, Option.bind_some]

omit [DecidableEq ι] in
theorem Represents.raw (hm : Represents m.statuses.content m.data.content temporary abs)
    (ho : abs o = none) : m.statuses.content o = none ∧ m.data.content (some o) = none := by
  rw [hm.status, hm.value, ho]
  exact ⟨rfl, rfl⟩

omit [DecidableEq ι] in
theorem Represents.ok_value (hm : Represents m.statuses.content m.data.content temporary abs)
    {v : V} (ho : abs o = some (.value v)) : ok o m = .ok true := ok_eq (hm.status_eq ho)

omit [DecidableEq ι] in
theorem Represents.ok_error (hm : Represents m.statuses.content m.data.content temporary abs)
    {s : Status} {h : s.ok = false} (ho : abs o = some (.error s h)) : ok o m = .ok false := by
  rw [ok_eq (hm.status_eq ho), StatusOr.status_error, h]

theorem transfer_value {v : V} (hother : abs other = some (.value v)) (made left : V → V) :
    transfer made left o other abs =
      Function.update (Function.update abs o (some (.value (made v)))) other
        (some (.value (left v))) := by
  rw [transfer, hother]
  rfl

theorem transfer_error {s : Status} {h : s.ok = false} (hother : abs other = some (.error s h))
    (hne : other ≠ o) (made left : V → V) :
    transfer made left o other abs = Function.update abs o (some (.error s h)) := by
  rw [transfer, hother, Option.map_some, Option.map_some, StatusOr.mapValue, StatusOr.mapValue,
    eq_comm, Function.eq_update_self_iff, Function.update_of_ne hne, hother]

/-- A value is made in `o` from the one in `other`. -/
theorem Represents.transfer {statuses : ι → Option Status} {data : Option ι → Option V}
    (h : Represents statuses data temporary abs) {v : V} (hother : abs other = some (.value v))
    (hne : other ≠ o) (made left : V → V) :
    Represents (Function.update statuses o (some okStatus))
      (Function.update (Function.update data (some o) (some (made v))) (some other)
        (some (left v)))
      temporary (StatusOrData.transfer made left o other abs) := by
  have hmade := h.update o (some (.value (made v)))
  have hleft : Function.update abs o (some (.value (made v))) other = some (.value v) := by
    rw [Function.update_of_ne hne, hother]
  rw [transfer_value hother]
  exact hmade.setValue hleft (left v)

theorem leads_constructStatus (hm : Represents m.statuses.content m.data.content temporary abs)
    (ho : abs o = none) (s : Status) :
    Leads (constructStatus o s m) temporary (Function.update abs o (some (.ofStatus s))) := by
  obtain ⟨hstatus, hdata⟩ := hm.raw ho
  obtain ⟨m₁, hm₁, hdata₁, hstatuses₁⟩ := exists_makeStatus hstatus s
  obtain ⟨m₂, hm₂, hdata₂, hstatuses₂⟩ :=
    exists_ensureNotOk (m := m₁) (by rw [hstatuses₁, Function.update_self])
  refine ⟨m₂, by rw [constructStatus, hm₁, ok_bind, hm₂], ?_⟩
  rw [hstatuses₂, hstatuses₁, Function.update_idem, hdata₂, hdata₁]
  exact hm.setError hdata (StatusOr.value?_ofStatus s)

theorem leads_constructValue (hm : Represents m.statuses.content m.data.content temporary abs)
    (ho : abs o = none) (t : Transfer V) (value : V) :
    Leads (constructValue t o value m) temporary
      (Function.update abs o (some (.value (t.made value)))) := by
  obtain ⟨hstatus, hdata⟩ := hm.raw ho
  have harg : (Ref.outside value : Ref ι V).Holds m.data.content value := rfl
  obtain ⟨m₁, hm₁, hstatuses₁, hdata₁⟩ := exists_makeValue hdata t harg
  obtain ⟨m₂, hm₂, hdata₂, hstatuses₂⟩ :=
    exists_makeStatus (m := m₁) (by rw [hstatuses₁]; exact hstatus) okStatus
  refine ⟨m₂, by rw [constructValue, hm₁, ok_bind, hm₂], ?_⟩
  rw [hstatuses₂, hstatuses₁, hdata₂, hdata₁]
  exact hm.update o (some (.value (t.made value)))

theorem leads_construct (hm : Represents m.statuses.content m.data.content temporary abs)
    (ho : abs o = none) (hother : (abs other).isSome = true) (t : Transfer V) :
    Leads (construct t o other m) temporary (transfer t.made t.left o other abs) := by
  obtain ⟨hstatus, hdata⟩ := hm.raw ho
  obtain ⟨x, hx⟩ := Option.isSome_iff_exists.mp hother
  have hne : other ≠ o := by
    rintro rfl
    rw [ho] at hx
    cases hx
  cases x with
  | value v =>
    have harg : (Ref.slot (some other) : Ref ι V).Holds m.data.content v := hm.value_eq hx
    obtain ⟨m₁, hm₁, hstatuses₁, hdata₁⟩ := exists_makeValue hdata t harg
    obtain ⟨m₂, hm₂, hdata₂, hstatuses₂⟩ :=
      exists_makeStatus (m := m₁) (by rw [hstatuses₁]; exact hstatus) okStatus
    refine ⟨m₂, ?_, ?_⟩
    · rw [construct, hm.ok_value hx, ok_bind, if_pos rfl, hm₁, ok_bind, hm₂]
    · rw [hstatuses₂, hstatuses₁, hdata₂, hdata₁]
      exact hm.transfer hx hne t.made t.left
  | error s h =>
    obtain ⟨m₁, hm₁, hdata₁, hstatuses₁⟩ := exists_makeStatus hstatus s
    refine ⟨m₁, ?_, ?_⟩
    · rw [construct, hm.ok_error hx, ok_bind, if_neg Bool.false_ne_true,
        StatusOrData.status_eq (hm.status_eq hx), ok_bind]
      exact hm₁
    · rw [transfer_error hx hne, hstatuses₁, hdata₁]
      exact hm.setError hdata (StatusOr.value?_error s h)

theorem leads_assignValue (hm : Represents m.statuses.content m.data.content temporary abs)
    (ho : (abs o).isSome = true) (t : Transfer V) (value : V) :
    Leads (assignValue t o (.outside value) m) temporary
      (Function.update abs o (some (.value (t.made value)))) := by
  obtain ⟨x, hx⟩ := Option.isSome_iff_exists.mp ho
  have harg : (Ref.outside value : Ref ι V).Holds m.data.content value := rfl
  obtain ⟨m₁, hm₁, hstatuses₁, hdata₁⟩ :=
    exists_assignValue (hm.status_eq hx) (hm.value_eq hx) t harg (by simp)
  refine ⟨m₁, hm₁, ?_⟩
  rw [hstatuses₁, hdata₁]
  exact hm.update o (some (.value (t.made value)))

theorem leads_assignStatus (hm : Represents m.statuses.content m.data.content temporary abs)
    (ho : (abs o).isSome = true) (s : Status) :
    Leads (assignStatus o s m) temporary (Function.update abs o (some (.ofStatus s))) := by
  obtain ⟨x, hx⟩ := Option.isSome_iff_exists.mp ho
  obtain ⟨m₁, hm₁, hstatuses₁, hdata₁⟩ :=
    exists_assignStatus (hm.status_eq hx) (hm.value_eq hx) s
  have hset := hm.update o (some (.ofStatus s))
  rw [Option.map_some, Option.bind_some, StatusOr.value?_ofStatus] at hset
  refine ⟨m₁, hm₁, ?_⟩
  rw [hstatuses₁, hdata₁]
  exact hset

/-- `Assign(other.data_)` of an object that is OK. -/
theorem leads_assignValue_slot (hm : Represents m.statuses.content m.data.content temporary abs)
    (ho : (abs o).isSome = true) {v : V} (hother : abs other = some (.value v)) (hne : other ≠ o)
    (t : Transfer V) :
    Leads (assignValue t o (.slot (some other)) m) temporary
      (transfer t.made t.left o other abs) := by
  obtain ⟨x, hx⟩ := Option.isSome_iff_exists.mp ho
  have harg : (Ref.slot (some other) : Ref ι V).Holds m.data.content v := hm.value_eq hother
  obtain ⟨m₁, hm₁, hstatuses₁, hdata₁⟩ :=
    exists_assignValue (hm.status_eq hx) (hm.value_eq hx) t harg (by simpa using hne)
  refine ⟨m₁, hm₁, ?_⟩
  rw [hstatuses₁, hdata₁]
  exact hm.transfer hother hne t.made t.left

/-- `Assign(other.status_)` of an object that is not OK. -/
theorem leads_assignStatus_error (hm : Represents m.statuses.content m.data.content temporary abs)
    (ho : (abs o).isSome = true) {s : Status} {h : s.ok = false}
    (hother : abs other = some (.error s h)) (hne : other ≠ o) (made left : V → V) :
    Leads (assignStatus o s m) temporary (transfer made left o other abs) := by
  rw [transfer_error hother hne, ← StatusOr.ofStatus_of_not_ok h]
  exact leads_assignStatus hm ho s

theorem leads_assign (hm : Represents m.statuses.content m.data.content temporary abs)
    (ho : (abs o).isSome = true) (hother : (abs other).isSome = true) (t : Transfer V) :
    Leads (assign t o other m) temporary
      (if o = other then abs else transfer t.made t.left o other abs) := by
  rw [assign]
  by_cases heq : o = other
  · rw [if_pos heq, if_pos heq]
    exact ⟨m, rfl, hm⟩
  · rw [if_neg heq, if_neg heq]
    obtain ⟨x, hx⟩ := Option.isSome_iff_exists.mp hother
    cases x with
    | value v =>
      rw [hm.ok_value hx, ok_bind, if_pos rfl]
      exact leads_assignValue_slot hm ho hx (Ne.symm heq) t
    | error s h =>
      rw [hm.ok_error hx, ok_bind, if_neg Bool.false_ne_true,
        StatusOrData.status_eq (hm.status_eq hx), ok_bind]
      exact leads_assignStatus_error hm ho hx (Ne.symm heq) t.made t.left

omit [DecidableEq ι] in
theorem valueOrDie_value (hm : Represents m.statuses.content m.data.content temporary abs) {v : V}
    (ho : abs o = some (.value v)) : valueOrDie o m = .ok v := by
  rw [valueOrDie, ensureOk, hm.ok_value ho]
  change (m.data.read (some o)).mapError Stop.misuse = _
  rw [Slots.read_eq (hm.value_eq ho)]
  rfl

omit [DecidableEq ι] in
theorem valueOrDie_error (hm : Represents m.statuses.content m.data.content temporary abs)
    {s : Status} {h : s.ok = false} (ho : abs o = some (.error s h)) :
    valueOrDie o m = .error (crash s) := by
  rw [valueOrDie, ensureOk, hm.ok_error ho, ok_bind, StatusOrData.status_eq (hm.status_eq ho)]
  rfl

/-- The temporary of a conversion is constructed, passed on and destroyed. -/
theorem leads_assignValue_temporary (hm : Represents m.statuses.content m.data.content none abs)
    (ho : (abs o).isSome = true) {v : V} (hother : abs other = some (.value v)) (hne : other ≠ o)
    (t moved : Transfer V) :
    Leads (do
      let m ← makeValue none t (.slot (some other)) m
      let m ← assignValue moved o (.slot none) m
      destroyValue none m) none (transfer (moved.made ∘ t.made) t.left o other abs) := by
  obtain ⟨x, hx⟩ := Option.isSome_iff_exists.mp ho
  have harg : (Ref.slot (some other) : Ref ι V).Holds m.data.content v := hm.value_eq hother
  obtain ⟨m₁, hm₁, hstatuses₁, hdata₁⟩ := exists_makeValue hm.temporary t harg
  have hrep₁ : Represents m₁.statuses.content m₁.data.content (some (t.made v))
      (Function.update abs other (some (.value (t.left v)))) := by
    rw [hstatuses₁, hdata₁]
    exact (hm.setTemporary (some (t.made v))).setValue hother (t.left v)
  have hx₁ : Function.update abs other (some (.value (t.left v))) o = some x := by
    rw [Function.update_of_ne hne.symm, hx]
  have harg₁ : (Ref.slot none : Ref ι V).Holds m₁.data.content (t.made v) := hrep₁.temporary
  obtain ⟨m₂, hm₂, hstatuses₂, hdata₂⟩ :=
    exists_assignValue (hrep₁.status_eq hx₁) (hrep₁.value_eq hx₁) moved harg₁ (by simp)
  have hrep₂ : Represents m₂.statuses.content m₂.data.content (some (moved.left (t.made v)))
      (transfer (moved.made ∘ t.made) t.left o other abs) := by
    rw [hstatuses₂, hdata₂, transfer_value hother, Function.update_comm hne.symm]
    exact (hrep₁.update o (some (.value (moved.made (t.made v))))).setTemporary _
  obtain ⟨m₃, hm₃, hstatuses₃, hdata₃⟩ := exists_destroyValue hrep₂.temporary
  refine ⟨m₃, by rw [hm₁, ok_bind, hm₂, ok_bind, hm₃], ?_⟩
  rw [hstatuses₃, hdata₃]
  exact hrep₂.setTemporary none

theorem leads_assignConverted (hm : Represents m.statuses.content m.data.content none abs)
    (ho : (abs o).isSome = true) (hother : (abs other).isSome = true) (hne : o ≠ other)
    (t : Transfer V) (moved : Option (Transfer V)) :
    Leads (assignConverted t moved o other m) none
      ((Op.assignConverted t moved o other).apply abs) := by
  obtain ⟨x, hx⟩ := Option.isSome_iff_exists.mp hother
  unfold assignConverted
  cases x with
  | value v =>
    rw [hm.ok_value hx, ok_bind, if_pos rfl, valueOrDie_value hm hx, ok_bind]
    cases moved with
    | none => exact leads_assignValue_slot hm ho hx hne.symm t
    | some moved => exact leads_assignValue_temporary hm ho hx hne.symm t moved
  | error s h =>
    rw [hm.ok_error hx, ok_bind, if_neg Bool.false_ne_true,
      StatusOrData.status_eq (hm.status_eq hx), ok_bind]
    cases moved with
    | none => exact leads_assignStatus_error hm ho hx hne.symm _ _
    | some moved => exact leads_assignStatus_error hm ho hx hne.symm _ _

theorem leads_useValue (hm : Represents m.statuses.content m.data.content temporary abs) {v : V}
    (ho : abs o = some (.value v)) (f : V → V) :
    Leads (useValue o f m) temporary (Function.update abs o (some (.value (f v)))) := by
  obtain ⟨data, hdata, hcontent⟩ := Slots.exists_assign (hm.value_eq ho) (f v)
  refine ⟨{ m with data := data }, ?_, ?_⟩
  · rw [useValue, valueOrDie_value hm ho, ok_bind, hdata]
    rfl
  · rw [hcontent]
    exact hm.setValue ho (f v)

theorem leads_destructor (hm : Represents m.statuses.content m.data.content temporary abs)
    (ho : (abs o).isSome = true) :
    Leads (destructor o m) temporary (Function.update abs o none) := by
  obtain ⟨x, hx⟩ := Option.isSome_iff_exists.mp ho
  have hset := hm.update o none
  obtain ⟨m₁, hm₁, hdata₁, hstatuses₁⟩ := exists_destroyStatus (hm.status_eq hx)
  cases x with
  | value v =>
    obtain ⟨m₂, hm₂, hstatuses₂, hdata₂⟩ :=
      exists_destroyValue (m := m₁) (p := some o) (v := v) (by rw [hdata₁]; exact hm.value_eq hx)
    refine ⟨m₂, ?_, ?_⟩
    · rw [destructor, hm.ok_value hx, ok_bind, if_pos rfl, hm₁, ok_bind, hm₂]
    · rw [hstatuses₂, hstatuses₁, hdata₂, hdata₁]
      exact hset
  | error s h =>
    have hsame : Function.update m.data.content (some o) none = m.data.content := by
      rw [eq_comm, Function.eq_update_self_iff, hm.value_eq hx]
      rfl
    refine ⟨m₁, ?_, ?_⟩
    · rw [destructor, hm.ok_error hx, ok_bind, if_neg Bool.false_ne_true, hm₁]
    · rw [hstatuses₁, hdata₁, ← hsame]
      exact hset

/-! ### Runs -/

/-- The objects after a transfer are those before it, and the new one. -/
theorem isSome_transfer (made left : V → V) (hother : (abs other).isSome = true) (o' : ι) :
    (transfer made left o other abs o').isSome = true ↔ o' = o ∨ (abs o').isSome = true := by
  by_cases h : o' = other
  · simp [transfer, h, hother]
  · rw [transfer, Function.update_of_ne h]
    by_cases ho : o' = o
    · simp [ho, hother]
    · simp [ho]

theorem mem_objects {objects : Finset ι} (hobjects : ∀ o, o ∈ objects ↔ (abs o).isSome = true)
    {op : Op ι V} (hop : op.Legal objects) (o' : ι) :
    o' ∈ op.objects objects ↔ (op.apply abs o').isSome = true := by
  have hupdate : ∀ o (x : StatusOr V),
      (Function.update abs o (some x) o').isSome = true ↔ o' = o ∨ (abs o').isSome = true := by
    intro o x
    by_cases h : o' = o
    · simp [h]
    · simp [h]
  have hold : ∀ {o}, o ∈ objects → (o' ∈ objects ↔ o' = o ∨ (abs o').isSome = true) := by
    intro o ho
    rw [hobjects o']
    constructor
    · exact .inr
    · rintro (rfl | h)
      · exact (hobjects o').mp ho
      · exact h
  cases op with
  | default o => rw [Op.objects, Op.apply, hupdate, Finset.mem_insert, hobjects]
  | constructValue t o value => rw [Op.objects, Op.apply, hupdate, Finset.mem_insert, hobjects]
  | constructStatus o s => rw [Op.objects, Op.apply, hupdate, Finset.mem_insert, hobjects]
  | construct t o other =>
    rw [Op.objects, Op.apply, isSome_transfer _ _ ((hobjects other).mp hop.2), Finset.mem_insert,
      hobjects]
  | assignValue t o value => exact (hold hop).trans (hupdate o _).symm
  | assignStatus o s => exact (hold hop).trans (hupdate o _).symm
  | assign t o other =>
    rw [Op.apply]
    split
    · exact hobjects o'
    · exact (hold hop.1).trans (isSome_transfer _ _ ((hobjects other).mp hop.2) o').symm
  | assignConverted t moved o other =>
    have hother := (hobjects other).mp hop.2.1
    cases moved with
    | none => exact (hold hop.1).trans (isSome_transfer _ _ hother o').symm
    | some moved => exact (hold hop.1).trans (isSome_transfer _ _ hother o').symm
  | useValue o f =>
    obtain ⟨x, hx⟩ := Option.isSome_iff_exists.mp ((hobjects o).mp hop)
    rw [Op.apply, hx, Option.map_some, hupdate]
    exact hold hop
  | destructor o =>
    rw [Op.objects, Op.apply, Finset.mem_erase, hobjects]
    by_cases h : o' = o
    · simp [h]
    · simp [h]

omit [DecidableEq ι] in
theorem Denotes.eq_none (hm : Denotes m abs) {o : ι} (ho : o ∉ m.objects) : abs o = none := by
  rw [hm.objects, Bool.not_eq_true, Option.isSome_eq_false_iff, Option.isNone_iff_eq_none] at ho
  exact ho

/-- **What one operation does**, where it does not ask for the value of an error: to the objects in
memory what it does to values of `StatusOr`. -/
theorem exec_denotes (hm : Denotes m abs) {op : Op ι V} (hop : op.Legal m.objects)
    (hvalue : ∀ o f, op = .useValue o f → ∃ v, abs o = some (.value v)) :
    ∃ m', exec op m = .ok m' ∧ Denotes m' (op.apply abs) := by
  have hsome : ∀ {o}, o ∈ m.objects → (abs o).isSome = true := (hm.objects _).mp
  have hnone : ∀ {o}, o ∉ m.objects → abs o = none := hm.eq_none
  have hrun : Leads (op.run m) none (op.apply abs) := by
    cases op with
    | default o => exact leads_constructStatus hm.slots (hnone hop) _
    | constructValue t o value => exact leads_constructValue hm.slots (hnone hop) t value
    | constructStatus o s => exact leads_constructStatus hm.slots (hnone hop) s
    | construct t o other => exact leads_construct hm.slots (hnone hop.1) (hsome hop.2) t
    | assignValue t o value => exact leads_assignValue hm.slots (hsome hop) t value
    | assignStatus o s => exact leads_assignStatus hm.slots (hsome hop) s
    | assign t o other => exact leads_assign hm.slots (hsome hop.1) (hsome hop.2) t
    | assignConverted t moved o other =>
      exact leads_assignConverted hm.slots (hsome hop.1) (hsome hop.2.1) hop.2.2 t moved
    | useValue o f =>
      obtain ⟨v, hv⟩ := hvalue o f rfl
      rw [Op.apply, hv]
      exact leads_useValue hm.slots hv f
    | destructor o => exact leads_destructor hm.slots (hsome hop)
  obtain ⟨m', hm', hrep⟩ := hrun
  refine ⟨{ m' with objects := op.objects m.objects }, by rw [exec, hm']; rfl, hrep, ?_⟩
  exact mem_objects hm.objects hop

/-- Asking for the value of an error ends the run. -/
theorem exec_useValue_error (hm : Denotes m abs) {s : Status} {h : s.ok = false}
    (ho : abs o = some (.error s h)) (f : V → V) :
    exec (.useValue o f) m = .error (crash s) := by
  rw [exec, Op.run, useValue, valueOrDie_error hm.slots ho]
  rfl

theorem exec_cases (hm : Denotes m abs) {op : Op ι V} (hop : op.Legal m.objects) :
    (∃ m', exec op m = .ok m' ∧ Denotes m' (op.apply abs)) ∨
      ∃ o f s h, op = .useValue o f ∧ abs o = some (.error s h) ∧ exec op m = .error (crash s) := by
  by_cases hvalue : ∀ o f, op = .useValue o f → ∃ v, abs o = some (.value v)
  · exact .inl (exec_denotes hm hop hvalue)
  · push Not at hvalue
    obtain ⟨o, f, rfl, hnot⟩ := hvalue
    obtain ⟨x, hx⟩ := Option.isSome_iff_exists.mp ((hm.objects o).mp hop)
    cases x with
    | value v => exact absurd hx (hnot v)
    | error s h => exact .inr ⟨o, f, s, h, rfl, hx, exec_useValue_error hm hx f⟩

omit [DecidableEq ι] in
theorem denotes_start : Denotes (.start : Memory ι V) fun _ => none where
  slots := ⟨fun _ => rfl, fun _ => rfl, rfl⟩
  objects o := by simp [Memory.start]

/-- **In every reachable state the memory holds the objects of `StatusOr` as values.** -/
theorem exists_denotes (h : (statusOrs ι V).Reachable m) : ∃ abs, Denotes m abs := by
  refine h.invariant (I := fun m => ∃ abs, Denotes m abs) ?_ ?_
  · intro m hinit
    obtain rfl : m = .start := hinit
    exact ⟨_, denotes_start⟩
  · rintro m op m' - ⟨abs, hm⟩ ⟨hop, hexec⟩
    rcases exec_cases hm hop with ⟨m'', hexec', hm''⟩ | ⟨o, f, s, hs, -, -, hcrash⟩
    · rw [hexec'] at hexec
      cases hexec
      exact ⟨_, hm''⟩
    · rw [hcrash] at hexec
      cases hexec

theorem Denotes.managesLifetimes (hm : Denotes m abs) : ManagesLifetimes m where
  alive o ho := by
    obtain ⟨x, hx⟩ := Option.isSome_iff_exists.mp ((hm.objects o).mp ho)
    refine ⟨x.status, hm.slots.status_eq hx, ?_⟩
    rw [hm.slots.value_eq hx]
    cases x with
    | value v => simp
    | error s h => simp [h]
  raw := ⟨fun o ho => hm.slots.raw (hm.eq_none ho), hm.slots.temporary⟩
  safe op hop misuse hexec := by
    rcases exec_cases hm hop with ⟨m', hexec', -⟩ | ⟨o, f, s, h, -, -, hcrash⟩
    · rw [hexec'] at hexec
      cases hexec
    · rw [hcrash] at hexec
      cases hexec
  returns op hop := by
    rcases exec_cases hm hop with ⟨m', hexec, -⟩ | ⟨o, f, s, h, rfl, ho, -⟩
    · exact .inl ⟨m', hexec⟩
    · exact .inr ⟨o, f, s, rfl, hm.slots.status_eq ho, h⟩
  notOk op o s m' hop hs hlegal hexec := by
    have hof : (StatusOr.ofStatus s : StatusOr V).status.ok = false := StatusOr.ok_ofStatus s
    have happly : op.apply abs = Function.update abs o (some (.ofStatus s)) := by
      rcases hop with rfl | rfl <;> rfl
    rcases exec_cases hm hlegal with ⟨m'', hexec', hm''⟩ | ⟨o', f, s', h, rfl, -, -⟩
    · rw [hexec'] at hexec
      cases hexec
      rw [happly] at hm''
      rw [ok_eq (hm''.slots.status_eq (Function.update_self ..)), hof]
    · rcases hop with hop | hop <;> cases hop
  valueOrDie o ho := by
    obtain ⟨x, hx⟩ := Option.isSome_iff_exists.mp ((hm.objects o).mp ho)
    cases x with
    | value v => exact .inl ⟨v, hm.slots.value_eq hx, valueOrDie_value hm.slots hx⟩
    | error s h => exact .inr ⟨s, hm.slots.status_eq hx, h, valueOrDie_error hm.slots hx⟩
  once := by
    refine ⟨m.data.count_destroyed_le, fun hempty n hn => Slots.count_destroyed_eq ?_ hn⟩
    intro p
    cases p with
    | none => exact hm.slots.temporary
    | some o =>
      have ho : o ∉ m.objects := by
        rw [hempty]
        exact Finset.notMem_empty o
      exact (hm.slots.raw (hm.eq_none ho)).2

/-- **Every sequence of operations manages the lifetimes of the values**, over any number of
objects. -/
theorem reachable_managesLifetimes (h : (statusOrs ι V).Reachable m) : ManagesLifetimes m := by
  obtain ⟨abs, hm⟩ := exists_denotes h
  exact hm.managesLifetimes

/-- A value is moved out of one object into another, and both are destroyed. -/
theorem reachable_managesLifetimes_moved : ∃ m : Memory Nat String,
    m.objects = ∅ ∧ m.data.constructed = 2 ∧ m.data.destroyed = [1, 0] ∧ ManagesLifetimes m :=
  ⟨_, rfl, rfl, rfl, reachable_managesLifetimes <|
    .step (l := .destructor 1)
      (.step (l := .destructor 0)
        (.step (l := .construct (.move fun _ => "") 1 0)
          (.step (l := .constructValue .copy 0 "value") (.init rfl) ⟨by decide, rfl⟩)
          ⟨by decide, rfl⟩)
        ⟨by decide, rfl⟩)
      ⟨by decide, rfl⟩⟩

end AIStreams.StatusOrData
