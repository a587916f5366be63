import AIStreams.Text.Printed
import AIStreams.Util.Status
import Mathlib.Data.List.Nodup

/-!
# When two statuses are equal

`Status::operator==` of `aistreams/util/status/status.h`, which compares what `ToString` prints.

* `toString_injective`: the printed form determines the status, its state included.
* `eq_denotes_iff`: equality is that of code and message except between OK statuses that are
  built differently.
-/

namespace AIStreams

/-- `static_cast<int>(code)`. -/
def StatusCode.number : StatusCode → ℤ
  | .kOk => 0
  | .kCancelled => 1
  | .kUnknown => 2
  | .kInvalidArgument => 3
  | .kDeadlineExceeded => 4
  | .kNotFound => 5
  | .kAlreadyExists => 6
  | .kPermissionDenied => 7
  | .kResourceExhausted => 8
  | .kFailedPrecondition => 9
  | .kAborted => 10
  | .kOutOfRange => 11
  | .kUnimplemented => 12
  | .kInternal => 13
  | .kUnavailable => 14
  | .kDataLoss => 15
  | .kUnauthenticated => 16
  | .unlisted value _ => value

namespace Status

/-- `operator==`.  Two objects have one `state_` if neither has any, or if they are one object,
which prints as itself. -/
def eq (s t : Status) : Bool := (s.state.isNone && t.state.isNone) || s.toString == t.toString

/-! ### The names of codes -/

/-- The `type` that `ToString` prints. -/
def typeName (code : StatusCode) : String :=
  match code with
  | .kCancelled => "Cancelled"
  | .kUnknown => "Unknown"
  | .kInvalidArgument => "Invalid argument"
  | .kDeadlineExceeded => "Deadline exceeded"
  | .kNotFound => "Not found"
  | .kAlreadyExists => "Already exists"
  | .kPermissionDenied => "Permission denied"
  | .kUnauthenticated => "Unauthenticated"
  | .kResourceExhausted => "Resource exhausted"
  | .kFailedPrecondition => "Failed precondition"
  | .kAborted => "Aborted"
  | .kOutOfRange => "Out of range"
  | .kUnimplemented => "Unimplemented"
  | .kInternal => "Internal"
  | .kUnavailable => "Unavailable"
  | .kDataLoss => "Data loss"
  | code => "Unknown code(" ++ ToString.toString code.number ++ ")"

theorem toString_make (code : StatusCode) (msg : String) :
    (make code msg).toString = typeName code ++ ": " ++ msg := by
  cases code <;> rfl

/-- The codes that `ToString` has a case for. -/
def named : List StatusCode :=
  [.kCancelled, .kUnknown, .kInvalidArgument, .kDeadlineExceeded, .kNotFound, .kAlreadyExists,
    .kPermissionDenied, .kUnauthenticated, .kResourceExhausted, .kFailedPrecondition, .kAborted,
    .kOutOfRange, .kUnimplemented, .kInternal, .kUnavailable, .kDataLoss]

theorem typeName_of_not_mem {code : StatusCode} (h : code ∉ named) :
    typeName code = "Unknown code(" ++ ToString.toString code.number ++ ")" := by
  cases code <;> first | rfl | exact absurd (by decide) h

theorem nodup_typeNames : (named.map typeName).Nodup := by decide

/-- The names of the codes that have one are letters and blanks. -/
theorem typeName_of_mem {code : StatusCode} (h : code ∈ named) {c : Char}
    (hc : c ∈ (typeName code).toList) : c.isAlpha = true ∨ c = ' ' := by
  have hall : (named.all fun code => (typeName code).toList.all fun c => c.isAlpha || c == ' ') =
      true := by decide
  have hone := List.all_eq_true.mp (List.all_eq_true.mp hall code h) c hc
  simpa using hone

theorem eq_of_not_mem {code : StatusCode} (h : code ∉ named) :
    code = .kOk ∨ ∃ value hvalue, code = .unlisted value hvalue := by
  cases code <;> first | exact absurd (by decide) h | exact .inl rfl | exact .inr ⟨_, _, rfl⟩

/-- A code with a name is not printed as an unknown one. -/
theorem typeName_ne {code code' : StatusCode} (h : code ∈ named) (h' : code' ∉ named) :
    typeName code ≠ typeName code' := by
  intro heq
  have hparen : '(' ∈ (typeName code').toList := by
    rw [typeName_of_not_mem h']
    simp
  rw [← heq] at hparen
  have := typeName_of_mem h hparen
  revert this
  decide

theorem typeName_injective {code code' : StatusCode} (h : typeName code = typeName code') :
    code = code' := by
  by_cases hc : code ∈ named
  · by_cases hc' : code' ∈ named
    · exact List.inj_on_of_nodup_map nodup_typeNames hc hc' h
    · exact absurd h (typeName_ne hc hc')
  · by_cases hc' : code' ∈ named
    · exact absurd h.symm (typeName_ne hc' hc)
    · rw [typeName_of_not_mem hc, typeName_of_not_mem hc', String.append_left_inj,
        String.append_right_inj] at h
      have hnumber : code.number = code'.number := Text.int_eq_of_toString_eq h
      rcases eq_of_not_mem hc with rfl | ⟨value, hvalue, rfl⟩
      · rcases eq_of_not_mem hc' with rfl | ⟨value', hvalue', rfl⟩
        · rfl
        · simp [StatusCode.number] at hnumber
          omega
      · rcases eq_of_not_mem hc' with rfl | ⟨value', hvalue', rfl⟩
        · simp [StatusCode.number] at hnumber
          omega
        · obtain rfl : value = value' := hnumber
          rfl

theorem colon_not_mem (code : StatusCode) : ':' ∉ (typeName code).toList := by
  intro hmem
  by_cases hc : code ∈ named
  · have := typeName_of_mem hc hmem
    revert this
    decide
  · rw [typeName_of_not_mem hc] at hmem
    simp only [String.toList_append, List.mem_append] at hmem
    rcases hmem with (hmem | hmem) | hmem
    · revert hmem
      decide
    · have := Text.isDigit_or_minus_of_mem hmem
      revert this
      decide
    · revert hmem
      decide

/-! ### What is printed -/

/-- **The printed form determines the status**, its state included. -/
theorem toString_injective {s t : Status} (h : s.toString = t.toString) : s = t := by
  have hnull : ∀ code msg, okStatus.toString ≠ (make code msg).toString := by
    intro code msg heq
    have hcolon : ':' ∈ okStatus.toString.toList := by
      rw [heq, toString_make]
      simp
    revert hcolon
    decide
  obtain ⟨_ | ⟨code, msg⟩⟩ := s
  · obtain ⟨_ | ⟨code', msg'⟩⟩ := t
    · rfl
    · exact absurd h (hnull code' msg')
  · obtain ⟨_ | ⟨code', msg'⟩⟩ := t
    · exact absurd h.symm (hnull code msg)
    · have hprinted : (make code msg).toString = (make code' msg').toString := h
      rw [toString_make, toString_make, String.append_assoc, String.append_assoc] at hprinted
      have hlist := congrArg String.toList hprinted
      simp only [String.toList_append] at hlist
      obtain ⟨hname, hrest⟩ :=
        Text.append_cons_inj_of_not_mem (colon_not_mem code) (colon_not_mem code') hlist
      obtain rfl := typeName_injective (String.toList_injective hname)
      obtain rfl : msg = msg' := String.toList_injective (List.cons.inj hrest).2
      rfl

/-- **Equality is that of the state.** -/
theorem eq_iff (s t : Status) : s.eq t = true ↔ s = t := by
  unfold eq
  rw [Bool.or_eq_true, beq_iff_eq]
  constructor
  · rintro (hnull | hprinted)
    · obtain ⟨_ | _⟩ := s
      · obtain ⟨_ | _⟩ := t
        · rfl
        · cases hnull
      · cases hnull
    · exact toString_injective hprinted
  · rintro rfl
    exact .inr rfl

theorem equivalence_eq : Equivalence fun s t : Status => s.eq t = true where
  refl s := (eq_iff s s).mpr rfl
  symm h := (eq_iff _ _).mpr ((eq_iff _ _).mp h).symm
  trans h h' := (eq_iff _ _).mpr (((eq_iff _ _).mp h).trans ((eq_iff _ _).mp h'))

/-! ### What a status denotes -/

/-- The two statuses are equal exactly if their codes and messages are. -/
def DenotesEquality (s t : Status) : Prop :=
  s.eq t = true ↔ s.code = t.code ∧ s.message = t.message

/-- A status that is not OK is its code and its message. -/
theorem eq_make_of_not_ok {s : Status} (h : s.ok = false) : s = make s.code s.message := by
  obtain ⟨_ | ⟨code, msg⟩⟩ := s
  · cases h
  · have hcode : code ≠ .kOk := by simpa [ok] using h
    simp [make, Status.code, message, errorMessage, hcode]

/-- **When equality is that of code and message**: exactly unless both statuses are OK and are
built differently, one from nothing and one from `kOk`, or both from `kOk` with different texts. -/
theorem eq_denotes_iff (s t : Status) :
    (DenotesEquality s t ↔ (s.ok = true → t.ok = true → s.state = t.state)) ∧
      Equivalence fun s t : Status => s.eq t = true := by
  refine ⟨?_, equivalence_eq⟩
  unfold DenotesEquality
  rw [eq_iff]
  constructor
  · intro h hs ht
    have hcode : s.code = t.code := ((ok_iff_code s).mp hs).trans ((ok_iff_code t).mp ht).symm
    have hmessage : s.message = t.message := (message_of_ok hs).trans (message_of_ok ht).symm
    rw [h.mpr ⟨hcode, hmessage⟩]
  · intro h
    refine ⟨fun heq => by rw [heq]; exact ⟨rfl, rfl⟩, ?_⟩
    rintro ⟨hcode, hmessage⟩
    cases hs : s.ok with
    | true =>
      have ht : t.ok = true := (ok_iff_code t).mpr (hcode.symm.trans ((ok_iff_code s).mp hs))
      exact congrArg Status.mk (h hs ht)
    | false =>
      have ht : t.ok = false := by
        rw [← Bool.not_eq_true, ok_iff_code, ← hcode, ← ok_iff_code, hs]
        exact Bool.false_ne_true
      rw [eq_make_of_not_ok hs, eq_make_of_not_ok ht, hcode, hmessage]

/-- **The translation of an OK grpc status does not equal `OkStatus()`.** -/
theorem not_denotesEquality_rpcOk :
    okStatus.code = (makeStatusFromRpcStatus ⟨.ok, ""⟩).code ∧
      okStatus.message = (makeStatusFromRpcStatus ⟨.ok, ""⟩).message ∧
      okStatus.eq (makeStatusFromRpcStatus ⟨.ok, ""⟩) = false ∧
      ¬ ∀ s t : Status, DenotesEquality s t := by
  refine ⟨rfl, rfl, by decide, fun h => ?_⟩
  have heq := (h okStatus (makeStatusFromRpcStatus ⟨.ok, ""⟩)).mpr ⟨rfl, rfl⟩
  revert heq
  decide

end Status

end AIStreams
