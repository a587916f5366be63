import Mathlib.Data.List.TakeDrop

/-!
# Streams that may fail

A file that is read, or written, through `stdio`: what a call comes to is up to an oracle, within
what the C standard promises.

* `fread_append`, `fread_progress`: a read gives the next part of the file, and one that gives
  nothing sets an indicator.
* `fclose_fwrite_eq_iff`: when everything that was to be written has arrived.
-/

namespace AIStreams.Stdio

variable {α : Type*}

/-! ### Reading -/

/-- A stream that is open for reading: what is left of the file, and the two indicators. -/
structure Reader (α : Type*) where
  rest : List α
  eof : Bool
  err : Bool

/-- What a read comes to: so many items at most, and whether it fails then.  A read that takes the
last item may see the end of the file, or leave that to the next one. -/
structure Read where
  count : ℕ
  fails : Bool
  seesEnd : Bool

/-- So many items does a read come to that asks for `n`: one at least, unless it fails. -/
def Read.amount (o : Read) (n : ℕ) : ℕ := min n (if o.fails then o.count else max 1 o.count)

/-- `fread`. -/
def Reader.fread (r : Reader α) (n : ℕ) (o : Read) : List α × Reader α :=
  let rest := r.rest.drop (o.amount n)
  (r.rest.take (o.amount n),
    { rest
      eof := r.eof || (!o.fails && rest.isEmpty && (o.seesEnd || r.rest.isEmpty))
      err := r.err || o.fails })

theorem fread_append (r : Reader α) (n : ℕ) (o : Read) :
    (r.fread n o).1 ++ (r.fread n o).2.rest = r.rest :=
  List.take_append_drop _ _

/-- The end of the file is not seen before it. -/
theorem fread_eof {r : Reader α} (h : r.eof = true → r.rest = []) {n : ℕ} {o : Read}
    (heof : (r.fread n o).2.eof = true) : (r.fread n o).2.rest = [] := by
  rcases (Bool.or_eq_true _ _).mp heof with hr | hend
  · show r.rest.drop _ = []
    rw [h hr, List.drop_nil]
  · simp only [Bool.and_eq_true, List.isEmpty_iff] at hend
    exact hend.1.2

/-- **A read that gives nothing sets an indicator.** -/
theorem fread_progress {r : Reader α} {n : ℕ} (hn : 0 < n) {o : Read}
    (h : (r.fread n o).1 = []) : (r.fread n o).2.err = true ∨ (r.fread n o).2.eof = true := by
  cases hfails : o.fails with
  | true => exact .inl (by simp [Reader.fread, hfails])
  | false =>
    have hamount : 0 < o.amount n := by
      simp only [Read.amount, hfails, Bool.false_eq_true, if_false]
      omega
    have hrest : r.rest = [] := by
      rcases List.take_eq_nil_iff.mp h with hzero | hnil
      · omega
      · exact hnil
    exact .inr (by simp [Reader.fread, hfails, hrest])

/-! ### Writing -/

/-- A stream that is open for writing: what it has been given, and its error indicator. -/
structure Writer (α : Type*) where
  accepted : List α
  err : Bool

/-- `fwrite`, of which `taken` items are accepted at most. -/
def Writer.fwrite (w : Writer α) (items : List α) (taken : ℕ) : ℕ × Writer α :=
  (min taken items.length,
    ⟨w.accepted ++ items.take taken, w.err || decide (taken < items.length)⟩)

/-- `fclose`: whether it succeeds, and what is then in the file.  If it fails, so many of the items
that the stream was given are there. -/
def Writer.fclose (w : Writer α) : Option ℕ → Bool × List α
  | none => (true, w.accepted)
  | some kept => (false, w.accepted.take kept)

/-- **Everything arrives** exactly if the write takes all of it and closing loses nothing. -/
theorem fclose_fwrite_eq_iff (items : List α) (taken : ℕ) (close : Option ℕ) :
    (((⟨[], false⟩ : Writer α).fwrite items taken).2.fclose close).2 = items ↔
      items.length ≤ taken ∧ ∀ kept ∈ close, items.length ≤ kept := by
  cases close with
  | none =>
    show [] ++ items.take taken = items ↔ _
    rw [List.nil_append, List.take_eq_self_iff]
    simp
  | some kept =>
    show ([] ++ items.take taken).take kept = items ↔ _
    rw [List.nil_append, List.take_take, List.take_eq_self_iff, Nat.le_min, and_comm]
    simp

end AIStreams.Stdio
