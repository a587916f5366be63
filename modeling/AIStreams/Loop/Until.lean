import Mathlib.Data.List.Basic

/-!
# Loops that take what arrives until told to stop

A list of arrivals is read one by one, `none` being one that did not come in time.  The loop
leaves off at a late one, at one that marks the end, which it does not take, or once it has taken
one that it is told to stop at.  The arrivals seen so far are a list: a loop that has seen all of
them still waits.

* `takesExactly_iff`: `takeUntil` computes what `TakesExactly` says.
* `takeUntil_eq_iff`: two stop conditions give the same run exactly if they agree on every item
  that one of them takes.
* `takeUntil_count`: a loop told to stop at a count takes so many items.
-/

namespace AIStreams.Loop

/-- How the loop has left off. -/
inductive Ending
  | waiting
  | late
  | ended
  | stopped
  deriving DecidableEq

variable {α : Type*} (isEnd : α → Bool)

/-- The items taken and how the loop left off; `stop i a` is asked when `a` has been taken after
`i` others. -/
def takeUntil : (ℕ → α → Bool) → List (Option α) → List α × Ending
  | _, [] => ([], .waiting)
  | _, none :: _ => ([], .late)
  | stop, some a :: rest =>
    if isEnd a then ([], .ended)
    else if stop 0 a then ([a], .stopped)
    else (a :: (takeUntil (fun i => stop (i + 1)) rest).1,
      (takeUntil (fun i => stop (i + 1)) rest).2)

/-- The items that arrive in time, before the end. -/
def inTime : List (Option α) → List α
  | some a :: rest => if isEnd a then [] else a :: inTime rest
  | _ => []

/-- What the loop has not read, given how it left off. -/
def Ending.Leaves : Ending → List (Option α) → Prop
  | .waiting, rest => rest = []
  | .late, rest => ∃ later, rest = none :: later
  | .ended, rest => ∃ a later, rest = some a :: later ∧ isEnd a = true
  | .stopped, _ => True

/-- `taken` is everything up to and including the first item that `stop` holds of, or else
everything before the end. -/
structure TakesExactly (stop : ℕ → α → Bool) (arrivals : List (Option α)) (taken : List α)
    (ending : Ending) : Prop where
  inOrder : ∃ rest, arrivals = taken.map some ++ rest ∧ ending.Leaves isEnd rest
  noEnd : ∀ a ∈ taken, isEnd a = false
  first : ∀ i a, taken[i]? = some a → (stop i a = true ↔ i + 1 = taken.length ∧ ending = .stopped)
  some_of_stopped : ending = .stopped → taken ≠ []

variable {isEnd} {stop stop' : ℕ → α → Bool} {a : α} {arrivals : List (Option α)} {taken : List α}
  {ending : Ending}

theorem takesExactly_waiting : TakesExactly isEnd stop [] [] .waiting where
  inOrder := ⟨[], rfl, rfl⟩
  noEnd := by simp
  first := by simp
  some_of_stopped := by simp

theorem takesExactly_late : TakesExactly isEnd stop (none :: arrivals) [] .late where
  inOrder := ⟨none :: arrivals, rfl, arrivals, rfl⟩
  noEnd := by simp
  first := by simp
  some_of_stopped := by simp

theorem takesExactly_ended (ha : isEnd a = true) :
    TakesExactly isEnd stop (some a :: arrivals) [] .ended where
  inOrder := ⟨some a :: arrivals, rfl, a, arrivals, rfl, ha⟩
  noEnd := by simp
  first := by simp
  some_of_stopped := by simp

theorem takesExactly_stopped (ha : isEnd a = false) (hs : stop 0 a = true) :
    TakesExactly isEnd stop (some a :: arrivals) [a] .stopped where
  inOrder := ⟨arrivals, rfl, trivial⟩
  noEnd := by simpa using ha
  first := by
    intro i b hb
    cases i with
    | zero =>
      obtain rfl : a = b := by simpa using hb
      simp [hs]
    | succ i => simp at hb
  some_of_stopped := by simp

/-- The first item of a run that is not told to stop at it. -/
theorem takesExactly_cons (ha : isEnd a = false) (hs : stop 0 a = false)
    (h : TakesExactly isEnd (fun i => stop (i + 1)) arrivals taken ending) :
    TakesExactly isEnd stop (some a :: arrivals) (a :: taken) ending where
  inOrder := by
    obtain ⟨rest, hrest, hleaves⟩ := h.inOrder
    exact ⟨rest, by rw [hrest]; rfl, hleaves⟩
  noEnd := by
    intro b hb
    rcases List.mem_cons.mp hb with rfl | hb
    · exact ha
    · exact h.noEnd b hb
  first := by
    intro i b hb
    cases i with
    | zero =>
      obtain rfl : a = b := by simpa using hb
      have hne := h.some_of_stopped
      cases taken with
      | nil => simpa [hs] using hne
      | cons c taken => simp [hs]
    | succ i => simpa using h.first i b (by simpa using hb)
  some_of_stopped := by simp

theorem takeUntil_takesExactly (isEnd : α → Bool) (stop : ℕ → α → Bool)
    (arrivals : List (Option α)) :
    TakesExactly isEnd stop arrivals (takeUntil isEnd stop arrivals).1
      (takeUntil isEnd stop arrivals).2 := by
  induction arrivals generalizing stop with
  | nil => exact takesExactly_waiting
  | cons arrival arrivals ih =>
    cases arrival with
    | none => exact takesExactly_late
    | some a =>
      rw [takeUntil]
      cases ha : isEnd a with
      | true => exact takesExactly_ended ha
      | false =>
        cases hs : stop 0 a with
        | true => exact takesExactly_stopped ha hs
        | false => exact takesExactly_cons ha hs (ih _)

/-- An item told to stop at is the last. -/
theorem TakesExactly.tail_of_stop (h : TakesExactly isEnd stop arrivals (a :: taken) ending)
    (hs : stop 0 a = true) : taken = [] ∧ ending = .stopped := by
  obtain ⟨hlength, hending⟩ := (h.first 0 a rfl).mp hs
  exact ⟨List.eq_nil_of_length_eq_zero (by simpa using hlength), hending⟩

/-- The run after an item not told to stop at. -/
theorem TakesExactly.tail (h : TakesExactly isEnd stop (some a :: arrivals) (a :: taken) ending)
    (hs : stop 0 a = false) :
    TakesExactly isEnd (fun i => stop (i + 1)) arrivals taken ending where
  inOrder := by
    obtain ⟨rest, hrest, hleaves⟩ := h.inOrder
    exact ⟨rest, (List.cons.inj hrest).2, hleaves⟩
  noEnd b hb := h.noEnd b (List.mem_cons_of_mem a hb)
  first i b hb := by simpa using h.first (i + 1) b hb
  some_of_stopped := by
    rintro he rfl
    have hfirst := (h.first 0 a rfl).mpr ⟨rfl, he⟩
    rw [hs] at hfirst
    cases hfirst

theorem takeUntil_eq (h : TakesExactly isEnd stop arrivals taken ending) :
    takeUntil isEnd stop arrivals = (taken, ending) := by
  induction arrivals generalizing stop taken with
  | nil =>
    obtain ⟨rest, hrest, hleaves⟩ := h.inOrder
    obtain ⟨htaken, rfl⟩ := List.append_eq_nil_iff.mp hrest.symm
    obtain rfl := List.map_eq_nil_iff.mp htaken
    cases ending with
    | waiting => rfl
    | late => exact absurd hleaves (by simp [Ending.Leaves])
    | ended => exact absurd hleaves (by simp [Ending.Leaves])
    | stopped => exact absurd rfl (h.some_of_stopped rfl)
  | cons arrival arrivals ih =>
    obtain ⟨rest, hrest, hleaves⟩ := h.inOrder
    cases taken with
    | nil =>
      obtain rfl : arrival :: arrivals = rest := hrest
      cases ending with
      | waiting => cases hleaves
      | late =>
        obtain ⟨later, hlater⟩ := hleaves
        cases hlater
        rfl
      | ended =>
        obtain ⟨b, later, hlater, hb⟩ := hleaves
        cases hlater
        rw [takeUntil, if_pos hb]
      | stopped => exact absurd rfl (h.some_of_stopped rfl)
    | cons b taken =>
      obtain ⟨rfl, rfl⟩ : arrival = some b ∧ arrivals = taken.map some ++ rest :=
        List.cons.inj hrest
      rw [takeUntil, if_neg (by simp [h.noEnd b (List.mem_cons_self ..)])]
      cases hs : stop 0 b with
      | true =>
        obtain ⟨rfl, rfl⟩ := h.tail_of_stop hs
        rfl
      | false =>
        rw [ih (h.tail hs)]
        rfl

/-- **The loop takes exactly what it should.** -/
theorem takesExactly_iff :
    TakesExactly isEnd stop arrivals taken ending ↔
      takeUntil isEnd stop arrivals = (taken, ending) := by
  constructor
  · exact takeUntil_eq
  · intro h
    have hexact := takeUntil_takesExactly isEnd stop arrivals
    rwa [h] at hexact

/-- **Two stop conditions that give the same run** agree on what it takes. -/
theorem takeUntil_eq_iff :
    takeUntil isEnd stop arrivals = takeUntil isEnd stop' arrivals ↔
      ∀ i a, (takeUntil isEnd stop' arrivals).1[i]? = some a → stop i a = stop' i a := by
  constructor
  · intro h i a ha
    have hstop := (takeUntil_takesExactly isEnd stop arrivals).first i a (by rw [h, ha])
    rw [h, ← (takeUntil_takesExactly isEnd stop' arrivals).first i a ha] at hstop
    exact Bool.eq_iff_iff.mpr hstop
  · intro h
    refine takeUntil_eq ⟨?_, ?_, fun i a ha => ?_, ?_⟩
    · exact (takeUntil_takesExactly isEnd stop' arrivals).inOrder
    · exact (takeUntil_takesExactly isEnd stop' arrivals).noEnd
    · rw [h i a ha]
      exact (takeUntil_takesExactly isEnd stop' arrivals).first i a ha
    · exact (takeUntil_takesExactly isEnd stop' arrivals).some_of_stopped

/-! ### Stopping at a count -/

/-- What a loop takes that is told to stop at the `n`-th item. -/
theorem takeUntil_count (n : ℕ) (arrivals : List (Option α)) :
    (takeUntil isEnd (fun i _ => decide (n ≤ i)) arrivals).1 =
      (inTime isEnd arrivals).take (n + 1) := by
  induction arrivals generalizing n with
  | nil => rfl
  | cons arrival arrivals ih =>
    cases arrival with
    | none => rfl
    | some a =>
      rw [takeUntil, inTime]
      split
      · rfl
      · cases n with
        | zero => simp
        | succ n => simpa using ih n

end AIStreams.Loop
