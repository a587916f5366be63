import AIStreams.Util.FilePath
import AIStreams.Util.JoinPath

/-!
# Splitting file paths

`SplitPath`, `Basename` and `SplitBasename` of `aistreams/util/file_path.cc`, with the bounds that
`absl::string_view` checks.

* `splitPathChecked_eq`: no substring that is taken is out of range.
* `splitPath_loses_one`: what joining the two parts gives back, and how a basename splits.
-/

namespace AIStreams

/-! ### Substrings -/

/-- `string_view::substr`; `n = none` is `npos`. -/
def StringView.substr (s : List Char) (pos : ℕ) (n : Option ℕ) : OrFatal (List Char) :=
  if s.length < pos then .error ⟨"absl::string_view::substr"⟩
  else
    match n with
    | none => .ok (s.drop pos)
    | some n => .ok ((s.drop pos).take n)

/-- `absl::ClippedSubstr`. -/
def StringView.clippedSubstr (s : List Char) (pos : ℕ) (n : Option ℕ) : OrFatal (List Char) :=
  substr s (min pos s.length) n

open StringView

theorem substr_of_le {s : List Char} {pos : ℕ} (h : pos ≤ s.length) :
    substr s pos none = .ok (s.drop pos) :=
  if_neg (Nat.not_lt.mpr h)

theorem substr_zero (s : List Char) (n : ℕ) : substr s 0 (some n) = .ok (s.take n) := rfl

/-- `ClippedSubstr` is never out of range. -/
theorem clippedSubstr_eq (s : List Char) (pos : ℕ) :
    clippedSubstr s pos none = .ok (s.drop pos) := by
  rw [clippedSubstr, substr_of_le (Nat.min_le_right _ _)]
  rcases Nat.le_total pos s.length with h | h
  · rw [Nat.min_eq_left h]
  · rw [Nat.min_eq_right h, List.drop_length, List.drop_of_length_le h]

/-! ### The functions -/

/-- `SplitPath`, with its substrings checked. -/
def splitPathChecked (path : List Char) : OrFatal (List Char × List Char) :=
  match findLastOf '/' path with
  | none => do
    let first ← substr path 0 (some 0)
    .ok (first, path)
  | some 0 => do
    let first ← substr path 0 (some 1)
    let second ← clippedSubstr path 1 none
    .ok (first, second)
  | some pos => do
    let first ← substr path 0 (some pos)
    let second ← clippedSubstr path (pos + 1) none
    .ok (first, second)

/-- `SplitBasename`. -/
def splitBasename (path : List Char) : OrFatal (List Char × List Char) := do
  let (_, path) ← splitPathChecked path
  match findLastOf '.' path with
  | none =>
    let second ← clippedSubstr path path.length (some 0)
    .ok (path, second)
  | some pos =>
    let first ← substr path 0 (some pos)
    let second ← clippedSubstr path (pos + 1) none
    .ok (first, second)

/-- **Splitting a path takes no substring out of range.** -/
theorem splitPathChecked_eq (path : List Char) : splitPathChecked path = .ok (splitPath path) := by
  unfold splitPathChecked splitPath
  cases findLastOf '/' path with
  | none => rfl
  | some pos =>
    cases pos with
    | zero =>
      simp only [substr_zero, clippedSubstr_eq, OrFatal.ok_bind]
    | succ pos =>
      simp only [substr_zero, clippedSubstr_eq, OrFatal.ok_bind]

/-! ### Paths and their parts -/

/-- The path has no slash, or its last one is its first character, or is neither its final
character nor behind another slash. -/
def KeepsSlash (path : List Char) : Prop :=
  '/' ∉ path ∨ ∃ front back, path = front ++ '/' :: back ∧ '/' ∉ back ∧
    (front = [] ∨ back ≠ [] ∧ front.getLast? ≠ some '/')

theorem splitPath_of_not_mem {path : List Char} (h : '/' ∉ path) : splitPath path = ([], path) := by
  unfold splitPath
  cases hfind : findLastOf '/' path with
  | none => rfl
  | some pos =>
    obtain ⟨front, back, rfl, _⟩ := exists_of_findLastOf hfind
    exact absurd (List.mem_append_right _ (List.mem_cons_self ..)) h

section LastSlash

variable {front back : List Char}

theorem keepsSlash_iff (h : '/' ∉ back) : KeepsSlash (front ++ '/' :: back) ↔
    front = [] ∨ back ≠ [] ∧ front.getLast? ≠ some '/' := by
  constructor
  · rintro (hnot | ⟨front', back', heq, hback', hcond⟩)
    · exact absurd (List.mem_append_right _ (List.mem_cons_self ..)) hnot
    · -- the last slash of a path is where it is found
      have hfind := findLastOf_append_cons h front
      rw [heq, findLastOf_append_cons hback' front', Option.some.injEq] at hfind
      obtain ⟨rfl, hcons⟩ := List.append_inj heq hfind.symm
      obtain rfl := (List.cons.inj hcons).2
      exact hcond
  · intro hcond
    exact .inr ⟨front, back, rfl, h, hcond⟩

theorem splitPath_of_leading (h : '/' ∉ back) : splitPath ('/' :: back) = (['/'], back) := by
  have hfind : findLastOf '/' ('/' :: back) = some 0 := findLastOf_append_cons h []
  rw [splitPath, hfind]
  rfl

theorem splitPath_of_last (h : '/' ∉ back) (hfront : front ≠ []) :
    splitPath (front ++ '/' :: back) = (front, back) := by
  obtain ⟨c, front, rfl⟩ := List.exists_cons_of_ne_nil hfront
  rw [splitPath, findLastOf_append_cons h]
  simp

/-- A leading slash comes back. -/
theorem joinPath_of_leading (h : '/' ∉ back) : joinPath ['/'] back = '/' :: back := by
  have hhead : back.head? ≠ some '/' := fun hhead => h (List.mem_of_mem_head? hhead)
  by_cases hnil : back = []
  · rw [hnil]
    rfl
  · simp [joinPath, hnil, hhead]

/-- A slash between two parts that are not empty comes back, unless there is one before it. -/
theorem joinPath_of_last (h : '/' ∉ back) (hfront : front ≠ []) : joinPath front back =
    if back ≠ [] ∧ front.getLast? ≠ some '/' then front ++ '/' :: back else front ++ back := by
  unfold joinPath
  rw [if_neg hfront]
  by_cases hback : back = []
  · rw [if_pos hback, if_neg fun hboth => hboth.1 hback, hback, List.append_nil]
  have hhead : back.head? ≠ some '/' := fun hhead => h (List.mem_of_mem_head? hhead)
  rw [if_neg hback, if_neg hhead, if_pos hhead]
  by_cases hlast : front.getLast? = some '/'
  · rw [if_pos hlast, if_neg fun hboth => hboth.2 hlast]
  · rw [if_neg hlast, if_pos ⟨hback, hlast⟩]

end LastSlash

/-- The path with its last slash taken out. -/
def WithoutLastSlash (path joined : List Char) : Prop :=
  ∃ front back, path = front ++ '/' :: back ∧ '/' ∉ back ∧ joined = front ++ back

/-- **What joining the two parts of a path gives back**: the path, or the path without its last
slash. -/
theorem joinPath_splitPath (path : List Char) :
    (KeepsSlash path → joinPath (splitPath path).1 (splitPath path).2 = path) ∧
      (¬ KeepsSlash path →
        WithoutLastSlash path (joinPath (splitPath path).1 (splitPath path).2)) := by
  cases hfind : findLastOf '/' path with
  | none =>
    have hnot := findLastOf_eq_none hfind
    refine ⟨fun _ => ?_, fun hkeeps => absurd (.inl hnot) hkeeps⟩
    rw [splitPath_of_not_mem hnot]
    rfl
  | some pos =>
    obtain ⟨front, back, rfl, hback, _⟩ := exists_of_findLastOf hfind
    rw [keepsSlash_iff hback]
    by_cases hfront : front = []
    · subst hfront
      refine ⟨fun _ => ?_, fun hnot => absurd (.inl rfl) hnot⟩
      rw [List.nil_append, splitPath_of_leading hback]
      exact joinPath_of_leading hback
    · rw [splitPath_of_last hback hfront, joinPath_of_last hback hfront]
      constructor
      · rintro (hnil | hcond)
        · exact absurd hnil hfront
        · rw [if_pos hcond]
      · intro hcond
        rw [if_neg fun hboth => hcond (.inr hboth)]
        exact ⟨front, back, rfl, hback, rfl⟩

/-- **How a basename splits**: at its last dot, if it has one. -/
theorem splitBasename_eq (path : List Char) : ∃ stem extension,
    splitBasename path = .ok (stem, extension) ∧
      ('.' ∈ (splitPath path).2 →
        (splitPath path).2 = stem ++ '.' :: extension ∧ '.' ∉ extension) ∧
      ('.' ∉ (splitPath path).2 → stem = (splitPath path).2 ∧ extension = []) := by
  unfold splitBasename
  rw [splitPathChecked_eq, OrFatal.ok_bind]
  obtain ⟨first, base⟩ := splitPath path
  dsimp only
  cases hfind : findLastOf '.' base with
  | none =>
    have hnot := findLastOf_eq_none hfind
    refine ⟨base, [], ?_, fun hdot => absurd hdot hnot, fun _ => ⟨rfl, rfl⟩⟩
    simp [clippedSubstr, substr, OrFatal.ok_bind]
  | some pos =>
    obtain ⟨stem, extension, rfl, hext, rfl⟩ := exists_of_findLastOf hfind
    refine ⟨stem, extension, ?_, fun _ => ⟨rfl, hext⟩, fun hdot => ?_⟩
    · simp [clippedSubstr_eq, substr_zero, OrFatal.ok_bind]
    · exact absurd (List.mem_append_right _ (List.mem_cons_self ..)) hdot

/-- **Splitting a path loses at most one slash**, and its basename splits at its last dot; no
substring is out of range. -/
theorem splitPath_loses_one (path : List Char) : ∃ first second,
    splitPathChecked path = .ok (first, second) ∧ '/' ∉ second ∧
      (KeepsSlash path → joinPath first second = path) ∧
      (¬ KeepsSlash path → WithoutLastSlash path (joinPath first second)) ∧
      ∃ stem extension, splitBasename path = .ok (stem, extension) ∧
        ('.' ∈ second → second = stem ++ '.' :: extension ∧ '.' ∉ extension) ∧
        ('.' ∉ second → stem = second ∧ extension = []) :=
  ⟨(splitPath path).1, (splitPath path).2, splitPathChecked_eq path, splitPath_snd_no_slash path,
    (joinPath_splitPath path).1, (joinPath_splitPath path).2, splitBasename_eq path⟩

end AIStreams
