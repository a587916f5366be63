import Mathlib.Data.Nat.Notation

/-!
# File paths

`aistreams/util/file_path.{h,cc}`.

`splitPath_snd_no_slash`: what follows the last slash has none.
-/

namespace AIStreams

/-- `find_last_of(c)`. -/
def findLastOf (c : Char) (cs : List Char) : Option ℕ :=
  (cs.reverse.findIdx? (· == c)).map (cs.length - 1 - ·)

/-- `SplitPath`, on the characters of the path. -/
def splitPath (path : List Char) : List Char × List Char :=
  match findLastOf '/' path with
  | none => ([], path)
  | some 0 => (path.take 1, path.drop 1)
  | some pos => (path.take pos, path.drop (pos + 1))

/-- `Basename`. -/
def basename (path : String) : String := String.ofList (splitPath path.toList).2

/-- Nothing behind the last `c` is a `c`. -/
theorem findLastOf_eq_some {c : Char} {cs : List Char} {pos : ℕ} (h : findLastOf c cs = some pos) :
    c ∉ cs.drop (pos + 1) := by
  obtain ⟨i, hi, hpos⟩ := Option.map_eq_some_iff.mp h
  obtain ⟨hlt, _, hbefore⟩ := List.findIdx?_eq_some_iff_getElem.mp hi
  rw [List.length_reverse] at hlt
  intro hmem
  obtain ⟨k, hk, hget⟩ := List.mem_iff_getElem.mp hmem
  rw [List.length_drop] at hk
  have hj : cs.length - 1 - (pos + 1 + k) < i := by omega
  have hne := hbefore _ hj
  rw [List.getElem_reverse] at hne
  rw [List.getElem_drop] at hget
  have hidx : cs.length - 1 - (cs.length - 1 - (pos + 1 + k)) = pos + 1 + k := by omega
  simp only [hidx, hget] at hne
  exact hne (beq_self_eq_true c)

theorem findLastOf_eq_none {c : Char} {cs : List Char} (h : findLastOf c cs = none) : c ∉ cs := by
  have hnone := Option.map_eq_none_iff.mp h
  rw [List.findIdx?_eq_none_iff] at hnone
  intro hmem
  have := hnone c (List.mem_reverse.mpr hmem)
  rw [beq_self_eq_true] at this
  cases this

/-- What is found is the last `c`. -/
theorem exists_of_findLastOf {c : Char} {cs : List Char} {pos : ℕ}
    (h : findLastOf c cs = some pos) :
    ∃ front back, cs = front ++ c :: back ∧ c ∉ back ∧ front.length = pos := by
  have hback := findLastOf_eq_some h
  obtain ⟨i, hi, hpos⟩ := Option.map_eq_some_iff.mp h
  obtain ⟨hlt, hc, _⟩ := List.findIdx?_eq_some_iff_getElem.mp hi
  rw [List.length_reverse] at hlt
  have hposlt : pos < cs.length := by omega
  have hget : cs[pos] = c := by
    rw [List.getElem_reverse] at hc
    simp only [hpos] at hc
    exact beq_iff_eq.mp hc
  refine ⟨cs.take pos, cs.drop (pos + 1), ?_, hback, ?_⟩
  · rw [← hget, List.getElem_cons_drop, List.take_append_drop]
  · rw [List.length_take]
    omega

/-- The last `c` is found. -/
theorem findLastOf_append_cons {c : Char} {back : List Char} (h : c ∉ back) (front : List Char) :
    findLastOf c (front ++ c :: back) = some front.length := by
  have hback : back.reverse.findIdx? (· == c) = none := by
    rw [List.findIdx?_eq_none_iff]
    intro d hd
    exact beq_eq_false_iff_ne.mpr fun hdc => h (hdc ▸ List.mem_reverse.mp hd)
  have hfind : (front ++ c :: back).reverse.findIdx? (· == c) = some back.length := by
    rw [List.reverse_append, List.reverse_cons, List.append_assoc, List.findIdx?_append, hback]
    simp [List.findIdx?_cons]
  rw [findLastOf, hfind]
  simp

/-- **A basename has no slash.** -/
theorem splitPath_snd_no_slash (path : List Char) : '/' ∉ (splitPath path).2 := by
  unfold splitPath
  split
  · rename_i h
    exact findLastOf_eq_none h
  · rename_i h
    exact findLastOf_eq_some h
  · rename_i h
    exact findLastOf_eq_some h

end AIStreams
