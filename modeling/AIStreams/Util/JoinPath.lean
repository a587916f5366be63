import AIStreams.Text.Separated
import AIStreams.Util.Status
import Mathlib.Algebra.GroupWithZero.Nat

/-!
# Joining file paths

`JoinPath` and `JoinPathImpl` of `aistreams/util/file_path.{h,cc}`.  A path is the list of its
characters.  The buffer of `JoinPathImpl` has the size that was reserved, and a write or a read
outside of it is fatal.

* `joinPath_eq`: two paths are joined with exactly one slash between them.
* `joinPathImpl_eq`: the loop over the buffer computes the left fold, within the buffer.
* `joinPath_monoid`: all of it, with the suffix that absolute paths leave.
-/

namespace AIStreams

open Text (chopFront chopBack)

/-! ### Two paths -/

/-- `JoinPath(path1, path2)`. -/
def joinPath (path1 path2 : List Char) : List Char :=
  if path1 = [] then path2
  else if path2 = [] then path1
  else if path1.getLast? = some '/' then
    if path2.head? = some '/' then path1 ++ path2.drop 1
    else path1 ++ path2
  else if path2.head? ≠ some '/' then path1 ++ '/' :: path2
  else path1 ++ path2

/-- **Two paths are joined with exactly one slash between them.** -/
theorem joinPath_eq (path1 path2 : List Char) :
    joinPath path1 path2 = Text.join '/' path1 path2 := by
  unfold joinPath Text.join
  by_cases h1 : path1 = []
  · rw [if_pos h1, if_pos h1]
  by_cases h2 : path2 = []
  · rw [if_neg h1, if_neg h1, if_pos h2, if_pos h2]
  rw [if_neg h1, if_neg h1, if_neg h2, if_neg h2]
  obtain ⟨c, rest, rfl⟩ := List.exists_cons_of_ne_nil h2
  by_cases hlast : path1.getLast? = some '/'
  · obtain ⟨front, rfl⟩ := List.getLast?_eq_some_iff.mp hlast
    rw [if_pos hlast, Text.chopBack_concat]
    by_cases hc : c = '/'
    · simp [hc]
    · simp [chopFront, hc]
  · rw [if_neg hlast, Text.chopBack_of_getLast '/' hlast]
    by_cases hc : c = '/'
    · simp [hc]
    · simp [chopFront, hc]

/-! ### Many paths -/

/-- The locals of `JoinPathImpl`: `out` is counted from `begin`. -/
structure Joining where
  result : List Char
  out : ℕ
  trailingSlash : Bool

namespace Joining

/-- `memcpy(&*out, ...)`, which moves `out` on. -/
def write (s : Joining) (chars : List Char) : OrFatal Joining :=
  if s.out + chars.length ≤ s.result.length then
    .ok { s with
      result := s.result.take s.out ++ chars ++ s.result.drop (s.out + chars.length)
      out := s.out + chars.length }
  else .error ⟨"write beyond the end of the buffer"⟩

/-- `out[-1]`. -/
def last (s : Joining) : OrFatal Char :=
  if s.out = 0 then .error ⟨"read before the start of the buffer"⟩
  else
    match s.result[s.out - 1]? with
    | none => .error ⟨"read beyond the end of the buffer"⟩
    | some c => .ok c

/-- The branches on the first character of `path`: what is still to be written of it. -/
def lead (honorAbs : Bool) (s : Joining) (path : List Char) : OrFatal (Joining × List Char) :=
  if path.head? = some '/' then
    if honorAbs then .ok ({ s with out := 0 }, path)
    else if s.trailingSlash then .ok (s, path.drop 1)
    else .ok (s, path)
  else if s.trailingSlash = false ∧ s.out ≠ 0 then
    match s.write ['/'] with
    | .error e => .error e
    | .ok s => .ok (s, path)
  else .ok (s, path)

/-- One round of the loop. -/
def append (honorAbs : Bool) (s : Joining) (path : List Char) : OrFatal Joining :=
  if path = [] then .ok s
  else do
    let (s, path) ← s.lead honorAbs path
    let s ← s.write path
    let c ← s.last
    .ok { s with trailingSlash := c == '/' }

def appendAll (honorAbs : Bool) : Joining → List (List Char) → OrFatal Joining
  | s, [] => .ok s
  | s, path :: paths => do
    let s ← s.append honorAbs path
    s.appendAll honorAbs paths

/-! ### One round -/

/-- `w` is in the buffer up to `out`. -/
structure Wrote (s : Joining) (w : List Char) : Prop where
  within : s.out ≤ s.result.length
  take_out : s.result.take s.out = w

variable {s : Joining} {w path : List Char} {room : ℕ}

theorem Wrote.out_eq (h : s.Wrote w) : s.out = w.length := by
  rw [← h.take_out, List.length_take, Nat.min_eq_left h.within]

theorem Wrote.write (h : s.Wrote w) (chars : List Char)
    (hfits : s.out + chars.length ≤ s.result.length) :
    ∃ s', s.write chars = .ok s' ∧ s'.Wrote (w ++ chars) ∧
      s'.result.length = s.result.length ∧ s'.out = s.out + chars.length := by
  have hlen : (s.result.take s.out ++ chars).length = s.out + chars.length := by
    rw [List.length_append, List.length_take, Nat.min_eq_left h.within]
  have htotal : (s.result.take s.out ++ chars ++ s.result.drop (s.out + chars.length)).length =
      s.result.length := by
    rw [List.length_append, hlen, List.length_drop]
    omega
  refine ⟨_, if_pos hfits, ⟨htotal.symm ▸ hfits, ?_⟩, htotal, rfl⟩
  show (s.result.take s.out ++ chars ++ s.result.drop (s.out + chars.length)).take _ = _
  rw [← hlen, List.take_left, h.take_out]

theorem Wrote.last (h : s.Wrote w) {c : Char} (hc : w.getLast? = some c) : s.last = .ok c := by
  obtain ⟨front, rfl⟩ := List.getLast?_eq_some_iff.mp hc
  have hout : s.out = front.length + 1 := by simpa using h.out_eq
  have hget : s.result[s.out - 1]? = some c := by
    have hlt : s.out - 1 < s.out := by omega
    rw [← List.getElem?_take_of_lt hlt, h.take_out, hout]
    simp
  rw [Joining.last, if_neg (by omega), hget]

/-- The buffer holds `w`, and has room for what is still to come: one more than that, when nothing
has been written. -/
structure Holds (s : Joining) (w : List Char) (room : ℕ) : Prop extends s.Wrote w where
  slash : s.trailingSlash = true ↔ w.getLast? = some '/'
  fits : s.out + room ≤ s.result.length + if w = [] then 1 else 0

/-- What a path makes of those before it. -/
def onto (honorAbs : Bool) (w path : List Char) : List Char :=
  if honorAbs = true ∧ path.head? = some '/' then path else joinPath w path

theorem Holds.out_eq_zero (h : s.Holds w room) : s.out = 0 ↔ w = [] := by
  rw [h.toWrote.out_eq, List.length_eq_zero_iff]

@[simp] theorem onto_false (w path : List Char) : onto false w path = joinPath w path := by
  simp [onto]

theorem onto_absolute (h : path.head? = some '/') (w : List Char) : onto true w path = path :=
  if_pos ⟨rfl, h⟩

theorem onto_relative (h : path.head? ≠ some '/') (honorAbs : Bool) (w : List Char) :
    onto honorAbs w path = joinPath w path :=
  if_neg fun hboth => h hboth.2

/-- What the branches on the first character leave to be written fits. -/
theorem Holds.lead (h : s.Holds w (path.length + 1 + room)) (honorAbs : Bool) (hne : path ≠ []) :
    ∃ s' front rest, s.lead honorAbs path = .ok (s', rest) ∧ s'.Wrote front ∧
      front ++ rest = onto honorAbs w path ∧ s'.out + rest.length + room ≤ s'.result.length := by
  have hfits := h.fits
  have hfits' : s.out + path.length + room ≤ s.result.length := by
    split at hfits <;> omega
  unfold Joining.lead
  by_cases hhead : path.head? = some '/'
  · rw [if_pos hhead]
    cases honorAbs with
    | true =>
      refine ⟨{ s with out := 0 }, [], path, rfl, ⟨Nat.zero_le _, rfl⟩, ?_, by simp; omega⟩
      rw [onto_absolute hhead, List.nil_append]
    | false =>
      rw [onto_false]
      cases hslash : s.trailingSlash with
      | true =>
        have hlast : w.getLast? = some '/' := h.slash.mp hslash
        have hw : w ≠ [] := by
          rintro rfl
          cases hlast
        refine ⟨s, w, path.drop 1, rfl, h.toWrote, ?_, by rw [List.length_drop]; omega⟩
        rw [joinPath, if_neg hw, if_neg hne, if_pos hlast, if_pos hhead]
      | false =>
        have hlast : w.getLast? ≠ some '/' := fun hlast => by simp [h.slash.mpr hlast] at hslash
        refine ⟨s, w, path, rfl, h.toWrote, ?_, hfits'⟩
        by_cases hw : w = []
        · rw [joinPath, if_pos hw, hw, List.nil_append]
        · rw [joinPath, if_neg hw, if_neg hne, if_neg hlast, if_neg (by simp [hhead])]
  · rw [if_neg hhead, onto_relative hhead]
    by_cases hsep : s.trailingSlash = false ∧ s.out ≠ 0
    · have hw : w ≠ [] := fun hw => hsep.2 (h.out_eq_zero.mpr hw)
      have hlast : w.getLast? ≠ some '/' := fun hlast => by simp [h.slash.mpr hlast] at hsep
      rw [if_neg hw] at hfits
      obtain ⟨s', hs', hwrote, hlength, hout⟩ := h.toWrote.write ['/']
        (by rw [List.length_singleton]; omega)
      refine ⟨s', w ++ ['/'], path, ?_, hwrote, ?_, ?_⟩
      · rw [if_pos hsep, hs']
      · rw [joinPath, if_neg hw, if_neg hne, if_neg hlast, if_pos hhead, List.append_assoc,
          List.singleton_append]
      · rw [hlength, hout, List.length_singleton]
        omega
    · rw [if_neg hsep]
      refine ⟨s, w, path, rfl, h.toWrote, ?_, hfits'⟩
      by_cases hw : w = []
      · rw [joinPath, if_pos hw, hw, List.nil_append]
      · have hslash : s.trailingSlash = true := by
          by_contra hslash
          exact hsep ⟨Bool.eq_false_iff.mpr hslash, fun hout => hw (h.out_eq_zero.mp hout)⟩
        rw [joinPath, if_neg hw, if_neg hne, if_pos (h.slash.mp hslash), if_neg hhead]

theorem onto_ne_nil (hne : path ≠ []) (honorAbs : Bool) (w : List Char) :
    onto honorAbs w path ≠ [] := by
  unfold onto
  split
  · exact hne
  · rw [joinPath_eq]
    by_cases hw : w = []
    · rwa [hw, Text.nil_join]
    · exact Text.join_ne_nil hw

/-- **One round of the loop** joins one path to those before it. -/
theorem Holds.append (h : s.Holds w (path.length + 1 + room)) (honorAbs : Bool) :
    ∃ s', s.append honorAbs path = .ok s' ∧ s'.Holds (onto honorAbs w path) room := by
  by_cases hne : path = []
  · subst hne
    have honto : onto honorAbs w [] = w := by simp [onto, joinPath_eq]
    refine ⟨s, if_pos rfl, ?_⟩
    rw [honto]
    exact ⟨h.toWrote, h.slash, by have := h.fits; simp at this; omega⟩
  obtain ⟨s₁, front, rest, hlead, hwrote, honto, hfits⟩ := h.lead honorAbs hne
  obtain ⟨s₂, hwrite, hwrote', hlength, hout⟩ :=
    hwrote.write rest (Nat.le_trans (Nat.le_add_right _ _) hfits)
  rw [honto] at hwrote'
  obtain ⟨c, hc⟩ := Option.isSome_iff_exists.mp
    (List.getLast?_isSome.mpr (onto_ne_nil hne honorAbs w))
  refine ⟨{ s₂ with trailingSlash := c == '/' }, ?_, ⟨hwrote'.within, hwrote'.take_out⟩, ?_, ?_⟩
  · rw [Joining.append, if_neg hne, hlead]
    show (s₁.write rest >>= _) = _
    rw [hwrite]
    show (s₂.last >>= _) = _
    rw [hwrote'.last hc]
    rfl
  · rw [hc]
    simp
  · rw [if_neg (onto_ne_nil hne honorAbs w)]
    show s₂.out + room ≤ s₂.result.length + 0
    omega

/-- **The loop** joins path after path. -/
theorem Holds.appendAll (paths : List (List Char)) (honorAbs : Bool)
    (h : s.Holds w ((paths.map fun path => path.length + 1).sum)) :
    ∃ s', s.appendAll honorAbs paths = .ok s' ∧
      s'.Wrote (paths.foldl (onto honorAbs) w) := by
  induction paths generalizing s w with
  | nil => exact ⟨s, rfl, h.toWrote⟩
  | cons path paths ih =>
    obtain ⟨s', hs', hholds⟩ := Holds.append h honorAbs
    obtain ⟨s'', hs'', hwrote⟩ := ih hholds
    refine ⟨s'', ?_, hwrote⟩
    rw [Joining.appendAll, hs']
    exact hs''

end Joining

/-- `JoinPathImpl`. -/
def joinPathImpl (honorAbs : Bool) (paths : List (List Char)) : OrFatal (List Char) :=
  if paths.length = 0 then .ok []
  else do
    let totalSize := paths.length - 1 + (paths.map List.length).sum
    let s ← Joining.appendAll honorAbs ⟨List.replicate totalSize '\x00', 0, false⟩ paths
    .ok (s.result.take s.out)

theorem sum_length_succ (paths : List (List Char)) :
    (paths.map fun path => path.length + 1).sum = (paths.map List.length).sum + paths.length := by
  induction paths with
  | nil => rfl
  | cons path paths ih =>
    simp only [List.map_cons, List.sum_cons, List.length_cons, ih]
    omega

/-- **`JoinPathImpl` joins path after path**, within the size that it has reserved. -/
theorem joinPathImpl_eq (honorAbs : Bool) (paths : List (List Char)) :
    joinPathImpl honorAbs paths = .ok (paths.foldl (Joining.onto honorAbs) []) := by
  unfold joinPathImpl
  by_cases hnil : paths.length = 0
  · rw [if_pos hnil, List.length_eq_zero_iff.mp hnil]
    rfl
  rw [if_neg hnil]
  have hroom := sum_length_succ paths
  have hholds : Joining.Holds
      ⟨List.replicate (paths.length - 1 + (paths.map List.length).sum) '\x00', 0, false⟩ []
      ((paths.map fun path => path.length + 1).sum) := by
    refine ⟨⟨Nat.zero_le _, rfl⟩, by simp, ?_⟩
    simp only [List.length_replicate, if_true]
    omega
  obtain ⟨s, hs, hwrote⟩ := hholds.appendAll paths honorAbs
  show (Joining.appendAll _ _ _ >>= _) = _
  rw [hs, ← hwrote.take_out]
  rfl

/-! ### Absolute paths -/

/-- The paths from the last one that starts with a slash, all of them if there is none. -/
def fromLastAbsolute : List (List Char) → List (List Char)
  | [] => []
  | path :: paths =>
    if ∃ later ∈ paths, later.head? = some '/' then fromLastAbsolute paths else path :: paths

/-- Without absolute paths behind the first, they are joined as they are. -/
theorem foldl_onto_of_relative {paths : List (List Char)}
    (h : ∀ path ∈ paths, path.head? ≠ some '/') (w : List Char) :
    paths.foldl (Joining.onto true) w = paths.foldl joinPath w := by
  induction paths generalizing w with
  | nil => rfl
  | cons path paths ih =>
    obtain ⟨hpath, hpaths⟩ := List.forall_mem_cons.mp h
    rw [List.foldl_cons, List.foldl_cons, ih hpaths, Joining.onto_relative hpath]

/-- **The last absolute path wipes out what is before it.** -/
theorem foldl_onto_eq (w : List Char) (paths : List (List Char))
    (h : ∃ path ∈ paths, path.head? = some '/') :
    paths.foldl (Joining.onto true) w = (fromLastAbsolute paths).foldl joinPath [] := by
  induction paths generalizing w with
  | nil => simp at h
  | cons path paths ih =>
    rw [List.foldl_cons, fromLastAbsolute]
    split
    · rename_i hlater
      exact ih _ hlater
    · rename_i hlater
      have hrelative : ∀ later ∈ paths, later.head? ≠ some '/' := by
        intro later hmem hhead
        exact hlater ⟨later, hmem, hhead⟩
      have hpath : path.head? = some '/' := by
        obtain ⟨p, hmem, hp⟩ := h
        rcases List.mem_cons.mp hmem with rfl | hmem
        · exact hp
        · exact absurd hp (hrelative p hmem)
      rw [foldl_onto_of_relative hrelative, List.foldl_cons, Joining.onto_absolute hpath,
        joinPath_eq, Text.nil_join]

theorem fromLastAbsolute_of_relative {paths : List (List Char)}
    (h : ∀ path ∈ paths, path.head? ≠ some '/') : fromLastAbsolute paths = paths := by
  cases paths with
  | nil => rfl
  | cons path paths =>
    rw [fromLastAbsolute, if_neg]
    rintro ⟨later, hmem, hhead⟩
    exact h later (List.mem_cons_of_mem _ hmem) hhead

/-- **Joining paths is a monoid**, of which `JoinPathImpl` computes the left fold within the size
that it has reserved, over all paths or from the last absolute one. -/
theorem joinPath_monoid :
    (∀ a b c, joinPath (joinPath a b) c = joinPath a (joinPath b c)) ∧
      (∀ a, joinPath [] a = a ∧ joinPath a [] = a) ∧
      (∀ paths, joinPathImpl false paths = .ok (paths.foldl joinPath [])) ∧
      ∀ paths, joinPathImpl true paths = joinPathImpl false (fromLastAbsolute paths) := by
  have honto : Joining.onto false = joinPath := by
    funext w path
    exact Joining.onto_false w path
  have hfold : ∀ paths, joinPathImpl false paths = .ok (paths.foldl joinPath []) := by
    intro paths
    rw [joinPathImpl_eq, honto]
  refine ⟨fun a b c => ?_, fun a => ?_, hfold, fun paths => ?_⟩
  · simp only [joinPath_eq, Text.join_assoc]
  · simp [joinPath_eq]
  · rw [joinPathImpl_eq, hfold]
    by_cases habs : ∃ path ∈ paths, path.head? = some '/'
    · rw [foldl_onto_eq [] paths habs]
    · have hrelative : ∀ path ∈ paths, path.head? ≠ some '/' := by
        intro path hmem hhead
        exact habs ⟨path, hmem, hhead⟩
      rw [foldl_onto_of_relative hrelative, fromLastAbsolute_of_relative hrelative]

end AIStreams
