import Mathlib.Algebra.Order.Group.Nat
import Mathlib.Data.List.Basic

/-!
# The words of a shell

`shlex.split`: a text is words with whitespace between them.  A backslash takes what follows it as
it is; in single quotes everything is taken as it is, and in double quotes a backslash only matters
before a double quote or another backslash.

* `count_splitFrom_le`: no character is read more often than it is written.
* `count_quote`: where no single quote and no backslash is lost, every double quote is.
* `split_written_iff`: which words can be written down, and be read again.
-/

namespace AIStreams.Shlex

/-! ### Reading -/

def isWhitespace (c : Char) : Bool := c = ' ' || c = '\t' || c = '\r' || c = '\n'

/-- Where the lexer is: between words, in one, in quotes, or past a backslash. -/
inductive Mode
  | between
  | word
  | single
  | double
  | escaped
  | doubleEscaped
  deriving DecidableEq

/-- What a character that is no whitespace leads to when it is not in quotes. -/
def enter (c : Char) : Mode :=
  if c = '\\' then .escaped else if c = '\'' then .single else if c = '"' then .double else .word

namespace Mode

def next (c : Char) : Mode → Mode
  | between => if isWhitespace c then between else enter c
  | word => if isWhitespace c then between else enter c
  | single => if c = '\'' then word else single
  | double => if c = '"' then word else if c = '\\' then doubleEscaped else double
  | escaped => word
  | doubleEscaped => double

/-- What a character adds to the word. -/
def adds (c : Char) : Mode → List Char
  | between => if isWhitespace c = false ∧ enter c = word then [c] else []
  | word => if isWhitespace c = false ∧ enter c = word then [c] else []
  | single => if c = '\'' then [] else [c]
  | double => if c = '"' ∨ c = '\\' then [] else [c]
  | escaped => [c]
  | doubleEscaped => if c = '"' ∨ c = '\\' then [c] else ['\\', c]

/-- The backslash that may still turn out to be one. -/
def pending : Mode → List Char
  | doubleEscaped => ['\\']
  | _ => []

end Mode

/-- The words of the rest of a text, of which the first one starts with `w`; nothing if a quote is
not closed, or nothing follows a backslash. -/
def splitFrom (m : Mode) (w : List Char) : List Char → Option (List (List Char))
  | [] =>
    match m with
    | .between => some []
    | .word => some [w]
    | _ => none
  | c :: cs =>
    if m = .word ∧ isWhitespace c = true then (splitFrom .between [] cs).map (w :: ·)
    else splitFrom (m.next c) (w ++ m.adds c) cs

def split (text : List Char) : Option (List (List Char)) := splitFrom .between [] text

/-- A character that is itself when it is not in quotes. -/
def isPlain (c : Char) : Bool := !isWhitespace c && enter c = .word

theorem isPlain_iff {c : Char} : isPlain c = true ↔
    isWhitespace c = false ∧ c ≠ '\\' ∧ c ≠ '\'' ∧ c ≠ '"' := by
  unfold isPlain enter
  by_cases h1 : c = '\\'
  · simp [h1]
  by_cases h2 : c = '\''
  · simp [h2]
  by_cases h3 : c = '"'
  · simp [h3]
  simp [h1, h2, h3]

theorem splitFrom_end {c : Char} (hc : isWhitespace c = true) (w cs : List Char) :
    splitFrom .word w (c :: cs) = (splitFrom .between [] cs).map (w :: ·) := if_pos ⟨rfl, hc⟩

theorem splitFrom_cons {m : Mode} {c : Char} (h : ¬ (m = .word ∧ isWhitespace c = true))
    (w cs : List Char) : splitFrom m w (c :: cs) = splitFrom (m.next c) (w ++ m.adds c) cs :=
  if_neg h

theorem splitFrom_plain {m : Mode} {c : Char} (hm : m = .between ∨ m = .word)
    (hc : isPlain c = true) (w cs : List Char) :
    splitFrom m w (c :: cs) = splitFrom .word (w ++ [c]) cs := by
  obtain ⟨hblank, h1, h2, h3⟩ := isPlain_iff.mp hc
  rw [splitFrom_cons (by simp [hblank])]
  rcases hm with rfl | rfl <;> simp [Mode.next, Mode.adds, enter, hblank, h1, h2, h3]

/-! ### What is lost -/

theorem enter_pending (c : Char) : (enter c).pending = [] := by
  unfold enter
  split_ifs <;> rfl

/-- One character at a time, nothing is read that is not written. -/
theorem count_adds_le (x c : Char) (m : Mode) :
    (m.adds c).count x + (m.next c).pending.count x ≤ [c].count x + m.pending.count x := by
  have houtside : ((if isWhitespace c then Mode.between else enter c).pending) = [] := by
    split
    · rfl
    · exact enter_pending c
  cases m with
  | between =>
    rw [Mode.next, houtside, Mode.adds]
    split_ifs <;> simp
  | word =>
    rw [Mode.next, houtside, Mode.adds]
    split_ifs <;> simp
  | single =>
    rw [Mode.next, Mode.adds]
    split_ifs <;> simp [Mode.pending]
  | double =>
    by_cases h1 : c = '"'
    · simp [Mode.adds, Mode.next, Mode.pending, h1]
    · by_cases h2 : c = '\\'
      · simp [Mode.adds, Mode.next, Mode.pending, h2]
      · simp [Mode.adds, Mode.next, Mode.pending, h1, h2]
  | escaped => exact le_rfl
  | doubleEscaped =>
    simp only [Mode.adds, Mode.next, Mode.pending]
    split_ifs
    · simp
    · simp only [List.count_cons, List.count_nil]
      omega

theorem count_splitFrom_le (x : Char) {m : Mode} {w cs : List Char} {out : List (List Char)}
    (h : splitFrom m w cs = some out) :
    out.flatten.count x ≤ w.count x + m.pending.count x + cs.count x := by
  induction cs generalizing m w out with
  | nil =>
    cases m <;> simp only [splitFrom, Option.some.injEq, reduceCtorEq] at h <;> subst h <;> simp
  | cons c cs ih =>
    rw [List.count_cons]
    by_cases hend : m = .word ∧ isWhitespace c = true
    · obtain ⟨rfl, hc⟩ := hend
      rw [splitFrom_end hc] at h
      obtain ⟨out', hout', rfl⟩ := Option.map_eq_some_iff.mp h
      have htail := ih hout'
      rw [List.flatten_cons, List.count_append]
      simp only [List.count_nil, Mode.pending] at htail ⊢
      omega
    · rw [splitFrom_cons hend] at h
      have htail := ih h
      have hstep := count_adds_le x c m
      rw [List.count_append] at htail
      rw [List.count_singleton] at hstep
      omega

/-- A step that loses neither a single quote nor a backslash. -/
theorem step_of_kept {m : Mode} (hm : m ≠ .single ∧ m ≠ .escaped) {c : Char}
    (hsingle : [c].count '\'' ≤ (m.adds c).count '\'')
    (hescape : [c].count '\\' + m.pending.count '\\' ≤
      (m.adds c).count '\\' + (m.next c).pending.count '\\') :
    (m.next c ≠ .single ∧ m.next c ≠ .escaped) ∧ (m.adds c).count '"' = 0 := by
  by_cases hc1 : c = '\\'
  · subst hc1
    cases m <;> simp [Mode.next, Mode.adds, Mode.pending, enter, isWhitespace] at hm hescape ⊢
  by_cases hc2 : c = '\''
  · subst hc2
    cases m <;> simp [Mode.next, Mode.adds, enter, isWhitespace] at hm hsingle ⊢
  by_cases hc3 : c = '"'
  · subst hc3
    cases m <;> simp [Mode.next, Mode.adds, Mode.pending, enter, isWhitespace] at hm hescape ⊢
  cases m with
  | between => by_cases hblank : isWhitespace c = true <;> simp [Mode.next, Mode.adds, enter, *]
  | word => by_cases hblank : isWhitespace c = true <;> simp [Mode.next, Mode.adds, enter, *]
  | single => exact absurd rfl hm.1
  | double => simp [Mode.next, Mode.adds, hc1, hc3]
  | escaped => exact absurd rfl hm.2
  | doubleEscaped => simp [Mode.next, Mode.adds, hc1, hc3]

/-- **Where no single quote and no backslash is lost, every double quote is.** -/
theorem count_quote {m : Mode} {w cs : List Char} {out : List (List Char)}
    (h : splitFrom m w cs = some out) (hm : m ≠ .single ∧ m ≠ .escaped)
    (hsingle : out.flatten.count '\'' = w.count '\'' + cs.count '\'')
    (hescape : out.flatten.count '\\' = w.count '\\' + m.pending.count '\\' + cs.count '\\') :
    out.flatten.count '"' ≤ w.count '"' := by
  induction cs generalizing m w out with
  | nil =>
    cases m <;> simp only [splitFrom, Option.some.injEq, reduceCtorEq] at h <;> subst h <;> simp
  | cons c cs ih =>
    rw [List.count_cons] at hsingle hescape
    by_cases hend : m = .word ∧ isWhitespace c = true
    · obtain ⟨rfl, hc⟩ := hend
      rw [splitFrom_end hc] at h
      obtain ⟨out', hout', rfl⟩ := Option.map_eq_some_iff.mp h
      have h1 := count_splitFrom_le '\'' hout'
      have h2 := count_splitFrom_le '\\' hout'
      rw [List.flatten_cons, List.count_append] at hsingle hescape ⊢
      simp only [List.count_nil, Mode.pending] at h1 h2 hescape
      have htail := ih hout' ⟨nofun, nofun⟩ (by simp only [List.count_nil]; omega)
        (by simp only [List.count_nil, Mode.pending]; omega)
      rw [List.count_nil] at htail
      omega
    · rw [splitFrom_cons hend] at h
      have h1 := count_splitFrom_le '\'' h
      have h2 := count_splitFrom_le '\\' h
      have h3 := count_adds_le '\'' c m
      have h4 := count_adds_le '\\' c m
      have hpending : ∀ m : Mode, m.pending.count '\'' = 0 := fun m => by cases m <;> rfl
      rw [List.count_append] at h1 h2
      rw [hpending, hpending] at h3
      rw [hpending] at h1
      rw [List.count_singleton] at h3 h4
      obtain ⟨hnext, hadds⟩ := step_of_kept hm (c := c) (by rw [List.count_singleton]; omega)
        (by rw [List.count_singleton]; omega)
      have htail := ih h hnext (by rw [List.count_append]; omega)
        (by rw [List.count_append]; omega)
      rw [List.count_append, hadds] at htail
      exact htail

/-! ### Writing words down -/

/-- A part of a word, as it is written down. -/
inductive Segment
  | bare (cs : List Char)
  | quoted (cs : List Char)

namespace Segment

def chars : Segment → List Char
  | bare cs => cs
  | quoted cs => cs

def text : Segment → List Char
  | bare cs => cs
  | quoted cs => '"' :: cs ++ ['"']

end Segment

/-- Whether what follows may be in double quotes, with or without a backslash before it: there is
no double quote in it, and no backslash before a backslash or at the end. -/
def isQuotable : (escaped : Bool) → List Char → Bool
  | escaped, [] => !escaped
  | escaped, c :: cs => c ≠ '"' && !(escaped && c = '\\') && isQuotable (!escaped && c = '\\') cs

theorem isQuotable_cons {escaped : Bool} {c : Char} {cs : List Char} :
    isQuotable escaped (c :: cs) = true ↔ c ≠ '"' ∧ ¬ (escaped = true ∧ c = '\\') ∧
      isQuotable (!escaped && c = '\\') cs = true := by
  cases escaped <;> simp [isQuotable, and_assoc]

/-- The segment is read as what it is. -/
def Segment.Plain : Segment → Prop
  | .bare cs => ∀ c ∈ cs, isPlain c = true
  | .quoted cs => isQuotable false cs = true

/-- A word: a character that is no quote and no whitespace, and then segments. -/
structure Word where
  head : Char
  segments : List Segment

namespace Word

def chars (w : Word) : List Char := w.head :: w.segments.flatMap Segment.chars

def text (w : Word) : List Char := w.head :: w.segments.flatMap Segment.text

end Word

/-- Words with a blank after each. -/
def written (ws : List Word) : List Char := ws.flatMap fun w => w.text ++ [' ']

/-! ### Reading what was written -/

theorem splitFrom_bare {cs : List Char} (h : ∀ c ∈ cs, isPlain c = true) (w rest : List Char) :
    splitFrom .word w (cs ++ rest) = splitFrom .word (w ++ cs) rest := by
  induction cs generalizing w with
  | nil => rw [List.append_nil, List.nil_append]
  | cons c cs ih =>
    rw [List.cons_append, splitFrom_plain (Or.inr rfl) (h c List.mem_cons_self),
      ih (fun c hc => h c (List.mem_cons_of_mem _ hc)), List.append_assoc, List.singleton_append]

/-- In double quotes, past a backslash or not. -/
def inDouble (escaped : Bool) : Mode := if escaped then .doubleEscaped else .double

theorem splitFrom_double (escaped : Bool) (w : List Char) (c : Char) (cs : List Char) :
    splitFrom (inDouble escaped) w (c :: cs) =
      splitFrom ((inDouble escaped).next c) (w ++ (inDouble escaped).adds c) cs :=
  splitFrom_cons (by cases escaped <;> simp [inDouble]) w cs

/-- A character in double quotes that keeps the quotes open. -/
theorem double_step {escaped : Bool} {c : Char} (hquote : c ≠ '"')
    (hescape : ¬ (escaped = true ∧ c = '\\')) :
    (inDouble escaped).next c = inDouble (!escaped && c = '\\') ∧
      (inDouble escaped).adds c ++ (inDouble (!escaped && c = '\\')).pending =
        (inDouble escaped).pending ++ [c] := by
  cases escaped with
  | false =>
    by_cases hc : c = '\\' <;> simp [inDouble, Mode.next, Mode.adds, Mode.pending, hquote, hc]
  | true =>
    have hc : c ≠ '\\' := fun hc => hescape ⟨rfl, hc⟩
    simp [inDouble, Mode.next, Mode.adds, Mode.pending, hquote, hc]

theorem splitFrom_open (w cs : List Char) :
    splitFrom .word w ('"' :: cs) = splitFrom (inDouble false) w cs := by
  rw [splitFrom_cons (by decide)]
  exact congrArg (splitFrom .double · cs) (List.append_nil w)

theorem splitFrom_close (w cs : List Char) :
    splitFrom (inDouble false) w ('"' :: cs) = splitFrom .word w cs := by
  rw [splitFrom_double]
  exact congrArg (splitFrom .word · cs) (List.append_nil w)

theorem splitFrom_quotable {escaped : Bool} {cs : List Char} (h : isQuotable escaped cs = true)
    (w rest : List Char) : splitFrom (inDouble escaped) w (cs ++ '"' :: rest) =
      splitFrom .word (w ++ (inDouble escaped).pending ++ cs) rest := by
  induction cs generalizing escaped w with
  | nil =>
    cases escaped with
    | false =>
      rw [List.nil_append, splitFrom_close, List.append_nil]
      exact congrArg (splitFrom .word · rest) (List.append_nil w).symm
    | true => cases h
  | cons c cs ih =>
    obtain ⟨hquote, hescape, hrest⟩ := isQuotable_cons.mp h
    obtain ⟨hnext, hadds⟩ := double_step hquote hescape
    rw [List.cons_append, splitFrom_double, hnext, ih hrest, List.append_assoc w, hadds]
    simp only [List.append_assoc, List.singleton_append]

theorem splitFrom_segments {segments : List Segment} (h : ∀ s ∈ segments, s.Plain)
    (w rest : List Char) : splitFrom .word w (segments.flatMap Segment.text ++ rest) =
      splitFrom .word (w ++ segments.flatMap Segment.chars) rest := by
  induction segments generalizing w with
  | nil => rw [List.flatMap_nil, List.flatMap_nil, List.append_nil, List.nil_append]
  | cons s segments ih =>
    have hs := h s List.mem_cons_self
    have hrest := ih fun s hs => h s (List.mem_cons_of_mem _ hs)
    rw [List.flatMap_cons, List.flatMap_cons, List.append_assoc, ← List.append_assoc w, ← hrest]
    cases s with
    | bare cs => exact splitFrom_bare hs w _
    | quoted cs =>
      rw [Segment.text, List.cons_append, List.cons_append, splitFrom_open, List.append_assoc,
        List.singleton_append, splitFrom_quotable hs]
      exact congrArg (fun w => splitFrom .word (w ++ cs) _) (List.append_nil w)

/-- **Words of plain segments are read as what they are.** -/
theorem split_written {ws : List Word} (hheads : ∀ w ∈ ws, isPlain w.head = true)
    (h : ∀ w ∈ ws, ∀ s ∈ w.segments, s.Plain) :
    split (written ws) = some (ws.map Word.chars) := by
  induction ws with
  | nil => rfl
  | cons w ws ih =>
    have htail : splitFrom .between [] (written ws) = some (ws.map Word.chars) :=
      ih (fun w hw => hheads w (List.mem_cons_of_mem _ hw))
        (fun w hw => h w (List.mem_cons_of_mem _ hw))
    rw [split, written, List.flatMap_cons, Word.text, List.cons_append, List.cons_append,
      splitFrom_plain (Or.inl rfl) (hheads w List.mem_cons_self), List.append_assoc,
      splitFrom_segments (h w List.mem_cons_self), List.singleton_append, splitFrom_end rfl]
    exact congrArg (Option.map _) htail

/-! ### What is not read as it was written -/

/-- No single quote and no backslash is lost in the rest of a text, of which `u` ends the word and
`out` are the other words. -/
def Kept (u : List Char) (out : List (List Char)) (rest : List Char) : Prop :=
  ∀ x ∈ ['\'', '\\'], u.count x + out.flatten.count x = rest.count x

/-- A character that is lost is not one of these two. -/
theorem Kept.not_lost {w cs u rest : List Char} {out : List (List Char)} (hkept : Kept u out rest)
    {x : Char} (hx : x ∈ ['\'', '\\']) {m : Mode} (hm : m.pending = []) {w' : List Char}
    (h : splitFrom m w (cs ++ rest) = some ((w' ++ cs ++ u) :: out)) :
    w'.count x ≤ w.count x := by
  have hcount := hkept x hx
  have hle := count_splitFrom_le x h
  simp only [List.flatten_cons, List.count_append, hm, List.count_nil] at hle
  omega

theorem Kept.quote_notMem {w cs u rest : List Char} {out : List (List Char)}
    (hkept : Kept u out rest) {m : Mode} (hm : m ≠ .single ∧ m ≠ .escaped)
    (h : splitFrom m w (cs ++ rest) = some ((w ++ m.pending ++ cs ++ u) :: out)) : '"' ∉ cs := by
  have hsingle := hkept '\'' (by decide)
  have hescape := hkept '\\' (by decide)
  have hpending : m.pending.count '\'' = 0 := by cases m <;> rfl
  have hquote := count_quote h hm
    (by simp only [List.flatten_cons, List.count_append, hpending]; omega)
    (by simp only [List.flatten_cons, List.count_append]; omega)
  simp only [List.flatten_cons, List.count_append] at hquote
  exact List.count_eq_zero.mp (by omega)

theorem plain_of_splitFrom {w cs u rest : List Char} {out : List (List Char)}
    (hkept : Kept u out rest)
    (h : splitFrom .word w (cs ++ rest) = some ((w ++ cs ++ u) :: out)) :
    ∀ c ∈ cs, isPlain c = true := by
  induction cs generalizing w with
  | nil => exact fun c hc => nomatch hc
  | cons c cs ih =>
    have hword : w ++ (c :: cs) ++ u = (w ++ [c]) ++ cs ++ u := by simp
    have hquote : '"' ∉ c :: cs :=
      hkept.quote_notMem (m := .word) ⟨nofun, nofun⟩ (by simpa [Mode.pending] using h)
    rw [hword, List.cons_append] at h
    have hblank : isWhitespace c = false := by
      by_contra hblank
      rw [splitFrom_end (by simpa using hblank)] at h
      obtain ⟨out', _, hout'⟩ := Option.map_eq_some_iff.mp h
      have hlength := congrArg List.length (List.cons.inj hout').1
      simp only [List.length_append, List.length_singleton] at hlength
      omega
    have hnotLost : ∀ x ∈ ['\'', '\\'], c ≠ x := by
      intro x hx hc
      subst hc
      have hmode : (Mode.word.next c).pending = [] ∧ Mode.word.adds c = [] := by
        simp only [List.mem_cons, List.not_mem_nil, or_false] at hx
        rcases hx with rfl | rfl <;> exact ⟨rfl, rfl⟩
      rw [splitFrom_cons (by simp [hblank]), hmode.2, List.append_nil] at h
      have hle := hkept.not_lost hx hmode.1 h
      rw [List.count_append, List.count_singleton_self] at hle
      omega
    have hplain : isPlain c = true := isPlain_iff.mpr ⟨hblank, hnotLost '\\' (by decide),
      hnotLost '\'' (by decide), fun hc => hquote (by rw [hc]; exact List.mem_cons_self)⟩
    rw [splitFrom_plain (Or.inr rfl) hplain] at h
    exact List.forall_mem_cons.mpr ⟨hplain, ih h⟩

theorem quotable_of_splitFrom {escaped : Bool} {w cs u rest : List Char} {out : List (List Char)}
    (hkept : Kept u out rest)
    (h : splitFrom (inDouble escaped) w (cs ++ '"' :: rest) =
      some ((w ++ (inDouble escaped).pending ++ cs ++ u) :: out)) :
    isQuotable escaped cs = true := by
  have hkept' : Kept u out ('"' :: rest) := by
    intro x hx
    rw [List.count_cons_of_ne (by rintro rfl; revert hx; decide)]
    exact hkept x hx
  induction cs generalizing escaped w with
  | nil =>
    cases escaped with
    | false => rfl
    | true =>
      rw [List.nil_append, splitFrom_double] at h
      have hlost : splitFrom .double (w ++ ['"']) ([] ++ rest) =
          some ((w ++ ['\\'] ++ [] ++ u) :: out) := h
      have hle := hkept.not_lost (x := '\\') (by decide) rfl hlost
      simp at hle
  | cons c cs ih =>
    have hquote : '"' ∉ c :: cs :=
      hkept'.quote_notMem (by cases escaped <;> exact ⟨nofun, nofun⟩) h
    have hc : c ≠ '"' := fun hc => hquote (by rw [hc]; exact List.mem_cons_self)
    rw [List.cons_append, splitFrom_double] at h
    have hescape : ¬ (escaped = true ∧ c = '\\') := by
      rintro ⟨rfl, rfl⟩
      have hword : w ++ (inDouble true).pending ++ ('\\' :: cs) ++ u =
          (w ++ ['\\', '\\']) ++ cs ++ u := by simp [inDouble, Mode.pending]
      rw [hword] at h
      have hle := hkept'.not_lost (w := w ++ ['\\']) (x := '\\') (by decide) (m := .double) rfl h
      simp at hle
    obtain ⟨hnext, hadds⟩ := double_step hc hescape
    rw [hnext] at h
    refine isQuotable_cons.mpr ⟨hc, hescape, ih (h.trans ?_)⟩
    rw [List.append_assoc w ((inDouble escaped).adds c), hadds]
    simp only [List.append_assoc, List.singleton_append]

theorem count_text (x : Char) (hx : x ∈ ['\'', '\\']) (segments : List Segment) :
    (segments.flatMap Segment.text).count x = (segments.flatMap Segment.chars).count x := by
  have hquote : x ≠ '"' := by
    rintro rfl
    revert hx
    decide
  induction segments with
  | nil => rfl
  | cons s segments ih =>
    rw [List.flatMap_cons, List.flatMap_cons, List.count_append, List.count_append, ih]
    cases s with
    | bare cs => rfl
    | quoted cs => simp [Segment.text, Segment.chars, List.count_append, hquote.symm]

theorem count_written (x : Char) (hx : x ∈ ['\'', '\\']) (ws : List Word) :
    (ws.map Word.chars).flatten.count x = (written ws).count x := by
  have hblank : [' '].count x = 0 := by
    revert hx
    simp only [List.mem_cons, List.not_mem_nil, or_false]
    rintro (rfl | rfl) <;> decide
  induction ws with
  | nil => rfl
  | cons w ws ih =>
    have hcons : written (w :: ws) = w.text ++ [' '] ++ written ws := rfl
    rw [hcons, List.map_cons, List.flatten_cons, List.count_append, List.count_append,
      List.count_append, hblank, ih, Word.chars, Word.text, List.count_cons, List.count_cons,
      count_text x hx]
    rfl

theorem plain_of_segments {segments : List Segment} {w rest : List Char}
    {out : List (List Char)} (hkept : Kept [] out rest)
    (h : splitFrom .word w (segments.flatMap Segment.text ++ ' ' :: rest) =
      some ((w ++ segments.flatMap Segment.chars) :: out)) :
    (∀ s ∈ segments, s.Plain) ∧ splitFrom .between [] rest = some out := by
  induction segments generalizing w with
  | nil =>
    rw [List.flatMap_nil, List.nil_append, splitFrom_end rfl] at h
    obtain ⟨out', hout', hcons⟩ := Option.map_eq_some_iff.mp h
    rw [(List.cons.inj hcons).2] at hout'
    exact ⟨fun s hs => (nomatch hs), hout'⟩
  | cons s segments ih =>
    have hkept' : Kept (segments.flatMap Segment.chars) out
        (segments.flatMap Segment.text ++ ' ' :: rest) := by
      intro x hx
      have hblank : x ≠ ' ' := by
        rintro rfl
        revert hx
        decide
      rw [List.count_append, count_text x hx, List.count_cons_of_ne hblank.symm, ← hkept x hx,
        List.count_nil, Nat.zero_add]
    have hs : s.Plain := by
      rw [List.flatMap_cons, List.flatMap_cons, List.append_assoc, ← List.append_assoc w] at h
      cases s with
      | bare cs => exact plain_of_splitFrom hkept' h
      | quoted cs =>
        rw [Segment.text, List.cons_append, List.cons_append, splitFrom_open, List.append_assoc,
          List.singleton_append] at h
        exact quotable_of_splitFrom hkept'
          (by simpa [inDouble, Mode.pending, Segment.chars] using h)
    have hread := splitFrom_segments (List.forall_mem_singleton.mpr hs) w
      (segments.flatMap Segment.text ++ ' ' :: rest)
    rw [List.flatMap_singleton, List.flatMap_singleton] at hread
    rw [List.flatMap_cons, List.flatMap_cons, List.append_assoc, hread, ← List.append_assoc w] at h
    obtain ⟨hsegments, hrest⟩ := ih h
    exact ⟨List.forall_mem_cons.mpr ⟨hs, hsegments⟩, hrest⟩

/-- **Which words are read again as they were written down**: exactly those of plain segments. -/
theorem split_written_iff {ws : List Word} (hheads : ∀ w ∈ ws, isPlain w.head = true) :
    split (written ws) = some (ws.map Word.chars) ↔ ∀ w ∈ ws, ∀ s ∈ w.segments, s.Plain := by
  refine ⟨fun h => ?_, split_written hheads⟩
  induction ws with
  | nil => exact fun w hw => nomatch hw
  | cons w ws ih =>
    rw [split, written, List.flatMap_cons, Word.text, List.cons_append, List.cons_append,
      splitFrom_plain (Or.inl rfl) (hheads w List.mem_cons_self), List.append_assoc,
      List.singleton_append] at h
    obtain ⟨hw, hrest⟩ := plain_of_segments
      (fun x hx => by rw [count_written x hx, List.count_nil, Nat.zero_add]; rfl) h
    exact List.forall_mem_cons.mpr ⟨hw, ih (fun w hw => hheads w (List.mem_cons_of_mem _ hw)) hrest⟩

end AIStreams.Shlex
