import AIStreams.Text.GstLexer
import Mathlib.Data.List.DropRight

/-!
# The command language of `gst-launch`

The texts that `gst_parse_launch` reads as one chain of elements, by `gst/parse/grammar.y` and
`gst/parse/types.h` of GStreamer, as it is vendored.  An element is a name, followed by assignments;
links are between elements, and may have caps, for which GStreamer makes a filter.  A text that is
anything else (a bin, a reference, a URL, a link of all pads) has no elements here.

* `Kept`: which values are read as they were written down.
* `words_joined_iff`: which words are, one after the other.
* `split_written_iff`: which chains of elements are.
* `written_flatten`: how a pipeline is put together from its parts.
-/

namespace AIStreams.GstLaunch

open Text Text.Regex

/-! ### Values -/

/-- `g_ascii_isspace`: other than for `isspace`, a vertical tab is none. -/
def isAsciiSpace (c : Char) : Bool :=
  c = ' ' || c = '\t' || c = '\n' || c = '\x0c' || c = '\r'

/-- `gst_parse_unescape`, from a character on; `before` is the one before it. -/
def unescapeFrom (inQuotes : Bool) (before : Char) : List Char → List Char
  | [] => []
  | c :: cs =>
    if c = '\\' ∧ inQuotes = false then
      match cs with
      | [] => []
      | d :: ds => d :: unescapeFrom inQuotes d ds
    else if c = '"' ∧ (inQuotes = false ∨ before ≠ '\\') then c :: unescapeFrom (!inQuotes) c cs
    else c :: unescapeFrom inQuotes c cs

def unescape (s : List Char) : List Char := unescapeFrom false ' ' s

def isQuoted (s : List Char) : Bool := s.head? = some '"' && s.getLast? = some '"'

/-- The value of an assignment, from behind the equals sign. -/
def valueOf (s : List Char) : List Char :=
  let pos := s.dropWhile isAsciiSpace
  unescape (if isQuoted pos then pos.tail.dropLast else pos)

/-- The name and the value of an assignment, as `gst_parse_element_set` takes it apart. -/
def assigned (s : List Char) : List Char × List Char :=
  let inName := fun c => !isAsciiSpace c && c ≠ '='
  match s.dropWhile inName with
  | '=' :: pos => (s.takeWhile inName, valueOf pos)
  | pos => (s.takeWhile inName, valueOf (((pos.drop 1).dropWhile isAsciiSpace).drop 1))

/-- `gst_value_deserialize_string`, of a text that it takes as it is: `NULL` is no string, and what
is in quotes is unwrapped. -/
def asString (s : List Char) : Option (List Char) :=
  if s = ['N', 'U', 'L', 'L'] ∨ isQuoted s = true then none else some s

/-! ### Words -/

inductive Word
  | element (name : List Char)
  | property (name value : List Char)
  | link (caps : Option (List Char))
  deriving DecidableEq

/-- What the lexer makes of a link; one with a colon is a link of all pads. -/
def linkWord : List Char → Option Word
  | ['!'] => some (.link none)
  | '!' :: cs =>
    if cs.getLast? = some '!' then
      some (.link (some ((cs.dropLast.dropWhile isAsciiSpace).rdropWhile isAsciiSpace)))
    else none
  | _ => none

def wordOf : Token → List Char → Option Word
  | .assignment, s => (asString (assigned s).2).map (.property (assigned s).1)
  | .identifier, s => some (.element s)
  | .link, s => linkWord s
  | _, _ => none

def readTokens : List (Token × List Char) → Option (List Word)
  | [] => some []
  | (.space, _) :: ts => readTokens ts
  | (k, s) :: ts => (wordOf k s).bind fun w => (readTokens ts).map (w :: ·)

/-- The words of a text. -/
def read (text : List Char) : Option (List Word) :=
  (tokens CharClass.mem rules text).bind readTokens

/-- The words of a C string. -/
def words (text : List Char) : Option (List Word) := read (text.takeWhile fun c => c ≠ '\x00')

/-! ### Elements -/

inductive Element
  | plain (name : List Char) (properties : List (List Char × List Char))
  | filter (caps : List Char)
  deriving DecidableEq

/-- The elements of the rest of the words, from one that is being read. -/
def elementsFrom (name : List Char) (properties : List (List Char × List Char)) :
    List Word → Option (List Element)
  | [] => some [.plain name properties]
  | .property n v :: ws => elementsFrom name (properties ++ [(n, v)]) ws
  | .link caps :: .element n :: ws =>
    (elementsFrom n [] ws).map fun es => .plain name properties :: (caps.toList.map .filter ++ es)
  | _ => none

def elements : List Word → Option (List Element)
  | .element n :: ws => elementsFrom n [] ws
  | _ => none

/-- The elements of a text, or nothing if it is not a chain of elements. -/
def split (text : List Char) : Option (List Element) := (words text).bind elements

/-! ### Writing words down -/

/-- A value as it is written down: quotes for one that has nothing else to show. -/
def valueText (v : List Char) : List Char := if v = [] then ['"', '"'] else v

def Word.text : Word → List Char
  | .element n => n
  | .property n v => n ++ '=' :: valueText v
  | .link none => ['!']
  | .link (some caps) => '!' :: ' ' :: (caps ++ [' ', '!'])

/-- Words, with a blank between each and the next. -/
def joined (ws : List Word) : List Char := [' '].intercalate (ws.map Word.text)

/-- What is written behind a word. -/
def behind : List Word → List Char
  | [] => []
  | w :: ws => ' ' :: joined (w :: ws)

/-- Caps that are read as they are. -/
structure IsCaps (caps : List Char) : Prop where
  mem : caps ∈ Pattern.caps.words
  last : ∀ c ∈ caps.getLast?, isAsciiSpace c = false
  not_mem : ∀ c ∈ ['"', '\'', '\x00'], c ∉ caps

/-- A word with proper names. -/
def Word.WellNamed : Word → Prop
  | .element n => isName n = true
  | .property n _ => isName n = true
  | .link none => True
  | .link (some caps) => IsCaps caps

def Word.value? : Word → Option (List Char)
  | .property _ v => some v
  | _ => none

def valuesOf (ws : List Word) : List (List Char) := ws.filterMap Word.value?

/-- There is a word behind the last value. -/
def endsBare (ws : List Word) : Bool := (ws.getLast?.bind Word.value?).isNone

theorem joined_cons (w : Word) (ws : List Word) : joined (w :: ws) = w.text ++ behind ws := by
  cases ws with
  | nil => simp [joined, behind]
  | cons w' ws => simp [joined, behind, List.intercalate]

theorem follows_behind {ws : List Word} (hws : ∀ w ∈ ws, w.WellNamed) : Follows (behind ws) := by
  cases ws with
  | nil => exact Or.inl rfl
  | cons w ws =>
    have hends : EndsName (behind ws) := by
      intro c hc
      cases ws with
      | nil => cases hc
      | cons w' ws =>
        obtain rfl := Option.mem_some.mp hc
        exact Or.inl rfl
    have hw := hws w List.mem_cons_self
    refine Or.inr ⟨_, rfl, ?_⟩
    rw [joined_cons]
    cases w with
    | element n => exact Or.inr ⟨n, _, hw, hends, rfl⟩
    | property n v =>
      exact Or.inr ⟨n, _, hw, endsName_equals _, List.append_assoc _ _ _⟩
    | link caps =>
      cases caps with
      | none => exact Or.inl rfl
      | some caps => exact Or.inl rfl

/-! ### Which values are kept -/

/-- A value that is read as it is written down: unwrapped and unescaped it is still the same, the
lexer takes all of it for a string, a backslash at its end takes no blank, and no quotation mark
that it opens is closed behind it.  `later` are the values behind it, and `followed` says whether
there is anything. -/
structure Keeps (followed : Bool) (later : List (List Char)) (v : List Char) : Prop where
  value : valueOf v = v
  ne_null : v ≠ ['N', 'U', 'L', 'L']
  not_mem : '\x00' ∉ v
  given : Given v
  last : followed = true → v.getLast? = some '\\' → ¬ Run (v.dropWhile isBlank)
  unclosed : ∀ q ∈ ['"', '\''], Unclosed q (v.dropWhile isBlank) → ∀ u ∈ later, q ∉ valueText u

def Kept (followed : Bool) (later : List (List Char)) (v : List Char) : Prop :=
  v = [] ∨ Keeps followed later v

/-- The values of a list, one after the other; `followed` says whether anything is behind them. -/
def AllKept (followed : Bool) : List (List Char) → Prop
  | [] => True
  | v :: vs => Kept (followed || !vs.isEmpty) vs v ∧ AllKept followed vs

instance (followed : Bool) (later : List (List Char)) (v : List Char) :
    Decidable (Kept followed later v) :=
  have : Decidable (∀ q ∈ ['"', '\''], Unclosed q (v.dropWhile isBlank) →
      ∀ u ∈ later, q ∉ valueText u) := List.decidableBAll _ _
  decidable_of_iff (v = [] ∨ valueOf v = v ∧ v ≠ ['N', 'U', 'L', 'L'] ∧ '\x00' ∉ v ∧ Given v ∧
      (followed = true → v.getLast? = some '\\' → ¬ Run (v.dropWhile isBlank)) ∧
      ∀ q ∈ ['"', '\''], Unclosed q (v.dropWhile isBlank) → ∀ u ∈ later, q ∉ valueText u)
    (or_congr_right ⟨fun ⟨h₁, h₂, h₃, h₄, h₅, h₆⟩ => ⟨h₁, h₂, h₃, h₄, h₅, h₆⟩,
      fun ⟨h₁, h₂, h₃, h₄, h₅, h₆⟩ => ⟨h₁, h₂, h₃, h₄, h₅, h₆⟩⟩)

/-- Value by value. -/
def decideAllKept (followed : Bool) : ∀ vs, Decidable (AllKept followed vs)
  | [] => inferInstanceAs (Decidable True)
  | v :: vs =>
    have : Decidable (AllKept followed vs) := decideAllKept followed vs
    inferInstanceAs (Decidable (Kept (followed || !vs.isEmpty) vs v ∧ AllKept followed vs))

instance (followed : Bool) (vs : List (List Char)) : Decidable (AllKept followed vs) :=
  decideAllKept followed vs

/-! ### What is read of a value -/

section Values

variable {s v : List Char}

theorem unescapeFrom_sublist (inQuotes : Bool) (before : Char) (s : List Char) :
    (unescapeFrom inQuotes before s).Sublist s := by
  fun_induction unescapeFrom inQuotes before s with
  | case1 => exact List.Sublist.slnil
  | case2 => exact List.nil_sublist _
  | case3 inQuotes before c h d ds ih => exact (ih.cons_cons d).cons c
  | case4 inQuotes before c cs h hquote ih => exact ih.cons_cons c
  | case5 inQuotes before c cs h hquote ih => exact ih.cons_cons c

theorem valueOf_sublist (s : List Char) : (valueOf s).Sublist s := by
  have hpos : (s.dropWhile isAsciiSpace).Sublist s := List.dropWhile_sublist _
  unfold valueOf
  refine (unescapeFrom_sublist _ _ _).trans ?_
  split
  · exact ((List.dropLast_sublist _).trans (List.tail_sublist _)).trans hpos
  · exact hpos

/-- A character that every value keeps. -/
def isSolid (c : Char) : Bool := !isBlank c && c ≠ '\\' && c ≠ '"'

theorem filter_unescapeFrom (inQuotes : Bool) (before : Char) (s : List Char) :
    (unescapeFrom inQuotes before s).filter isSolid = s.filter isSolid := by
  fun_induction unescapeFrom inQuotes before s with
  | case1 => rfl
  | case2 inQuotes before c h =>
    obtain ⟨rfl, _⟩ := h
    rfl
  | case3 inQuotes before c h d ds ih =>
    obtain ⟨rfl, _⟩ := h
    rw [List.filter_cons_of_neg (a := '\\') (by decide), List.filter_cons, List.filter_cons, ih]
  | case4 inQuotes before c cs h hquote ih => rw [List.filter_cons, List.filter_cons, ih]
  | case5 inQuotes before c cs h hquote ih => rw [List.filter_cons, List.filter_cons, ih]

theorem isQuoted_iff : isQuoted s = true ↔ s = ['"'] ∨ ∃ body, s = '"' :: (body ++ ['"']) := by
  rw [isQuoted, Bool.and_eq_true, decide_eq_true_eq, decide_eq_true_eq]
  constructor
  · rintro ⟨hhead, hlast⟩
    obtain ⟨ys, rfl⟩ := List.getLast?_eq_some_iff.mp hlast
    cases ys with
    | nil => exact Or.inl rfl
    | cons c body =>
      obtain rfl := Option.some.inj hhead
      exact Or.inr ⟨body, rfl⟩
  · rintro (rfl | ⟨body, rfl⟩)
    · exact ⟨rfl, rfl⟩
    · exact ⟨rfl, List.getLast?_concat (l := '"' :: body)⟩

theorem filter_valueOf (s : List Char) : (valueOf s).filter isSolid = s.filter isSolid := by
  have hspace : ∀ s : List Char, (s.dropWhile isAsciiSpace).filter isSolid = s.filter isSolid := by
    intro s
    induction s with
    | nil => rfl
    | cons c cs ih =>
      by_cases hc : isAsciiSpace c = true
      · have hsolid : ¬ isSolid c = true := by
          simp only [isAsciiSpace, Bool.or_eq_true, decide_eq_true_eq] at hc
          rcases hc with (((rfl | rfl) | rfl) | rfl) | rfl <;> decide
        rw [List.dropWhile_cons_of_pos hc, List.filter_cons_of_neg hsolid, ih]
      · rw [List.dropWhile_cons_of_neg hc]
  unfold valueOf
  rw [unescape, filter_unescapeFrom, ← hspace s]
  by_cases hquoted : isQuoted (s.dropWhile isAsciiSpace) = true
  · rw [if_pos hquoted]
    rcases isQuoted_iff.mp hquoted with h | ⟨body, h⟩
    · rw [h]
      rfl
    · have hquote : ¬ isSolid '"' = true := by decide
      rw [h, List.tail_cons, List.dropLast_concat, List.filter_cons_of_neg hquote,
        List.filter_append, List.filter_cons_of_neg hquote, List.filter_nil, List.append_nil]
  · rw [if_neg hquoted]

theorem unescapeFrom_cons {inQuotes : Bool} {before c : Char} {cs : List Char}
    (h : ¬ (c = '\\' ∧ inQuotes = false)) : unescapeFrom inQuotes before (c :: cs) =
      c :: unescapeFrom (if c = '"' ∧ (inQuotes = false ∨ before ≠ '\\') then !inQuotes
        else inQuotes) c cs := by
  rw [unescapeFrom.eq_def]
  simp only [if_neg h]
  split <;> rfl

/-- A blank at the end stays. -/
theorem getLast?_unescapeFrom (inQuotes : Bool) (before : Char) (s : List Char) :
    (unescapeFrom inQuotes before (s ++ [' '])).getLast? = some ' ' := by
  fun_induction unescapeFrom inQuotes before s with
  | case1 => rfl
  | case2 inQuotes before c h =>
    obtain ⟨rfl, rfl⟩ := h
    rfl
  | case3 inQuotes before c h d ds ih =>
    obtain ⟨rfl, rfl⟩ := h
    show (d :: unescapeFrom false d (ds ++ [' '])).getLast? = _
    rw [List.getLast?_cons, ih]
    rfl
  | case4 inQuotes before c cs h hquote ih =>
    rw [List.cons_append, unescapeFrom_cons h, if_pos hquote, List.getLast?_cons, ih]
    rfl
  | case5 inQuotes before c cs h hquote ih =>
    rw [List.cons_append, unescapeFrom_cons h, if_neg hquote, List.getLast?_cons, ih]
    rfl

theorem asString_eq_some_iff : asString s = some v ↔
    s = v ∧ v ≠ ['N', 'U', 'L', 'L'] ∧ isQuoted v = false := by
  unfold asString
  split
  · constructor
    · exact fun h => nomatch h
    · rintro ⟨rfl, hnull, hquoted⟩
      rename_i h
      rcases h with h | h
      · exact absurd h hnull
      · rw [hquoted] at h
        cases h
  · rename_i h
    rw [not_or, Bool.not_eq_true] at h
    constructor
    · rintro ⟨⟩
      exact ⟨rfl, h⟩
    · rintro ⟨rfl, _⟩
      rfl

/-- What is in quotes is not kept. -/
theorem isQuoted_of_valueOf (h : valueOf v = v) (hne : v ≠ []) : isQuoted v = false := by
  rw [Bool.eq_false_iff]
  intro hquoted
  obtain ⟨c, cs, rfl⟩ := List.exists_cons_of_ne_nil hne
  have hc : c = '"' := by
    rcases isQuoted_iff.mp hquoted with h | ⟨body, h⟩ <;> exact (List.cons.inj h).1
  have hvalue : valueOf (c :: cs) = unescape cs.dropLast := by
    rw [valueOf, List.dropWhile_cons_of_neg (by rw [hc]; decide), if_pos hquoted, List.tail_cons]
  have hlength : (unescape cs.dropLast).length ≤ cs.length :=
    ((unescapeFrom_sublist _ _ _).trans (List.dropLast_sublist _)).length_le
  rw [← hvalue, h, List.length_cons] at hlength
  omega

end Values

/-! ### How far a value goes -/

section Longest

variable {v rest t c : List Char}

/-- As much of a text as can be given. -/
def IsLongest (t s : List Char) : Prop :=
  s <+: t ∧ Given s ∧ ∀ s', s' <+: t → Given s' → s'.length ≤ s.length

theorem exists_isLongest (t : List Char) : (∃ s, IsLongest t s) ∨ ∀ s, s <+: t → ¬ Given s := by
  have hgiven : ∀ s, s ∈ lang CharClass.mem (seq Pattern.spaces Pattern.string) ↔ Given s := by
    intro s
    rw [given_iff, mem_lang_seq]
    simp only [← mem_spaces_iff, ← mem_string_iff, Pattern.words]
    constructor
    · exact fun ⟨u, hu, w, hw, h⟩ => ⟨u, w, hu, hw, h⟩
    · exact fun ⟨u, w, hu, hw, h⟩ => ⟨u, hu, w, hw, h⟩
  cases h : longest CharClass.mem (seq Pattern.spaces Pattern.string) t with
  | none =>
    right
    intro s hs
    rw [← hgiven]
    exact longest_eq_none_iff.mp h s hs
  | some s =>
    left
    obtain ⟨hbegins, hmem, hmax⟩ := longest_eq_some_iff.mp h
    exact ⟨s, hbegins, (hgiven s).mp hmem, fun s' hs' h' => hmax s' hs' ((hgiven s').mpr h')⟩

theorem dropWhile_ne_nil_of_given (h : Given v) : v.dropWhile isBlank ≠ [] := by
  obtain ⟨c, cs, hcons, _⟩ := exists_cons_of_isString h
  rw [hcons]
  exact List.cons_ne_nil c cs

theorem dropWhile_append {p : Char → Bool} {t : List Char} (h : v.dropWhile p ≠ []) :
    (v ++ t).dropWhile p = v.dropWhile p ++ t := by
  rw [List.dropWhile_append]
  simp [List.isEmpty_eq_false_iff.mpr h]

theorem getLast?_dropWhile (h : v.dropWhile isBlank ≠ []) :
    (v.dropWhile isBlank).getLast? = v.getLast? := by
  conv_rhs => rw [← List.takeWhile_append_dropWhile (p := isBlank) (l := v)]
  rw [List.getLast?_append_of_ne_nil _ h]

/-- An open quotation mark stays open up to the next one. -/
theorem unclosed_append_iff {q : Char} {s u : List Char} (hs : s ≠ []) (hu : q ∉ u) :
    Unclosed q (s ++ u) ↔ Unclosed q s := by
  have hguarded : ∀ escaped, guarded (fun c => c = q) escaped u = true := fun escaped =>
    guarded_of_forall (fun c hc => decide_eq_false (ne_of_mem_of_not_mem hc hu)) escaped
  obtain ⟨d, ds, rfl⟩ := List.exists_cons_of_ne_nil hs
  simp only [Unclosed, List.cons_append, List.head?_cons, List.tail_cons, guarded_append, hguarded,
    and_true]

theorem unclosed_of_append {q : Char} {s u : List Char} (hs : s ≠ []) (h : Unclosed q (s ++ u)) :
    Unclosed q s := by
  obtain ⟨d, ds, rfl⟩ := List.exists_cons_of_ne_nil hs
  exact ⟨h.1, (guarded_append.mp h.2).1⟩

/-- What stands behind a word starts with a blank, and another word. -/
theorem Follows.exists_blank {u : List Char} (hrest : Follows rest) (hu : u ≠ [])
    (hbegins : u <+: rest) : ∃ t, u = ' ' :: t ∧ ∀ x ∈ t.head?, isSolid x = true := by
  obtain ⟨x, u, rfl⟩ := List.exists_cons_of_ne_nil hu
  cases rest with
  | nil => exact absurd (List.prefix_nil.mp hbegins) hu
  | cons y t =>
    obtain rfl : y = ' ' := by
      rcases hrest with h | ⟨_, h, _⟩
      · cases h
      · exact (List.cons.inj h).1
    obtain ⟨rfl, hbehind⟩ := List.cons_prefix_cons.mp hbegins
    refine ⟨u, rfl, fun x hx => ?_⟩
    obtain ⟨c, t, rfl, hc⟩ := hrest.head rfl
    obtain ⟨u, rfl⟩ := List.head?_eq_some_iff.mp hx
    obtain ⟨rfl, _⟩ := List.cons_prefix_cons.mp hbehind
    rw [isSolid, not_isBlank_of_head hc]
    rcases hc with rfl | hc
    · decide
    · have hne : x ≠ '\\' ∧ x ≠ '"' :=
        ⟨ne_of_true_of_false hc (by decide), ne_of_true_of_false hc (by decide)⟩
      simp [hne]

/-- A run goes on behind a blank only if there is a backslash before it. -/
theorem run_of_append {u : List Char} (hv : v ≠ []) (h : Run (v ++ ' ' :: u)) :
    v.getLast? = some '\\' ∧ Run v := by
  obtain ⟨_, hguarded, hnew⟩ := h
  obtain ⟨hbefore, hblank⟩ := guarded_append.mp hguarded
  rw [if_neg hv, guarded, Bool.and_eq_true, Bool.or_eq_true] at hblank
  refine ⟨?_, hv, hbefore, fun h => hnew (List.mem_append_left _ h)⟩
  rcases hblank.1 with h | h
  · cases h
  · exact of_decide_eq_true h

/-- **When more can be given than what was written down**: a backslash at the end is followed by
a blank, or a quotation mark that is open by another one. -/
theorem exists_longer_iff (hv : v.dropWhile isBlank ≠ []) (hrest : Follows rest) :
    (∃ u, u ≠ [] ∧ u <+: rest ∧ Given (v ++ u)) ↔
      (rest ≠ [] ∧ v.getLast? = some '\\' ∧ Run (v.dropWhile isBlank)) ∨
        ∃ q ∈ ['"', '\''], Unclosed q (v.dropWhile isBlank) ∧ q ∈ rest := by
  constructor
  · rintro ⟨u, hu, hbegins, hgiven⟩
    rw [Given, dropWhile_append hv] at hgiven
    have hquoted : ∀ q, Enclosed q (v.dropWhile isBlank ++ u) →
        Unclosed q (v.dropWhile isBlank) ∧ q ∈ rest := by
      rintro q ⟨hlast, hunclosed⟩
      rw [List.dropLast_append_of_ne_nil hu] at hunclosed
      rw [List.getLast?_append_of_ne_nil _ hu] at hlast
      exact ⟨unclosed_of_append hv hunclosed, hbegins.subset (List.mem_of_getLast? hlast)⟩
    rcases hgiven with hrun | h | h
    · obtain ⟨t, rfl, _⟩ := hrest.exists_blank hu hbegins
      obtain ⟨hlast, hrun⟩ := run_of_append hv hrun
      refine Or.inl ⟨fun hnil => ?_, getLast?_dropWhile hv ▸ hlast, hrun⟩
      rw [hnil] at hbegins
      exact hu (List.prefix_nil.mp hbegins)
    · exact Or.inr ⟨'"', List.mem_cons_self, hquoted _ h⟩
    · exact Or.inr ⟨'\'', List.mem_cons_of_mem _ List.mem_cons_self, hquoted _ h⟩
  · rintro (⟨hne, hlast, hrun⟩ | ⟨q, hq, hunclosed, hmem⟩)
    · rcases hrest with rfl | ⟨t, rfl, _⟩
      · exact absurd rfl hne
      · refine ⟨[' '], List.cons_ne_nil _ _, List.cons_prefix_cons.mpr ⟨rfl, List.nil_prefix⟩, ?_⟩
        rw [Given, dropWhile_append hv]
        refine Or.inl ⟨List.append_ne_nil_of_left_ne_nil hv _,
          guarded_append.mpr ⟨hrun.2.1, ?_⟩, ?_⟩
        · rw [if_neg hv, getLast?_dropWhile hv, hlast]
          decide
        · intro h
          rcases List.mem_append.mp h with h | h
          · exact hrun.2.2 h
          · cases List.mem_singleton.mp h
    · -- The quotation mark is closed by the next one.
      obtain ⟨a, b, rfl, ha⟩ := List.eq_append_cons_of_mem hmem
      refine ⟨a ++ [q], List.append_ne_nil_of_right_ne_nil _ (List.cons_ne_nil _ _),
        ⟨b, by simp⟩, ?_⟩
      rw [Given, dropWhile_append hv, ← List.append_assoc]
      have henclosed : Enclosed q (v.dropWhile isBlank ++ a ++ [q]) := by
        rw [Enclosed, List.getLast?_concat, List.dropLast_concat]
        exact ⟨rfl, (unclosed_append_iff hv ha).mpr hunclosed⟩
      rcases List.mem_cons.mp hq with rfl | hq
      · exact Or.inr (Or.inl henclosed)
      · obtain rfl := List.mem_singleton.mp hq
        exact Or.inr (Or.inr henclosed)

/-- An empty value is written down as two quotation marks, and nothing more. -/
theorem not_given_quotes (t : List Char) : ¬ Given ('"' :: '"' :: ' ' :: t) := by
  rintro (⟨_, hguarded, _⟩ | ⟨hlast, _, hguarded⟩ | ⟨_, hhead, _⟩)
  · cases hguarded
  · cases t with
    | nil => cases hlast
    | cons x t => cases hguarded
  · cases t with
    | nil => cases hhead
    | cons x t => cases hhead

/-- A blank at the end is behind a backslash. -/
theorem getLast?_of_given_blank (h : Given (v ++ [' '])) : v.getLast? = some '\\' := by
  have hv : v.dropWhile isBlank ≠ [] := by
    intro hnil
    refine dropWhile_ne_nil_of_given h ?_
    rw [List.dropWhile_append, hnil]
    rfl
  rw [Given, dropWhile_append hv] at h
  rcases h with hrun | ⟨hlast, _⟩ | ⟨hlast, _⟩
  · exact getLast?_dropWhile hv ▸ (run_of_append hv hrun).1
  · rw [List.getLast?_concat] at hlast
    cases hlast
  · rw [List.getLast?_concat] at hlast
    cases hlast

/-- A blank at the end is part of the value. -/
theorem getLast?_valueOf_blank (hv : valueOf (v ++ [' ']) ≠ []) :
    (valueOf (v ++ [' '])).getLast? = some ' ' := by
  by_cases hspace : v.dropWhile isAsciiSpace = []
  · refine absurd ?_ hv
    rw [valueOf, List.dropWhile_append, hspace]
    rfl
  · have hquoted : isQuoted (v.dropWhile isAsciiSpace ++ [' ']) = false := by
      rw [isQuoted, List.getLast?_concat]
      exact Bool.and_false _
    rw [valueOf, dropWhile_append hspace, hquoted]
    exact getLast?_unescapeFrom _ _ _

/-- **What is read as a value is what was written down**, if it is the value. -/
theorem eq_valueText_of_isLongest (hrest : Follows rest) (hc : IsLongest (valueText v ++ rest) c)
    (hvalue : valueOf c = v) : c = valueText v := by
  obtain ⟨hbegins, hgiven, hmax⟩ := hc
  have hlength : (valueText v).length ≤ c.length := by
    by_cases hv : v = []
    · subst hv
      exact hmax ['"', '"'] (List.prefix_append _ _) (by decide)
    · rw [valueText, if_neg hv]
      have hle := (valueOf_sublist c).length_le
      rwa [hvalue] at hle
  obtain ⟨u, rfl⟩ := List.prefix_of_prefix_length_le (List.prefix_append _ rest) hbegins hlength
  by_contra hne
  have hu : u ≠ [] := fun h => hne (by rw [h, List.append_nil])
  obtain ⟨t, rfl, ht⟩ :=
    hrest.exists_blank hu ((List.prefix_append_right_inj (valueText v)).mp hbegins)
  by_cases hv : v = []
  · subst hv
    exact not_given_quotes t hgiven
  · rw [valueText, if_neg hv] at hvalue hgiven
    cases t with
    | nil =>
      have hlast := getLast?_valueOf_blank (v := v) (by rw [hvalue]; exact hv)
      rw [hvalue, getLast?_of_given_blank hgiven] at hlast
      cases hlast
    | cons x t =>
      -- The next word would be part of the value.
      have hfilter := congrArg List.length (filter_valueOf (v ++ ' ' :: x :: t))
      rw [hvalue, List.filter_append, List.filter_cons_of_neg (by decide),
        List.filter_cons_of_pos (ht x rfl), List.length_append, List.length_cons] at hfilter
      omega

end Longest

/-! ### Plain texts -/

/-- A character that no rule for values or caps treats in its own way. -/
def isPlainChar (c : Char) : Bool :=
  !([' ', '\t', '\n', '\x0b', '\x0c', '\r', '\\', '"', '\'', '\x00', ';', '!'].contains c)

/-- A value that is kept wherever it stands. -/
def IsPlain (v : List Char) : Prop :=
  v ≠ [] ∧ v ≠ ['N', 'U', 'L', 'L'] ∧ v.all isPlainChar = true

instance (v : List Char) : Decidable (IsPlain v) :=
  inferInstanceAs (Decidable (v ≠ [] ∧ v ≠ ['N', 'U', 'L', 'L'] ∧ v.all isPlainChar = true))

section Plain

variable {followed : Bool} {later us vs : List (List Char)} {u v : List Char}

theorem isPlainChar_iff {c : Char} : isPlainChar c = true ↔ isBlank c = false ∧
    ∀ d ∈ ['\\', '"', '\'', '\x00', ';', '!'], c ≠ d := by
  simp [isPlainChar, isBlank, and_assoc]

/-- The characters of a class that has no other. -/
theorem isPlainChar_of {p : Char → Bool} (hp : [' ', '\t', '\n', '\x0b', '\x0c', '\r', '\\', '"',
      '\'', '\x00', ';', '!'].all (fun c => !p c) = true) {c : Char} (hc : p c = true) :
    isPlainChar c = true := by
  rw [isPlainChar, contains_eq_false_of hp hc]
  rfl

theorem isAsciiSpace_of_isBlank {c : Char} (hc : isBlank c = false) : isAsciiSpace c = false := by
  simp only [isBlank, Bool.or_eq_false_iff] at hc
  simp [isAsciiSpace, hc]

theorem unescapeFrom_eq_self (before : Char) (h : ∀ c ∈ v, c ≠ '\\' ∧ c ≠ '"') :
    unescapeFrom false before v = v := by
  induction v generalizing before with
  | nil => rfl
  | cons c cs ih =>
    obtain ⟨hc, hcs⟩ := List.forall_mem_cons.mp h
    rw [unescapeFrom_cons fun h => hc.1 h.1, if_neg fun h => hc.2 h.1, ih c hcs]

/-- **A plain value is kept.** -/
theorem IsPlain.keeps (h : IsPlain v) : Keeps followed later v := by
  obtain ⟨hne, hnull, hall⟩ := h
  have hchars := List.all_eq_true.mp hall
  have hnot : ∀ d ∈ ['\\', '"', '\'', '\x00', ';', '!'], d ∉ v := fun d hd hmem =>
    (isPlainChar_iff.mp (hchars d hmem)).2 d hd rfl
  obtain ⟨c, cs, hcons⟩ := List.exists_cons_of_ne_nil hne
  have hblank : isBlank c = false :=
    (isPlainChar_iff.mp (hchars c (hcons ▸ List.mem_cons_self))).1
  have hdrop : v.dropWhile isBlank = v := by
    rw [hcons, List.dropWhile_cons_of_neg (by simp [hblank])]
  have hspace : v.dropWhile isAsciiSpace = v := by
    rw [hcons, List.dropWhile_cons_of_neg (by simp [isAsciiSpace_of_isBlank hblank])]
  have hquote : v.head? ≠ some '"' ∧ v.head? ≠ some '\'' :=
    ⟨fun h => hnot '"' (by decide) (List.mem_of_mem_head? h),
      fun h => hnot '\'' (by decide) (List.mem_of_mem_head? h)⟩
  refine
    { value := ?_
      ne_null := hnull
      not_mem := hnot _ (by decide)
      given := ?_
      last := fun _ hlast => absurd (List.mem_of_getLast? hlast) (hnot '\\' (by decide))
      unclosed := fun q hq hopen => ?_ }
  · have hquoted : isQuoted v = false := by
      rw [isQuoted, decide_eq_false hquote.1]
      rfl
    rw [valueOf, hspace, hquoted]
    exact unescapeFrom_eq_self _ fun c hc => ⟨ne_of_mem_of_not_mem hc (hnot _ (by decide)),
      ne_of_mem_of_not_mem hc (hnot _ (by decide))⟩
  · rw [Given, hdrop]
    refine Or.inl ⟨hne, guarded_of_forall (fun c hc => (isPlainChar_iff.mp (hchars c hc)).1) false,
      fun hmem => ?_⟩
    have hnew := (isPlainChar_iff.mp (hchars '\n' hmem)).1
    cases hnew
  · rw [hdrop] at hopen
    rcases List.mem_cons.mp hq with rfl | hq
    · exact absurd hopen.1 hquote.1
    · obtain rfl := List.mem_singleton.mp hq
      exact absurd hopen.1 hquote.2

/-- A plain value closes no quotation mark. -/
theorem kept_drop_iff (hu : IsPlain u) :
    Kept followed (us ++ u :: vs) v ↔ Kept followed (us ++ vs) v := by
  have hnot : ∀ q ∈ ['"', '\''], q ∉ valueText u := by
    intro q hq hmem
    rw [valueText, if_neg hu.1] at hmem
    refine (isPlainChar_iff.mp (List.all_eq_true.mp hu.2.2 q hmem)).2 q ?_ rfl
    simp only [List.mem_cons, List.not_mem_nil, or_false] at hq ⊢
    tauto
  refine or_congr_right ⟨fun h => ⟨h.value, h.ne_null, h.not_mem, h.given, h.last, ?_⟩,
    fun h => ⟨h.value, h.ne_null, h.not_mem, h.given, h.last, ?_⟩⟩
  · intro q hq hopen t ht
    refine h.unclosed q hq hopen t ?_
    simp only [List.mem_append, List.mem_cons] at ht ⊢
    tauto
  · intro q hq hopen t ht
    by_cases htu : t = u
    · subst htu
      exact hnot q hq
    · refine h.unclosed q hq hopen t ?_
      simp only [List.mem_append, List.mem_cons] at ht ⊢
      tauto

theorem allKept_append_cons_iff (hu : IsPlain u) (hvs : (followed || !vs.isEmpty) = true) :
    AllKept followed (us ++ u :: vs) ↔ AllKept followed (us ++ vs) := by
  induction us with
  | nil => exact and_iff_right (Or.inr hu.keeps)
  | cons t us ih =>
    have hflags : (followed || !(us ++ u :: vs).isEmpty) = true ∧
        (followed || !(us ++ vs).isEmpty) = true := by
      rcases (Bool.or_eq_true _ _).mp hvs with h | h
      · simp [h]
      · simp at h
        simp [h]
    rw [List.cons_append, List.cons_append, AllKept, AllKept, ih, hflags.1, hflags.2,
      kept_drop_iff hu]

/-- A plain value at the end, which is behind all the others. -/
theorem allKept_concat_iff (hu : IsPlain u) : AllKept followed (us ++ [u]) ↔ AllKept true us := by
  induction us with
  | nil => exact and_iff_right (Or.inr hu.keeps)
  | cons t us ih =>
    have hflag : (followed || !(us ++ [u]).isEmpty) = true := by simp
    have hdrop : Kept true (us ++ [u]) t ↔ Kept true (us ++ []) t := kept_drop_iff hu
    rw [List.append_nil] at hdrop
    rw [List.cons_append, AllKept, AllKept, ih, hflag, hdrop, Bool.true_or]

/-- Plain caps. -/
theorem isCaps_of {a b fields : List Char}
    (hmime : a ≠ [] ∧ b ≠ [] ∧ (a ++ b).all isMimeChar = true)
    (hfields : ∀ c ∈ fields, isPlainChar c = true) : IsCaps (a ++ '/' :: (b ++ fields)) := by
  have hmimechar : ∀ {c}, isMimeChar c = true → isPlainChar c = true := fun hc =>
    isPlainChar_of (p := isMimeChar) (by decide) hc
  have hchars : ∀ c ∈ a ++ '/' :: (b ++ fields), isPlainChar c = true := by
    obtain ⟨ha, hb⟩ := List.forall_mem_append.mp (List.all_eq_true.mp hmime.2.2)
    exact List.forall_mem_append.mpr ⟨fun c hc => hmimechar (ha c hc),
      List.forall_mem_cons.mpr ⟨by decide,
        List.forall_mem_append.mpr ⟨fun c hc => hmimechar (hb c hc), hfields⟩⟩⟩
  refine ⟨mem_caps_of hmime fun c hc hmem => ?_, fun c hc => ?_, fun c hc hmem => ?_⟩
  · refine (isPlainChar_iff.mp (hfields c hc)).2 c ?_ rfl
    simp only [List.mem_cons, List.not_mem_nil, or_false] at hmem
    rcases hmem with rfl | rfl <;> simp
  · exact isAsciiSpace_of_isBlank (isPlainChar_iff.mp (hchars c (List.mem_of_getLast? hc))).1
  · refine (isPlainChar_iff.mp (hchars c hmem)).2 c ?_ rfl
    simp only [List.mem_cons, List.not_mem_nil, or_false] at hc
    rcases hc with rfl | rfl | rfl <;> simp

end Plain

/-! ### Reading words -/

section Read

variable {n v t : List Char} {w : Word} {ws : List Word}

theorem read_word {p : List Char} {k : Token}
    (h : munch CharClass.mem rules (p ++ t) = some (k, p)) (hne : p ≠ []) (hk : k ≠ .space) :
    read (p ++ t) = (wordOf k p).bind fun w => (read t).map (w :: ·) := by
  rw [read, tokens_of_munch h hne, List.drop_left, read]
  cases tokens CharClass.mem rules t with
  | none => cases wordOf k p <;> rfl
  | some ts =>
    cases k with
    | space => exact absurd rfl hk
    | _ => rfl

theorem read_space (ht : Follows (' ' :: t)) : read (' ' :: t) = read t := by
  rw [read, tokens_of_munch (munch_space ht) (List.cons_ne_nil _ _), read]
  show ((tokens CharClass.mem rules t).map _).bind readTokens = _
  cases tokens CharClass.mem rules t <;> rfl

theorem read_behind (hws : ∀ w ∈ ws, w.WellNamed) : read (behind ws) = read (joined ws) := by
  cases ws with
  | nil => rfl
  | cons w ws => exact read_space (follows_behind hws)

theorem linkWord_filter {caps : List Char} (hcaps : IsCaps caps) :
    linkWord ('!' :: ' ' :: (caps ++ [' ', '!'])) = some (.link (some caps)) := by
  obtain ⟨c, a, r, hcons, _, ha⟩ := slash_of_caps hcaps.mem
  have hc : isAsciiSpace c = false :=
    isAsciiSpace_of_isBlank (isBlank_of_isUnslashed (ha c List.mem_cons_self))
  have hsplit : ' ' :: (caps ++ [' ', '!']) = (' ' :: (caps ++ [' '])) ++ ['!'] := by simp
  have hfront : (' ' :: (caps ++ [' '])).dropWhile isAsciiSpace = caps ++ [' '] := by
    rw [List.dropWhile_cons_of_pos (by decide), hcons, List.cons_append,
      List.dropWhile_cons_of_neg (by simp [hc])]
  have hback : (caps ++ [' ']).rdropWhile isAsciiSpace = caps := by
    rw [List.rdropWhile_concat_pos _ _ _ (by decide), List.rdropWhile_eq_self_iff]
    intro hne
    simp [hcaps.last _ (List.getLast?_eq_getLast_of_ne_nil hne)]
  show (if (' ' :: (caps ++ [' ', '!'])).getLast? = some '!' then _ else none) = _
  rw [hsplit, List.getLast?_concat, if_pos rfl, List.dropLast_concat, hfront, hback]

/-- **A word without a value is read as it is.** -/
theorem read_text (hw : w.WellNamed) (hvalue : w.value? = none) (ht : Follows t) :
    read (w.text ++ t) = (read t).map (w :: ·) := by
  cases w with
  | element n =>
    have hne : n ≠ [] := by
      rintro rfl
      cases hw
    exact read_word (munch_identifier hw ht) hne (by decide)
  | property n v => cases hvalue
  | link caps =>
    cases caps with
    | none => exact read_word (p := ['!']) (munch_mark ht) (List.cons_ne_nil _ _) (by decide)
    | some caps =>
      have hcaps : IsCaps caps := hw
      have hmunch := munch_filter hcaps.mem t
      rw [show '!' :: ' ' :: (caps ++ ' ' :: '!' :: t) = (Word.link (some caps)).text ++ t by
        simp [Word.text]] at hmunch
      rw [read_word hmunch (List.cons_ne_nil _ _) (by decide), wordOf, Word.text,
        linkWord_filter hcaps, Option.bind_some]

theorem assigned_eq (hn : isName n = true) (s : List Char) :
    assigned (n ++ '=' :: s) = (n, valueOf s) := by
  have hname : ∀ c ∈ n, (!isAsciiSpace c && decide (c ≠ '=')) = true := by
    intro c hc
    have hunslashed := isUnslashed_of_isNameChar (isNameChar_of_mem hn hc)
    simp only [isUnslashed, Bool.not_eq_true', ← Bool.not_eq_true, List.contains_iff_mem,
      List.mem_cons, not_or] at hunslashed
    simp [isAsciiSpace, hunslashed]
  have hdrop : (n ++ '=' :: s).dropWhile (fun c => !isAsciiSpace c && decide (c ≠ '=')) =
      '=' :: s := by
    rw [List.dropWhile_append_of_pos hname, List.dropWhile_cons_of_neg (by decide)]
  have htake : (n ++ '=' :: s).takeWhile (fun c => !isAsciiSpace c && decide (c ≠ '=')) = n := by
    rw [List.takeWhile_append_of_pos hname, List.takeWhile_cons_of_neg (by decide), List.append_nil]
  rw [assigned]
  simp only [hdrop, htake]

theorem read_assignment {s u : List Char} (hn : isName n = true) (hs : IsLongest (s ++ u) s) :
    read (n ++ '=' :: (s ++ u)) =
      (asString (valueOf s)).bind fun v => (read u).map (.property n v :: ·) := by
  have hmunch := munch_assignment hn hs.1 hs.2.1 hs.2.2
  rw [show n ++ '=' :: (s ++ u) = n ++ '=' :: s ++ u by simp] at hmunch ⊢
  rw [read_word hmunch (List.append_ne_nil_of_right_ne_nil _ (List.cons_ne_nil _ _)) (by decide)]
  show ((asString (assigned (n ++ '=' :: s)).2).map _).bind _ = _
  rw [assigned_eq hn]
  cases asString (valueOf s) <;> rfl

/-- **One assignment is read as it is** exactly if no more can be given than its value, and this is
kept. -/
theorem read_property_iff (hn : isName n = true) (hws : ∀ w ∈ ws, w.WellNamed) :
    read (n ++ '=' :: (valueText v ++ behind ws)) = some (.property n v :: ws) ↔
      (IsLongest (valueText v ++ behind ws) (valueText v) ∧
        asString (valueOf (valueText v)) = some v) ∧ read (behind ws) = some ws := by
  constructor
  · intro hread
    rcases exists_isLongest (valueText v ++ behind ws) with ⟨s, hs⟩ | hnone
    · obtain ⟨u, hu⟩ := hs.1
      rw [← hu] at hread hs
      rw [read_assignment hn hs] at hread
      obtain ⟨v', hv', hread⟩ := Option.bind_eq_some_iff.mp hread
      obtain ⟨ws', hws', hcons⟩ := Option.map_eq_some_iff.mp hread
      obtain ⟨hword, rfl⟩ := List.cons.inj hcons
      obtain rfl := (Word.property.inj hword).2
      rw [hu] at hs
      obtain rfl := eq_valueText_of_isLongest (follows_behind hws) hs
        (asString_eq_some_iff.mp hv').1
      exact ⟨⟨hs, hv'⟩, List.append_cancel_left hu ▸ hws'⟩
    · have hne : n ≠ [] := by
        rintro rfl
        cases hn
      rw [read_word (munch_unassigned hn hnone) hne (by decide)] at hread
      obtain ⟨_, _, hcons⟩ := Option.map_eq_some_iff.mp hread
      cases hcons
  · rintro ⟨⟨hs, hv⟩, hread⟩
    rw [read_assignment hn hs, hv, hread]
    rfl

theorem isLongest_iff {s : List Char} : IsLongest (s ++ t) s ↔
    Given s ∧ ¬ ∃ u, u ≠ [] ∧ u <+: t ∧ Given (s ++ u) := by
  constructor
  · rintro ⟨_, hgiven, hmax⟩
    refine ⟨hgiven, fun ⟨u, hu, hbegins, hlonger⟩ => hu ?_⟩
    have hlength := hmax (s ++ u) ((List.prefix_append_right_inj s).mpr hbegins) hlonger
    rw [List.length_append] at hlength
    exact List.length_eq_zero_iff.mp (by omega)
  · rintro ⟨hgiven, hnot⟩
    refine ⟨List.prefix_append s t, hgiven, fun s' hs' hgiven' => ?_⟩
    by_contra hlength
    obtain ⟨u, rfl⟩ := List.prefix_of_prefix_length_le (List.prefix_append s t) hs' (by omega)
    refine hnot ⟨u, ?_, (List.prefix_append_right_inj s).mp hs', hgiven'⟩
    rintro rfl
    simp at hlength

/-! ### The characters of words -/

theorem mem_text_iff_value {q : Char} (hq : q ∈ ['"', '\'', '\x00']) (hw : w.WellNamed) :
    q ∈ w.text ↔ ∃ u, w.value? = some u ∧ q ∈ valueText u := by
  have hname : ∀ {n : List Char}, isName n = true → q ∉ n := by
    intro n hn hmem
    have hnot : ['"', '\'', '\x00'].contains q = false :=
      contains_eq_false_of (by decide) (isNameChar_of_mem hn hmem)
    rw [List.contains_iff_mem.mpr hq] at hnot
    cases hnot
  have hne : q ≠ ' ' ∧ q ≠ '!' ∧ q ≠ '=' := by
    simp only [List.mem_cons, List.not_mem_nil, or_false] at hq
    rcases hq with rfl | rfl | rfl <;> decide
  cases w with
  | element n => simp [Word.text, Word.value?, hname hw]
  | property n v => simp [Word.text, Word.value?, hname hw, hne]
  | link caps =>
    cases caps with
    | none => simp [Word.text, Word.value?, hne]
    | some caps => simp [Word.text, Word.value?, hne, (show IsCaps caps from hw).not_mem q hq]

theorem mem_behind_iff_mem_joined {c : Char} (hc : c ≠ ' ') : c ∈ behind ws ↔ c ∈ joined ws := by
  cases ws with
  | nil => exact Iff.rfl
  | cons w ws => rw [behind, List.mem_cons, or_iff_right hc]

/-- A quotation mark is in the text of a value. -/
theorem mem_joined_iff {q : Char} (hq : q ∈ ['"', '\'', '\x00']) (hws : ∀ w ∈ ws, w.WellNamed) :
    q ∈ joined ws ↔ ∃ u ∈ valuesOf ws, q ∈ valueText u := by
  have hne : q ≠ ' ' := by
    rintro rfl
    revert hq
    decide
  induction ws with
  | nil => simp [joined, valuesOf]
  | cons w ws ih =>
    have hrest : q ∈ joined ws ↔ ∃ u ∈ valuesOf ws, q ∈ valueText u :=
      ih fun w' hw' => hws w' (List.mem_cons_of_mem w hw')
    rw [joined_cons, List.mem_append, mem_behind_iff_mem_joined hne,
      mem_text_iff_value hq (hws w List.mem_cons_self), hrest, valuesOf, valuesOf]
    simp only [List.mem_filterMap, List.mem_cons]
    constructor
    · rintro (⟨u, hu, hqu⟩ | ⟨u, ⟨w', hw', hu⟩, hqu⟩)
      · exact ⟨u, ⟨w, Or.inl rfl, hu⟩, hqu⟩
      · exact ⟨u, ⟨w', Or.inr hw', hu⟩, hqu⟩
    · rintro ⟨u, ⟨w', rfl | hw', hu⟩, hqu⟩
      · exact Or.inl ⟨u, hu, hqu⟩
      · exact Or.inr ⟨u, ⟨w', hw', hu⟩, hqu⟩

theorem mem_behind_iff {q : Char} (hq : q ∈ ['"', '\'', '\x00']) (hws : ∀ w ∈ ws, w.WellNamed) :
    q ∈ behind ws ↔ ∃ u ∈ valuesOf ws, q ∈ valueText u := by
  rw [← mem_joined_iff hq hws]
  refine mem_behind_iff_mem_joined ?_
  rintro rfl
  revert hq
  decide

/-! ### Which words are read as they are -/

/-- **Which values are kept.** -/
theorem kept_iff (hws : ∀ w ∈ ws, w.WellNamed) (hnul : '\x00' ∉ v) :
    Kept (!ws.isEmpty) (valuesOf ws) v ↔ IsLongest (valueText v ++ behind ws) (valueText v) ∧
      asString (valueOf (valueText v)) = some v := by
  have hfollows := follows_behind hws
  rw [isLongest_iff]
  by_cases hv : v = []
  · subst hv
    refine iff_of_true (Or.inl rfl) ⟨⟨by decide, ?_⟩, by decide⟩
    rintro ⟨u, hu, hbegins, hgiven⟩
    obtain ⟨t, rfl, _⟩ := hfollows.exists_blank hu hbegins
    exact not_given_quotes t hgiven
  · have hempty : behind ws ≠ [] ↔ (!ws.isEmpty) = true := by
      cases ws <;> simp [behind]
    have hunclosed : (∃ q ∈ ['"', '\''], Unclosed q (v.dropWhile isBlank) ∧ q ∈ behind ws) ↔
        ∃ q ∈ ['"', '\''], Unclosed q (v.dropWhile isBlank) ∧ ∃ u ∈ valuesOf ws, q ∈ valueText u :=
      exists_congr fun q => and_congr_right fun hq => and_congr_right fun _ =>
        mem_behind_iff (by simp only [List.mem_cons, List.not_mem_nil, or_false] at hq ⊢; tauto) hws
    rw [Kept, or_iff_right hv, valueText, if_neg hv, asString_eq_some_iff]
    constructor
    · intro h
      refine ⟨⟨h.given, ?_⟩, h.value, h.ne_null, isQuoted_of_valueOf h.value hv⟩
      rw [exists_longer_iff (dropWhile_ne_nil_of_given h.given) hfollows, hunclosed]
      rintro (⟨hne, hlast, hrun⟩ | ⟨q, hq, hopen, u, hu, hmem⟩)
      · exact h.last (hempty.mp hne) hlast hrun
      · exact h.unclosed q hq hopen u hu hmem
    · rintro ⟨⟨hgiven, hlonger⟩, hvalue, hnull, _⟩
      rw [exists_longer_iff (dropWhile_ne_nil_of_given hgiven) hfollows, hunclosed] at hlonger
      exact ⟨hvalue, hnull, hnul, hgiven,
        fun hne hlast hrun => hlonger (Or.inl ⟨hempty.mpr hne, hlast, hrun⟩),
        fun q hq hopen u hu hmem => hlonger (Or.inr ⟨q, hq, hopen, u, hu, hmem⟩)⟩

theorem endsBare_cons (w : Word) (hws : ws ≠ []) : endsBare (w :: ws) = endsBare ws := by
  obtain ⟨w', ws, rfl⟩ := List.exists_cons_of_ne_nil hws
  rw [endsBare, endsBare, List.getLast?_cons_cons]

/-- Behind a word there is one without a value, or another value. -/
theorem endsBare_or (hws : ws ≠ []) : (endsBare ws || !(valuesOf ws).isEmpty) = true := by
  by_contra h
  rw [Bool.or_eq_true, not_or, Bool.not_eq_true, Bool.not_eq_true, Bool.not_eq_false',
    List.isEmpty_iff] at h
  have hlast := List.filterMap_eq_nil_iff.mp h.2 _ (List.getLast_mem hws)
  rw [endsBare, List.getLast?_eq_some_getLast hws, Option.bind_some, hlast] at h
  cases h.1

theorem allKept_cons_iff {followed : Bool} (w : Word) : AllKept followed (valuesOf (w :: ws)) ↔
    (∀ v, w.value? = some v → Kept (followed || !(valuesOf ws).isEmpty) (valuesOf ws) v) ∧
      AllKept followed (valuesOf ws) := by
  cases w with
  | element n => exact (and_iff_right fun v hv => nomatch hv).symm
  | property n v => simp [valuesOf, Word.value?, AllKept]
  | link caps => exact (and_iff_right fun v hv => nomatch hv).symm

theorem read_joined_iff (hws : ∀ w ∈ ws, w.WellNamed) (hnul : '\x00' ∉ joined ws) :
    read (joined ws) = some ws ↔ AllKept (endsBare ws) (valuesOf ws) := by
  induction ws with
  | nil => exact iff_of_true rfl trivial
  | cons w ws ih =>
    obtain ⟨hw, hrest⟩ := List.forall_mem_cons.mp hws
    rw [joined_cons, List.mem_append, not_or, mem_behind_iff_mem_joined (by decide)] at hnul
    have hread : read (behind ws) = some ws ↔ AllKept (endsBare ws) (valuesOf ws) := by
      rw [read_behind hrest]
      exact ih hrest hnul.2
    have hends : AllKept (endsBare (w :: ws)) (valuesOf ws) ↔
        AllKept (endsBare ws) (valuesOf ws) := by
      by_cases hnil : ws = []
      · subst hnil
        exact Iff.rfl
      · rw [endsBare_cons w hnil]
    rw [allKept_cons_iff, hends, ← hread, joined_cons]
    cases hvalue : w.value? with
    | none =>
      rw [read_text hw hvalue (follows_behind hrest), Option.map_eq_some_iff]
      simp
    | some v =>
      obtain ⟨n, rfl⟩ : ∃ n, w = .property n v := by
        cases w with
        | property n v' => exact ⟨n, by rw [Option.some.inj hvalue]⟩
        | element n => cases hvalue
        | link caps => cases hvalue
      have hfollowed :
          (endsBare (.property n v :: ws) || !(valuesOf ws).isEmpty) = !ws.isEmpty := by
        by_cases hnil : ws = []
        · subst hnil
          rfl
        · rw [endsBare_cons _ hnil, endsBare_or hnil]
          simp [hnil]
      have hv : '\x00' ∉ v := by
        intro hmem
        refine hnul.1 ((mem_text_iff_value (by decide) hw).mpr ⟨v, rfl, ?_⟩)
        rwa [valueText, if_neg (List.ne_nil_of_mem hmem)]
      have hkept := kept_iff hrest hv
      have hproperty := read_property_iff (n := n) (v := v) hw hrest
      rw [show (Word.property n v).text ++ behind ws = n ++ '=' :: (valueText v ++ behind ws) by
        simp [Word.text], hproperty, hfollowed]
      simp only [Option.some.injEq, forall_eq', hkept]

theorem value?_linkWord {s : List Char} (h : linkWord s = some w) : w.value? = none := by
  unfold linkWord at h
  split at h
  · obtain rfl := Option.some.inj h
    rfl
  · split at h
    · obtain rfl := Option.some.inj h
      rfl
    · cases h
  · cases h

/-- A value is part of the text. -/
theorem mem_of_wordOf {k : Token} {s u : List Char} (h : wordOf k s = some w)
    (hu : w.value? = some u) {c : Char} (hc : c ∈ u) : c ∈ s := by
  cases k with
  | assignment =>
    obtain ⟨v, hv, rfl⟩ := Option.map_eq_some_iff.mp h
    obtain rfl := Option.some.inj hu
    rw [← (asString_eq_some_iff.mp hv).1, assigned] at hc
    have hdrop : ∀ p, s.dropWhile p ⊆ s := fun p => (List.dropWhile_sublist p).subset
    split at hc
    · rename_i pos hpos
      exact hdrop _ (hpos ▸ List.mem_cons_of_mem _ ((valueOf_sublist _).subset hc))
    · exact hdrop _ (((List.drop_sublist _ _).trans ((List.dropWhile_sublist _).trans
        (List.drop_sublist _ _))).subset ((valueOf_sublist _).subset hc))
  | identifier =>
    obtain rfl := Option.some.inj h
    cases hu
  | link =>
    rw [value?_linkWord h] at hu
    cases hu
  | _ => cases h

theorem mem_of_readTokens {ts : List (Token × List Char)} (h : readTokens ts = some ws) :
    ∀ u ∈ valuesOf ws, ∀ c ∈ u, c ∈ (ts.map Prod.snd).flatten := by
  induction ts generalizing ws with
  | nil =>
    obtain rfl := Option.some.inj h
    exact List.forall_mem_nil _
  | cons p ts ih =>
    obtain ⟨k, s⟩ := p
    intro u hu c hc
    rw [List.map_cons, List.flatten_cons, List.mem_append]
    by_cases hk : k = .space
    · subst hk
      exact Or.inr (ih h u hu c hc)
    · obtain ⟨w, hw, hrest⟩ : ∃ w, wordOf k s = some w ∧
          (readTokens ts).map (w :: ·) = some ws := by
        refine Option.bind_eq_some_iff.mp ?_
        cases k with
        | space => exact absurd rfl hk
        | _ => exact h
      obtain ⟨ws', hws', rfl⟩ := Option.map_eq_some_iff.mp hrest
      obtain ⟨w', hmem, hvalue⟩ := List.mem_filterMap.mp hu
      rcases List.mem_cons.mp hmem with rfl | hmem
      · exact Or.inl (mem_of_wordOf hw hvalue hc)
      · exact Or.inr (ih hws' u (List.mem_filterMap.mpr ⟨w', hmem, hvalue⟩) c hc)

theorem mem_of_read (h : read t = some ws) : ∀ u ∈ valuesOf ws, ∀ c ∈ u, c ∈ t := by
  obtain ⟨ts, hts, hread⟩ := Option.bind_eq_some_iff.mp h
  rw [← flatten_tokens hts]
  exact mem_of_readTokens hread

theorem not_mem_of_allKept {followed : Bool} {vs : List (List Char)} (h : AllKept followed vs) :
    ∀ v ∈ vs, '\x00' ∉ v := by
  induction vs with
  | nil => exact List.forall_mem_nil _
  | cons v vs ih =>
    refine List.forall_mem_cons.mpr ⟨?_, ih h.2⟩
    rcases h.1 with rfl | h
    · exact List.not_mem_nil
    · exact h.not_mem

/-- **Which words are read as they were written down**, from a C string. -/
theorem words_joined_iff (hws : ∀ w ∈ ws, w.WellNamed) :
    words (joined ws) = some ws ↔ AllKept (endsBare ws) (valuesOf ws) := by
  by_cases hnul : '\x00' ∈ joined ws
  · obtain ⟨u, hu, hmem⟩ := (mem_joined_iff (by decide) hws).mp hnul
    have hvalue : '\x00' ∈ u := by
      by_cases hempty : u = []
      · rw [valueText, if_pos hempty] at hmem
        exact absurd hmem (by decide)
      · rwa [valueText, if_neg hempty] at hmem
    refine iff_of_false (fun h => ?_) fun h => not_mem_of_allKept h u hu hvalue
    have hcut := List.mem_takeWhile_imp (mem_of_read h u hu _ hvalue)
    cases hcut
  · rw [words, List.takeWhile_eq_self_iff.mpr fun c hc =>
      decide_eq_true (ne_of_mem_of_not_mem hc hnul)]
    exact read_joined_iff hws hnul

end Read

/-! ### Writing elements down -/

def plainWords (name : List Char) (properties : List (List Char × List Char)) : List Word :=
  .element name :: properties.map fun p => .property p.1 p.2

/-- The words of a chain of elements. -/
def wordsOf : List Element → List Word
  | [] => []
  | [.plain n ps] => plainWords n ps
  | .plain n ps :: .plain m qs :: es =>
    plainWords n ps ++ .link none :: wordsOf (.plain m qs :: es)
  | .plain n ps :: .filter caps :: es => plainWords n ps ++ .link (some caps) :: wordsOf es
  | .filter _ :: _ => []

/-- A chain: there is at most one filter between two elements, and none at an end. -/
inductive Linked : List Element → Prop
  | last (n : List Char) (ps : List (List Char × List Char)) : Linked [.plain n ps]
  | next (n : List Char) (ps : List (List Char × List Char)) {es : List Element} :
    Linked es → Linked (.plain n ps :: es)
  | filtered (n : List Char) (ps : List (List Char × List Char)) (caps : List Char)
    {es : List Element} : Linked es → Linked (.plain n ps :: .filter caps :: es)

def Element.text : Element → List Char
  | .plain n ps => joined (plainWords n ps)
  | .filter caps => caps

/-- Elements, with an exclamation mark between each and the next. -/
def written (es : List Element) : List Char := [' ', '!', ' '].intercalate (es.map Element.text)

def Element.values : Element → List (List Char)
  | .plain _ ps => ps.map Prod.snd
  | .filter _ => []

/-- An element with proper names. -/
def Element.WellNamed : Element → Prop
  | .plain n ps => isName n = true ∧ ∀ p ∈ ps, isName p.1 = true
  | .filter caps => IsCaps caps

section Elements

variable {es : List Element}

theorem intercalate_append {sep : List Char} {xs ys : List (List Char)} (hxs : xs ≠ [])
    (hys : ys ≠ []) :
    sep.intercalate (xs ++ ys) = sep.intercalate xs ++ (sep ++ sep.intercalate ys) := by
  induction xs with
  | nil => exact absurd rfl hxs
  | cons x xs ih =>
    by_cases hnil : xs = []
    · subst hnil
      rw [List.singleton_append, List.intercalate_cons_of_ne_nil hys, List.intercalate_singleton,
        List.append_assoc]
    · have happend : xs ++ ys ≠ [] := List.append_ne_nil_of_left_ne_nil hnil _
      rw [List.cons_append, List.intercalate_cons_of_ne_nil happend,
        List.intercalate_cons_of_ne_nil hnil, ih hnil]
      simp only [List.append_assoc]

/-- **Parts of a pipeline are put together** with an exclamation mark between them. -/
theorem written_flatten {parts : List (List Element)} (hparts : ∀ es ∈ parts, es ≠ []) :
    written parts.flatten = [' ', '!', ' '].intercalate (parts.map written) := by
  induction parts with
  | nil => rfl
  | cons es parts ih =>
    obtain ⟨hes, hrest⟩ := List.forall_mem_cons.mp hparts
    by_cases hnil : parts = []
    · subst hnil
      simp
    · have hflatten : parts.flatten ≠ [] := by
        obtain ⟨es', parts, rfl⟩ := List.exists_cons_of_ne_nil hnil
        simp [hrest es' List.mem_cons_self]
      rw [List.flatten_cons, written, List.map_append, intercalate_append (by simpa using hes)
        (by simpa using hflatten), List.map_cons,
        List.intercalate_cons_of_ne_nil (by simpa using hnil), ← ih hrest, List.append_assoc]
      rfl

theorem joined_link (n : List Char) (ps : List (List Char × List Char)) (w : Word) {ws : List Word}
    (hws : ws ≠ []) : joined (plainWords n ps ++ w :: ws) =
      joined (plainWords n ps) ++ (' ' :: (w.text ++ ' ' :: joined ws)) := by
  obtain ⟨u, ws, rfl⟩ := List.exists_cons_of_ne_nil hws
  rw [joined, List.map_append, intercalate_append (by simp [plainWords]) (by simp)]
  show joined (plainWords n ps) ++ ([' '] ++ joined (w :: u :: ws)) = _
  rw [joined_cons]
  rfl

theorem Linked.exists_plain (h : Linked es) : ∃ n ps es', es = .plain n ps :: es' := by
  cases h with
  | last n ps => exact ⟨n, ps, _, rfl⟩
  | next n ps h => exact ⟨n, ps, _, rfl⟩
  | filtered n ps caps h => exact ⟨n, ps, _, rfl⟩

theorem Linked.wordsOf_next (h : Linked es) (n : List Char) (ps : List (List Char × List Char)) :
    wordsOf (.plain n ps :: es) = plainWords n ps ++ .link none :: wordsOf es := by
  obtain ⟨m, qs, es', rfl⟩ := h.exists_plain
  rfl

theorem Linked.exists_wordsOf (h : Linked es) : ∃ n ws, wordsOf es = .element n :: ws := by
  cases h with
  | last n ps => exact ⟨n, _, rfl⟩
  | next n ps h =>
    rw [h.wordsOf_next]
    exact ⟨n, _, rfl⟩
  | filtered n ps caps h => exact ⟨n, _, rfl⟩

theorem Linked.wordsOf_ne_nil (h : Linked es) : wordsOf es ≠ [] := by
  obtain ⟨n, ws, hws⟩ := h.exists_wordsOf
  rw [hws]
  exact List.cons_ne_nil _ _

theorem Linked.ne_nil (h : Linked es) : es ≠ [] := by
  obtain ⟨n, ps, es', rfl⟩ := h.exists_plain
  exact List.cons_ne_nil _ _

theorem written_cons (e : Element) (hes : es ≠ []) :
    written (e :: es) = e.text ++ ([' ', '!', ' '] ++ written es) := by
  rw [written, List.map_cons, List.intercalate_cons_of_ne_nil (by simpa using hes),
    List.append_assoc]
  rfl

/-- **What is written down are the words.** -/
theorem Linked.joined_wordsOf (h : Linked es) : joined (wordsOf es) = written es := by
  induction h with
  | last n ps =>
    rw [written, List.map_singleton, List.intercalate_singleton]
    rfl
  | next n ps h ih =>
    rw [h.wordsOf_next, joined_link _ _ _ h.wordsOf_ne_nil, ih, written_cons _ h.ne_nil]
    rfl
  | filtered n ps caps h ih =>
    rw [wordsOf, joined_link _ _ _ h.wordsOf_ne_nil, ih, written_cons _ (List.cons_ne_nil _ _),
      written_cons _ h.ne_nil]
    simp [Word.text, Element.text]

theorem elementsFrom_properties (n : List Char) (qs ps : List (List Char × List Char))
    (ws : List Word) : elementsFrom n qs ((ps.map fun p => .property p.1 p.2) ++ ws) =
      elementsFrom n (qs ++ ps) ws := by
  induction ps generalizing qs with
  | nil => rw [List.append_nil]; rfl
  | cons p ps ih =>
    rw [List.map_cons, List.cons_append, elementsFrom, ih, List.append_assoc, List.singleton_append]

theorem elements_plainWords (n : List Char) (ps : List (List Char × List Char)) (ws : List Word) :
    elements (plainWords n ps ++ ws) = elementsFrom n ps ws :=
  elementsFrom_properties n [] ps ws

/-- **The words of a chain are read as the chain.** -/
theorem Linked.elements_wordsOf (h : Linked es) : elements (wordsOf es) = some es := by
  induction h with
  | last n ps =>
    have hplain := elements_plainWords n ps []
    rwa [List.append_nil] at hplain
  | next n ps h ih =>
    obtain ⟨m, ws, hws⟩ := h.exists_wordsOf
    rw [hws] at ih
    rw [h.wordsOf_next, elements_plainWords, hws, elementsFrom,
      show elementsFrom m [] ws = _ from ih]
    rfl
  | filtered n ps caps h ih =>
    obtain ⟨m, ws, hws⟩ := h.exists_wordsOf
    rw [hws] at ih
    rw [wordsOf, elements_plainWords, hws, elementsFrom, show elementsFrom m [] ws = _ from ih]
    rfl

theorem wordsOf_of_elementsFrom {n : List Char} {ps : List (List Char × List Char)}
    {ws : List Word} (h : elementsFrom n ps ws = some es) :
    (∃ qs es', es = .plain n qs :: es') ∧ wordsOf es = plainWords n ps ++ ws := by
  fun_induction elementsFrom n ps ws generalizing es with
  | case1 n ps =>
    obtain rfl := Option.some.inj h
    exact ⟨⟨_, _, rfl⟩, (List.append_nil _).symm⟩
  | case2 n ps m v ws ih =>
    obtain ⟨hhead, hwords⟩ := ih h
    refine ⟨hhead, ?_⟩
    rw [hwords]
    simp [plainWords]
  | case3 n ps caps m ws ih =>
    obtain ⟨es', hes', rfl⟩ := Option.map_eq_some_iff.mp h
    obtain ⟨⟨qs, es'', rfl⟩, hwords⟩ := ih hes'
    refine ⟨⟨_, _, rfl⟩, ?_⟩
    cases caps with
    | none => rw [Option.toList_none, List.map_nil, List.nil_append, wordsOf, hwords]; rfl
    | some caps =>
      rw [Option.toList_some, List.map_singleton, List.singleton_append, wordsOf, hwords]
      rfl
  | case4 => cases h

theorem wordsOf_of_elements {ws : List Word} (h : elements ws = some es) : wordsOf es = ws := by
  cases ws with
  | nil => cases h
  | cons w ws =>
    cases w with
    | element n => exact (wordsOf_of_elementsFrom h).2
    | property n v => cases h
    | link caps => cases h

theorem Linked.wellNamed_wordsOf (h : Linked es) (hes : ∀ e ∈ es, e.WellNamed) :
    ∀ w ∈ wordsOf es, w.WellNamed := by
  have hplain : ∀ {n ps}, (Element.plain n ps).WellNamed → ∀ w ∈ plainWords n ps, w.WellNamed := by
    intro n ps hwell
    exact List.forall_mem_cons.mpr ⟨hwell.1, List.forall_mem_map.mpr hwell.2⟩
  induction h with
  | last n ps => exact hplain (hes _ List.mem_cons_self)
  | next n ps h ih =>
    obtain ⟨hfirst, hrest⟩ := List.forall_mem_cons.mp hes
    rw [h.wordsOf_next]
    exact List.forall_mem_append.mpr ⟨hplain hfirst,
      List.forall_mem_cons.mpr ⟨trivial, ih hrest⟩⟩
  | filtered n ps caps h ih =>
    obtain ⟨hfirst, hrest⟩ := List.forall_mem_cons.mp hes
    obtain ⟨hcaps, hrest⟩ := List.forall_mem_cons.mp hrest
    exact List.forall_mem_append.mpr ⟨hplain hfirst,
      List.forall_mem_cons.mpr ⟨hcaps, ih hrest⟩⟩

theorem valuesOf_plainWords (n : List Char) (ps : List (List Char × List Char)) (ws : List Word) :
    valuesOf (plainWords n ps ++ ws) = ps.map Prod.snd ++ valuesOf ws := by
  rw [valuesOf, List.filterMap_append, plainWords, List.filterMap_cons_none rfl,
    List.filterMap_map]
  exact congrArg (· ++ _) (congrFun List.filterMap_eq_map ps)

theorem Linked.valuesOf_wordsOf (h : Linked es) :
    valuesOf (wordsOf es) = es.flatMap Element.values := by
  induction h with
  | last n ps =>
    have hplain := valuesOf_plainWords n ps []
    rw [List.append_nil] at hplain
    exact hplain
  | next n ps h ih =>
    rw [h.wordsOf_next, valuesOf_plainWords, List.flatMap_cons, ← ih]
    rfl
  | filtered n ps caps h ih =>
    rw [wordsOf, valuesOf_plainWords, List.flatMap_cons, List.flatMap_cons, ← ih]
    rfl

/-- An element without properties. -/
def Element.isBare : Element → Bool
  | .plain _ ps => ps.isEmpty
  | .filter _ => true

theorem Linked.endsBare_wordsOf (h : Linked es) :
    endsBare (wordsOf es) = es.getLast?.all Element.isBare := by
  have hlast : ∀ {ws us : List Word} (w : Word), us ≠ [] →
      endsBare (ws ++ w :: us) = endsBare us := by
    intro ws us w hus
    rw [endsBare, List.getLast?_append_of_ne_nil _ (List.cons_ne_nil _ _), ← endsBare,
      endsBare_cons w hus]
  induction h with
  | last n ps =>
    rcases List.eq_nil_or_concat ps with rfl | ⟨ps, p, rfl⟩
    · rfl
    · simp [wordsOf, plainWords, endsBare, Element.isBare, Word.value?, List.getLast?_cons]
  | next n ps h ih =>
    rw [h.wordsOf_next, hlast _ h.wordsOf_ne_nil, ih, ← List.singleton_append,
      List.getLast?_append_of_ne_nil _ h.ne_nil]
  | filtered n ps caps h ih =>
    rw [wordsOf, hlast _ h.wordsOf_ne_nil, ih, List.getLast?_cons_cons, ← List.singleton_append,
      List.getLast?_append_of_ne_nil _ h.ne_nil]

/-- **Which chains are read as they were written down.** -/
theorem split_written_iff (h : Linked es) (hes : ∀ e ∈ es, e.WellNamed) :
    split (written es) = some es ↔
      AllKept (es.getLast?.all Element.isBare) (es.flatMap Element.values) := by
  rw [← h.valuesOf_wordsOf, ← h.endsBare_wordsOf, ← words_joined_iff (h.wellNamed_wordsOf hes),
    h.joined_wordsOf, split, Option.bind_eq_some_iff]
  constructor
  · rintro ⟨ws, hws, helements⟩
    rwa [wordsOf_of_elements helements]
  · exact fun hws => ⟨_, hws, h.elements_wordsOf⟩

/-- Apostrophes make one value of two words, and stay in it; a backslash does not. -/
example : split "filesrc location='a b' title=c\\ d ! fakesink".toList =
    some [.plain "filesrc".toList
        [("location".toList, "'a b'".toList), ("title".toList, "c d".toList)],
      .plain "fakesink".toList []] := by
  decide +kernel

end Elements

end AIStreams.GstLaunch
