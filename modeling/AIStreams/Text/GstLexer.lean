import AIStreams.Text.Regex

/-!
# The lexer of `gst-launch`

The rules of `gst/parse/parse.l` of GStreamer, as it is vendored, and what they match.  The
characters of a text stand for its bytes: no rule tells apart what is no ASCII.

* `mem_string_iff`: what a value of a property may be.
* `munch_identifier`, `munch_assignment`, `munch_mark`, `munch_filter`: the next token, for the
  texts that a pipeline is made of.
-/

namespace AIStreams.GstLaunch

open Text Text.Regex Computability

/-! ### The rules -/

/-- `isspace`, in the C locale. -/
def isBlank (c : Char) : Bool :=
  c = ' ' || c = '\t' || c = '\n' || c = '\x0b' || c = '\x0c' || c = '\r'

/-- What stands between brackets in a rule, and the dot. -/
inductive CharClass
  | char (c : Char)
  | oneOf (cs : List Char)
  | range (a b : Char)
  | alpha
  | alnum
  | space
  | dot
  | union (k l : CharClass)
  | compl (k : CharClass)
  deriving DecidableEq

def CharClass.mem : CharClass → Char → Bool
  | char c, d => d = c
  | oneOf cs, d => cs.contains d
  | range a b, d => a ≤ d && d ≤ b
  | alpha, d => d.isAlpha
  | alnum, d => d.isAlphanum
  | space, d => isBlank d
  | dot, d => d ≠ '\n'
  | union k l, d => k.mem d || l.mem d
  | compl k, d => !k.mem d

abbrev Pattern := Regex CharClass

namespace Pattern

open CharClass

/-- A quoted text in a rule. -/
def text : List Char → Pattern
  | [] => epsilon
  | c :: cs => seq (cls (char c)) (text cs)

def spaces : Pattern := star (cls space)

def operator : Pattern := cls (oneOf ['(', ')', '{', '}', '.', '!', ':', ',', ';', '='])

def identifier : Pattern :=
  seq (cls (union alnum (char '_'))) (star (cls (union alnum (oneOf ['-', '_', '%', ':']))))

def char : Pattern := alt (seq (cls (.char '\\')) (cls dot)) (cls (compl space))

/-- A string in quotes. -/
def quoted (q : Char) : Pattern :=
  seq (cls (.char q))
    (seq (star (alt (cls (compl (.char q))) (text ['\\', q]))) (cls (.char q)))

def string : Pattern := alt (alt (plus char) (quoted '"')) (quoted '\'')

def assign : Pattern := seq spaces (seq (cls (.char '=')) spaces)

def protocol : Pattern := seq (cls alpha) (star (cls (union alnum (range '+' '.'))))

/-- `["."{_identifier}]` is a class of characters. -/
def url : Pattern :=
  alt (alt (seq protocol (seq (text [':', '/', '/']) string))
      (seq (opt (cls (oneOf ['"', '.', '{', '_', 'i', 'd', 'e', 'n', 't', 'f', 'r', '}'])))
        (seq (cls (.char '/')) string)))
    (seq protocol (text [':', '/', '/']))

def assignment : Pattern := seq identifier (seq assign string)

def padref : Pattern := seq (cls (.char '.')) identifier

def ref : Pattern := seq identifier (seq (cls (.char '.')) (opt identifier))

def binref : Pattern :=
  seq identifier (seq spaces (seq (cls (.char '.')) (seq spaces (cls (.char '(')))))

def mimechar : Pattern := cls (union alnum (.char '-'))

def mimetype : Pattern := seq (plus mimechar) (seq (cls (.char '/')) (plus mimechar))

def capschar : Pattern := alt (seq (cls (.char '\\')) (cls dot)) (cls (compl (oneOf [';', '!'])))

def capsstring : Pattern := plus capschar

def caps : Pattern :=
  seq mimetype (star (alt (seq (cls (.char ',')) (cls (compl (.char '!')))) capsstring))

/-- An exclamation mark or a colon. -/
def linkop : Pattern := cls (oneOf ['!', ':'])

def link : Pattern :=
  alt (seq linkop (seq spaces (seq caps
      (seq (star (seq spaces (seq (star (seq (cls (.char ';')) (seq spaces caps))) spaces)))
        linkop))))
    linkop

end Pattern

inductive Token
  | assignment
  | padref
  | ref
  | binref
  | identifier
  | link
  | url
  | operator
  | space
  | other
  deriving DecidableEq

/-- The rules, in the order in which they count. -/
def rules : List (Token × Pattern) :=
  [(.assignment, .assignment), (.padref, .padref), (.ref, .ref), (.binref, .binref),
    (.identifier, .identifier), (.link, .link), (.url, .url), (.operator, .operator),
    (.space, plus (cls .space)), (.other, cls .dot)]

/-- The language of a pattern. -/
abbrev Pattern.words (r : Pattern) : Language Char := lang CharClass.mem r

/-! ### Escaped characters -/

/-- Each of the bad characters is behind a backslash; `escaped` says whether the first character
is. -/
def guarded (bad : Char → Bool) : Bool → List Char → Bool
  | _, [] => true
  | escaped, c :: cs => (!bad c || escaped) && guarded bad (c = '\\') cs

section Guarded

variable {bad : Char → Bool}

theorem guarded_mono {escaped : Bool} {s : List Char} (h : guarded bad false s = true) :
    guarded bad escaped s = true := by
  cases s with
  | nil => rfl
  | cons c cs =>
    rw [guarded, Bool.or_false, Bool.and_eq_true] at h
    rw [guarded, h.1, h.2]
    rfl

theorem guarded_append {s t : List Char} {escaped : Bool} : guarded bad escaped (s ++ t) = true ↔
    guarded bad escaped s = true ∧
      guarded bad (if s = [] then escaped else s.getLast? = some '\\') t = true := by
  induction s generalizing escaped with
  | nil => simp [guarded]
  | cons c cs ih =>
    rw [List.cons_append, guarded, guarded, Bool.and_eq_true, Bool.and_eq_true, ih, and_assoc,
      if_neg (List.cons_ne_nil c cs)]
    cases cs with
    | nil => simp
    | cons d ds => simp [List.getLast?_cons_cons]

theorem guarded_of_forall {s : List Char} (h : ∀ c ∈ s, bad c = false) (escaped : Bool) :
    guarded bad escaped s = true := by
  induction s generalizing escaped with
  | nil => rfl
  | cons c cs ih =>
    obtain ⟨hc, hcs⟩ := List.forall_mem_cons.mp h
    rw [guarded, hc, ih hcs]
    rfl

variable (bad) in
/-- **Characters that are not bad, and escaped ones**, one after the other. -/
theorem mem_kstar_iff_guarded {l : Language Char} {allowed : Char → Bool}
    (hbackslash : bad '\\' = false) (hl : ∀ w, w ∈ l ↔ (∃ c, w = [c] ∧ bad c = false) ∨
      ∃ d, w = ['\\', d] ∧ allowed d = true) {s : List Char} :
    s ∈ l∗ ↔ guarded bad false s = true ∧ ∀ c ∈ s, bad c = true → allowed c = true := by
  constructor
  · intro hs
    refine kstar_induction (P := fun s => guarded bad false s = true ∧
      ∀ c ∈ s, bad c = true → allowed c = true) ⟨rfl, List.forall_mem_nil _⟩ ?_ hs
    rintro u v hu ⟨hguarded, hallowed⟩
    rcases (hl u).mp hu with ⟨c, rfl, hc⟩ | ⟨d, rfl, hd⟩
    · refine ⟨?_, List.forall_mem_cons.mpr ⟨fun hbad => ?_, hallowed⟩⟩
      · rw [List.singleton_append, guarded, hc, guarded_mono hguarded]
        rfl
      · rw [hc] at hbad
        cases hbad
    · refine ⟨?_, List.forall_mem_cons.mpr ⟨fun hbad => ?_, List.forall_mem_cons.mpr
        ⟨fun _ => hd, hallowed⟩⟩⟩
      · show guarded bad false ('\\' :: d :: v) = true
        rw [guarded, guarded, hbackslash, guarded_mono hguarded]
        simp
      · rw [hbackslash] at hbad
        cases hbad
  · rintro ⟨hguarded, hallowed⟩
    induction hn : s.length using Nat.strongRecOn generalizing s with
    | ind n ih =>
      subst hn
      cases s with
      | nil => exact Language.nil_mem_kstar l
      | cons c cs =>
        obtain ⟨_, hcs⟩ := List.forall_mem_cons.mp hallowed
        rw [guarded, Bool.or_false, Bool.and_eq_true, Bool.not_eq_true'] at hguarded
        obtain ⟨hc, hguarded⟩ := hguarded
        have hsingle : guarded bad false cs = true → c :: cs ∈ l∗ := fun h =>
          append_mem_kstar ((hl [c]).mpr (Or.inl ⟨c, rfl, hc⟩))
            (ih cs.length (Nat.lt_succ_self _) h hcs rfl)
        by_cases hslash : c = '\\'
        · subst hslash
          cases cs with
          | nil => exact hsingle rfl
          | cons d ds =>
            cases hd : bad d with
            | false =>
              refine hsingle ?_
              rw [guarded, hd] at hguarded ⊢
              exact hguarded
            | true =>
              have hne : d ≠ '\\' := by
                rintro rfl
                rw [hbackslash] at hd
                cases hd
              obtain ⟨hallowedD, hds⟩ := List.forall_mem_cons.mp hcs
              refine append_mem_kstar (u := ['\\', d]) ((hl _).mpr
                (Or.inr ⟨d, rfl, hallowedD hd⟩)) (ih ds.length ?_ ?_ hds rfl)
              · simp only [List.length_cons]
                omega
              · rw [guarded, Bool.and_eq_true, decide_eq_false hne] at hguarded
                exact hguarded.2
        · refine hsingle ?_
          rw [decide_eq_false hslash] at hguarded
          exact hguarded

end Guarded

/-! ### What the patterns match -/

def isNameStart (c : Char) : Bool := c.isAlphanum || c = '_'

def isNameChar (c : Char) : Bool :=
  c.isAlphanum || c = '-' || c = '_' || c = '%' || c = ':'

def isName : List Char → Bool
  | [] => false
  | c :: cs => isNameStart c && cs.all isNameChar

/-- What `_char` matches, one or more times: a blank is behind a backslash, and is no new line. -/
def Run (s : List Char) : Prop := s ≠ [] ∧ guarded isBlank false s = true ∧ '\n' ∉ s

/-- A quotation mark that is not closed: every further one is behind a backslash. -/
def Unclosed (q : Char) (s : List Char) : Prop :=
  s.head? = some q ∧ guarded (fun c => c = q) false s.tail = true

/-- A string in quotes, up to its last character. -/
def Enclosed (q : Char) (s : List Char) : Prop := s.getLast? = some q ∧ Unclosed q s.dropLast

def IsString (s : List Char) : Prop := Run s ∨ Enclosed '"' s ∨ Enclosed '\'' s

instance (s : List Char) : Decidable (Run s) :=
  inferInstanceAs (Decidable (s ≠ [] ∧ guarded isBlank false s = true ∧ '\n' ∉ s))

instance (q : Char) (s : List Char) : Decidable (Unclosed q s) :=
  inferInstanceAs (Decidable (s.head? = some q ∧ guarded (fun c => c = q) false s.tail = true))

instance (q : Char) (s : List Char) : Decidable (Enclosed q s) :=
  inferInstanceAs (Decidable (s.getLast? = some q ∧ Unclosed q s.dropLast))

instance (s : List Char) : Decidable (IsString s) :=
  inferInstanceAs (Decidable (Run s ∨ Enclosed '"' s ∨ Enclosed '\'' s))

/-- What stands behind the equals sign of an assignment. -/
def Given (s : List Char) : Prop := IsString (s.dropWhile isBlank)

instance (s : List Char) : Decidable (Given s) :=
  inferInstanceAs (Decidable (IsString (s.dropWhile isBlank)))

section Languages

variable {w s : List Char} {q : Char}

theorem mem_spaces_iff : w ∈ Pattern.spaces.words ↔ ∀ c ∈ w, isBlank c = true :=
  mem_lang_star_cls

theorem mem_text_iff {cs : List Char} : w ∈ (Pattern.text cs).words ↔ w = cs := by
  induction cs generalizing w with
  | nil => exact Iff.rfl
  | cons c cs ih =>
    show w ∈ lang _ (seq _ _) ↔ _
    simp only [mem_lang_seq, mem_lang_cls, CharClass.mem, decide_eq_true_eq]
    constructor
    · rintro ⟨_, ⟨d, rfl, rfl⟩, v, hv, rfl⟩
      rw [ih.mp hv]
      rfl
    · rintro rfl
      exact ⟨[c], ⟨c, rfl, rfl⟩, cs, ih.mpr rfl, rfl⟩

theorem mem_identifier_iff : w ∈ Pattern.identifier.words ↔ isName w = true := by
  show w ∈ lang _ (seq _ _) ↔ _
  rw [mem_lang_seq]
  constructor
  · rintro ⟨_, ⟨c, rfl, hc⟩, v, hv, rfl⟩
    rw [mem_lang_star_cls] at hv
    rw [List.singleton_append, isName, Bool.and_eq_true, List.all_eq_true]
    refine ⟨by simpa [CharClass.mem, isNameStart] using hc, fun d hd => ?_⟩
    simpa [CharClass.mem, isNameChar, or_assoc, or_comm, or_left_comm] using hv d hd
  · intro hw
    cases w with
    | nil => cases hw
    | cons c cs =>
      rw [isName, Bool.and_eq_true, List.all_eq_true] at hw
      refine ⟨[c], ⟨c, rfl, by simpa [CharClass.mem, isNameStart] using hw.1⟩, cs, ?_, rfl⟩
      rw [mem_lang_star_cls]
      intro d hd
      simpa [CharClass.mem, isNameChar, or_assoc, or_comm, or_left_comm] using hw.2 d hd

/-- **A string without quotes.** -/
theorem mem_plus_char_iff : w ∈ Pattern.words (plus Pattern.char) ↔ Run w := by
  have hpiece : ∀ w, w ∈ Pattern.char.words ↔ (∃ c, w = [c] ∧ isBlank c = false) ∨
      ∃ d, w = ['\\', d] ∧ decide (d ≠ '\n') = true := by
    intro w
    show w ∈ lang _ (alt _ _) ↔ _
    rw [mem_lang_alt, or_comm]
    refine or_congr ?_ ?_
    · simp [CharClass.mem]
    · show w ∈ lang _ (seq _ _) ↔ _
      simp only [mem_lang_seq, mem_lang_cls, CharClass.mem, decide_eq_true_eq]
      constructor
      · rintro ⟨_, ⟨c, rfl, rfl⟩, _, ⟨d, rfl, hd⟩, rfl⟩
        exact ⟨d, rfl, hd⟩
      · rintro ⟨d, rfl, hd⟩
        exact ⟨['\\'], ⟨_, rfl, rfl⟩, [d], ⟨d, rfl, hd⟩, rfl⟩
  rw [Pattern.words, mem_lang_plus_iff rfl, mem_lang_star,
    mem_kstar_iff_guarded isBlank (by decide) hpiece, Run]
  refine and_congr_right fun _ => and_congr_right fun _ => ?_
  constructor
  · intro h hmem
    exact absurd (h _ hmem (by decide)) (by decide)
  · intro h c hc _
    exact decide_eq_true fun hnew => h (hnew ▸ hc)

theorem enclosed_iff : Enclosed q s ↔
    ∃ body, s = q :: (body ++ [q]) ∧ guarded (fun c => c = q) false body = true := by
  constructor
  · rintro ⟨hlast, hhead, hguarded⟩
    obtain ⟨ys, rfl⟩ := List.getLast?_eq_some_iff.mp hlast
    rw [List.dropLast_concat] at hhead hguarded
    cases ys with
    | nil => cases hhead
    | cons c body =>
      obtain rfl := Option.some.inj hhead
      exact ⟨body, rfl, hguarded⟩
  · rintro ⟨body, rfl, hguarded⟩
    rw [Enclosed, ← List.cons_append, List.dropLast_concat, List.getLast?_concat]
    exact ⟨rfl, rfl, hguarded⟩

/-- **A string in quotes.** -/
theorem mem_quoted_iff (hq : q ≠ '\\') : w ∈ (Pattern.quoted q).words ↔ Enclosed q w := by
  have hpiece : ∀ w, w ∈ Pattern.words (alt (cls (.compl (.char q))) (Pattern.text ['\\', q])) ↔
      (∃ c, w = [c] ∧ decide (c = q) = false) ∨ ∃ d, w = ['\\', d] ∧ decide (d = q) = true := by
    intro w
    rw [Pattern.words, mem_lang_alt]
    refine or_congr ?_ ?_
    · simp [CharClass.mem]
    · rw [show w ∈ lang CharClass.mem (Pattern.text ['\\', q]) ↔ w = ['\\', q] from mem_text_iff]
      simp
  have hbody : ∀ w, w ∈ Pattern.words
      (star (alt (cls (.compl (.char q))) (Pattern.text ['\\', q]))) ↔
        guarded (fun c => c = q) false w = true := by
    intro w
    rw [Pattern.words, mem_lang_star,
      mem_kstar_iff_guarded (fun c => c = q) (by simpa using hq.symm) hpiece]
    exact and_iff_left fun c _ hc => hc
  rw [enclosed_iff]
  show w ∈ lang _ (seq _ (seq _ _)) ↔ _
  simp only [mem_lang_seq, mem_lang_cls, CharClass.mem, decide_eq_true_eq]
  constructor
  · rintro ⟨_, ⟨_, rfl, rfl⟩, _, ⟨body, hb, _, ⟨_, rfl, rfl⟩, rfl⟩, rfl⟩
    exact ⟨body, rfl, (hbody body).mp hb⟩
  · rintro ⟨body, rfl, hb⟩
    exact ⟨[q], ⟨q, rfl, rfl⟩, _, ⟨body, (hbody body).mpr hb, [q], ⟨q, rfl, rfl⟩, rfl⟩, rfl⟩

/-- **What a value of a property may be.** -/
theorem mem_string_iff : w ∈ Pattern.string.words ↔ IsString w := by
  show w ∈ lang _ (alt (alt _ _) _) ↔ _
  rw [mem_lang_alt, mem_lang_alt, or_assoc]
  exact or_congr mem_plus_char_iff (or_congr (mem_quoted_iff (by decide))
    (mem_quoted_iff (by decide)))

theorem exists_cons_of_isString (h : IsString s) : ∃ c cs, s = c :: cs ∧ isBlank c = false := by
  rcases h with ⟨hne, hguarded, _⟩ | h | h
  · obtain ⟨c, cs, rfl⟩ := List.exists_cons_of_ne_nil hne
    rw [guarded, Bool.or_false, Bool.and_eq_true, Bool.not_eq_true'] at hguarded
    exact ⟨c, cs, rfl, hguarded.1⟩
  · obtain ⟨body, rfl, _⟩ := enclosed_iff.mp h
    exact ⟨'"', _, rfl, by decide⟩
  · obtain ⟨body, rfl, _⟩ := enclosed_iff.mp h
    exact ⟨'\'', _, rfl, by decide⟩

theorem given_iff : Given w ↔ ∃ b s, (∀ c ∈ b, isBlank c = true) ∧ IsString s ∧ b ++ s = w := by
  constructor
  · exact fun h => ⟨w.takeWhile isBlank, _, List.all_eq_true.mp List.all_takeWhile, h,
      List.takeWhile_append_dropWhile⟩
  · rintro ⟨b, s, hb, hs, rfl⟩
    obtain ⟨c, cs, rfl, hc⟩ := exists_cons_of_isString hs
    rw [Given, List.dropWhile_append_of_pos hb, List.dropWhile_cons_of_neg (by simp [hc])]
    exact hs

/-- **What an assignment is.** -/
theorem mem_assignment_iff : w ∈ Pattern.assignment.words ↔
    ∃ n b s, isName n = true ∧ (∀ c ∈ b, isBlank c = true) ∧ Given s ∧
      w = n ++ (b ++ '=' :: s) := by
  show w ∈ lang _ (seq _ (seq (seq _ (seq _ _)) _)) ↔ _
  simp only [mem_lang_seq, mem_lang_cls, CharClass.mem, decide_eq_true_eq]
  constructor
  · rintro ⟨n, hn, _, ⟨_, ⟨b, hb, _, ⟨_, ⟨_, rfl, rfl⟩, b', hb', rfl⟩, rfl⟩, s, hs, rfl⟩, rfl⟩
    exact ⟨n, b, b' ++ s, mem_identifier_iff.mp hn, mem_spaces_iff.mp hb,
      given_iff.mpr ⟨b', s, mem_spaces_iff.mp hb', mem_string_iff.mp hs, rfl⟩, by simp⟩
  · rintro ⟨n, b, s, hn, hb, hs, rfl⟩
    obtain ⟨b', s, hb', hstring, rfl⟩ := given_iff.mp hs
    exact ⟨n, mem_identifier_iff.mpr hn, _, ⟨_, ⟨b, mem_spaces_iff.mpr hb, _,
      ⟨['='], ⟨_, rfl, rfl⟩, b', mem_spaces_iff.mpr hb', rfl⟩, rfl⟩, s,
      mem_string_iff.mpr hstring, rfl⟩, by simp⟩

end Languages

/-! ### The characters of names -/

/-- A character that is no blank, no equals sign and no slash. -/
def isUnslashed (c : Char) : Bool :=
  !([' ', '\t', '\n', '\x0b', '\x0c', '\r', '=', '/'].contains c)

/-- A class of characters that has none of a list. -/
theorem contains_eq_false_of {p : Char → Bool} {cs : List Char}
    (hcs : cs.all (fun c => !p c) = true) {c : Char} (hc : p c = true) : cs.contains c = false := by
  rw [← Bool.not_eq_true, List.contains_iff_mem]
  intro hmem
  have hnot := List.all_eq_true.mp hcs c hmem
  rw [hc] at hnot
  cases hnot

theorem isUnslashed_of {p : Char → Bool} (hp :
    [' ', '\t', '\n', '\x0b', '\x0c', '\r', '=', '/'].all (fun c => !p c) = true) {c : Char}
    (hc : p c = true) : isUnslashed c = true := by
  rw [isUnslashed, contains_eq_false_of hp hc]
  rfl

theorem isBlank_of_isUnslashed {c : Char} (hc : isUnslashed c = true) : isBlank c = false := by
  simp only [isUnslashed, Bool.not_eq_true', ← Bool.not_eq_true, List.contains_iff_mem,
    List.mem_cons, not_or] at hc
  simp [isBlank, hc]

theorem ne_of_true_of_false {p : Char → Bool} {c d : Char} (hc : p c = true) (hd : p d = false) :
    c ≠ d := by
  rintro rfl
  rw [hc] at hd
  cases hd

theorem exists_cons_of_isName {n : List Char} (hn : isName n = true) :
    ∃ c cs, n = c :: cs ∧ isNameStart c = true := by
  cases n with
  | nil => cases hn
  | cons c cs =>
    rw [isName, Bool.and_eq_true] at hn
    exact ⟨c, cs, rfl, hn.1⟩

theorem isNameChar_of_mem {n : List Char} (hn : isName n = true) {c : Char} (hc : c ∈ n) :
    isNameChar c = true := by
  cases n with
  | nil => cases hn
  | cons d cs =>
    rw [isName, Bool.and_eq_true, List.all_eq_true] at hn
    rcases List.mem_cons.mp hc with rfl | hc
    · rcases (Bool.or_eq_true _ _).mp hn.1 with h | h
      · simp [isNameChar, h]
      · simp [isNameChar, of_decide_eq_true h]
    · exact hn.2 c hc

theorem isUnslashed_of_isNameChar {c : Char} (hc : isNameChar c = true) : isUnslashed c = true :=
  isUnslashed_of (by decide) hc

/-- Two texts that agree as far as one of them goes, up to the first character that is not in a
class. -/
theorem eq_of_span {K : Char → Bool} {a n r rest : List Char} {x : Char}
    (ha : ∀ c ∈ a, K c = true) (hx : K x = false) (hn : ∀ c ∈ n, K c = true)
    (hrest : ∀ c ∈ rest.head?, K c = false) (h : a ++ x :: r <+: n ++ rest) :
    a = n ∧ x :: r <+: rest := by
  obtain ⟨t, ht⟩ := h
  have hleft : (a ++ x :: r ++ t).takeWhile K = a := by
    rw [List.append_assoc, List.takeWhile_append_of_pos ha, List.cons_append,
      List.takeWhile_cons_of_neg (by simp [hx]), List.append_nil]
  have hright : (n ++ rest).takeWhile K = n := by
    rw [List.takeWhile_append_of_pos hn]
    cases rest with
    | nil => simp
    | cons c rest => rw [List.takeWhile_cons_of_neg (by simp [hrest c rfl]), List.append_nil]
  obtain rfl : a = n := by rw [← hleft, ht, hright]
  rw [List.append_assoc] at ht
  exact ⟨rfl, t, List.append_cancel_left ht⟩

theorem length_le_of_span {K : Char → Bool} {a n rest : List Char} (ha : ∀ c ∈ a, K c = true)
    (hrest : ∀ c ∈ rest.head?, K c = false) (h : a <+: n ++ rest) : a.length ≤ n.length := by
  rcases List.prefix_or_prefix_of_prefix h (List.prefix_append n rest) with h | ⟨t, rfl⟩
  · exact h.length_le
  · have ht : t <+: rest := (List.prefix_append_right_inj n).mp h
    cases t with
    | nil => simp
    | cons c t =>
      cases rest with
      | nil => exact absurd (List.prefix_nil.mp ht) (List.cons_ne_nil c t)
      | cons d rest =>
        obtain ⟨rfl, _⟩ := List.cons_prefix_cons.mp ht
        have hc := ha c (by simp)
        rw [hrest c rfl] at hc
        cases hc

/-! ### The next token -/

section Tokens

variable {w n rest : List Char}

/-- A text that no pattern of a list matches, by its first character. -/
theorem not_mem_of_all {c : Char} {rs : List (Token × Pattern)}
    (h : rs.all (fun rule => !rule.2.nullable && (derivs CharClass.mem c rule.2).isEmpty) = true) :
    ∀ rule ∈ rs, ∀ q, q <+: c :: rest → q ∉ rule.2.words := by
  intro rule hrule q hq
  have hboth := List.all_eq_true.mp h rule hrule
  rw [Bool.and_eq_true, Bool.not_eq_true', List.isEmpty_iff] at hboth
  exact not_mem_of_derivs_eq_nil hboth.1 hboth.2 hq

/-- A URL has a slash, and nothing before the first one that does not belong to a scheme. -/
theorem slash_of_url (hw : w ∈ Pattern.url.words) :
    ∃ a r, w = a ++ '/' :: r ∧ ∀ c ∈ a, isUnslashed c = true := by
  have hprotocol : ∀ u ∈ Pattern.protocol.words, ∀ c ∈ u, isUnslashed c = true := by
    intro u hu
    have hu' : u ∈ lang CharClass.mem (seq _ _) := hu
    obtain ⟨_, ⟨d, rfl, hd⟩, v, hv, rfl⟩ := mem_lang_seq.mp hu'
    rw [mem_lang_star_cls] at hv
    refine List.forall_mem_cons.mpr ⟨isUnslashed_of (by decide) hd, fun c hc => ?_⟩
    exact isUnslashed_of (p := (CharClass.union .alnum (.range '+' '.')).mem) (by decide) (hv c hc)
  have hscheme : ∀ u ∈ Pattern.protocol.words, ∀ v, ∃ a r,
      u ++ ([':', '/', '/'] ++ v) = a ++ '/' :: r ∧ ∀ c ∈ a, isUnslashed c = true := by
    intro u hu v
    refine ⟨u ++ [':'], '/' :: v, by simp, fun c hc => ?_⟩
    rcases List.mem_append.mp hc with hc | hc
    · exact hprotocol u hu c hc
    · rw [List.mem_singleton.mp hc]
      decide
  have hw' : w ∈ lang CharClass.mem (alt (alt _ _) _) := hw
  rw [mem_lang_alt, mem_lang_alt] at hw'
  rcases hw' with (hw | hw) | hw
  · obtain ⟨u, hu, _, hrest, rfl⟩ := mem_lang_seq.mp hw
    obtain ⟨_, hslashes, v, _, rfl⟩ := mem_lang_seq.mp hrest
    rw [mem_text_iff.mp hslashes]
    exact hscheme u hu v
  · obtain ⟨u, hu, _, hrest, rfl⟩ := mem_lang_seq.mp hw
    obtain ⟨_, ⟨_, rfl, hslash⟩, v, _, rfl⟩ := mem_lang_seq.mp hrest
    obtain rfl := of_decide_eq_true hslash
    refine ⟨u, v, rfl, fun c hc => ?_⟩
    rcases mem_lang_opt.mp hu with rfl | ⟨d, rfl, hd⟩
    · cases hc
    · rw [List.mem_singleton.mp hc]
      exact isUnslashed_of (by decide) hd
  · obtain ⟨u, hu, _, hslashes, rfl⟩ := mem_lang_seq.mp hw
    rw [mem_text_iff.mp hslashes]
    exact List.append_nil [':', '/', '/'] ▸ hscheme u hu []

/-- What stands between the caps of a link and its end. -/
def Pattern.capsTail : Pattern :=
  star (seq spaces (seq (star (seq (cls (.char ';')) (seq spaces caps))) spaces))

def isLinkop (c : Char) : Bool := (CharClass.oneOf ['!', ':']).mem c

/-- **What a link is.** -/
theorem mem_link_iff : w ∈ Pattern.link.words ↔ (∃ c, w = [c] ∧ isLinkop c = true) ∨
    ∃ c b m s d, w = c :: (b ++ (m ++ (s ++ [d]))) ∧ isLinkop c = true ∧
      (∀ x ∈ b, isBlank x = true) ∧ m ∈ Pattern.caps.words ∧ s ∈ Pattern.capsTail.words ∧
        isLinkop d = true := by
  have hlink : w ∈ Pattern.link.words ↔ w ∈ lang CharClass.mem (seq Pattern.linkop
      (seq Pattern.spaces (seq Pattern.caps (seq Pattern.capsTail Pattern.linkop)))) ∨
        w ∈ lang CharClass.mem Pattern.linkop := mem_lang_alt
  rw [hlink, or_comm]
  refine or_congr Iff.rfl ?_
  constructor
  · intro h
    obtain ⟨_, ⟨c, rfl, hc⟩, _, hspaces, rfl⟩ := mem_lang_seq.mp h
    obtain ⟨b, hb, _, hcaps, rfl⟩ := mem_lang_seq.mp hspaces
    obtain ⟨m, hm, _, htail, rfl⟩ := mem_lang_seq.mp hcaps
    obtain ⟨s, hs, _, ⟨d, rfl, hd⟩, rfl⟩ := mem_lang_seq.mp htail
    exact ⟨c, b, m, s, d, rfl, hc, mem_spaces_iff.mp hb, hm, hs, hd⟩
  · rintro ⟨c, b, m, s, d, rfl, hc, hb, hm, hs, hd⟩
    exact mem_lang_seq.mpr ⟨[c], ⟨c, rfl, hc⟩, _, mem_lang_seq.mpr ⟨b, mem_spaces_iff.mpr hb, _,
      mem_lang_seq.mpr ⟨m, hm, _, mem_lang_seq.mpr ⟨s, hs, [d], ⟨d, rfl, hd⟩, rfl⟩, rfl⟩, rfl⟩, rfl⟩

/-- Caps start with a media type. -/
theorem slash_of_caps (hw : w ∈ Pattern.caps.words) :
    ∃ c a r, w = c :: (a ++ '/' :: r) ∧ c ≠ '!' ∧ ∀ x ∈ c :: a, isUnslashed x = true := by
  obtain ⟨_, htype, v, _, rfl⟩ := mem_lang_seq.mp hw
  obtain ⟨u, hu, _, hrest, rfl⟩ := mem_lang_seq.mp htype
  obtain ⟨_, ⟨_, rfl, hslash⟩, r, _, rfl⟩ := mem_lang_seq.mp hrest
  obtain rfl := of_decide_eq_true hslash
  obtain ⟨_, ⟨c, rfl, hc⟩, a, ha, rfl⟩ := mem_lang_plus.mp hu
  have ha' := mem_lang_star_cls.mp ha
  refine ⟨c, a, r ++ v, by simp, ne_of_true_of_false hc (by decide),
    List.forall_mem_cons.mpr ⟨isUnslashed_of (by decide) hc, ?_⟩⟩
  exact fun x hx => isUnslashed_of (p := (CharClass.union .alnum (.char '-')).mem) (by decide)
    (ha' x hx)

/-- What stands behind a name: nothing, a blank, or an equals sign. -/
def EndsName (rest : List Char) : Prop := ∀ c ∈ rest.head?, c = ' ' ∨ c = '='

theorem EndsName.not_isUnslashed (h : EndsName rest) : ∀ c ∈ rest.head?, isUnslashed c = false := by
  intro c hc
  rcases h c hc with rfl | rfl <;> decide

theorem EndsName.not_isNameChar (h : EndsName rest) : ∀ c ∈ rest.head?, isNameChar c = false := by
  intro c hc
  rcases h c hc with rfl | rfl <;> decide

/-- **Behind the rule for names**, no rule has more than the name. -/
theorem length_le_of_name (hn : isName n = true) (hrest : EndsName rest) :
    ∀ rule ∈ [(Token.identifier, Pattern.identifier), (.link, .link), (.url, .url),
      (.operator, .operator), (.space, plus (cls .space)), (.other, cls .dot)],
      ∀ q, q <+: n ++ rest → q ∈ rule.2.words → q.length ≤ n.length := by
  obtain ⟨c, cs, rfl, hc⟩ := exists_cons_of_isName hn
  have hchars : ∀ d ∈ c :: cs, isUnslashed d = true := fun d hd =>
    isUnslashed_of_isNameChar (isNameChar_of_mem hn hd)
  have hsingle : ∀ {k : CharClass} {q : List Char}, q ∈ Pattern.words (cls k) →
      q.length ≤ (c :: cs).length := by
    rintro k q ⟨d, rfl, _⟩
    exact Nat.succ_le_succ (Nat.zero_le _)
  simp only [List.forall_mem_cons]
  refine ⟨?_, ?_, ?_, ?_, ?_, ?_, List.forall_mem_nil _⟩
  · intro q hq hmem
    have hname := mem_identifier_iff.mp hmem
    exact length_le_of_span (fun d hd => isNameChar_of_mem hname hd) hrest.not_isNameChar hq
  · intro q hq hmem
    have hhead : ∀ {d r}, d :: r <+: c :: cs ++ rest → isLinkop d = false := by
      intro d r h
      obtain ⟨rfl, _⟩ := List.cons_prefix_cons.mp h
      exact contains_eq_false_of (p := isNameStart) (by decide) hc
    rcases mem_link_iff.mp hmem with ⟨d, rfl, hd⟩ | ⟨d, b, m, s, e, rfl, hd, _⟩
    · rw [hhead hq] at hd
      cases hd
    · rw [hhead hq] at hd
      cases hd
  · intro q hq hmem
    obtain ⟨a, r, rfl, ha⟩ := slash_of_url hmem
    obtain ⟨_, t, ht⟩ := eq_of_span ha (by decide) hchars hrest.not_isUnslashed hq
    rcases hrest '/' (by rw [← ht]; rfl) with h | h <;> cases h
  · exact fun q _ hmem => hsingle hmem
  · intro q hq hmem
    obtain ⟨_, ⟨d, rfl, hd⟩, v, _, rfl⟩ := mem_lang_plus.mp hmem
    obtain ⟨rfl, _⟩ := List.cons_prefix_cons.mp hq
    rw [CharClass.mem, isBlank_of_isUnslashed (hchars d List.mem_cons_self)] at hd
    cases hd
  · exact fun q _ hmem => hsingle hmem

/-- A name, and what stands behind it, up to an equals sign or a dot. -/
theorem eq_of_name {m b s : List Char} {x : Char} (hn : isName n = true) (hm : isName m = true)
    (hrest : EndsName rest) (hb : ∀ c ∈ b, isBlank c = true) (hx : isNameChar x = false)
    (h : m ++ (b ++ x :: s) <+: n ++ rest) : m = n ∧ b ++ x :: s <+: rest := by
  have hspan : ∀ {y r}, isNameChar y = false → m ++ y :: r <+: n ++ rest →
      m = n ∧ y :: r <+: rest := fun hy h =>
    eq_of_span (fun c hc => isNameChar_of_mem hm hc) hy (fun c hc => isNameChar_of_mem hn hc)
      hrest.not_isNameChar h
  cases b with
  | nil => exact hspan hx h
  | cons c b =>
    refine hspan (Bool.eq_false_iff.mpr fun hc => ?_) h
    have hblank := hb c List.mem_cons_self
    rw [isBlank_of_isUnslashed (isUnslashed_of_isNameChar hc)] at hblank
    cases hblank

theorem assignment_of_name (hn : isName n = true) (hrest : EndsName rest) {q : List Char}
    (hq : q <+: n ++ rest) (hmem : q ∈ Pattern.assignment.words) :
    ∃ b s, (∀ c ∈ b, isBlank c = true) ∧ Given s ∧ q = n ++ (b ++ '=' :: s) ∧
      b ++ '=' :: s <+: rest := by
  obtain ⟨m, b, s, hm, hb, hs, rfl⟩ := mem_assignment_iff.mp hmem
  obtain ⟨rfl, hbehind⟩ := eq_of_name hn hm hrest hb (by decide) hq
  exact ⟨b, s, hb, hs, rfl, hbehind⟩

/-- The three rules for references. -/
theorem dot_of_name (hn : isName n = true) (hrest : EndsName rest) :
    ∀ rule ∈ [(Token.padref, Pattern.padref), (.ref, .ref), (.binref, .binref)],
      ∀ q, q <+: n ++ rest → q ∈ rule.2.words →
        ∃ b s, (∀ c ∈ b, isBlank c = true) ∧ b ++ '.' :: s <+: rest := by
  simp only [List.forall_mem_cons]
  refine ⟨?_, ?_, ?_, List.forall_mem_nil _⟩
  · intro q hq hmem
    obtain ⟨_, ⟨_, rfl, hdot⟩, m, _, rfl⟩ := mem_lang_seq.mp hmem
    obtain rfl := of_decide_eq_true hdot
    obtain ⟨c, cs, rfl, hc⟩ := exists_cons_of_isName hn
    obtain ⟨rfl, _⟩ := List.cons_prefix_cons.mp hq
    cases hc
  · intro q hq hmem
    obtain ⟨m, hm, _, hbehind, rfl⟩ := mem_lang_seq.mp hmem
    obtain ⟨_, ⟨_, rfl, hdot⟩, s, _, rfl⟩ := mem_lang_seq.mp hbehind
    obtain rfl := of_decide_eq_true hdot
    exact ⟨[], s, List.forall_mem_nil _, (eq_of_name hn (mem_identifier_iff.mp hm) hrest
      (List.forall_mem_nil _) (by decide) hq).2⟩
  · intro q hq hmem
    obtain ⟨m, hm, _, hbehind, rfl⟩ := mem_lang_seq.mp hmem
    obtain ⟨b, hb, _, hdots, rfl⟩ := mem_lang_seq.mp hbehind
    obtain ⟨_, ⟨_, rfl, hdot⟩, s, _, rfl⟩ := mem_lang_seq.mp hdots
    obtain rfl := of_decide_eq_true hdot
    exact ⟨b, s, mem_spaces_iff.mp hb, (eq_of_name hn (mem_identifier_iff.mp hm) hrest
      (mem_spaces_iff.mp hb) (by decide) hq).2⟩

/-- **The next token is a name**, if no assignment and no reference starts with it. -/
theorem munch_name (hn : isName n = true) (hrest : EndsName rest)
    (hassign : ∀ b s, (∀ c ∈ b, isBlank c = true) → Given s → ¬ b ++ '=' :: s <+: rest)
    (hdot : ∀ b s, (∀ c ∈ b, isBlank c = true) → ¬ b ++ '.' :: s <+: rest) :
    munch CharClass.mem rules (n ++ rest) = some (.identifier, n) := by
  refine munch_eq_some [(Token.assignment, Pattern.assignment), (.padref, Pattern.padref),
    (.ref, Pattern.ref), (.binref, Pattern.binref)] (mem_identifier_iff.mpr hn)
    (List.prefix_append n rest) ?_ (length_le_of_name hn hrest)
  refine List.forall_mem_cons.mpr ⟨?_, ?_⟩
  · intro q hq hmem
    obtain ⟨b, s, hb, hs, _, hbehind⟩ := assignment_of_name hn hrest hq hmem
    exact absurd hbehind (hassign b s hb hs)
  · intro rule hrule q hq hmem
    obtain ⟨b, s, hb, hbehind⟩ := dot_of_name hn hrest rule hrule q hq hmem
    exact absurd hbehind (hdot b s hb)

theorem endsName_equals (s : List Char) : EndsName ('=' :: s) := by
  intro c hc
  obtain rfl := Option.mem_some.mp hc
  exact Or.inr rfl

/-- Blanks, and what is behind them, at an equals sign. -/
theorem of_equals {b s t : List Char} {x : Char} (hb : ∀ c ∈ b, isBlank c = true)
    (h : b ++ x :: s <+: '=' :: t) : b = [] ∧ x = '=' ∧ s <+: t := by
  cases b with
  | nil =>
    obtain ⟨rfl, hs⟩ := List.cons_prefix_cons.mp h
    exact ⟨rfl, rfl, hs⟩
  | cons c b =>
    obtain ⟨rfl, _⟩ := List.cons_prefix_cons.mp h
    cases hb '=' List.mem_cons_self

theorem not_dot_of_equals {t b s : List Char} (hb : ∀ c ∈ b, isBlank c = true) :
    ¬ b ++ '.' :: s <+: '=' :: t := by
  intro h
  cases (of_equals hb h).2.1

/-- **The next token is an assignment**, with as much behind the equals sign as is possible. -/
theorem munch_assignment {s t : List Char} (hn : isName n = true) (hs : s <+: t) (hgiven : Given s)
    (hmax : ∀ s', s' <+: t → Given s' → s'.length ≤ s.length) :
    munch CharClass.mem rules (n ++ '=' :: t) = some (.assignment, n ++ '=' :: s) := by
  have hrest := endsName_equals t
  refine munch_eq_some [] ?_ ?_ (List.forall_mem_nil _) ?_
  · exact mem_assignment_iff.mpr ⟨n, [], s, hn, List.forall_mem_nil _, hgiven, rfl⟩
  · exact (List.prefix_append_right_inj n).mpr (List.cons_prefix_cons.mpr ⟨rfl, hs⟩)
  · refine List.forall_mem_cons.mpr ⟨?_, ?_⟩
    · intro q hq hmem
      obtain ⟨b, s', hb, hs', rfl, hbehind⟩ := assignment_of_name hn hrest hq hmem
      obtain ⟨rfl, _, hbegins⟩ := of_equals hb hbehind
      have hlength := hmax s' hbegins hs'
      simp only [List.nil_append, List.length_append, List.length_cons]
      omega
    · refine List.forall_mem_append.mpr (show (∀ rule ∈ [(Token.padref, Pattern.padref),
        (.ref, Pattern.ref), (.binref, Pattern.binref)], _) ∧ _ from ⟨?_, ?_⟩)
      · intro rule hrule q hq hmem
        obtain ⟨b, s', hb, hbehind⟩ := dot_of_name hn hrest rule hrule q hq hmem
        exact absurd hbehind (not_dot_of_equals hb)
      · intro rule hrule q hq hmem
        refine (length_le_of_name hn hrest rule hrule q hq hmem).trans ?_
        rw [List.length_append]
        exact Nat.le_add_right _ _

/-- Without anything that can be given behind the equals sign, the next token is the name. -/
theorem munch_unassigned {t : List Char} (hn : isName n = true)
    (hnone : ∀ s, s <+: t → ¬ Given s) :
    munch CharClass.mem rules (n ++ '=' :: t) = some (.identifier, n) := by
  refine munch_name hn (endsName_equals t) (fun b s hb hs h => ?_) fun b s hb =>
    not_dot_of_equals hb
  exact hnone s (of_equals hb h).2.2 hs

/-- What may be written behind a word: nothing, or a blank and another word. -/
def Follows (rest : List Char) : Prop :=
  rest = [] ∨ ∃ t, rest = ' ' :: t ∧ (t.head? = some '!' ∨
    ∃ n rest', isName n = true ∧ EndsName rest' ∧ t = n ++ rest')

theorem Follows.endsName (h : Follows rest) : EndsName rest := by
  intro c hc
  rcases h with rfl | ⟨t, rfl, _⟩
  · cases hc
  · obtain rfl := Option.mem_some.mp hc
    exact Or.inl rfl

/-- The first character behind the blank. -/
theorem Follows.head (h : Follows rest) {t : List Char} (hrest : rest = ' ' :: t) :
    ∃ c t', t = c :: t' ∧ (c = '!' ∨ isNameStart c = true) := by
  rcases h with rfl | ⟨t', rfl, hhead | ⟨n, rest', hn, _, rfl⟩⟩
  · cases hrest
  · obtain rfl := (List.cons.inj hrest).2
    cases t' with
    | nil => cases hhead
    | cons c t' => exact ⟨c, t', rfl, Or.inl (Option.some.inj hhead)⟩
  · obtain rfl := (List.cons.inj hrest).2
    obtain ⟨c, cs, rfl, hc⟩ := exists_cons_of_isName hn
    exact ⟨c, cs ++ rest', rfl, Or.inr hc⟩

theorem not_isBlank_of_head {c : Char} (hc : c = '!' ∨ isNameStart c = true) :
    isBlank c = false := by
  rcases hc with rfl | hc
  · decide
  · exact isBlank_of_isUnslashed (isUnslashed_of (by decide) hc)

/-- Blanks, and what is behind them, at the blank before a word. -/
theorem Follows.of_blanks (h : Follows rest) {b s : List Char} {x : Char}
    (hb : ∀ c ∈ b, isBlank c = true) (hx : isBlank x = false) (hs : b ++ x :: s <+: rest) :
    ∃ t, rest = ' ' :: t ∧ x :: s <+: t := by
  rcases h with rfl | ⟨t, rfl, ht⟩
  · exact absurd (List.prefix_nil.mp hs) (by simp)
  · have hfollows : Follows (' ' :: t) := Or.inr ⟨t, rfl, ht⟩
    obtain ⟨c, t', rfl, hc⟩ := hfollows.head rfl
    have hblank : ∀ d ∈ [' '], isBlank d = true := List.forall_mem_singleton.mpr rfl
    have hhead : ∀ d ∈ (c :: t').head?, isBlank d = false := by
      intro d hd
      obtain rfl := Option.mem_some.mp hd
      exact not_isBlank_of_head hc
    exact ⟨c :: t', rfl, (eq_of_span (n := [' ']) hb hx hblank hhead hs).2⟩

/-- **The name of an element.** -/
theorem munch_identifier (hn : isName n = true) (hrest : Follows rest) :
    munch CharClass.mem rules (n ++ rest) = some (.identifier, n) := by
  have hnot : ∀ {b s x}, (∀ c ∈ b, isBlank c = true) → (x = '=' ∨ x = '.') →
      ¬ b ++ x :: s <+: rest := by
    intro b s x hb hx h
    obtain ⟨t, ht, hxs⟩ := hrest.of_blanks hb (by rcases hx with rfl | rfl <;> decide) h
    obtain ⟨c, t', rfl, hc⟩ := hrest.head ht
    obtain ⟨rfl, _⟩ := List.cons_prefix_cons.mp hxs
    rcases hx with rfl | rfl
    · rcases hc with hc | hc <;> cases hc
    · rcases hc with hc | hc <;> cases hc
  exact munch_name hn hrest.endsName (fun b s hb _ => hnot hb (Or.inl rfl))
    fun b s hb => hnot hb (Or.inr rfl)

/-- **The next token is a link**, as long as it can be, behind an exclamation mark. -/
theorem munch_link {p t : List Char} (hmem : p ∈ Pattern.link.words) (hbegins : p <+: '!' :: t)
    (hmax : ∀ q, q <+: '!' :: t → q ∈ Pattern.link.words → q.length ≤ p.length) :
    munch CharClass.mem rules ('!' :: t) = some (.link, p) := by
  have hmark : 1 ≤ p.length :=
    hmax ['!'] (List.cons_prefix_cons.mpr ⟨rfl, List.nil_prefix⟩)
      (mem_link_iff.mpr (Or.inl ⟨'!', rfl, by decide⟩))
  have hsingle : ∀ {k : CharClass} {q : List Char}, q ∈ Pattern.words (cls k) →
      q.length ≤ p.length := by
    rintro k q ⟨d, rfl, _⟩
    exact hmark
  have hnone : ∀ rule ∈ [(Token.url, Pattern.url), (.space, plus (cls .space))],
      ∀ q, q <+: '!' :: t → q ∉ rule.2.words := not_mem_of_all (by decide)
  obtain ⟨hurl, hspace⟩ := List.forall_mem_cons.mp hnone
  refine munch_eq_some [(Token.assignment, Pattern.assignment), (.padref, Pattern.padref),
    (.ref, Pattern.ref), (.binref, Pattern.binref), (.identifier, Pattern.identifier)] hmem hbegins
    (fun rule hrule q hq hmem => absurd hmem (not_mem_of_all (by decide) rule hrule q hq)) ?_
  simp only [List.forall_mem_cons]
  exact ⟨hmax, fun q hq hmem => absurd hmem (hurl q hq), fun q _ hmem => hsingle hmem,
    fun q hq hmem => absurd hmem (hspace _ List.mem_cons_self q hq), fun q _ hmem => hsingle hmem,
    List.forall_mem_nil _⟩

/-- **The mark between two elements**, with nothing but blanks up to the next one. -/
theorem munch_mark (hrest : Follows rest) :
    munch CharClass.mem rules ('!' :: rest) = some (.link, ['!']) := by
  refine munch_link (mem_link_iff.mpr (Or.inl ⟨'!', rfl, by decide⟩))
    (List.cons_prefix_cons.mpr ⟨rfl, List.nil_prefix⟩) fun q hq hmem => ?_
  rcases mem_link_iff.mp hmem with ⟨d, rfl, _⟩ | ⟨d, b, m, s, e, rfl, _, hb, hm, _⟩
  · exact le_rfl
  · -- A media type would be a name with a slash.
    obtain ⟨c, a, r, rfl, hc, ha⟩ := slash_of_caps hm
    have hbehind : b ++ c :: (a ++ '/' :: (r ++ (s ++ [e]))) <+: rest := by
      have h := (List.cons_prefix_cons.mp hq).2
      rwa [List.cons_append, List.append_assoc, List.cons_append] at h
    obtain ⟨t, ht, hword⟩ := hrest.of_blanks hb
      (isBlank_of_isUnslashed (ha c List.mem_cons_self)) hbehind
    rcases hrest with rfl | ⟨t', rfl, hhead | ⟨n, rest', hn, hends, rfl⟩⟩
    · cases ht
    · obtain rfl := (List.cons.inj ht).2
      cases t' with
      | nil => cases hhead
      | cons c' t' =>
        obtain ⟨rfl, _⟩ := List.cons_prefix_cons.mp hword
        exact absurd (Option.some.inj hhead) hc
    · obtain rfl := (List.cons.inj ht).2
      obtain ⟨_, t, hslash⟩ := eq_of_span (a := c :: a) ha (by decide)
        (fun d hd => isUnslashed_of_isNameChar (isNameChar_of_mem hn hd)) hends.not_isUnslashed
        hword
      rcases hends '/' (by rw [← hslash]; rfl) with h | h <;> cases h

/-- **The blank between two words.** -/
theorem munch_space {t : List Char} (ht : Follows (' ' :: t)) :
    munch CharClass.mem rules (' ' :: t) = some (.space, [' ']) := by
  have hblank : ∀ c ∈ [' '], CharClass.mem .space c = true := List.forall_mem_singleton.mpr rfl
  refine munch_eq_some [(Token.assignment, Pattern.assignment), (.padref, Pattern.padref),
    (.ref, Pattern.ref), (.binref, Pattern.binref), (.identifier, Pattern.identifier),
    (.link, Pattern.link), (.url, Pattern.url), (.operator, Pattern.operator)]
    ((mem_lang_plus_iff rfl).mpr ⟨List.cons_ne_nil _ _, mem_lang_star_cls.mpr hblank⟩)
    (List.cons_prefix_cons.mpr ⟨rfl, List.nil_prefix⟩) ?_ ?_
  · exact fun rule hrule q hq hmem => absurd hmem (not_mem_of_all (by decide) rule hrule q hq)
  · simp only [List.forall_mem_cons]
    refine ⟨?_, ?_, List.forall_mem_nil _⟩
    · intro q hq hmem
      have hq' := mem_lang_star_cls.mp ((mem_lang_plus_iff rfl).mp hmem).2
      obtain ⟨c, t', rfl, hc⟩ := ht.head rfl
      refine length_le_of_span (n := [' ']) hq' (fun d hd => ?_) hq
      obtain rfl := Option.mem_some.mp hd
      exact not_isBlank_of_head hc
    · rintro q _ ⟨d, rfl, _⟩
      exact le_rfl

end Tokens

/-! ### Caps -/

section Caps

variable {w : List Char}

/-- Every exclamation mark is behind a backslash. -/
def Escaped (w : List Char) : Prop := guarded (fun c => c = '!') false w = true

theorem Escaped.append {v : List Char} (hw : Escaped w) (hv : Escaped v) : Escaped (w ++ v) :=
  guarded_append.mpr ⟨hw, guarded_mono hv⟩

theorem escaped_of_not_mem (h : '!' ∉ w) : Escaped w :=
  guarded_of_forall (fun _ hc => decide_eq_false (ne_of_mem_of_not_mem hc h)) false

/-- A mark behind a blank. -/
theorem not_escaped_mark (u v : List Char) : ¬ Escaped (u ++ ' ' :: '!' :: v) := by
  intro h
  have hmark := (guarded_append.mp h).2
  rw [guarded, guarded] at hmark
  simp at hmark

theorem escaped_of_star {r : Pattern} (hr : ∀ u ∈ r.words, Escaped u)
    (hw : w ∈ Pattern.words (star r)) : Escaped w :=
  kstar_induction rfl (fun u _ hu hv => (hr u hu).append hv) (mem_lang_star.mp hw)

theorem escaped_of_cls {k : CharClass} (hk : k.mem '!' = false)
    (hw : w ∈ Pattern.words (star (cls k))) : Escaped w :=
  escaped_of_not_mem fun h => by
    have hmem := mem_lang_star_cls.mp hw _ h
    rw [hk] at hmem
    cases hmem

theorem escaped_of_mem_caps (hw : w ∈ Pattern.caps.words) : Escaped w := by
  have hmime : ∀ u ∈ Pattern.words (plus Pattern.mimechar), Escaped u := fun u hu =>
    escaped_of_cls (k := .union .alnum (.char '-')) (by decide) ((mem_lang_plus_iff rfl).mp hu).2
  have hchar : ∀ u ∈ Pattern.capschar.words, Escaped u := by
    intro u hu
    rcases mem_lang_alt.mp hu with hu | ⟨c, rfl, hc⟩
    · obtain ⟨_, ⟨c, rfl, hc⟩, _, ⟨d, rfl, _⟩, rfl⟩ := mem_lang_seq.mp hu
      obtain rfl := of_decide_eq_true hc
      show guarded _ _ ['\\', d] = true
      simp [guarded]
    · refine escaped_of_not_mem fun h => ?_
      obtain rfl := List.mem_singleton.mp h
      cases hc
  obtain ⟨_, htype, v, hv, rfl⟩ := mem_lang_seq.mp hw
  obtain ⟨u, hu, _, hrest, rfl⟩ := mem_lang_seq.mp htype
  obtain ⟨_, ⟨_, rfl, hslash⟩, u', hu', rfl⟩ := mem_lang_seq.mp hrest
  obtain rfl := of_decide_eq_true hslash
  refine ((hmime u hu).append ((escaped_of_not_mem (w := ['/']) (by decide)).append
    (hmime u' hu'))).append (escaped_of_star ?_ hv)
  intro s hs
  rcases mem_lang_alt.mp hs with hs | hs
  · obtain ⟨_, ⟨c, rfl, hc⟩, _, ⟨d, rfl, hd⟩, rfl⟩ := mem_lang_seq.mp hs
    obtain rfl := of_decide_eq_true hc
    refine escaped_of_not_mem fun h => ?_
    rcases List.mem_cons.mp h with h | h
    · cases h
    · obtain rfl := List.mem_singleton.mp h
      cases hd
  · exact escaped_of_star hchar ((mem_lang_plus_iff rfl).mp hs).2

def isMimeChar (c : Char) : Bool := c.isAlphanum || c = '-'

/-- A media type, and fields without marks and semicolons. -/
theorem mem_caps_of {a b fields : List Char}
    (hmime : a ≠ [] ∧ b ≠ [] ∧ (a ++ b).all isMimeChar = true)
    (hfields : ∀ c ∈ fields, c ∉ [';', '!']) : a ++ '/' :: (b ++ fields) ∈ Pattern.caps.words := by
  obtain ⟨ha, hb, hchars⟩ := hmime
  have hplus : ∀ {w : List Char}, w ≠ [] → (∀ c ∈ w, isMimeChar c = true) →
      w ∈ Pattern.words (plus Pattern.mimechar) := by
    intro w hw hw'
    refine (mem_lang_plus_iff rfl).mpr ⟨hw, mem_lang_star_cls.mpr fun c hc => ?_⟩
    simpa [CharClass.mem, isMimeChar] using hw' c hc
  obtain ⟨hcharsA, hcharsB⟩ := List.forall_mem_append.mp (List.all_eq_true.mp hchars)
  have htype : a ++ '/' :: b ∈ Pattern.mimetype.words :=
    mem_lang_seq.mpr ⟨a, hplus ha hcharsA, '/' :: b,
      mem_lang_seq.mpr ⟨['/'], ⟨'/', rfl, by decide⟩, b, hplus hb hcharsB, rfl⟩, rfl⟩
  refine mem_lang_seq.mpr ⟨a ++ '/' :: b, htype, fields, ?_, by simp⟩
  clear htype hchars hcharsB
  induction fields with
  | nil => exact Language.nil_mem_kstar _
  | cons c fields ih =>
    obtain ⟨hc, hrest⟩ := List.forall_mem_cons.mp hfields
    have hchar : [c] ∈ Pattern.capschar.words :=
      mem_lang_alt.mpr (Or.inr ⟨c, rfl, by simpa [CharClass.mem] using hc⟩)
    have hstring : [c] ∈ Pattern.capsstring.words :=
      mem_lang_plus.mpr ⟨[c], hchar, [], Language.nil_mem_kstar _, rfl⟩
    exact append_mem_kstar (u := [c]) (mem_lang_alt.mpr (Or.inr hstring)) (ih hrest)

theorem escaped_of_mem_capsTail (hw : w ∈ Pattern.capsTail.words) : Escaped w := by
  have hspaces : ∀ u ∈ Pattern.spaces.words, Escaped u := fun u hu =>
    escaped_of_cls (k := .space) (by decide) hu
  refine escaped_of_star (fun u hu => ?_) hw
  obtain ⟨b, hb, _, hrest, rfl⟩ := mem_lang_seq.mp hu
  obtain ⟨s, hs, b', hb', rfl⟩ := mem_lang_seq.mp hrest
  refine (hspaces b hb).append ((escaped_of_star (fun v hv => ?_) hs).append (hspaces b' hb'))
  obtain ⟨_, ⟨c, rfl, hc⟩, _, hcaps, rfl⟩ := mem_lang_seq.mp hv
  obtain ⟨b'', hb'', m, hm, rfl⟩ := mem_lang_seq.mp hcaps
  obtain rfl := of_decide_eq_true hc
  exact (escaped_of_not_mem (w := [';']) (by decide)).append
    ((hspaces b'' hb'').append (escaped_of_mem_caps hm))

/-- **Caps between two marks.** -/
theorem munch_filter {caps : List Char} (hcaps : caps ∈ Pattern.caps.words) (rest : List Char) :
    munch CharClass.mem rules ('!' :: ' ' :: (caps ++ ' ' :: '!' :: rest)) =
      some (.link, '!' :: ' ' :: (caps ++ [' ', '!'])) := by
  have htail : [' '] ∈ Pattern.capsTail.words := by
    have hspace : [' '] ∈ Pattern.spaces.words :=
      mem_spaces_iff.mpr (List.forall_mem_singleton.mpr rfl)
    have hnil : [] ∈ Pattern.spaces.words := mem_spaces_iff.mpr (List.forall_mem_nil _)
    exact append_mem_kstar (u := [' ']) (mem_lang_seq.mpr ⟨[' '], hspace, [], mem_lang_seq.mpr
      ⟨[], Language.nil_mem_kstar _, [], hnil, rfl⟩, rfl⟩) (Language.nil_mem_kstar _)
  refine munch_link (mem_link_iff.mpr (Or.inr ⟨'!', [' '], caps, [' '], '!', by simp, by decide,
    List.forall_mem_singleton.mpr rfl, hcaps, htail, by decide⟩)) ⟨rest, by simp⟩
    fun q hq hmem => ?_
  rcases mem_link_iff.mp hmem with ⟨d, rfl, _⟩ | ⟨d, b, m, s, e, rfl, _, hb, hm, hs, _⟩
  · exact Nat.succ_le_succ (Nat.zero_le _)
  · -- A longer link has the second mark among its caps, behind a blank.
    by_contra hlong
    have hescaped : Escaped (b ++ (m ++ s)) := (escaped_of_not_mem fun h => by
      cases hb _ h).append ((escaped_of_mem_caps hm).append (escaped_of_mem_capsTail hs))
    have hq' : b ++ (m ++ s) ++ [e] <+: ' ' :: (caps ++ [' ', '!']) ++ rest := by
      have h := (List.cons_prefix_cons.mp hq).2
      simpa using h
    have hlength : (' ' :: (caps ++ [' ', '!'])).length ≤ (b ++ (m ++ s)).length := by
      simp only [List.length_cons, List.length_append, List.length_nil] at hlong ⊢
      omega
    obtain ⟨v, hv⟩ := List.prefix_of_prefix_length_le (List.prefix_append _ rest)
      ((List.prefix_append _ [e]).trans hq') hlength
    rw [← hv] at hescaped
    refine not_escaped_mark (' ' :: caps) v ?_
    simpa using hescaped

end Caps

end AIStreams.GstLaunch
