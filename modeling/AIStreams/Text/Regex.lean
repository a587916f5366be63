import Mathlib.Computability.Language
import Mathlib.Data.List.Dedup

/-!
# Regular expressions and lexers

Regular expressions over classes of characters, and lexers that cut a text into the longest matches
of a list of rules; of rules with the same match, the first one counts.

* `cons_mem_lang_iff`: the partial derivatives of an expression.
* `longest_eq_some_iff`, `longest_eq_none_iff`: the longest match.
* `munch_eq_some`: when a rule has the next token.
* `tokens_of_munch`: the tokens of a text, from its first one.
-/

namespace AIStreams.Text

open Computability

/-! ### Words of a star -/

section Star

variable {α : Type*} {l : Language α} {a : α} {w : List α}

theorem cons_mem_mul_iff {m : Language α} : a :: w ∈ l * m ↔
    (∃ u v, a :: u ∈ l ∧ v ∈ m ∧ u ++ v = w) ∨ ([] ∈ l ∧ a :: w ∈ m) := by
  rw [Language.mem_mul]
  constructor
  · rintro ⟨u, hu, v, hv, huv⟩
    cases u with
    | nil =>
      rw [List.nil_append] at huv
      exact Or.inr ⟨hu, huv ▸ hv⟩
    | cons b u =>
      obtain ⟨rfl, rfl⟩ := List.cons.inj huv
      exact Or.inl ⟨u, v, hu, hv, rfl⟩
  · rintro (⟨u, v, hu, hv, rfl⟩ | ⟨hl, hm⟩)
    · exact ⟨a :: u, hu, v, hv, rfl⟩
    · exact ⟨[], hl, a :: w, hm, rfl⟩

/-- What holds of the empty word, and of a word of the language before one of which it holds, holds
of every word of the star. -/
theorem kstar_induction {P : List α → Prop} (hnil : P [])
    (happend : ∀ u v, u ∈ l → P v → P (u ++ v)) (hw : w ∈ l∗) : P w := by
  obtain ⟨us, rfl, hus⟩ := Language.mem_kstar.mp hw
  clear hw
  induction us with
  | nil => exact hnil
  | cons u us ih =>
    rw [List.flatten_cons]
    exact happend u _ (hus u List.mem_cons_self) (ih fun v hv => hus v (List.mem_cons_of_mem u hv))

theorem append_mem_kstar {u v : List α} (hu : u ∈ l) (hv : v ∈ l∗) : u ++ v ∈ l∗ := by
  obtain ⟨us, rfl, hus⟩ := Language.mem_kstar.mp hv
  exact Language.mem_kstar.mpr ⟨u :: us, rfl, List.forall_mem_cons.mpr ⟨hu, hus⟩⟩

theorem cons_mem_kstar_iff : a :: w ∈ l∗ ↔ ∃ u v, a :: u ∈ l ∧ v ∈ l∗ ∧ u ++ v = w := by
  constructor
  · intro hw
    refine kstar_induction (P := fun t => ∀ b w, t = b :: w →
      t ∈ l∗ ∧ ∃ u v, b :: u ∈ l ∧ v ∈ l∗ ∧ u ++ v = w) ?_ ?_ hw a w rfl |>.2
    · intro b w h
      cases h
    · intro u v hu hv b w h
      have hstar : v ∈ l∗ := by
        cases v with
        | nil => exact Language.nil_mem_kstar l
        | cons c v => exact (hv c v rfl).1
      refine ⟨append_mem_kstar hu hstar, ?_⟩
      cases u with
      | nil => exact (hv b w h).2
      | cons c u =>
        obtain ⟨rfl, rfl⟩ := List.cons.inj h
        exact ⟨u, v, hu, hstar, rfl⟩
  · rintro ⟨u, v, hu, hv, rfl⟩
    exact append_mem_kstar hu hv

end Star

/-! ### Regular expressions -/

/-- Expressions over classes of characters. -/
inductive Regex (κ : Type*)
  | epsilon
  | cls (k : κ)
  | alt (r s : Regex κ)
  | seq (r s : Regex κ)
  | star (r : Regex κ)
  deriving DecidableEq

namespace Regex

variable {κ α τ : Type*}

def plus (r : Regex κ) : Regex κ := seq r (star r)

def opt (r : Regex κ) : Regex κ := alt epsilon r

def nullable : Regex κ → Bool
  | epsilon => true
  | cls _ => false
  | alt r s => r.nullable || s.nullable
  | seq r s => r.nullable && s.nullable
  | star _ => true

section Lang

variable (mem : κ → α → Bool)

/-- The words of an expression; `mem` says which characters are in a class. -/
def lang : Regex κ → Language α
  | epsilon => 1
  | cls k => {w | ∃ a, w = [a] ∧ mem k a = true}
  | alt r s => lang r + lang s
  | seq r s => lang r * lang s
  | star r => (lang r)∗

/-- The partial derivatives of an expression by a character. -/
def derivs (a : α) : Regex κ → List (Regex κ)
  | epsilon => []
  | cls k => if mem k a then [epsilon] else []
  | alt r s => derivs a r ++ derivs a s
  | seq r s => (derivs a r).map (seq · s) ++ if r.nullable then derivs a s else []
  | star r => (derivs a r).map (seq · (star r))

variable {mem} {r s : Regex κ} {w : List α}

@[simp] theorem mem_lang_epsilon : w ∈ lang mem epsilon ↔ w = [] := Iff.rfl

@[simp] theorem mem_lang_cls {k : κ} :
    w ∈ lang mem (cls k) ↔ ∃ a, w = [a] ∧ mem k a = true := Iff.rfl

@[simp] theorem mem_lang_alt : w ∈ lang mem (alt r s) ↔ w ∈ lang mem r ∨ w ∈ lang mem s := Iff.rfl

@[simp] theorem mem_lang_seq : w ∈ lang mem (seq r s) ↔
    ∃ u ∈ lang mem r, ∃ v ∈ lang mem s, u ++ v = w := Language.mem_mul

theorem mem_lang_star : w ∈ lang mem (star r) ↔ w ∈ (lang mem r)∗ := Iff.rfl

@[simp] theorem mem_lang_plus : w ∈ lang mem (plus r) ↔
    ∃ u ∈ lang mem r, ∃ v ∈ lang mem (star r), u ++ v = w := mem_lang_seq

@[simp] theorem mem_lang_opt : w ∈ lang mem (opt r) ↔ w = [] ∨ w ∈ lang mem r := mem_lang_alt

theorem mem_lang_star_cls {k : κ} : w ∈ lang mem (star (cls k)) ↔ ∀ a ∈ w, mem k a = true := by
  constructor
  · intro hw
    refine kstar_induction (P := fun w => ∀ a ∈ w, mem k a = true) (List.forall_mem_nil _) ?_ hw
    rintro _ v ⟨a, rfl, ha⟩ hv
    exact List.forall_mem_cons.mpr ⟨ha, hv⟩
  · intro hw
    induction w with
    | nil => exact Language.nil_mem_kstar _
    | cons a w ih =>
      obtain ⟨ha, hw⟩ := List.forall_mem_cons.mp hw
      exact append_mem_kstar (u := [a]) ⟨a, rfl, ha⟩ (ih hw)

variable (mem) in
theorem nullable_iff (r : Regex κ) : r.nullable = true ↔ [] ∈ lang mem r := by
  induction r with
  | epsilon => simp [nullable]
  | cls k => simp [nullable]
  | alt r s ihr ihs => simp [nullable, ihr, ihs]
  | seq r s ihr ihs => simp [nullable, ihr, ihs]
  | star r _ => simp [nullable, mem_lang_star, Language.nil_mem_kstar]

theorem mem_lang_plus_iff (hr : r.nullable = false) :
    w ∈ lang mem (plus r) ↔ w ≠ [] ∧ w ∈ lang mem (star r) := by
  rw [mem_lang_plus]
  constructor
  · rintro ⟨u, hu, v, hv, rfl⟩
    refine ⟨fun hnil => ?_, append_mem_kstar hu hv⟩
    rw [(List.append_eq_nil_iff.mp hnil).1, ← nullable_iff, hr] at hu
    cases hu
  · rintro ⟨hne, hw⟩
    obtain ⟨a, w, rfl⟩ := List.exists_cons_of_ne_nil hne
    obtain ⟨u, v, hu, hv, rfl⟩ := cons_mem_kstar_iff.mp hw
    exact ⟨a :: u, hu, v, hv, rfl⟩

/-- **The partial derivatives** have the rests of the words that start with the character. -/
theorem cons_mem_lang_iff {a : α} : a :: w ∈ lang mem r ↔ ∃ d ∈ derivs mem a r, w ∈ lang mem d := by
  induction r generalizing w with
  | epsilon => simp [derivs]
  | cls k =>
    by_cases hk : mem k a = true <;> simp [derivs, hk]
  | alt r s ihr ihs =>
    rw [mem_lang_alt, ihr, ihs, derivs]
    simp only [List.mem_append, or_and_right, exists_or]
  | seq r s ihr ihs =>
    have hseq : a :: w ∈ lang mem (seq r s) ↔
        (∃ u v, a :: u ∈ lang mem r ∧ v ∈ lang mem s ∧ u ++ v = w) ∨
          ([] ∈ lang mem r ∧ a :: w ∈ lang mem s) := cons_mem_mul_iff
    rw [hseq, derivs, ← nullable_iff mem r, ihs]
    simp only [List.mem_append, List.mem_map, or_and_right, exists_or]
    refine or_congr ?_ ?_
    · constructor
      · rintro ⟨u, v, hu, hv, rfl⟩
        obtain ⟨d, hd, hud⟩ := ihr.mp hu
        exact ⟨seq d s, ⟨d, hd, rfl⟩, mem_lang_seq.mpr ⟨u, hud, v, hv, rfl⟩⟩
      · rintro ⟨_, ⟨d, hd, rfl⟩, hw⟩
        obtain ⟨u, hu, v, hv, rfl⟩ := mem_lang_seq.mp hw
        exact ⟨u, v, ihr.mpr ⟨d, hd, hu⟩, hv, rfl⟩
    · cases r.nullable <;> simp
  | star r ih =>
    have hstar : a :: w ∈ lang mem (star r) ↔
        ∃ u v, a :: u ∈ lang mem r ∧ v ∈ lang mem (star r) ∧ u ++ v = w := cons_mem_kstar_iff
    rw [hstar, derivs]
    simp only [List.mem_map]
    constructor
    · rintro ⟨u, v, hu, hv, rfl⟩
      obtain ⟨d, hd, hud⟩ := ih.mp hu
      exact ⟨seq d (star r), ⟨d, hd, rfl⟩, mem_lang_seq.mpr ⟨u, hud, v, hv, rfl⟩⟩
    · rintro ⟨_, ⟨d, hd, rfl⟩, hw⟩
      obtain ⟨u, hu, v, hv, rfl⟩ := mem_lang_seq.mp hw
      exact ⟨u, v, ih.mpr ⟨d, hd, hu⟩, hv, rfl⟩

/-- A text whose first character no word has. -/
theorem not_mem_of_derivs_eq_nil {a : α} {t q : List α} (hr : r.nullable = false)
    (hd : derivs mem a r = []) (hq : q <+: a :: t) : q ∉ lang mem r := by
  intro h
  cases q with
  | nil =>
    rw [← nullable_iff, hr] at h
    cases h
  | cons b q =>
    obtain ⟨rfl, _⟩ := List.cons_prefix_cons.mp hq
    obtain ⟨d, hd', _⟩ := cons_mem_lang_iff.mp h
    rw [hd] at hd'
    cases hd'

theorem any_nullable_iff (mem : κ → α → Bool) {rs : List (Regex κ)} :
    rs.any nullable = true ↔ ∃ r ∈ rs, [] ∈ lang mem r := by
  rw [List.any_eq_true]
  exact exists_congr fun r => and_congr_right fun _ => nullable_iff mem r

end Lang

/-! ### The longest match -/

section Longest

variable [DecidableEq κ] (mem : κ → α → Bool)

/-- The longest prefix of a text that one of the expressions has. -/
def longestOf : List (Regex κ) → List α → Option (List α)
  | rs, [] => if rs.any nullable then some [] else none
  | rs, a :: t =>
    match longestOf (rs.flatMap (derivs mem a)).dedup t with
    | some p => some (a :: p)
    | none => if rs.any nullable then some [] else none

def longest (r : Regex κ) (t : List α) : Option (List α) := longestOf mem [r] t

variable {mem} {rs : List (Regex κ)} {r : Regex κ} {t p : List α}

theorem exists_deriv_iff {a : α} {w : List α} :
    (∃ d ∈ (rs.flatMap (derivs mem a)).dedup, w ∈ lang mem d) ↔ ∃ r ∈ rs, a :: w ∈ lang mem r := by
  simp only [List.mem_dedup, List.mem_flatMap, cons_mem_lang_iff]
  exact ⟨fun ⟨d, ⟨r, hr, hd⟩, hw⟩ => ⟨r, hr, d, hd, hw⟩,
    fun ⟨r, hr, d, hd, hw⟩ => ⟨d, ⟨r, hr, hd⟩, hw⟩⟩

theorem longestOf_none (h : longestOf mem rs t = none) :
    ∀ q, q <+: t → ∀ r ∈ rs, q ∉ lang mem r := by
  induction t generalizing rs with
  | nil =>
    intro q hq r hr hmem
    obtain rfl := List.prefix_nil.mp hq
    rw [longestOf, if_pos ((any_nullable_iff mem).mpr ⟨r, hr, hmem⟩)] at h
    cases h
  | cons a t ih =>
    rw [longestOf] at h
    cases hrest : longestOf mem (rs.flatMap (derivs mem a)).dedup t with
    | some p =>
      rw [hrest] at h
      cases h
    | none =>
      rw [hrest] at h
      intro q hq r hr hmem
      cases q with
      | nil =>
        simp only [(any_nullable_iff mem).mpr ⟨r, hr, hmem⟩, if_true] at h
        cases h
      | cons b q =>
        obtain ⟨rfl, htail⟩ := List.cons_prefix_cons.mp hq
        obtain ⟨d, hd, hw⟩ := exists_deriv_iff.mpr ⟨r, hr, hmem⟩
        exact ih hrest q htail d hd hw

theorem longestOf_some (h : longestOf mem rs t = some p) :
    p <+: t ∧ (∃ r ∈ rs, p ∈ lang mem r) ∧
      ∀ q, q <+: t → ∀ r ∈ rs, q ∈ lang mem r → q.length ≤ p.length := by
  induction t generalizing rs p with
  | nil =>
    rw [longestOf] at h
    split at h
    · rename_i hnull
      obtain rfl := Option.some.inj h
      refine ⟨List.prefix_refl _, (any_nullable_iff mem).mp hnull, fun q hq _ _ _ => ?_⟩
      rw [List.prefix_nil.mp hq]
    · cases h
  | cons a t ih =>
    rw [longestOf] at h
    cases hrest : longestOf mem (rs.flatMap (derivs mem a)).dedup t with
    | some p' =>
      rw [hrest] at h
      obtain rfl := Option.some.inj h
      obtain ⟨hbegins, hmem, hmax⟩ := ih hrest
      refine ⟨List.cons_prefix_cons.mpr ⟨rfl, hbegins⟩, exists_deriv_iff.mp hmem, ?_⟩
      intro q hq r hr hq'
      cases q with
      | nil => exact Nat.zero_le _
      | cons b q =>
        obtain ⟨rfl, htail⟩ := List.cons_prefix_cons.mp hq
        obtain ⟨d, hd, hw⟩ := exists_deriv_iff.mpr ⟨r, hr, hq'⟩
        exact Nat.succ_le_succ (hmax q htail d hd hw)
    | none =>
      rw [hrest] at h
      by_cases hnull : rs.any nullable = true
      · rw [if_pos hnull] at h
        obtain rfl := Option.some.inj h
        refine ⟨List.nil_prefix, (any_nullable_iff mem).mp hnull, ?_⟩
        intro q hq r hr hq'
        cases q with
        | nil => exact le_rfl
        | cons b q =>
          obtain ⟨rfl, htail⟩ := List.cons_prefix_cons.mp hq
          obtain ⟨d, hd, hw⟩ := exists_deriv_iff.mpr ⟨r, hr, hq'⟩
          exact absurd hw (longestOf_none hrest q htail d hd)
      · rw [if_neg hnull] at h
        cases h

/-- **No prefix matches.** -/
theorem longest_eq_none_iff : longest mem r t = none ↔ ∀ q, q <+: t → q ∉ lang mem r := by
  constructor
  · exact fun h q hq => longestOf_none h q hq r List.mem_cons_self
  · intro h
    cases hlongest : longest mem r t with
    | none => rfl
    | some p =>
      obtain ⟨hbegins, ⟨r', hr', hmem⟩, _⟩ := longestOf_some hlongest
      rw [List.mem_singleton.mp hr'] at hmem
      exact absurd hmem (h p hbegins)

/-- **The longest match**: a prefix that matches, and no longer one does. -/
theorem longest_eq_some_iff : longest mem r t = some p ↔
    p <+: t ∧ p ∈ lang mem r ∧ ∀ q, q <+: t → q ∈ lang mem r → q.length ≤ p.length := by
  constructor
  · intro h
    obtain ⟨hbegins, ⟨r', hr', hmem⟩, hmax⟩ := longestOf_some h
    rw [List.mem_singleton.mp hr'] at hmem
    exact ⟨hbegins, hmem, fun q hq => hmax q hq r List.mem_cons_self⟩
  · rintro ⟨hbegins, hmem, hmax⟩
    cases hlongest : longest mem r t with
    | none => exact absurd hmem (longest_eq_none_iff.mp hlongest p hbegins)
    | some q =>
      obtain ⟨hq, ⟨r', hr', hmem'⟩, hmax'⟩ := longestOf_some hlongest
      rw [List.mem_singleton.mp hr'] at hmem'
      have hlength : q.length = p.length :=
        le_antisymm (hmax q hq hmem') (hmax' p hbegins r List.mem_cons_self hmem)
      rw [(List.prefix_of_prefix_length_le hq hbegins hlength.le).eq_of_length hlength]

end Longest

/-! ### Lexers -/

section Lexer

variable [DecidableEq κ] (mem : κ → α → Bool)

/-- The next token: the longest match of the rules, of the first rule that has it. -/
def munch : List (τ × Regex κ) → List α → Option (τ × List α)
  | [], _ => none
  | (k, r) :: rules, t =>
    match longest mem r t, munch rules t with
    | some p, some (k', p') => if p'.length ≤ p.length then some (k, p) else some (k', p')
    | some p, none => some (k, p)
    | none, token => token

/-- The tokens of a text; each has a character, so that there are at most `fuel` of them. -/
def tokensIn (rules : List (τ × Regex κ)) : ℕ → List α → Option (List (τ × List α))
  | _, [] => some []
  | 0, _ :: _ => none
  | fuel + 1, a :: t =>
    match munch mem rules (a :: t) with
    | some (_, []) => none
    | some (k, b :: p) =>
      (tokensIn rules fuel ((a :: t).drop (b :: p).length)).map ((k, b :: p) :: ·)
    | none => none

def tokens (rules : List (τ × Regex κ)) (t : List α) : Option (List (τ × List α)) :=
  tokensIn mem rules t.length t

variable {mem} {rules : List (τ × Regex κ)} {t p : List α} {k : τ}

theorem munch_begins (h : munch mem rules t = some (k, p)) : p <+: t := by
  induction rules with
  | nil => cases h
  | cons rule rules ih =>
    rw [munch] at h
    split at h
    · rename_i p' _ _ hlongest hmunch
      split at h
      · cases h
        exact (longest_eq_some_iff.mp hlongest).1
      · cases h
        exact ih hmunch
    · rename_i hlongest hmunch
      cases h
      exact (longest_eq_some_iff.mp hlongest).1
    · exact ih h

/-- No rule has a longer match than this. -/
theorem munch_length_le {n : ℕ} (hrules : ∀ rule ∈ rules, ∀ q, q <+: t → q ∈ lang mem rule.2 →
    q.length ≤ n) (h : munch mem rules t = some (k, p)) : p.length ≤ n := by
  induction rules with
  | nil => cases h
  | cons rule rules ih =>
    obtain ⟨hrule, hrules⟩ := List.forall_mem_cons.mp hrules
    have hfirst : ∀ {p}, longest mem rule.2 t = some p → p.length ≤ n := fun hp =>
      hrule _ (longest_eq_some_iff.mp hp).1 (longest_eq_some_iff.mp hp).2.1
    rw [munch] at h
    split at h
    · rename_i p' _ _ hlongest hmunch
      split at h
      · cases h
        exact hfirst hlongest
      · cases h
        exact ih hrules hmunch
    · rename_i hlongest hmunch
      cases h
      exact hfirst hlongest
    · exact ih hrules h

/-- **A rule has the next token** if its longest match is longer than those of the rules before it,
and no shorter than those of the rules behind it. -/
theorem munch_eq_some (before : List (τ × Regex κ)) {after : List (τ × Regex κ)} {r : Regex κ}
    (hmem : p ∈ lang mem r) (hbegins : p <+: t)
    (hbefore : ∀ rule ∈ before, ∀ q, q <+: t → q ∈ lang mem rule.2 → q.length < p.length)
    (hafter : ∀ rule ∈ (k, r) :: after, ∀ q, q <+: t → q ∈ lang mem rule.2 →
      q.length ≤ p.length) :
    munch mem (before ++ (k, r) :: after) t = some (k, p) := by
  induction before with
  | nil =>
    obtain ⟨hrule, hafter⟩ := List.forall_mem_cons.mp hafter
    have hlongest : longest mem r t = some p := longest_eq_some_iff.mpr ⟨hbegins, hmem, hrule⟩
    rw [List.nil_append, munch, hlongest]
    cases hmunch : munch mem after t with
    | none => rfl
    | some token =>
      obtain ⟨k', p'⟩ := token
      exact if_pos (munch_length_le hafter hmunch)
  | cons rule before ih =>
    obtain ⟨hrule, hbefore⟩ := List.forall_mem_cons.mp hbefore
    rw [List.cons_append, munch, ih hbefore]
    cases hlongest : longest mem rule.2 t with
    | none => rfl
    | some q =>
      obtain ⟨hq, hq', _⟩ := longest_eq_some_iff.mp hlongest
      exact if_neg (Nat.not_le.mpr (hrule q hq hq'))

theorem tokensIn_of_le {fuel : ℕ} (h : t.length ≤ fuel) :
    tokensIn mem rules fuel t = tokens mem rules t := by
  have hany : ∀ n m : ℕ, ∀ t : List α, t.length ≤ n → t.length ≤ m →
      tokensIn mem rules n t = tokensIn mem rules m t := by
    intro n
    induction n with
    | zero =>
      intro m t hn _
      rw [List.length_eq_zero_iff.mp (Nat.le_zero.mp hn)]
      cases m <;> rfl
    | succ n ih =>
      intro m t hn hm
      cases t with
      | nil => cases m <;> rfl
      | cons a t =>
        obtain ⟨m, rfl⟩ := Nat.exists_eq_succ_of_ne_zero (show m ≠ 0 by
          rintro rfl
          cases hm)
        rw [tokensIn, tokensIn]
        split
        · rfl
        · rw [ih m _ (by simp at hn ⊢; omega) (by simp at hm ⊢; omega)]
        · rfl
  exact hany _ _ _ h le_rfl

/-- **The tokens of a text**, from its first one. -/
theorem tokens_of_munch (h : munch mem rules t = some (k, p)) (hne : p ≠ []) :
    tokens mem rules t = (tokens mem rules (t.drop p.length)).map ((k, p) :: ·) := by
  obtain ⟨b, p, rfl⟩ := List.exists_cons_of_ne_nil hne
  cases t with
  | nil => exact absurd (List.prefix_nil.mp (munch_begins h)) hne
  | cons a t =>
    have hfuel : ((a :: t).drop (b :: p).length).length ≤ t.length := by
      simp
    rw [tokens, List.length_cons, tokensIn, h]
    simp only
    rw [tokensIn_of_le hfuel]

/-- The tokens are the text. -/
theorem flatten_tokens {ts : List (τ × List α)} (h : tokens mem rules t = some ts) :
    (ts.map Prod.snd).flatten = t := by
  have hany : ∀ n : ℕ, ∀ t : List α, ∀ ts, tokensIn mem rules n t = some ts →
      (ts.map Prod.snd).flatten = t := by
    intro n
    induction n with
    | zero =>
      intro t ts h
      cases t with
      | nil =>
        cases h
        rfl
      | cons a t => cases h
    | succ n ih =>
      intro t ts h
      cases t with
      | nil =>
        cases h
        rfl
      | cons a t =>
        rw [tokensIn] at h
        split at h
        · cases h
        · rename_i k b p hmunch
          obtain ⟨ts, hts, rfl⟩ := Option.map_eq_some_iff.mp h
          rw [List.map_cons, List.flatten_cons, ih _ _ hts]
          exact List.prefix_iff_eq_append.mp (munch_begins hmunch)
        · cases h
  exact hany _ _ _ h

end Lexer

end Regex

end AIStreams.Text
