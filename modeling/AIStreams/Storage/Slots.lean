import Mathlib.Data.List.Nodup
import Mathlib.Logic.Function.Basic
import Mathlib.Order.Basic

/-!
# Raw storage and the objects in it

A slot is raw storage or has an object alive in it.  Construction in place needs raw storage;
reading, assignment and an explicit destructor call need an object, and anything else is a
`Misuse`.  Objects are numbered as they are constructed, to follow what becomes of each.

* `Slots`: the slots, with the account of their objects as part of the structure.
* `exists_construct`, `exists_assign`, `exists_destroy`: what an operation does to the contents when
  it is no misuse.
* `count_destroyed_le`: no object is destroyed twice.
* `count_destroyed_eq`: once nothing is alive, every object has been destroyed exactly once.
-/

namespace AIStreams.Storage

universe u v

/-- What is undefined behaviour on a slot. -/
inductive Misuse
  | constructsLive
  | assignsDead
  | readsDead
  | destroysDead
  deriving DecidableEq

section Ledger

variable {L : Type u} {V : Type v} [DecidableEq L]

/-- The account of `constructed` objects: each is alive at one location or has been destroyed,
once. -/
structure Ledger (object : L → Option (Nat × V)) (constructed : Nat) (destroyed : List Nat) :
    Prop where
  lt_of_alive {l n v} : object l = some (n, v) → n < constructed
  lt_of_destroyed {n} : n ∈ destroyed → n < constructed
  nodup : destroyed.Nodup
  not_destroyed {l n v} : object l = some (n, v) → n ∉ destroyed
  location_eq {l l' n v v'} : object l = some (n, v) → object l' = some (n, v') → l = l'
  alive_of_not_destroyed {n} : n < constructed → n ∉ destroyed → ∃ l v, object l = some (n, v)

variable {object : L → Option (Nat × V)} {constructed : Nat} {destroyed : List Nat} {l : L}

theorem Ledger.construct (h : Ledger object constructed destroyed) (hl : object l = none) (v : V) :
    Ledger (Function.update object l (some (constructed, v))) (constructed + 1) destroyed := by
  have halive : ∀ {l' n v'}, Function.update object l (some (constructed, v)) l' = some (n, v') →
      l' = l ∧ n = constructed ∨ n < constructed ∧ object l' = some (n, v') := by
    intro l' n v' hobject
    by_cases hl' : l' = l
    · rw [hl', Function.update_self] at hobject
      cases hobject
      exact .inl ⟨hl', rfl⟩
    · rw [Function.update_of_ne hl'] at hobject
      exact .inr ⟨h.lt_of_alive hobject, hobject⟩
  constructor
  · intro l' n v' hobject
    rcases halive hobject with ⟨-, rfl⟩ | ⟨hlt, -⟩ <;> omega
  · intro n hn
    exact Nat.lt_succ_of_lt (h.lt_of_destroyed hn)
  · exact h.nodup
  · intro l' n v' hobject hn
    rcases halive hobject with ⟨-, rfl⟩ | ⟨-, hobject⟩
    · exact Nat.lt_irrefl _ (h.lt_of_destroyed hn)
    · exact h.not_destroyed hobject hn
  · intro l₁ l₂ n v₁ v₂ h₁ h₂
    rcases halive h₁ with ⟨rfl, rfl⟩ | ⟨hlt₁, h₁⟩
    · rcases halive h₂ with ⟨rfl, -⟩ | ⟨hlt₂, -⟩
      · rfl
      · exact absurd hlt₂ (Nat.lt_irrefl _)
    · rcases halive h₂ with ⟨-, rfl⟩ | ⟨-, h₂⟩
      · exact absurd hlt₁ (Nat.lt_irrefl _)
      · exact h.location_eq h₁ h₂
  · intro n hn hdestroyed
    rcases Nat.lt_succ_iff_lt_or_eq.mp hn with hlt | rfl
    · obtain ⟨l', v', hobject⟩ := h.alive_of_not_destroyed hlt hdestroyed
      have hne : l' ≠ l := by
        rintro rfl
        rw [hl] at hobject
        cases hobject
      exact ⟨l', v', by rw [Function.update_of_ne hne, hobject]⟩
    · exact ⟨l, v, Function.update_self ..⟩

theorem Ledger.assign (h : Ledger object constructed destroyed) {number : Nat} {old : V}
    (hl : object l = some (number, old)) (v : V) :
    Ledger (Function.update object l (some (number, v))) constructed destroyed := by
  have halive : ∀ {l' n v'}, Function.update object l (some (number, v)) l' = some (n, v') →
      ∃ v'', object l' = some (n, v'') := by
    intro l' n v' hobject
    by_cases hl' : l' = l
    · rw [hl', Function.update_self] at hobject
      cases hobject
      exact ⟨old, hl' ▸ hl⟩
    · rw [Function.update_of_ne hl'] at hobject
      exact ⟨v', hobject⟩
  constructor
  · intro l' n v' hobject
    obtain ⟨v'', hobject⟩ := halive hobject
    exact h.lt_of_alive hobject
  · exact h.lt_of_destroyed
  · exact h.nodup
  · intro l' n v' hobject
    obtain ⟨v'', hobject⟩ := halive hobject
    exact h.not_destroyed hobject
  · intro l₁ l₂ n v₁ v₂ h₁ h₂
    obtain ⟨_, h₁⟩ := halive h₁
    obtain ⟨_, h₂⟩ := halive h₂
    exact h.location_eq h₁ h₂
  · intro n hn hdestroyed
    obtain ⟨l', v', hobject⟩ := h.alive_of_not_destroyed hn hdestroyed
    by_cases hl' : l' = l
    · rw [hl', hl] at hobject
      cases hobject
      exact ⟨l, v, Function.update_self ..⟩
    · exact ⟨l', v', by rw [Function.update_of_ne hl', hobject]⟩

theorem Ledger.destroy (h : Ledger object constructed destroyed) {number : Nat} {v : V}
    (hl : object l = some (number, v)) :
    Ledger (Function.update object l none) constructed (number :: destroyed) := by
  have halive : ∀ {l' n v'}, Function.update object l none l' = some (n, v') →
      l' ≠ l ∧ object l' = some (n, v') := by
    intro l' n v' hobject
    by_cases hl' : l' = l
    · rw [hl', Function.update_self] at hobject
      cases hobject
    · rw [Function.update_of_ne hl'] at hobject
      exact ⟨hl', hobject⟩
  constructor
  · intro l' n v' hobject
    exact h.lt_of_alive (halive hobject).2
  · intro n hn
    rcases List.mem_cons.mp hn with rfl | hn
    · exact h.lt_of_alive hl
    · exact h.lt_of_destroyed hn
  · exact List.nodup_cons.mpr ⟨h.not_destroyed hl, h.nodup⟩
  · intro l' n v' hobject hn
    obtain ⟨hne, hobject⟩ := halive hobject
    rcases List.mem_cons.mp hn with rfl | hn
    · exact hne (h.location_eq hobject hl)
    · exact h.not_destroyed hobject hn
  · intro l₁ l₂ n v₁ v₂ h₁ h₂
    exact h.location_eq (halive h₁).2 (halive h₂).2
  · intro n hn hdestroyed
    rw [List.mem_cons, not_or] at hdestroyed
    obtain ⟨l', v', hobject⟩ := h.alive_of_not_destroyed hn hdestroyed.2
    have hne : l' ≠ l := by
      rintro rfl
      rw [hl] at hobject
      cases hobject
      exact hdestroyed.1 rfl
    exact ⟨l', v', by rw [Function.update_of_ne hne, hobject]⟩

end Ledger

/-- Slots at the locations `L` for objects with contents in `V`. -/
structure Slots (L : Type u) (V : Type v) where
  /-- The number and the content of the object alive at a location. -/
  object : L → Option (Nat × V)
  /-- How many objects have been constructed. -/
  constructed : Nat
  /-- The numbers of the objects that have been destroyed. -/
  destroyed : List Nat
  ledger : Ledger object constructed destroyed

namespace Slots

variable {L : Type u} {V : Type v}

/-- The content of the object alive at a location. -/
def content (s : Slots L V) (l : L) : Option V := (s.object l).map Prod.snd

/-- Raw storage only. -/
def raw (L : Type u) (V : Type v) : Slots L V where
  object _ := none
  constructed := 0
  destroyed := []
  ledger := by constructor <;> simp

@[simp] theorem content_raw (l : L) : (raw L V).content l = none := rfl

/-! ### Operations -/

section Operations

variable [DecidableEq L] (s : Slots L V) (l : L)

/-- An object is constructed in raw storage. -/
def construct (v : V) : Except Misuse (Slots L V) :=
  match h : s.object l with
  | some _ => .error .constructsLive
  | none => .ok ⟨_, _, _, s.ledger.construct h v⟩

/-- The object at a location gets another content. -/
def assign (v : V) : Except Misuse (Slots L V) :=
  match h : s.object l with
  | none => .error .assignsDead
  | some _ => .ok ⟨_, _, _, s.ledger.assign h v⟩

def read : Except Misuse V :=
  match s.object l with
  | none => .error .readsDead
  | some (_, v) => .ok v

/-- The object at a location is destroyed. -/
def destroy : Except Misuse (Slots L V) :=
  match h : s.object l with
  | none => .error .destroysDead
  | some _ => .ok ⟨_, _, _, s.ledger.destroy h⟩

end Operations

/-! ### What the operations do -/

theorem content_eq_none {s : Slots L V} {l : L} : s.content l = none ↔ s.object l = none :=
  Option.map_eq_none_iff

theorem exists_object {s : Slots L V} {l : L} {v : V} (h : s.content l = some v) :
    ∃ n, s.object l = some (n, v) := by
  simpa [content] using h

theorem read_eq {s : Slots L V} {l : L} {v : V} (h : s.content l = some v) : s.read l = .ok v := by
  obtain ⟨n, hobject⟩ := exists_object h
  rw [read, hobject]

variable [DecidableEq L]

theorem content_update (object : L → Option (Nat × V)) (l l' : L) (x : Option (Nat × V)) :
    (Function.update object l x l').map Prod.snd =
      Function.update (fun l => (object l).map Prod.snd) l (x.map Prod.snd) l' := by
  by_cases h : l' = l
  · rw [h, Function.update_self, Function.update_self]
  · rw [Function.update_of_ne h, Function.update_of_ne h]

theorem exists_construct {s : Slots L V} {l : L} (h : s.content l = none) (v : V) :
    ∃ s', s.construct l v = .ok s' ∧ s'.content = Function.update s.content l (some v) := by
  have hobject : s.object l = none := content_eq_none.mp h
  unfold construct
  split
  · rename_i hsome
    rw [hobject] at hsome
    cases hsome
  · exact ⟨_, rfl, funext fun l' => content_update ..⟩

theorem exists_assign {s : Slots L V} {l : L} {old : V} (h : s.content l = some old) (v : V) :
    ∃ s', s.assign l v = .ok s' ∧ s'.content = Function.update s.content l (some v) := by
  obtain ⟨n, hobject⟩ := exists_object h
  unfold assign
  split
  · rename_i hnone
    rw [hobject] at hnone
    cases hnone
  · exact ⟨_, rfl, funext fun l' => content_update ..⟩

theorem exists_destroy {s : Slots L V} {l : L} {v : V} (h : s.content l = some v) :
    ∃ s', s.destroy l = .ok s' ∧ s'.content = Function.update s.content l none := by
  obtain ⟨n, hobject⟩ := exists_object h
  unfold destroy
  split
  · rename_i hnone
    rw [hobject] at hnone
    cases hnone
  · exact ⟨_, rfl, funext fun l' => content_update ..⟩

/-! ### Each object is destroyed once -/

omit [DecidableEq L] in
/-- **No object is destroyed twice.** -/
theorem count_destroyed_le (s : Slots L V) (n : Nat) : s.destroyed.count n ≤ 1 :=
  List.nodup_iff_count_le_one.mp s.ledger.nodup n

omit [DecidableEq L] in
/-- **Once nothing is alive, every object has been destroyed exactly once.** -/
theorem count_destroyed_eq {s : Slots L V} (h : ∀ l, s.content l = none) {n : Nat}
    (hn : n < s.constructed) : s.destroyed.count n = 1 := by
  by_cases hmem : n ∈ s.destroyed
  · exact List.count_eq_one_of_mem s.ledger.nodup hmem
  · obtain ⟨l, v, hobject⟩ := s.ledger.alive_of_not_destroyed hn hmem
    have hnone := content_eq_none.mp (h l)
    rw [hobject] at hnone
    cases hnone

end Slots

end AIStreams.Storage
