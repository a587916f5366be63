import Mathlib.Data.Finmap
import Mathlib.Tactic.Abel

/-!
# Programs on a heap

Objects are made with `new` and given back with `delete`, which does nothing with a null pointer.
Whatever touches a pointer that is null, or whose object is gone, is a `HeapFault`.

`Triple own m post`: on a heap that holds the objects `own`, and any others, `m` runs without a
fault, leaves the others alone, and returns a value that `post` holds of, with the objects that are
then there in place of `own`.  The others are in the definition, so that every triple can be framed;
and what is not given back is still there.

* `Triple.bind`, `Triple.frame`: triples are put together, and used within larger ones.
* `Triple.new_bind`, `Triple.delete_bind`, `Triple.get_bind`, `Triple.modify_bind`: a program is run
  step by step.
-/

namespace AIStreams.Storage

/-! ### Heaps -/

inductive HeapFault
  | nullPointer
  | danglingPointer
  | wrongKind
  deriving DecidableEq

/-- `NULL`, or an address. -/
abbrev Pointer := Option ℕ

/-- The objects that are there, and the next address. -/
structure Heap (V : Type) where
  objects : Finmap fun _ : ℕ => V
  next : ℕ
  lt_next : ∀ a ∈ objects, a < next

/-- Some objects, by their addresses. -/
abbrev Objects (V : Type) := Multiset (Σ _ : ℕ, V)

/-- The one object `v` at `a`. -/
def pointsTo {V : Type} (a : ℕ) (v : V) : Objects V := {⟨a, v⟩}

namespace Heap

variable {V : Type}

def empty : Heap V := ⟨∅, 0, fun _ ha => absurd ha Finmap.notMem_empty⟩

/-- The heap with another value at an address that is in use, or is the next. -/
def insert (h : Heap V) (a : ℕ) (v : V) : Heap V where
  objects := h.objects.insert a v
  next := max h.next (a + 1)
  lt_next := by
    intro b hb
    rcases Finmap.mem_insert.mp hb with rfl | hb
    · exact Nat.lt_of_lt_of_le (Nat.lt_succ_self b) (Nat.le_max_right _ _)
    · exact Nat.lt_of_lt_of_le (h.lt_next b hb) (Nat.le_max_left _ _)

/-- The heap without the object at an address. -/
def erase (h : Heap V) (a : ℕ) : Heap V where
  objects := h.objects.erase a
  next := h.next
  lt_next b hb := h.lt_next b (Finmap.mem_erase.mp hb).2

theorem next_notMem (h : Heap V) : h.next ∉ h.objects :=
  fun hmem => Nat.lt_irrefl _ (h.lt_next _ hmem)

variable {h : Heap V} {a : ℕ} {v : V} {R : Objects V}

theorem lookup_of_entries (he : h.objects.entries = pointsTo a v + R) :
    h.objects.lookup a = some v := by
  refine Finmap.lookup_eq_some_iff.mpr ?_
  rw [he]
  exact Multiset.mem_add.mpr (Or.inl (Multiset.mem_singleton_self _))

theorem erase_entries (he : h.objects.entries = pointsTo a v + R) :
    (h.erase a).objects.entries = R := by
  have hinsert : (h.objects.erase a).insert a v = h.objects := by
    refine Finmap.ext_lookup fun b => ?_
    by_cases hb : b = a
    · rw [hb, Finmap.lookup_insert, lookup_of_entries he]
    · rw [Finmap.lookup_insert_of_ne _ hb, Finmap.lookup_erase_ne hb]
  have hsplit := Finmap.entries_insert_of_notMem (b := v)
    (Finmap.notMem_erase_self (a := a) (s := h.objects))
  rw [hinsert, he] at hsplit
  exact ((Multiset.cons_inj_right _).mp hsplit).symm

theorem insert_next_entries (h : Heap V) (v : V) :
    (h.insert h.next v).objects.entries = pointsTo h.next v + h.objects.entries :=
  Finmap.entries_insert_of_notMem h.next_notMem

theorem insert_entries (he : h.objects.entries = pointsTo a v + R) (w : V) :
    (h.insert a w).objects.entries = pointsTo a w + R := by
  have hinsert : (h.erase a).objects.insert a w = h.objects.insert a w := by
    refine Finmap.ext_lookup fun b => ?_
    by_cases hb : b = a
    · rw [hb, Finmap.lookup_insert, Finmap.lookup_insert]
    · rw [Finmap.lookup_insert_of_ne _ hb, Finmap.lookup_insert_of_ne _ hb]
      exact Finmap.lookup_erase_ne hb
  show (h.objects.insert a w).entries = _
  rw [← hinsert, Finmap.entries_insert_of_notMem (show a ∉ (h.erase a).objects from
    Finmap.notMem_erase_self), erase_entries he]
  rfl

end Heap

/-! ### Programs -/

/-- A program that works on a heap. -/
def HeapM (V α : Type) : Type :=
  Heap V → Except HeapFault (α × Heap V)

/-- The values of one type among all that a heap may hold. -/
structure Kind (V α : Type) where
  pack : α → V
  unpack : V → Option α
  unpack_pack : ∀ x, unpack (pack x) = some x

namespace HeapM

variable {V α β : Type}

protected def pure (a : α) : HeapM V α := fun h => .ok (a, h)

protected def bind (m : HeapM V α) (f : α → HeapM V β) : HeapM V β := fun h =>
  match m h with
  | .error e => .error e
  | .ok (a, h) => f a h

instance : Monad (HeapM V) where
  pure := HeapM.pure
  bind := HeapM.bind

def fault (e : HeapFault) : HeapM V α := fun _ => .error e

def new (v : V) : HeapM V Pointer := fun h => .ok (some h.next, h.insert h.next v)

def read : Pointer → HeapM V V
  | none => fault .nullPointer
  | some a => fun h =>
    match h.objects.lookup a with
    | none => .error .danglingPointer
    | some v => .ok (v, h)

def write (p : Pointer) (v : V) : HeapM V Unit :=
  match p with
  | none => fault .nullPointer
  | some a => fun h => if a ∈ h.objects then .ok ((), h.insert a v) else .error .danglingPointer

/-- `delete`, or `free`. -/
def delete : Pointer → HeapM V Unit
  | none => HeapM.pure ()
  | some a => fun h => if a ∈ h.objects then .ok ((), h.erase a) else .error .danglingPointer

/-- The value of a kind that a pointer points to. -/
def get (k : Kind V α) (p : Pointer) : HeapM V α := do
  match k.unpack (← HeapM.read p) with
  | none => fault .wrongKind
  | some x => HeapM.pure x

/-- The value of a kind that a pointer points to is changed. -/
def modify (k : Kind V α) (p : Pointer) (f : α → α) : HeapM V Unit := do
  write p (k.pack (f (← get k p)))

theorem bind_eq_of_ok {m : HeapM V α} {f : α → HeapM V β} {h h' : Heap V} {a : α}
    (hm : m h = .ok (a, h')) : (m >>= f) h = f a h' := by
  show HeapM.bind m f h = _
  rw [HeapM.bind, hm]

theorem bind_assoc {γ : Type} (m : HeapM V α) (f : α → HeapM V β) (g : β → HeapM V γ) :
    (m >>= f) >>= g = m >>= fun a => f a >>= g := by
  funext h
  show HeapM.bind (HeapM.bind m f) g h = HeapM.bind m (fun a => HeapM.bind (f a) g) h
  unfold HeapM.bind
  cases m h <;> rfl

theorem bind_pure (m : HeapM V α) : m >>= HeapM.pure = m := by
  funext h
  show HeapM.bind m HeapM.pure h = m h
  unfold HeapM.bind
  cases m h <;> rfl

variable {h : Heap V} {a : ℕ} {v : V} {R : Objects V}

theorem read_eq_ok (he : h.objects.entries = pointsTo a v + R) :
    HeapM.read (some a) h = .ok (v, h) := by
  show (match h.objects.lookup a with
    | none => Except.error HeapFault.danglingPointer
    | some v => Except.ok (v, h)) = _
  rw [Heap.lookup_of_entries he]

theorem write_eq_ok (he : h.objects.entries = pointsTo a v + R) (w : V) :
    write (some a) w h = .ok ((), h.insert a w) :=
  if_pos (Finmap.mem_of_lookup_eq_some (Heap.lookup_of_entries he))

theorem delete_eq_ok (he : h.objects.entries = pointsTo a v + R) :
    delete (some a) h = .ok ((), h.erase a) :=
  if_pos (Finmap.mem_of_lookup_eq_some (Heap.lookup_of_entries he))

end HeapM

/-! ### Triples -/

/-- `m` runs without a fault where the objects `own` are, and leaves all others alone. -/
def Triple {V α : Type} (own : Objects V) (m : HeapM V α)
    (post : α → Objects V → Prop) : Prop :=
  ∀ (h : Heap V) (frame : Objects V), h.objects.entries = own + frame →
    ∃ a h' own', m h = .ok (a, h') ∧ h'.objects.entries = own' + frame ∧ post a own'

namespace Triple

open HeapM

variable {V α β : Type} {own R : Objects V} {m : HeapM V α}
  {f : α → HeapM V β} {post : α → Objects V → Prop} {post' : β → Objects V → Prop}

/-- What a triple says of a run. -/
theorem of_run {h h' : Heap V} {frame : Objects V} {a : α} (ht : Triple own m post)
    (hframe : h.objects.entries = own + frame) (hm : m h = .ok (a, h')) :
    ∃ own', h'.objects.entries = own' + frame ∧ post a own' := by
  obtain ⟨a', h'', own', hm', hentries, hpost⟩ := ht h frame hframe
  cases hm.symm.trans hm'
  exact ⟨own', hentries, hpost⟩

theorem exists_run {h : Heap V} {frame : Objects V} (ht : Triple own m post)
    (hframe : h.objects.entries = own + frame) : ∃ a h', m h = .ok (a, h') := by
  obtain ⟨a, h', _, hm, _, _⟩ := ht h frame hframe
  exact ⟨a, h', hm⟩

theorem mono {post₁ post₂ : α → Objects V → Prop} (ht : Triple own m post₁)
    (hpost : ∀ a own', post₁ a own' → post₂ a own') : Triple own m post₂ := by
  intro h frame hframe
  obtain ⟨a, h', own', hm, hentries, ha⟩ := ht h frame hframe
  exact ⟨a, h', own', hm, hentries, hpost a own' ha⟩

theorem pure {a : α} (ha : post a own) : Triple own (HeapM.pure a) post :=
  fun h _ hframe => ⟨a, h, own, rfl, hframe, ha⟩

theorem bind {mid : α → Objects V → Prop} (hm : Triple own m mid)
    (hf : ∀ a own', mid a own' → Triple own' (f a) post') : Triple own (m >>= f) post' := by
  intro h frame hframe
  obtain ⟨a, h₁, own₁, hrun, hentries, hmid⟩ := hm h frame hframe
  obtain ⟨b, h₂, own₂, hrun', hentries', hpost⟩ := hf a own₁ hmid h₁ frame hentries
  refine ⟨b, h₂, own₂, ?_, hentries', hpost⟩
  rw [bind_eq_of_ok hrun]
  exact hrun'

/-- **The frame rule.** -/
theorem frame (ht : Triple own m post) (R : Objects V) :
    Triple (own + R) m fun a own' => ∃ own₁, own' = own₁ + R ∧ post a own₁ := by
  intro h frame hframe
  rw [add_assoc] at hframe
  obtain ⟨a, h', own', hm, hentries, hpost⟩ := ht h (R + frame) hframe
  rw [← add_assoc] at hentries
  exact ⟨a, h', own' + R, hm, hentries, own', rfl, hpost⟩

/-- **A program within another**, which keeps what it does not hand to it. -/
theorem call {part : Objects V} (hm : Triple part m post) (hown : own = part + R)
    (hf : ∀ a part', post a part' → Triple (part' + R) (f a) post') :
    Triple own (m >>= f) post' := by
  rw [hown]
  refine bind (hm.frame R) ?_
  rintro a own' ⟨part', rfl, ha⟩
  exact hf a part' ha

/-- The same at the end of a program. -/
theorem tail {part : Objects V} {mid : α → Objects V → Prop} (hm : Triple part m mid)
    (hown : own = part + R) (hpost : ∀ a part', mid a part' → post a (part' + R)) :
    Triple own m post := by
  rw [hown]
  refine (hm.frame R).mono ?_
  rintro a own' ⟨part', rfl, ha⟩
  exact hpost a part' ha

/-! ### Step by step -/

variable {a : ℕ} {v : V}

theorem new_bind {f : Pointer → HeapM V β}
    (hf : ∀ a, Triple (pointsTo a v + own) (f (some a)) post') :
    Triple own (new v >>= f) post' := by
  intro h frame hframe
  refine hf h.next (h.insert h.next v) frame ?_
  rw [Heap.insert_next_entries, hframe, add_assoc]

theorem read_bind {f : V → HeapM V β} (hown : own = pointsTo a v + R)
    (hf : Triple own (f v) post') : Triple own (HeapM.read (some a) >>= f) post' := by
  intro h frame hframe
  have hread : HeapM.read (some a) h = .ok (v, h) := by
    rw [hown, add_assoc] at hframe
    exact read_eq_ok hframe
  rw [bind_eq_of_ok hread]
  exact hf h frame hframe

theorem write_bind {f : Unit → HeapM V β} {w : V} (hown : own = pointsTo a v + R)
    (hf : Triple (pointsTo a w + R) (f ()) post') :
    Triple own (write (some a) w >>= f) post' := by
  intro h frame hframe
  rw [hown, add_assoc] at hframe
  rw [bind_eq_of_ok (write_eq_ok hframe w)]
  refine hf _ frame ?_
  rw [Heap.insert_entries hframe, add_assoc]

theorem delete_bind {f : Unit → HeapM V β} (hown : own = pointsTo a v + R)
    (hf : Triple R (f ()) post') : Triple own (delete (some a) >>= f) post' := by
  intro h frame hframe
  rw [hown, add_assoc] at hframe
  rw [bind_eq_of_ok (delete_eq_ok hframe)]
  exact hf _ frame (Heap.erase_entries hframe)

theorem get_bind {γ : Type} {k : Kind V γ} {x : γ} {f : γ → HeapM V β}
    (hown : own = pointsTo a (k.pack x) + R) (hf : Triple own (f x) post') :
    Triple own (get k (some a) >>= f) post' := by
  unfold HeapM.get
  rw [HeapM.bind_assoc]
  refine read_bind hown ?_
  rw [k.unpack_pack]
  exact hf

theorem modify_bind {γ : Type} {k : Kind V γ} {x : γ} {g : γ → γ} {f : Unit → HeapM V β}
    (hown : own = pointsTo a (k.pack x) + R)
    (hf : Triple (pointsTo a (k.pack (g x)) + R) (f ()) post') :
    Triple own (modify k (some a) g >>= f) post' := by
  unfold HeapM.modify
  rw [HeapM.bind_assoc]
  exact get_bind hown (write_bind hown hf)

/-- The same at the end of a program. -/
theorem modify_last {γ : Type} {k : Kind V γ} {x : γ} {g : γ → γ}
    {post : Unit → Objects V → Prop} (hown : own = pointsTo a (k.pack x) + R)
    (hpost : post () (pointsTo a (k.pack (g x)) + R)) :
    Triple own (modify k (some a) g) post := by
  have h := modify_bind (f := HeapM.pure) (g := g) hown (Triple.pure hpost)
  rwa [HeapM.bind_pure] at h

theorem delete_last {post : Unit → Objects V → Prop} (hown : own = pointsTo a v + R)
    (hpost : post () R) : Triple own (delete (some a)) post := by
  have h := delete_bind (f := HeapM.pure) hown (Triple.pure hpost)
  rwa [HeapM.bind_pure] at h

theorem delete_null_bind {f : Unit → HeapM V β} (hf : Triple own (f ()) post') :
    Triple own (delete none >>= f) post' := hf

end Triple

end AIStreams.Storage
