import Mathlib.Data.List.Basic
import Mathlib.Data.List.Nodup

/-!
# Objects loaded through an identity map

An object-relational mapper does not hand out rows: it hands out objects, and a class without
`equals` compares objects by *reference*.  Two loads of the same row are then two different
elements of a hash set, unless they go through the same persistence context — which keeps, for
each key, the one object it has already built.

* `Obj α` is an object: a reference and the row it was loaded from.
* `Session key` is the persistence context, whose fields say that it holds one object for a key
  and one for a reference.
* `Session.load` is how a row becomes an object, and `Session.find?` how one is met again.
* `addRef` and `containsRef` are the operations of a set of objects, by reference.

`Session.containsRef_iff` is what all this is for: among the objects of one session, comparing
references is comparing keys.
-/

set_option autoImplicit false

namespace IdentityMap

universe u v

variable {α : Type u} {κ : Type v}

/-- An object: its reference, and the row it was loaded from. -/
structure Obj (α : Type u) where
  /-- The reference, which is what `==` compares. -/
  ref : ℕ
  /-- The row the object holds. -/
  row : α
  deriving DecidableEq

/-- Add an object to a set of objects; an object already there is recognised by its reference. -/
def addRef (l : List (Obj α)) (o : Obj α) : List (Obj α) :=
  if l.any (fun o' => o'.ref == o.ref) then l else l ++ [o]

/-- Is the object, by reference, in the set? -/
def containsRef (l : List (Obj α)) (o : Obj α) : Bool := l.any fun o' => o'.ref == o.ref

/-- The objects loaded so far: one for each key, and one for each reference. -/
structure Session (key : α → κ) where
  /-- The objects, in the order they were loaded. -/
  objs : List (Obj α)
  /-- No key has two objects. -/
  keys_nodup : (objs.map fun o => key o.row).Nodup
  /-- References are handed out in order. -/
  refs_eq : objs.map Obj.ref = List.range objs.length

variable {key : α → κ}

/-- The empty persistence context a request starts with. -/
def Session.empty (key : α → κ) : Session key := ⟨[], by simp, by simp⟩

theorem Session.key_inj (s : Session key) {o o' : Obj α} (h : o ∈ s.objs) (h' : o' ∈ s.objs)
    (hk : key o.row = key o'.row) : o = o' :=
  List.inj_on_of_nodup_map s.keys_nodup h h' hk

theorem Session.ref_inj (s : Session key) {o o' : Obj α} (h : o ∈ s.objs) (h' : o' ∈ s.objs)
    (hr : o.ref = o'.ref) : o = o' :=
  List.inj_on_of_nodup_map (s.refs_eq ▸ List.nodup_range) h h' hr

/-- **Among the objects of one session, comparing references is comparing keys.** -/
theorem Session.containsRef_iff (s : Session key) {l : List (Obj α)} {o : Obj α}
    (hl : ∀ x ∈ l, x ∈ s.objs) (ho : o ∈ s.objs) :
    containsRef l o = true ↔ key o.row ∈ l.map fun x => key x.row := by
  simp only [containsRef, List.any_eq_true, beq_iff_eq, List.mem_map]
  constructor
  · rintro ⟨x, hx, hr⟩
    exact ⟨x, hx, by rw [s.ref_inj (hl x hx) ho hr]⟩
  · rintro ⟨x, hx, hk⟩
    exact ⟨x, hx, by rw [s.key_inj (hl x hx) ho hk]⟩

/-- Adding an object of the session to a set of its objects. -/
theorem Session.mem_addRef_iff (s : Session key) {l : List (Obj α)} {o x : Obj α}
    (hl : ∀ x ∈ l, x ∈ s.objs) (ho : o ∈ s.objs) : x ∈ addRef l o ↔ x ∈ l ∨ x = o := by
  rw [addRef]
  split
  · rename_i h
    simp only [List.any_eq_true, beq_iff_eq] at h
    obtain ⟨y, hy, hr⟩ := h
    have hyo : y = o := s.ref_inj (hl y hy) ho hr
    exact ⟨Or.inl, fun h => h.elim (fun h => h) fun he => he ▸ hyo ▸ hy⟩
  · simp

/-- A set of objects of one session never holds two objects with one key. -/
theorem Session.nodup_addRef (s : Session key) {l : List (Obj α)} {o : Obj α}
    (hl : ∀ x ∈ l, x ∈ s.objs) (ho : o ∈ s.objs) (hnd : (l.map fun x => key x.row).Nodup) :
    ((addRef l o).map fun x => key x.row).Nodup := by
  rw [addRef]
  split
  · exact hnd
  · rename_i h
    rw [List.map_append, List.map_singleton, List.nodup_append_comm]
    have hnot : key o.row ∉ l.map fun x => key x.row := by
      rwa [← s.containsRef_iff hl ho, containsRef]
    simpa using ⟨by simpa using hnot, hnd⟩

/-! ## Loading -/

variable [DecidableEq κ]

/-- The object the session already holds for a key. -/
def Session.find? (s : Session key) (k : κ) : Option (Obj α) :=
  s.objs.find? fun o => key o.row = k

theorem Session.mem_of_find? {s : Session key} {k : κ} {o : Obj α} (h : s.find? k = some o) :
    o ∈ s.objs ∧ key o.row = k :=
  ⟨List.mem_of_find?_eq_some h, by simpa using List.find?_some h⟩

/-- The session after a row that is not in it has been turned into a new object. -/
def Session.push (s : Session key) (x : α) (h : s.find? (key x) = none) : Session key where
  objs := s.objs ++ [⟨s.objs.length, x⟩]
  keys_nodup := by
    rw [Session.find?, List.find?_eq_none] at h
    rw [List.map_append, List.map_singleton, List.nodup_append_comm]
    simpa using ⟨by simpa using h, s.keys_nodup⟩
  refs_eq := by
    rw [List.map_append, s.refs_eq, List.length_append, List.length_singleton, List.range_succ]
    simp

/-- Turn a row into an object: the one the session holds for its key, or else a new one. -/
def Session.load (s : Session key) (x : α) : Obj α × Session key :=
  match h : s.find? (key x) with
  | some o => (o, s)
  | none => (⟨s.objs.length, x⟩, s.push x h)

theorem Session.load_key (s : Session key) (x : α) : key (s.load x).1.row = key x := by
  rw [Session.load]
  split
  · rename_i o h; exact (Session.mem_of_find? h).2
  · rfl

theorem Session.load_mem (s : Session key) (x : α) : (s.load x).1 ∈ (s.load x).2.objs := by
  rw [Session.load]
  split
  · rename_i o h; exact (Session.mem_of_find? h).1
  · simp [Session.push]

/-- Loading a row adds its object and no other. -/
theorem Session.mem_load_iff (s : Session key) (x : α) {o : Obj α} :
    o ∈ (s.load x).2.objs ↔ o ∈ s.objs ∨ o = (s.load x).1 := by
  rw [Session.load]
  split
  · rename_i o' h
    exact ⟨Or.inl, fun ho => ho.elim (fun ho => ho) fun he => he ▸ (Session.mem_of_find? h).1⟩
  · simp [Session.push]

theorem Session.mem_load {s : Session key} {o : Obj α} (x : α) (h : o ∈ s.objs) :
    o ∈ (s.load x).2.objs :=
  (s.mem_load_iff x).2 (Or.inl h)

/-- An object that was not there before holds the row just loaded. -/
theorem Session.row_mem_of_load {s : Session key} {x : α} {o : Obj α}
    (h : o ∈ (s.load x).2.objs) : o ∈ s.objs ∨ o.row = x := by
  rw [Session.load] at h
  split at h
  · exact Or.inl h
  · rcases List.mem_append.1 h with h | h
    · exact Or.inl h
    · rw [List.mem_singleton.1 h]
      exact Or.inr rfl

/-- Turn the rows of a result into objects, one after the other. -/
def Session.loadAll (s : Session key) : List α → List (Obj α) × Session key
  | [] => ([], s)
  | x :: xs =>
    let (o, s₁) := s.load x
    let (os, s₂) := s₁.loadAll xs
    (o :: os, s₂)

theorem Session.mem_loadAll {s : Session key} {o : Obj α} (xs : List α) (h : o ∈ s.objs) :
    o ∈ (s.loadAll xs).2.objs := by
  induction xs generalizing s with
  | nil => exact h
  | cons x xs ih => exact ih (Session.mem_load x h)

theorem Session.loadAll_mem (s : Session key) (xs : List α) :
    ∀ o ∈ (s.loadAll xs).1, o ∈ (s.loadAll xs).2.objs := by
  induction xs generalizing s with
  | nil => simp [Session.loadAll]
  | cons x xs ih =>
    intro o ho
    rcases List.mem_cons.1 ho with rfl | ho
    · exact Session.mem_loadAll xs (s.load_mem x)
    · exact ih _ o ho

/-- An object that was not there before holds one of the rows just loaded. -/
theorem Session.row_mem_of_loadAll {s : Session key} {xs : List α} {o : Obj α}
    (h : o ∈ (s.loadAll xs).2.objs) : o ∈ s.objs ∨ o.row ∈ xs := by
  induction xs generalizing s with
  | nil => exact Or.inl h
  | cons x xs ih =>
    rcases ih h with h | h
    · rcases Session.row_mem_of_load h with h | h
      · exact Or.inl h
      · exact Or.inr (List.mem_cons.2 (Or.inl h))
    · exact Or.inr (List.mem_cons_of_mem _ h)

/-- The objects of a result have the keys of its rows, in the same order. -/
theorem Session.loadAll_keys (s : Session key) (xs : List α) :
    ((s.loadAll xs).1.map fun o => key o.row) = xs.map key := by
  induction xs generalizing s with
  | nil => rfl
  | cons x xs ih =>
    rw [Session.loadAll, List.map_cons, List.map_cons, ih]
    simp [s.load_key x]

end IdentityMap
