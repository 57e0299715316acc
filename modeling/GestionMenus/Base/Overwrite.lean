import GestionMenus.Base.Runs

/-!
# A value that is read, changed elsewhere, and written back

Several clients share one value.  A client reads it once, goes away with its copy, and some time
later overwrites the value with another one, without looking at what has become of it meanwhile.
This file is that protocol over arbitrary clients and values, and the one question about it: whose
value does a client hold when it writes?

* `Client` is what a client has done so far, `Register` the value and the clients, and
  `Register.step` one action of one client.
* `Quiet` is what actions other than a write can do: the value stays, and a client that holds a copy
  either had it already or has just read this value.
* `snapshot_of_second` — of two writes with none before and none between them, the second client
  holds what the first one wrote if it had read nothing before that, and the value of the beginning
  if it had.
-/

set_option autoImplicit false

namespace Overwrite

open Runs

universe u v

variable {ι : Type u} {γ : Type v}

/-- What a client has done so far. -/
inductive Client (γ : Type v) where
  | idle
  /-- It has read the value. -/
  | holds (seen : γ)
  /-- It has read one value and written another. -/
  | wrote (seen written : γ)
  /-- It has given up. -/
  | gone

/-- A shared value and its clients. -/
structure Register (ι : Type u) (γ : Type v) where
  value : γ
  client : ι → Client γ

/-- One action of one client. -/
inductive Event (ι : Type u) (γ : Type v) where
  | read (i : ι)
  | write (i : ι) (written : γ)
  | leave (i : ι)

/-- Is it a write? -/
def Event.IsWrite : Event ι γ → Prop
  | .write _ _ => True
  | .read _ | .leave _ => False

namespace Register

variable [DecidableEq ι]

/-- Set what a client has done. -/
def set (r : Register ι γ) (i : ι) (c : Client γ) : Register ι γ :=
  { r with client := fun k => if k = i then c else r.client k }

/-- One action.  A client reads once and writes once. -/
def step (r : Register ι γ) : Event ι γ → Register ι γ
  | .read i =>
    match r.client i with
    | .idle => r.set i (.holds r.value)
    | _ => r
  | .write i written =>
    match r.client i with
    | .holds seen => { r.set i (.wrote seen written) with value := written }
    | _ => r
  | .leave i => r.set i .gone

theorem set_client (r : Register ι γ) (i : ι) : r.set i (r.client i) = r := by
  rw [set]
  congr 1
  funext k
  split
  · rename_i h
    rw [h]
  · rfl

theorem step_read {r : Register ι γ} {i : ι} (h : r.client i = .idle) :
    r.step (.read i) = r.set i (.holds r.value) := by
  rw [step, h]

theorem step_write {r : Register ι γ} {i : ι} {seen : γ} (h : r.client i = .holds seen)
    (written : γ) :
    r.step (.write i written) = { r.set i (.wrote seen written) with value := written } := by
  rw [step, h]

end Register

/-- What can happen while nobody writes. -/
structure Quiet (r r' : Register ι γ) : Prop where
  value_eq : r'.value = r.value
  idle : ∀ i, r'.client i = .idle → r.client i = .idle
  holds : ∀ i seen, r'.client i = .holds seen →
    r.client i = .holds seen ∨ r.client i = .idle ∧ seen = r.value

theorem Quiet.refl (r : Register ι γ) : Quiet r r := ⟨rfl, fun _ h => h, fun _ _ h => Or.inl h⟩

theorem Quiet.trans {r₁ r₂ r₃ : Register ι γ} (h : Quiet r₁ r₂) (h' : Quiet r₂ r₃) :
    Quiet r₁ r₃ := by
  refine ⟨h'.value_eq.trans h.value_eq, fun i hi => h.idle i (h'.idle i hi), ?_⟩
  intro i seen hi
  rcases h'.holds i seen hi with hheld | ⟨hidle, hseen⟩
  · exact h.holds i seen hheld
  · exact Or.inr ⟨h.idle i hidle, hseen.trans h.value_eq⟩

variable [DecidableEq ι]

/-- **An action that is not a write is quiet.** -/
theorem Quiet.step (r : Register ι γ) {e : Event ι γ} (he : ¬ e.IsWrite) : Quiet r (r.step e) := by
  cases e with
  | read k =>
    rw [Register.step]
    split
    · rename_i hk
      refine ⟨rfl, ?_, ?_⟩
      · intro i hi
        simp only [Register.set] at hi
        split at hi
        · exact absurd hi (by simp)
        · exact hi
      · intro i seen hi
        simp only [Register.set] at hi
        split at hi
        · rename_i hik
          cases hi
          exact Or.inr ⟨hik ▸ hk, rfl⟩
        · exact Or.inl hi
    · exact Quiet.refl r
  | write k written => exact absurd trivial he
  | leave k =>
    refine ⟨rfl, ?_, ?_⟩
    · intro i hi
      simp only [Register.step, Register.set] at hi
      split at hi
      · exact absurd hi (by simp)
      · exact hi
    · intro i seen hi
      simp only [Register.step, Register.set] at hi
      split at hi
      · exact absurd hi (by simp)
      · exact Or.inl hi

/-- **Whose value the second of two writers holds.**  Nobody has read anything at the beginning, `i`
writes, and then `j` is about to write, nobody else having written.  Then `i` holds the value of the
beginning, and so does `j` if it read before the first write; otherwise it holds what `i` wrote. -/
theorem snapshot_of_second {r₀ r₁ r₂ : Register ι γ} (hidle : ∀ k, r₀.client k = .idle) {i j : ι}
    (hij : j ≠ i) (h₁ : Quiet r₀ r₁) {seen : γ} (hi : r₁.client i = .holds seen) {written : γ}
    (h₂ : Quiet (r₁.step (.write i written)) r₂) {seen' : γ} (hj : r₂.client j = .holds seen') :
    seen = r₀.value ∧ (r₁.client j = .idle → seen' = written) ∧
      (r₁.client j ≠ .idle → seen' = r₀.value) := by
  rw [Register.step_write hi] at h₂
  have hfresh : ∀ k u, r₁.client k = .holds u → u = r₀.value := by
    intro k u hk
    rcases h₁.holds k u hk with hheld | ⟨-, hu⟩
    · rw [hidle k] at hheld
      exact absurd hheld (by simp)
    · exact hu
  have hsecond : r₁.client j = .holds seen' ∨ r₁.client j = .idle ∧ seen' = written := by
    simpa [Register.set, hij] using h₂.holds j seen' hj
  refine ⟨hfresh i seen hi, ?_, ?_⟩
  · intro hwait
    rw [hwait] at hsecond
    exact (hsecond.resolve_left (by simp)).2
  · intro hread
    exact hfresh j seen' (hsecond.resolve_right fun h => hread h.1)

end Overwrite
