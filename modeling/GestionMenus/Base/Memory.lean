import Mathlib.Logic.Function.Basic
import GestionMenus.Base.Runs

/-!
# A memory and its writes

A memory is a partial function from keys to values, and a write puts one value under one key, or
takes it away.  A sequence of writes is a run (`Runs.run write`).

This is the abstract side of a store whose requests each change one record.  When a machine follows
the writes its steps stand for, what it holds under a key is decided by the last of its steps that
writes to it (`lastWriteDecides`).
-/

set_option autoImplicit false

namespace Memory

open Runs

universe u v w x

variable {κ : Type u} {ν : Type v} [DecidableEq κ]

/-- A value for a key; `none` takes the key away. -/
structure Write (κ : Type u) (ν : Type v) where
  key : κ
  value : Option ν

/-- The memory after a write. -/
def write (m : κ → Option ν) (w : Write κ ν) : κ → Option ν := Function.update m w.key w.value

theorem write_self (m : κ → Option ν) (w : Write κ ν) : write m w w.key = w.value :=
  Function.update_self _ _ _

theorem write_of_ne {m : κ → Option ν} {w : Write κ ν} {k : κ} (h : w.key ≠ k) :
    write m w k = m k :=
  Function.update_of_ne h.symm _ _

/-- Writing twice is writing once. -/
theorem write_write (m : κ → Option ν) (w : Write κ ν) : write (write m w) w = write m w :=
  Function.update_idem _ _ _

/-- Writing what is there. -/
theorem write_eq_self {m : κ → Option ν} {w : Write κ ν} (h : m w.key = w.value) :
    write m w = m := by
  rw [write, ← h, Function.update_eq_self]

/-- A write, told by what is found under each key afterwards. -/
theorem eq_write {m m' : κ → Option ν} {w : Write κ ν} (hself : m' w.key = w.value)
    (hne : ∀ k, k ≠ w.key → m' k = m k) : m' = write m w := by
  funext k
  by_cases hk : k = w.key
  · rw [hk, hself, write_self]
  · rw [hne k hk, write_of_ne (Ne.symm hk)]

/-- A key nothing is written to keeps its value. -/
theorem run_write_of_forall_ne {m : κ → Option ν} {ws : List (Write κ ν)} {k : κ}
    (h : ∀ w ∈ ws, w.key ≠ k) : run write m ws k = m k := by
  induction ws using List.reverseRecOn with
  | nil => rfl
  | append_singleton ws w ih =>
    rw [run_concat, write_of_ne (h w (by simp)), ih]
    exact fun w' hw' => h w' (List.mem_append_left _ hw')

section Run

variable {σ : Type w} {ε : Type x}

/-- No step of the run writes to the key. -/
def Untouched (step : σ → ε → σ) (label : σ → ε → Option (Write κ ν)) (s : σ) (evs : List ε)
    (k : κ) : Prop :=
  ∀ a e b v, evs = a ++ e :: b → label (run step s a) e ≠ some ⟨k, v⟩

/-- The last step of the run that writes to the key decides what is found there; if there is none,
it is what was there at the start. -/
def LastWriteDecides (step : σ → ε → σ) (label : σ → ε → Option (Write κ ν))
    (m : σ → κ → Option ν) (s : σ) (evs : List ε) (k : κ) : Prop :=
  (Untouched step label s evs k ∧ m (run step s evs) k = m s k) ∨
    ∃ a e b v, evs = a ++ e :: b ∧ label (run step s a) e = some ⟨k, v⟩ ∧
      Untouched step label (step (run step s a) e) b k ∧ m (run step s evs) k = v

variable {step : σ → ε → σ} {label : σ → ε → Option (Write κ ν)} {s : σ}

omit [DecidableEq κ] in
theorem Untouched.concat {evs : List ε} {e : ε} {k : κ} (h : Untouched step label s evs k)
    (he : ∀ v, label (run step s evs) e ≠ some ⟨k, v⟩) :
    Untouched step label s (evs ++ [e]) k := by
  intro a e' b v hab
  rcases concat_eq_append_cons hab with ⟨rfl, rfl, -⟩ | ⟨b', -, hab⟩
  · exact he v
  · exact h a e' b' v hab

/-- **Who wrote what is found under a key**, in a machine whose memory follows the writes its steps
stand for. -/
theorem lastWriteDecides {m : σ → κ → Option ν} {evs : List ε}
    (h : m (run step s evs) = run write (m s) (trace step label s evs)) (k : κ) :
    LastWriteDecides step label m s evs k := by
  rw [LastWriteDecides, h]
  clear h
  induction evs using List.reverseRecOn with
  | nil => exact Or.inl ⟨fun a e b v h => absurd h (by simp), rfl⟩
  | append_singleton evs e ih =>
    rw [trace_concat, run_append]
    by_cases hlast : ∃ v, label (run step s evs) e = some ⟨k, v⟩
    · obtain ⟨v, hv⟩ := hlast
      refine Or.inr ⟨evs, e, [], v, rfl, hv, fun a e b v h => absurd h (by simp), ?_⟩
      rw [hv]
      exact write_self (run write (m s) (trace step label s evs)) ⟨k, v⟩
    · -- the last step leaves the key alone, so whoever decided before it still does
      rw [not_exists] at hlast
      have hkeep : run write (run write (m s) (trace step label s evs))
          (label (run step s evs) e).toList k = run write (m s) (trace step label s evs) k := by
        refine run_write_of_forall_ne ?_
        rintro ⟨k', v⟩ hw rfl
        exact hlast v (Option.mem_toList.1 hw)
      rw [hkeep]
      rcases ih with ⟨hno, heq⟩ | ⟨a, e', b, v, rfl, hv, hafter, heq⟩
      · exact Or.inl ⟨hno.concat hlast, heq⟩
      · refine Or.inr ⟨a, e', b ++ [e], v, by simp, hv, hafter.concat ?_, heq⟩
        rwa [← run_append_cons]

end Run

end Memory
