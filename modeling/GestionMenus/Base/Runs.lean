import Mathlib.Data.List.Basic
import Mathlib.Data.List.Induction
import Mathlib.Logic.Relation

/-!
# Runs of a state machine

A server that answers the requests of any number of clients is, once every request has been cut
into its atomic calls, a function `step : σ → ε → σ` folded over whatever order the calls happen
to come in.  `run step s evs` is that fold; quantifying over `evs` is quantifying over all the
interleavings.

Two rules are enough for everything proved about runs here:

* `run_induction` — a property of the history and the state it leads to is proved one call at a
  time, at the end of the history;
* `exists_step_of_lost` — the blame rule: when something true at one point of a run is false at a
  later one, some call in between made it false.

`forall_split_concat_iff` goes with the first: a condition on every occurrence of some call in the
history is carried along one call at a time.

A machine is compared with a simpler one through what its steps stand for: `trace label` is the list
of the actions of a run, and `abs_run` says that a run whose steps each do their action, seen
through an abstraction function, is the run of those actions on the simpler machine.
`exists_run_iff` is about what can be reached: when every step is seen as a step of a relation or
not at all, and every step of the relation can be made by some run, the states seen at the end of
runs are those the relation leads to.
-/

set_option autoImplicit false

namespace Runs

universe u v w x

variable {σ : Type u} {ε : Type v} {τ : Type w} {α : Type x} (step : σ → ε → σ)

/-- The state a run leads to. -/
def run (s : σ) (evs : List ε) : σ := evs.foldl step s

theorem run_append (s : σ) (a b : List ε) : run step s (a ++ b) = run step (run step s a) b :=
  List.foldl_append

@[simp] theorem run_concat (s : σ) (a : List ε) (e : ε) :
    run step s (a ++ [e]) = step (run step s a) e := by
  rw [run_append]
  rfl

theorem run_append_cons (s : σ) (a b : List ε) (e : ε) :
    run step s (a ++ e :: b) = run step (step (run step s a) e) b := by
  rw [run_append]
  rfl

variable {step}

/-- **Induction along a run**, on its last step. -/
theorem run_induction {s : σ} {P : List ε → σ → Prop} (h0 : P [] s)
    (hstep : ∀ evs e, P evs (run step s evs) → P (evs ++ [e]) (step (run step s evs) e))
    (evs : List ε) : P evs (run step s evs) := by
  induction evs using List.reverseRecOn with
  | nil => exact h0
  | append_singleton evs e ih =>
    rw [run_concat]
    exact hstep evs e ih

/-- A property every step keeps holds of every state reached. -/
theorem run_invariant {s : σ} {P : σ → Prop} (h0 : P s) (hstep : ∀ s e, P s → P (step s e))
    (evs : List ε) : P (run step s evs) :=
  run_induction (P := fun _ t => P t) h0 (fun _ e h => hstep _ e h) evs

/-- **The blame rule**: what held at the start of a run and does not hold at its end was made false
by one of its steps. -/
theorem exists_step_of_lost {s : σ} {P : σ → Prop} {evs : List ε} (h : P s)
    (hlost : ¬ P (run step s evs)) :
    ∃ a e b, evs = a ++ e :: b ∧ P (run step s a) ∧ ¬ P (step (run step s a) e) := by
  induction evs using List.reverseRecOn with
  | nil => exact absurd h hlost
  | append_singleton evs e ih =>
    by_cases hp : P (run step s evs)
    · exact ⟨evs, e, [], rfl, hp, by rwa [run_concat] at hlost⟩
    · obtain ⟨a, e', b, rfl, ha, he⟩ := ih hp
      exact ⟨a, e', b ++ [e], by simp, ha, he⟩

/-- A condition on every occurrence of an event in a history, one event later. -/
theorem forall_split_concat_iff {x : ε} {Q : List ε → Prop} (evs : List ε) (e : ε) :
    (∀ a b, evs ++ [e] = a ++ x :: b → Q a) ↔
      (∀ a b, evs = a ++ x :: b → Q a) ∧ (e = x → Q evs) := by
  refine ⟨?_, ?_⟩
  · intro h
    exact ⟨fun a b hab => h a (b ++ [e]) (by simp [hab]), fun he => h evs [] (by simp [he])⟩
  · rintro ⟨h, he⟩ a b hab
    rcases List.eq_nil_or_concat b with rfl | ⟨b, y, rfl⟩
    · obtain ⟨rfl, hx⟩ := List.append_inj' hab rfl
      exact he (List.cons.inj hx).1
    · rw [List.concat_eq_append, ← List.cons_append, ← List.append_assoc] at hab
      exact h a b (List.append_inj' hab rfl).1

/-- A place in a history, one event later: the end of it, or a place there was before. -/
theorem concat_eq_append_cons {evs a b : List ε} {e x : ε} (h : evs ++ [e] = a ++ x :: b) :
    (a = evs ∧ x = e ∧ b = []) ∨ ∃ b', b = b' ++ [e] ∧ evs = a ++ x :: b' := by
  rcases List.eq_nil_or_concat b with rfl | ⟨b', y, rfl⟩
  · obtain ⟨rfl, hx⟩ := List.append_inj' h rfl
    exact Or.inl ⟨rfl, (List.cons.inj hx).1.symm, rfl⟩
  · rw [List.concat_eq_append, ← List.cons_append, ← List.append_assoc] at h
    obtain ⟨h, hy⟩ := List.append_inj' h rfl
    exact Or.inr ⟨b', by rw [List.concat_eq_append, (List.cons.inj hy).1], h⟩

/-! ## What a run is seen to do -/

/-- The actions of a run, when `label` says which one, if any, a step stands for. -/
def trace (step : σ → ε → σ) (label : σ → ε → Option α) (s : σ) : List ε → List α
  | [] => []
  | e :: evs => (label s e).toList ++ trace step label (step s e) evs

variable {label : σ → ε → Option α}

theorem trace_append (s : σ) (a b : List ε) :
    trace step label s (a ++ b) = trace step label s a ++ trace step label (run step s a) b := by
  induction a generalizing s with
  | nil => rfl
  | cons e a ih =>
    rw [List.cons_append, trace, ih, trace, List.append_assoc]
    rfl

theorem trace_concat (s : σ) (a : List ε) (e : ε) :
    trace step label s (a ++ [e]) =
      trace step label s a ++ (label (run step s a) e).toList := by
  rw [trace_append, trace, trace, List.append_nil]

/-- **Simulation along a run**: when every step of the run does its action on the abstract state,
the abstract state follows the actions of the run. -/
theorem abs_run {f : σ → τ} {act : τ → α → τ} {s : σ} {evs : List ε}
    (h : ∀ a e b, evs = a ++ e :: b →
      f (step (run step s a) e) = run act (f (run step s a)) (label (run step s a) e).toList) :
    f (run step s evs) = run act (f s) (trace step label s evs) := by
  induction evs using List.reverseRecOn with
  | nil => rfl
  | append_singleton evs e ih =>
    rw [run_concat, h evs e [] rfl, trace_concat, run_append, ih]
    intro a e' b hab
    exact h a e' (b ++ [e]) (by rw [hab]; simp)

/-- **What can be reached**, seen through an abstraction function: what the relation `r` leads to,
when every step is one of `r` or is not seen, and every step of `r` is what some run is seen as.
Both may rely on an invariant. -/
theorem exists_run_iff {f : σ → τ} {inv : σ → Prop} {ok : ε → Prop} {r : τ → τ → Prop}
    (hinv : ∀ s e, inv s → ok e → inv (step s e))
    (hstep : ∀ s e, inv s → ok e → f (step s e) = f s ∨ r (f s) (f (step s e)))
    (hrun : ∀ s y, inv s → r (f s) y → ∃ evs, (∀ e ∈ evs, ok e) ∧ f (run step s evs) = y)
    {s : σ} (hs : inv s) (y : τ) :
    (∃ evs, (∀ e ∈ evs, ok e) ∧ f (run step s evs) = y) ↔ Relation.ReflTransGen r (f s) y := by
  have hinv_run : ∀ evs, (∀ e ∈ evs, ok e) → inv (run step s evs) := by
    intro evs
    induction evs using List.reverseRecOn with
    | nil => exact fun _ => hs
    | append_singleton evs e ih =>
      intro hok
      rw [run_concat]
      exact hinv _ e (ih fun x hx => hok x (List.mem_append_left _ hx)) (hok e (by simp))
  refine ⟨?_, fun h => ?_⟩
  · rintro ⟨evs, hok, rfl⟩
    induction evs using List.reverseRecOn with
    | nil => exact .refl
    | append_singleton evs e ih =>
      have hok' : ∀ x ∈ evs, ok x := fun x hx => hok x (List.mem_append_left _ hx)
      rw [run_concat]
      rcases hstep _ e (hinv_run evs hok') (hok e (by simp)) with h | h
      · rw [h]
        exact ih hok'
      · exact (ih hok').tail h
  · induction h with
    | refl => exact ⟨[], by simp, rfl⟩
    | tail _ h ih =>
      obtain ⟨evs, hok, rfl⟩ := ih
      obtain ⟨evs', hok', he⟩ := hrun _ _ (hinv_run evs hok) h
      refine ⟨evs ++ evs', ?_, by rw [run_append, he]⟩
      intro e hmem
      exact (List.mem_append.1 hmem).elim (hok e) (hok' e)

end Runs
