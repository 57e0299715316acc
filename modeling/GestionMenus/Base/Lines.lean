import Mathlib.Data.List.Basic

/-!
# Line breaks

A line break is spelled CR LF, LF or CR.  A page that is read in has LF for each of them, and a form
that is sent has CR LF.

* `normalize` and `toCrLf` are the two ways, and `textarea` is the value of a text area whose
  element is written out with a text: a break right after its start tag does not count.
* `CrLf` says that every break of a text is CR LF.  `toCrLf_textarea_iff` says which texts come back
  from a text area as they were.
-/

set_option autoImplicit false

namespace Lines

/-- CR LF in the place of LF. -/
def toCrLf (s : List Char) : List Char :=
  s.flatMap fun c => if c = '\n' then ['\r', '\n'] else [c]

/-- LF in the place of every line break. -/
def normalize : List Char → List Char
  | [] => []
  | '\r' :: '\n' :: s => '\n' :: normalize s
  | c :: s => (if c = '\r' then '\n' else c) :: normalize s

/-- The value of a text area with this text. -/
def textarea (s : List Char) : List Char :=
  match normalize s with
  | '\n' :: t => t
  | t => t

/-- Every line break is CR LF. -/
def CrLf : List Char → Bool
  | [] => true
  | '\r' :: '\n' :: s => CrLf s
  | c :: s => c != '\r' && c != '\n' && CrLf s

theorem not_mem_normalize (s : List Char) : '\r' ∉ normalize s := by
  fun_induction normalize s with
  | case1 => simp
  | case2 s ih => simpa using ih
  | case3 c s _ ih =>
    rw [List.mem_cons, not_or]
    refine ⟨?_, ih⟩
    split
    · decide
    · rename_i hc
      exact Ne.symm hc

theorem toCrLf_cons_of_ne {c : Char} (hc : c ≠ '\n') (s : List Char) :
    toCrLf (c :: s) = c :: toCrLf s := by
  simp [toCrLf, hc]

theorem crLf_toCrLf {s : List Char} (h : '\r' ∉ s) : CrLf (toCrLf s) = true := by
  induction s with
  | nil => rfl
  | cons c s ih =>
    rw [List.mem_cons, not_or] at h
    by_cases hc : c = '\n'
    · subst hc
      exact ih h.2
    · rw [toCrLf_cons_of_ne hc, CrLf]
      · simp [Ne.symm h.1, hc, ih h.2]
      · rintro t rfl
        exact absurd rfl h.1

theorem toCrLf_normalize {s : List Char} (h : CrLf s = true) : toCrLf (normalize s) = s := by
  fun_induction CrLf s with
  | case1 => rfl
  | case2 s ih =>
    show '\r' :: '\n' :: toCrLf (normalize s) = _
    rw [ih h]
  | case3 c s hbreak ih =>
    simp only [Bool.and_eq_true, bne_iff_ne] at h
    obtain ⟨⟨hcr, hlf⟩, hs⟩ := h
    rw [normalize, if_neg hcr, toCrLf_cons_of_ne hlf, ih hs]
    exact hbreak

theorem not_mem_textarea (s : List Char) : '\r' ∉ textarea s := by
  have h := not_mem_normalize s
  rw [textarea]
  split
  · rename_i t ht
    rw [ht] at h
    exact fun hmem => h (List.mem_cons_of_mem _ hmem)
  · exact h

/-- A break at the beginning is lost, and nothing else. -/
theorem textarea_of_crLf {s : List Char} (h : CrLf s = true) (hhead : s.head? ≠ some '\r') :
    textarea s = normalize s := by
  rw [textarea]
  split
  · rename_i t ht
    -- a first break can only come from a CR LF
    fun_cases normalize s with
    | case1 => cases ht
    | case2 s => exact absurd rfl hhead
    | case3 c s hbreak =>
      rw [CrLf, Bool.and_eq_true, Bool.and_eq_true, bne_iff_ne, bne_iff_ne] at h
      · rw [normalize, if_neg h.1.1] at ht
        · exact absurd (List.cons.inj ht).1 h.1.2
        · exact hbreak
      · exact hbreak
  · rfl

/-- **Which texts come back from a text area as they were**: those with CR LF for every break, and
none at the beginning. -/
theorem toCrLf_textarea_iff (s : List Char) :
    toCrLf (textarea s) = s ↔ CrLf s = true ∧ s.head? ≠ some '\r' := by
  refine ⟨?_, fun h => by rw [textarea_of_crLf h.1 h.2, toCrLf_normalize h.1]⟩
  intro h
  have hcrlf : CrLf s = true := by
    rw [← h]
    exact crLf_toCrLf (not_mem_textarea s)
  refine ⟨hcrlf, ?_⟩
  fun_cases CrLf s with
  | case1 => simp
  | case2 t =>
    have hlost : toCrLf (textarea ('\r' :: '\n' :: t)) = t := toCrLf_normalize hcrlf
    have hlength := congrArg List.length (h.symm.trans hlost)
    simp only [List.length_cons] at hlength
    omega
  | case3 c t hbreak =>
    rw [CrLf, Bool.and_eq_true, Bool.and_eq_true, bne_iff_ne] at hcrlf
    · simpa using hcrlf.1.1
    · exact hbreak

end Lines
