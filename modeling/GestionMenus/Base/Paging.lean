import Mathlib.Data.List.Basic
import Mathlib.Data.List.Perm.Basic
import Mathlib.Data.List.Nodup

/-!
# Cutting the answer of a query into pages

A listing never shows a whole result: it asks for the `i`-th slice of `size` rows and trusts that
the slices fit together.  Whether they do depends on the order the database answers in, and SQL
promises very little about that.  This file says exactly how little is enough.

* `slice size i l` is the `i`-th page of `l`, and `totalPages size n` the number of pages `n` rows
  take.  `flatMap_slice` puts the pages of *one* list back together.
* `Answers le l r` says that `r` is a legal answer to a query that matches the rows `l` and asks
  for the order `le`: the same rows, in some order compatible with `le`.  Ties are free.
* `take_perm_of_separated` is the one fact about legal answers everything else rests on: if the
  rows split into two groups with the first strictly before the second, every legal answer starts
  with the first group.

Three questions about paging are then settled exactly, by conditions on the rows alone:

* `forall_answers_slices_perm_iff` — the pages are asked for one by one and ties may be resolved
  differently each time;
* `forall_answers_wider_iff` — the page *links* ask a wider query than the one that counted the
  pages;
* `forall_perm_slices_iff` — the order wanted across the pages is not the order of the query.
-/

set_option autoImplicit false

namespace Paging

universe u

variable {α : Type u}

/-! ## Slices -/

/-- The `i`-th page of `l`, for pages of `size` rows. -/
def slice (size i : ℕ) (l : List α) : List α := (l.drop (i * size)).take size

/-- The number of pages `n` rows take. -/
def totalPages (size n : ℕ) : ℕ := (n + size - 1) / size

theorem mem_of_mem_slice {size i : ℕ} {l : List α} {x : α} (h : x ∈ slice size i l) : x ∈ l :=
  List.mem_of_mem_drop (List.mem_of_mem_take h)

theorem slice_eq_nil_iff {size i : ℕ} (hs : 0 < size) (l : List α) :
    slice size i l = [] ↔ l.length ≤ i * size := by
  rw [slice, List.take_eq_nil_iff, List.drop_eq_nil_iff]
  omega

theorem mem_slice_of_getElem? {size i k : ℕ} {l : List α} {x : α} (hx : l[k]? = some x)
    (h₁ : i * size ≤ k) (h₂ : k < (i + 1) * size) : x ∈ slice size i l := by
  rw [Nat.succ_mul] at h₂
  have hk : (slice size i l)[k - i * size]? = some x := by
    rw [slice, List.getElem?_take_of_lt (show k - i * size < size by omega), List.getElem?_drop,
      Nat.add_sub_cancel' h₁, hx]
  exact List.mem_of_getElem? hk

/-- The first `k` pages of a list, one after the other, are its first `k * size` rows. -/
theorem flatMap_slice_range (size k : ℕ) (l : List α) :
    (List.range k).flatMap (slice size · l) = l.take (k * size) := by
  induction k with
  | zero => simp
  | succ k ih =>
    rw [List.range_succ, List.flatMap_append, ih, Nat.succ_mul, List.take_add]
    simp [slice]

theorem lt_totalPages_iff {size i n : ℕ} (hs : 0 < size) :
    i < totalPages size n ↔ i * size < n := by
  rw [totalPages, Nat.lt_iff_add_one_le, Nat.le_div_iff_mul_le hs, Nat.succ_mul]
  omega

theorem le_totalPages_mul {size : ℕ} (hs : 0 < size) (n : ℕ) : n ≤ totalPages size n * size :=
  Nat.le_of_not_lt fun h => Nat.lt_irrefl _ ((lt_totalPages_iff hs).2 h)

theorem one_lt_totalPages_iff {size n : ℕ} (hs : 0 < size) : 1 < totalPages size n ↔ size < n := by
  rw [lt_totalPages_iff hs, Nat.one_mul]

/-- The number of pages is exact: it wastes room only when the last page is not full. -/
theorem totalPages_mul_eq_iff {size n : ℕ} (hs : 0 < size) :
    totalPages size n * size = n ↔ size ∣ n := by
  constructor
  · intro h
    exact ⟨_, (Nat.mul_comm _ _).symm ▸ h.symm⟩
  · rintro ⟨k, rfl⟩
    have hk : totalPages size (size * k) = k := by
      rw [totalPages, show size * k + size - 1 = size - 1 + size * k by omega,
        Nat.add_mul_div_left _ _ hs, Nat.div_eq_of_lt (show size - 1 < size by omega),
        Nat.zero_add]
    rw [hk, Nat.mul_comm]

/-- **All the pages of one list make up the list.** -/
theorem flatMap_slice {size : ℕ} (hs : 0 < size) (l : List α) :
    (List.range (totalPages size l.length)).flatMap (slice size · l) = l := by
  rw [flatMap_slice_range, List.take_of_length_le (le_totalPages_mul hs _)]

/-! ## Legal answers -/

/-- `r` is a legal answer to a query matching the rows `l` with the ordering `le`: the same rows,
in an order in which no row comes before one it should follow. -/
structure Answers (le : α → α → Bool) (l r : List α) : Prop where
  /-- The answer holds the matching rows and no other. -/
  perm : r.Perm l
  /-- The answer respects the ordering asked for. -/
  sorted : r.Pairwise fun a b => le a b = true

theorem Answers.length_eq {le : α → α → Bool} {l r : List α} (h : Answers le l r) :
    r.length = l.length :=
  h.perm.length_eq

theorem Answers.mem_iff {le : α → α → Bool} {l r : List α} (h : Answers le l r) {x : α} :
    x ∈ r ↔ x ∈ l :=
  h.perm.mem_iff

/-- **A strictly earlier group comes first.**  If the matching rows are `t` and `d`, and no row of
`d` may precede a row of `t`, then every legal answer starts with the rows of `t`. -/
theorem take_perm_of_separated {le : α → α → Bool} {t d r : List α}
    (hr : Answers le (t ++ d) r) (hsep : ∀ x ∈ t, ∀ y ∈ d, le y x = false) :
    (r.take t.length).Perm t := by
  -- along the answer: its head belongs to `t` as long as `t` is not used up
  induction r generalizing t with
  | nil =>
    have hnil : t ++ d = [] := hr.perm.nil_eq.symm
    rw [(List.append_eq_nil_iff.1 hnil).1]
    simp
  | cons x r ih =>
    rcases List.eq_nil_or_concat t with rfl | ⟨_, z, hz⟩
    · simp
    have hzt : z ∈ t := by simp [hz]
    have hxt : x ∈ t := by
      rcases List.mem_append.1 (hr.mem_iff.1 List.mem_cons_self) with h | h
      · exact h
      · rcases List.mem_cons.1 (hr.mem_iff.2 (List.mem_append_left d hzt)) with rfl | hzr
        · exact hzt
        · have hle := (List.pairwise_cons.1 hr.sorted).1 z hzr
          rw [hsep z hzt x h] at hle
          exact absurd hle (by simp)
    obtain ⟨t₁, t₂, rfl⟩ := List.append_of_mem hxt
    have hr' : Answers le ((t₁ ++ t₂) ++ d) r := by
      refine ⟨(List.perm_cons x).1 (hr.perm.trans ?_), (List.pairwise_cons.1 hr.sorted).2⟩
      simp
    have hrest := ih hr' fun a ha => hsep a (by
      rcases List.mem_append.1 ha with h | h <;> simp [h])
    have hlen : (t₁ ++ x :: t₂).length = (t₁ ++ t₂).length + 1 := by simp; omega
    rw [hlen, List.take_succ_cons]
    exact (hrest.cons x).trans List.perm_middle.symm

/-- Two rows that tie may be exchanged where they meet. -/
theorem Answers.swap {le : α → α → Bool} {l u v : List α} {x y : α}
    (h : Answers le l (u ++ x :: y :: v)) (hyx : le y x = true) :
    Answers le l (u ++ y :: x :: v) := by
  refine ⟨((List.Perm.swap x y v).append_left u).trans h.perm, ?_⟩
  have hs := h.sorted
  simp only [List.pairwise_append, List.pairwise_cons, List.mem_cons, forall_eq_or_imp] at hs ⊢
  obtain ⟨hu, ⟨⟨-, hxv⟩, hyv, hv⟩, huv⟩ := hs
  exact ⟨hu, ⟨⟨hyx, hyv⟩, hxv, hv⟩, fun a ha => ⟨(huv a ha).2.1, (huv a ha).1, (huv a ha).2.2⟩⟩

/-! ## A total preorder always has an answer -/

/-- An ordering a query can ask for: any two rows compare, and the comparison is transitive.
Distinct rows may compare both ways — that is a tie. -/
structure IsOrder (le : α → α → Bool) : Prop where
  /-- Any two rows compare. -/
  total : ∀ a b, (le a b || le b a) = true
  /-- The comparison is transitive. -/
  trans : ∀ a b c, le a b = true → le b c = true → le a c = true

theorem IsOrder.answers_mergeSort {le : α → α → Bool} (hle : IsOrder le) (l : List α) :
    Answers le l (l.mergeSort le) :=
  ⟨List.mergeSort_perm l le, List.pairwise_mergeSort hle.trans hle.total l⟩

/-- A row that may precede another does so in some legal answer. -/
theorem IsOrder.exists_answers_before [DecidableEq α] {le : α → α → Bool} (hle : IsOrder le)
    {l : List α} {a b : α} (ha : a ∈ l) (hb : b ∈ l) (hne : b ≠ a) (hba : le b a = true) :
    ∃ r, Answers le l r ∧ [b, a].Sublist r := by
  -- a stable sort keeps `b` before `a` when it is handed them in that order
  refine ⟨(b :: l.erase b).mergeSort le, ?_, ?_⟩
  · exact ⟨(List.mergeSort_perm _ le).trans (List.perm_cons_erase hb).symm,
      List.pairwise_mergeSort hle.trans hle.total _⟩
  · refine List.sublist_mergeSort hle.trans hle.total (by simp [hba]) ?_
    rw [List.cons_sublist_cons, List.singleton_sublist]
    exact (List.mem_erase_of_ne (Ne.symm hne)).2 ha

/-! ## Pages asked for one by one

Each page is its own query, so each may meet a different legal answer.  The pages still fit
together exactly when the answers have no choice at the page boundaries. -/

/-- The rows on either side of a page boundary of `s` never tie. -/
def BoundariesStrict (le : α → α → Bool) (size : ℕ) (s : List α) : Prop :=
  ∀ k, 0 < k → ∀ h : k * size < s.length, le s[k * size] s[k * size - 1] = false

theorem le_getElem_of_sorted {le : α → α → Bool} (hle : IsOrder le) {s : List α}
    (hs : s.Pairwise fun a b => le a b = true) {i j : ℕ} (hij : i ≤ j) (hj : j < s.length) :
    le (s[i]) s[j] = true := by
  rcases Nat.eq_or_lt_of_le hij with rfl | hlt
  · simpa using hle.total (s[i]) s[i]
  · exact List.pairwise_iff_getElem.1 hs i j (by omega) hj hlt

/-- At a boundary without a tie, the rows before it are strictly before the rows after it. -/
theorem separated_of_boundary {le : α → α → Bool} (hle : IsOrder le) {s : List α}
    (hs : s.Pairwise fun a b => le a b = true) {n : ℕ} (hn : 0 < n) (hlt : n < s.length)
    (hb : le s[n] s[n - 1] = false) : ∀ x ∈ s.take n, ∀ y ∈ s.drop n, le y x = false := by
  intro x hx y hy
  obtain ⟨i, hi, rfl⟩ := List.mem_take_iff_getElem.1 hx
  obtain ⟨j, hj, rfl⟩ := List.mem_drop_iff_getElem.1 hy
  by_contra hyx
  rw [Bool.not_eq_false] at hyx
  have h₁ : le s[n] s[n + j] = true :=
    le_getElem_of_sorted hle hs (show n ≤ n + j by omega) (by omega)
  have h₂ : le s[i] s[n - 1] = true :=
    le_getElem_of_sorted hle hs (show i ≤ n - 1 by omega) (by omega)
  rw [hle.trans _ _ _ (hle.trans _ _ _ h₁ hyx) h₂] at hb
  exact absurd hb (by simp)

/-- Without ties at the boundaries, the rows before the `k`-th boundary are always the same. -/
theorem take_perm_of_boundariesStrict {le : α → α → Bool} (hle : IsOrder le) {size : ℕ}
    {l s r : List α} (hs : Answers le l s) (hr : Answers le l r)
    (hb : BoundariesStrict le size s) (k : ℕ) : (r.take (k * size)).Perm (s.take (k * size)) := by
  rcases Nat.eq_zero_or_pos (k * size) with h0 | hpos
  · simp [h0]
  rcases Nat.lt_or_ge (k * size) s.length with hlt | hge
  · have hr' : Answers le (s.take (k * size) ++ s.drop (k * size)) r := by
      rw [List.take_append_drop]
      exact ⟨hr.perm.trans hs.perm.symm, hr.sorted⟩
    have hk := hb k (Nat.pos_of_mul_pos_right hpos) hlt
    have h := take_perm_of_separated hr' (separated_of_boundary hle hs.sorted hpos hlt hk)
    rwa [List.length_take_of_le (Nat.le_of_lt hlt)] at h
  · have hlen : r.length = s.length := hr.length_eq.trans hs.length_eq.symm
    rw [List.take_of_length_le (show r.length ≤ k * size by omega), List.take_of_length_le hge]
    exact hr.perm.trans hs.perm.symm

/-- Without ties at the boundaries, every page is determined up to its own order. -/
theorem slice_perm_of_boundariesStrict {le : α → α → Bool} (hle : IsOrder le) {size : ℕ}
    {l s r : List α} (hs : Answers le l s) (hr : Answers le l r)
    (hb : BoundariesStrict le size s) (i : ℕ) : (slice size i r).Perm (slice size i s) := by
  have h₀ := take_perm_of_boundariesStrict hle hs hr hb i
  have h₁ := take_perm_of_boundariesStrict hle hs hr hb (i + 1)
  rw [Nat.succ_mul, List.take_add, List.take_add] at h₁
  exact (List.perm_append_left_iff _).1 ((h₀.symm.append_right _).trans h₁)

/-- A tie at a boundary lets one row be shown on both sides of it. -/
theorem exists_answers_repeat {le : α → α → Bool} {size : ℕ} {l s : List α}
    (hs : Answers le l s) {k : ℕ} (hk : 0 < k) (hpos : 0 < size) (hlt : k * size < s.length)
    (htie : le s[k * size] s[k * size - 1] = true) :
    ∃ r, Answers le l r ∧ ∃ x, x ∈ slice size (k - 1) s ∧ x ∈ slice size k r := by
  obtain ⟨n, hn⟩ : ∃ n, k * size = n + 1 := Nat.exists_eq_add_one.2 (Nat.mul_pos hk hpos)
  have hnlt : n + 1 < s.length := hn ▸ hlt
  have hsplit : s = s.take n ++ s[n] :: s[n + 1] :: s.drop (n + 2) := by
    rw [← List.drop_eq_getElem_cons, ← List.drop_eq_getElem_cons, List.take_append_drop]
  have htie' : le s[n + 1] s[n] = true := by simpa [hn] using htie
  have hswap : Answers le l (s.take n ++ s[n + 1] :: s[n] :: s.drop (n + 2)) :=
    Answers.swap (hsplit ▸ hs) htie'
  have htake : (s.take n).length = n := List.length_take_of_le (show n ≤ s.length by omega)
  refine ⟨_, hswap, s[n], ?_, ?_⟩
  · have hk1 : (k - 1) * size + size = n + 1 := by
      rw [← hn, ← Nat.succ_mul, Nat.succ_eq_add_one, Nat.sub_add_cancel hk]
    exact mem_slice_of_getElem? (List.getElem?_eq_getElem (show n < s.length by omega))
      (show (k - 1) * size ≤ n by omega) (by rw [Nat.succ_mul]; omega)
  · refine mem_slice_of_getElem? (k := n + 1) ?_ (show k * size ≤ n + 1 by omega)
      (by rw [Nat.succ_mul]; omega)
    rw [List.getElem?_append_right (by omega), htake]
    simp

/-- **Pages asked for one by one.**  With ties resolved freely and independently for each page, the
pages show every row exactly once if and only if no tie straddles a page boundary. -/
theorem forall_answers_slices_perm_iff {le : α → α → Bool} (hle : IsOrder le) {size : ℕ}
    (hpos : 0 < size) {l s : List α} (hnd : l.Nodup) (hs : Answers le l s) :
    (∀ rs : ℕ → List α, (∀ i, Answers le l (rs i)) →
      ((List.range (totalPages size l.length)).flatMap fun i => slice size i (rs i)).Perm l) ↔
    BoundariesStrict le size s := by
  constructor
  · intro h k hk hlt
    by_contra htie
    rw [Bool.not_eq_false] at htie
    obtain ⟨r, hr, x, hx₁, hx₂⟩ := exists_answers_repeat hs hk hpos hlt htie
    -- the pages below `k` meet `s`, the others `r`: `x` is shown on pages `k - 1` and `k`
    have hperm := h (fun i => if i < k then s else r) fun i => by
      by_cases hi : i < k <;> simp [hi, hs, hr]
    have hnodup := (List.nodup_flatMap.1 (hperm.nodup_iff.2 hnd)).2
    have hkt : k < totalPages size l.length :=
      (lt_totalPages_iff hpos).2 (hs.length_eq ▸ hlt)
    have hdisj := List.pairwise_iff_getElem.1 hnodup (k - 1) k (by simp; omega) (by simpa)
      (show k - 1 < k by omega)
    simp only [List.getElem_range, Function.onFun] at hdisj
    rw [if_pos (Nat.sub_lt hk Nat.one_pos), if_neg (Nat.lt_irrefl k)] at hdisj
    exact hdisj hx₁ hx₂
  · intro hb rs hrs
    have hpages : List.Perm
        ((List.range (totalPages size l.length)).flatMap fun i => slice size i (rs i))
        ((List.range (totalPages size l.length)).flatMap fun i => slice size i s) :=
      List.Perm.flatMap_left _ fun i _ => slice_perm_of_boundariesStrict hle hs (hrs i) hb i
    refine hpages.trans ?_
    rw [← hs.length_eq, flatMap_slice hpos]
    exact hs.perm

/-! ## Page links that ask a wider query

The rows of `l` are counted to find the number of pages, but the pages are then cut out of an
answer for the rows `w`, which may be more. -/

/-- In an answer that starts with the rows of `l`, nothing precedes a row of `l` but other rows of
`l`. -/
theorem mem_of_sublist_of_take_perm {l r : List α} {x y : α} (hnd : r.Nodup)
    (ht : (r.take l.length).Perm l) (hx : x ∈ l) (hyx : [y, x].Sublist r) : y ∈ l := by
  have hxt : x ∉ r.drop l.length :=
    List.disjoint_take_drop hnd (Nat.le_refl _) (ht.mem_iff.2 hx)
  rw [← List.take_append_drop l.length r, List.sublist_append_iff] at hyx
  obtain ⟨l₁, l₂, heq, h₁, h₂⟩ := hyx
  rcases List.eq_nil_or_concat l₂ with rfl | ⟨l₂', z, rfl⟩
  · rw [List.append_nil] at heq
    subst heq
    exact ht.mem_iff.1 (h₁.subset List.mem_cons_self)
  · have hz : z = x := by
      rw [List.concat_eq_append, ← List.append_assoc] at heq
      simpa using (congrArg List.getLast? heq).symm
    exact absurd (h₂.subset (by simp [hz])) hxt

/-- **Page links that ask a wider query.**  When the links exist (`size < l.length`), the rows
they show are the rows of `l` whatever legal answer the wider query gets, if and only if the wider
query is not wider at all, or the last page is full and every extra row comes strictly last. -/
theorem forall_answers_wider_iff [DecidableEq α] {le : α → α → Bool} (hle : IsOrder le) {size : ℕ}
    (hpos : 0 < size) {l w : List α} (hl : l.Nodup) (hw : w.Nodup) (hlw : l ⊆ w) :
    (∀ r, Answers le w r →
      ((List.range (totalPages size l.length)).flatMap (slice size · r)).Perm l) ↔
    w ⊆ l ∨ size ∣ l.length ∧ ∀ x ∈ l, ∀ y ∈ w, y ∉ l → le y x = false := by
  simp only [flatMap_slice_range]
  constructor
  · intro h
    by_cases hwl : w ⊆ l
    · exact Or.inl hwl
    · refine Or.inr ?_
      have hlen : l.length < w.length := by
        have hsub := List.subperm_of_subset hl hlw
        refine Nat.lt_of_le_of_ne hsub.length_le fun heq => hwl ?_
        exact (hsub.perm_of_length_le (Nat.le_of_eq heq.symm)).symm.subset
      have hfull : totalPages size l.length * size = l.length := by
        have hlen' := (h _ (hle.answers_mergeSort w)).length_eq
        rw [List.length_take, List.length_mergeSort] at hlen'
        omega
      refine ⟨(totalPages_mul_eq_iff hpos).1 hfull, ?_⟩
      intro x hx y hy hyl
      by_contra hyx
      rw [Bool.not_eq_false] at hyx
      obtain ⟨r, hr, hsub⟩ := hle.exists_answers_before (hlw hx) hy (fun he => hyl (he ▸ hx)) hyx
      have ht := h r hr
      rw [hfull] at ht
      exact hyl (mem_of_sublist_of_take_perm (hr.perm.nodup_iff.2 hw) ht hx hsub)
  · rintro (hwl | ⟨hdvd, hsep⟩) r hr
    · have hperm : w.Perm l := (List.perm_ext_iff_of_nodup hw hl).2 fun x => ⟨@hwl x, @hlw x⟩
      have hlen : r.length = l.length := hr.length_eq.trans hperm.length_eq
      rw [List.take_of_length_le (hlen ▸ le_totalPages_mul hpos _)]
      exact hr.perm.trans hperm
    · rw [(totalPages_mul_eq_iff hpos).2 hdvd]
      have hsplit : w.Perm (l ++ w.filter (· ∉ l)) := by
        refine (List.perm_ext_iff_of_nodup hw ?_).2 ?_
        · refine hl.append (hw.filter _) ?_
          intro x hx hx'
          exact absurd hx (by simpa using (List.mem_filter.1 hx').2)
        · intro x
          by_cases hx : x ∈ l <;> simp [hx, @hlw x]
      refine take_perm_of_separated ⟨hr.perm.trans hsplit, hr.sorted⟩ ?_
      intro x hx y hy
      obtain ⟨hyw, hyl⟩ := List.mem_filter.1 hy
      exact hsep x hx y hyw (by simpa using hyl)

/-! ## An order wanted across the pages that the query does not ask for -/

/-- Any two rows can be put on the first two pages, one on each. -/
theorem exists_perm_first_two_pages {size : ℕ} (hpos : 0 < size) {l : List α}
    (hlen : size < l.length) {x y : α} (hx : x ∈ l) (hy : y ∈ l) (hne : x ≠ y) :
    ∃ r, r.Perm l ∧ x ∈ slice size 0 r ∧ y ∈ slice size 1 r := by
  have hxy : [x, y].Subperm l := List.subperm_of_subset (by simp [hne]) (by simp [hx, hy])
  obtain ⟨p, hp, hpl⟩ := hxy
  obtain ⟨l', hl'⟩ := hpl.exists_perm_append
  have hl : l.Perm (x :: y :: l') := hl'.trans (hp.append_right l')
  have hlen' : size - 1 ≤ l'.length := by
    have h := hl.length_eq
    simp only [List.length_cons] at h
    omega
  -- `x` first, then `size - 1` other rows, then `y`
  refine ⟨x :: (l'.take (size - 1) ++ y :: l'.drop (size - 1)), ?_, ?_, ?_⟩
  · refine List.Perm.trans (List.Perm.cons x ?_) hl.symm
    refine List.perm_middle.trans ?_
    rw [List.take_append_drop]
  · exact mem_slice_of_getElem? (k := 0) (by simp) (by omega) (by omega)
  · refine mem_slice_of_getElem? (k := size) ?_ (by omega) (by omega)
    obtain ⟨n, rfl⟩ : ∃ n, size = n + 1 := Nat.exists_eq_add_one.2 hpos
    have htake : (l'.take n).length = n := List.length_take_of_le hlen'
    rw [List.getElem?_cons_succ, Nat.add_sub_cancel, List.getElem?_append_right (by omega), htake]
    simp

/-- **An order the query does not ask for.**  Over all the orders the rows may come in, the rows of
an earlier page are always related to the rows of a later one if and only if there is at most one
page, or any two rows are related. -/
theorem forall_perm_slices_iff {R : α → α → Prop} (hrefl : ∀ x, R x x) {size : ℕ} (hpos : 0 < size)
    (l : List α) :
    (∀ r : List α, r.Perm l → ∀ i j, i < j → j < totalPages size l.length →
      ∀ x ∈ slice size i r, ∀ y ∈ slice size j r, R x y) ↔
    l.length ≤ size ∨ ∀ x ∈ l, ∀ y ∈ l, R x y := by
  constructor
  · intro h
    rcases Nat.lt_or_ge size l.length with hlt | hge
    · refine Or.inr ?_
      intro x hx y hy
      by_cases hxy : x = y
      · exact hxy ▸ hrefl x
      · obtain ⟨r, hr, hx₀, hy₁⟩ := exists_perm_first_two_pages hpos hlt hx hy hxy
        exact h r hr 0 1 Nat.zero_lt_one ((one_lt_totalPages_iff hpos).2 hlt) x hx₀ y hy₁
    · exact Or.inl hge
  · rintro (hle | hR) r hr i j hij hj x hx y hy
    · have h1 : 1 < totalPages size l.length := by omega
      rw [one_lt_totalPages_iff hpos] at h1
      omega
    · exact hR x (hr.mem_iff.1 (mem_of_mem_slice hx)) y (hr.mem_iff.1 (mem_of_mem_slice hy))

end Paging
