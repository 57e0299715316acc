import Mathlib.Algebra.Ring.Int.Defs
import Mathlib.Data.List.Dedup
import Mathlib.Data.List.Infix
import GestionMenus.Base.Paging

/-!
# The fragment of SQL the queries are written in

What a query means is decided by a handful of SQL constructs whose behaviour is easy to get
subtly wrong: conditions that are neither true nor false, an outer join that multiplies rows and
then a `DISTINCT` that merges them again, a `SUM` that is `NULL` over no rows, an `ORDER BY` that
says nothing about ties.  They are collected here over arbitrary row types.

* `Truth` is SQL's three-valued logic; a `WHERE` keeps the rows on which the condition is *true*,
  and `holds_any`, `holds_all` say that on that question it is ordinary logic.
* `eqPad` and `like` compare texts by the weights a collation gives their characters: `=`, to which
  spaces at the end do not matter, and `LIKE` with its two wildcards.  `like_contains` says what
  `LIKE '%…%'` searches for.
* `leftJoin` and `selectDistinct` are the outer join and the projection of a query.
* `sumCol` and `coalesce` are the aggregate and its repair.
* `Direction` and `leNull` build the orderings of `ORDER BY`, with `NULL` first.
* `lookup`, `updateRow` and `deleteRow` are the statements on a table with a primary key.
-/

set_option autoImplicit false

namespace Sql

universe u v

variable {α : Type u} {β : Type v}

/-! ## Three-valued conditions -/

/-- The value of a condition: true, false, or unknown (`none`). -/
abbrev Truth := Option Bool

/-- `OR`: true as soon as one side is, unknown if neither is and one side is unknown. -/
def Truth.or : Truth → Truth → Truth
  | some true, _ => some true
  | _, some true => some true
  | some false, b => b
  | a, some false => a
  | none, none => none

/-- `AND`: false as soon as one side is, unknown if neither is and one side is unknown. -/
def Truth.and : Truth → Truth → Truth
  | some false, _ => some false
  | _, some false => some false
  | some true, b => b
  | a, some true => a
  | none, none => none

/-- A `WHERE` clause keeps a row when its condition is true — not when it is unknown. -/
def Truth.holds (t : Truth) : Bool := t == some true

@[simp] theorem Truth.holds_or (a b : Truth) : (a.or b).holds = (a.holds || b.holds) := by
  rcases a with _ | _ | _ <;> rcases b with _ | _ | _ <;> rfl

@[simp] theorem Truth.holds_and (a b : Truth) : (a.and b).holds = (a.holds && b.holds) := by
  rcases a with _ | _ | _ <;> rcases b with _ | _ | _ <;> rfl

@[simp] theorem Truth.holds_some (b : Bool) : Truth.holds (some b) = b := by
  cases b <;> rfl

@[simp] theorem Truth.holds_none : Truth.holds none = false := rfl

/-- A chain of `OR`s. -/
def any (l : List Truth) : Truth := l.foldr Truth.or (some false)

/-- A chain of `AND`s. -/
def all (l : List Truth) : Truth := l.foldr Truth.and (some true)

theorem holds_any (l : List Truth) : (any l).holds = true ↔ ∃ t ∈ l, t.holds = true := by
  induction l with
  | nil => simp [any]
  | cons t l ih => rw [any, List.foldr_cons, Truth.holds_or, Bool.or_eq_true, ← any, ih]; simp

theorem holds_all (l : List Truth) : (all l).holds = true ↔ ∀ t ∈ l, t.holds = true := by
  induction l with
  | nil => simp [all]
  | cons t l ih => rw [all, List.foldr_cons, Truth.holds_and, Bool.and_eq_true, ← all, ih]; simp

/-- `x IS NULL`, which is never unknown. -/
def isNull (x : Option α) : Truth := some x.isNone

/-- A comparison, unknown as soon as one side is `NULL`. -/
def compare (r : α → β → Bool) (x : Option α) (y : Option β) : Truth :=
  match x, y with
  | some a, some b => some (r a b)
  | _, _ => none

/-- `:bound IS NULL OR x … :bound`, the shape of every optional criterion. -/
def optional (r : α → β → Bool) (x : α) (bound : Option β) : Truth :=
  any [isNull bound, compare r (some x) bound]

/-- A bound that is not given excludes nothing. -/
theorem holds_optional (r : α → β → Bool) (x : α) (bound : Option β) :
    (optional r x bound).holds = true ↔ ∀ b, bound = some b → r x b = true := by
  cases bound with
  | none => simp [optional, holds_any, isNull]
  | some b => simp [optional, holds_any, isNull, compare]

/-! ## Texts

A collation gives every character a weight, and compares texts by the weights of their characters:
characters of the same weight, such as a letter with and without its accent, are the same to it. -/

section Texts

variable (weight : Char → ℕ)

/-- `a = b` under a `PAD SPACE` collation, where the shorter text is filled up with spaces. -/
def eqPad : List Char → List Char → Bool
  | [], b => b.all fun d => weight ' ' == weight d
  | c :: a, [] => weight c == weight ' ' && eqPad a []
  | c :: a, d :: b => weight c == weight d && eqPad a b

/-- Nothing but spaces equals the empty text. -/
theorem eqPad_nil_iff (hspace : ∀ c, weight c = weight ' ' → c = ' ') (a : List Char) :
    eqPad weight a [] = true ↔ ∀ c ∈ a, c = ' ' := by
  induction a with
  | nil => simp [eqPad]
  | cons c a ih =>
    rw [eqPad, Bool.and_eq_true, beq_iff_eq, ih, List.forall_mem_cons]
    exact and_congr_left fun _ => ⟨hspace c, fun h => by rw [h]⟩

/-- `text LIKE pattern`: `%` stands for any run of characters, `_` for exactly one, and any other
character for those of its weight. -/
def like : List Char → List Char → Bool
  | [], text => text.isEmpty
  | c :: pattern, text =>
    if c = '%' then text.tails.any (like pattern)
    else match text with
      | [] => false
      | x :: text => (c == '_' || weight c == weight x) && like pattern text

variable {weight}

theorem like_percent {pattern text : List Char} :
    like weight ('%' :: pattern) text = true ↔ ∃ s, s <:+ text ∧ like weight pattern s = true := by
  simp [like, List.any_eq_true]

theorem like_cons_cons {c x : Char} {pattern text : List Char} (hc : c ≠ '%') :
    like weight (c :: pattern) (x :: text) = true ↔
      (c = '_' ∨ weight c = weight x) ∧ like weight pattern text = true := by
  simp [like, hc]

/-- A text without wildcards. -/
def Literal (l : List Char) : Prop := ∀ c ∈ l, c ≠ '%' ∧ c ≠ '_'

/-- A literal text before a final `%` asks for a text that begins with its weights. -/
theorem like_literal_percent {k : List Char} (hk : Literal k) (text : List Char) :
    like weight (k ++ ['%']) text = true ↔ k.map weight <+: text.map weight := by
  induction k generalizing text with
  | nil =>
    rw [List.nil_append, like_percent]
    exact ⟨fun _ => List.nil_prefix, fun _ => ⟨[], List.nil_suffix, rfl⟩⟩
  | cons c k ih =>
    obtain ⟨hp, hu⟩ := hk c List.mem_cons_self
    cases text with
    | nil => simp [like, hp]
    | cons x text =>
      rw [List.cons_append, like_cons_cons hp, ih fun c hc => hk c (List.mem_cons_of_mem _ hc),
        List.map_cons, List.map_cons, List.cons_prefix_cons]
      simp [hu]

/-- **Between two `%`, a literal text is searched for**, up to the weights of its characters. -/
theorem like_contains {k : List Char} (hk : Literal k) (text : List Char) :
    like weight ('%' :: (k ++ ['%'])) text = true ↔ k.map weight <:+: text.map weight := by
  rw [like_percent, List.infix_iff_prefix_suffix]
  refine ⟨?_, ?_⟩
  · rintro ⟨s, hs, h⟩
    exact ⟨s.map weight, (like_literal_percent hk s).1 h, hs.map weight⟩
  · rintro ⟨_, hprefix, hsuffix⟩
    obtain ⟨s, hs, rfl⟩ := List.suffix_map_iff.1 hsuffix
    exact ⟨s, hs, (like_literal_percent hk s).2 hprefix⟩

/-- Up to weights is as good as literally, where the weights tell the characters apart. -/
theorem map_infix_map_iff {k text : List Char}
    (h : ∀ c ∈ k, ∀ x ∈ text, weight x = weight c → x = c) :
    k.map weight <:+: text.map weight ↔ k <:+: text := by
  refine ⟨?_, fun hk => hk.map weight⟩
  intro hk
  obtain ⟨l, hl, heq⟩ := List.infix_map_iff.1 hk
  have hsame : k = l := by
    refine List.ext_getElem (by simpa using congrArg List.length heq) ?_
    intro i hi hi'
    refine (h _ (List.getElem_mem hi) _ (hl.subset (List.getElem_mem hi')) ?_).symm
    simpa [hi, hi'] using congrArg (fun l => l[i]?) heq.symm
  rw [hsame]
  exact hl

/-- A text that a pattern matches only through its wildcards: nothing in the place of a `%`, and a
`%` in the place of a `_`. -/
def disguise (k : List Char) : List Char :=
  k.filterMap fun c => if c = '%' then none else if c = '_' then some '%' else some c

theorem like_disguise (k : List Char) : like weight (k ++ ['%']) (disguise k) = true := by
  induction k with
  | nil => rfl
  | cons c k ih =>
    by_cases hp : c = '%'
    · subst hp
      rw [List.cons_append, like_percent]
      exact ⟨disguise k, by simp [disguise], ih⟩
    · by_cases hu : c = '_'
      · subst hu
        exact (like_cons_cons hp).2 ⟨Or.inl rfl, ih⟩
      · have hd : disguise (c :: k) = c :: disguise k := by simp [disguise, hp, hu]
        rw [hd]
        exact (like_cons_cons hp).2 ⟨Or.inr rfl, ih⟩

/-- A pattern with a wildcard in it does not occur in its disguise: there the disguise is either
shorter or has another character. -/
theorem literal_of_infix_disguise {k : List Char} (h : k <:+: disguise k) : Literal k := by
  -- being at least as long, the disguise has left no `%` out
  have hkeep : ∀ c ∈ k, c ≠ '%' := by
    intro c hc he
    have hlt : (disguise k).length < k.length := by
      refine List.length_filterMap_lt_length_iff_exists.2 ⟨c, hc, by simp [he]⟩
    exact absurd h.length_le (by omega)
  have hmap : disguise k = k.map fun c => if c = '_' then '%' else c := by
    rw [disguise, ← List.filterMap_eq_map]
    refine List.filterMap_congr ?_
    intro c hc
    rw [if_neg (hkeep c hc)]
    split <;> simp_all
  have heq : k = disguise k := h.eq_of_length (by rw [hmap, List.length_map])
  refine fun c hc => ⟨hkeep c hc, fun hu => ?_⟩
  have hmem : '%' ∈ k := by
    rw [heq, hmap]
    exact List.mem_map.2 ⟨c, hc, by simp [hu]⟩
  exact hkeep _ hmem rfl

/-- A text with one of its characters replaced by another occurs in itself only if they are the
same. -/
theorem eq_of_infix_map {k : List Char} {c x : Char} (hc : c ∈ k)
    (h : k <:+: k.map fun d => if d = c then x else d) : x = c := by
  have heq : k.map (fun d => if d = c then x else d) = k.map id := by
    rw [List.map_id]
    exact (h.eq_of_length (by simp)).symm
  simpa using List.map_inj_left.1 heq c hc

end Texts

/-! ## Joins and projections -/

/-- `LEFT JOIN`: each row with each of its partners, or with `NULL` when it has none. -/
def leftJoin (l : List α) (f : α → List β) : List (α × Option β) :=
  l.flatMap fun a =>
    match f a with
    | [] => [(a, none)]
    | b :: bs => (b :: bs).map fun b => (a, some b)

theorem mem_leftJoin {l : List α} {f : α → List β} {a : α} {o : Option β} :
    (a, o) ∈ leftJoin l f ↔ a ∈ l ∧ (f a = [] ∧ o = none ∨ ∃ b ∈ f a, o = some b) := by
  rw [leftJoin, List.mem_flatMap]
  constructor
  · rintro ⟨a', ha', h⟩
    split at h
    · rename_i hf
      simp only [List.mem_singleton, Prod.mk.injEq] at h
      obtain ⟨rfl, rfl⟩ := h
      exact ⟨ha', Or.inl ⟨hf, rfl⟩⟩
    · rename_i b bs hf
      simp only [List.mem_map, Prod.mk.injEq] at h
      obtain ⟨b', hb', rfl, rfl⟩ := h
      exact ⟨ha', Or.inr ⟨b', by rw [hf]; exact hb', rfl⟩⟩
  · rintro ⟨ha, h⟩
    refine ⟨a, ha, ?_⟩
    rcases h with ⟨hf, rfl⟩ | ⟨b, hb, rfl⟩
    · simp [hf]
    · split
      · rename_i hf; simp [hf] at hb
      · rename_i hf
        rw [hf] at hb
        exact List.mem_map.2 ⟨b, hb, rfl⟩

/-- `SELECT DISTINCT a FROM … WHERE …` over the rows of a join. -/
def selectDistinct [DecidableEq α] (rows : List (α × Option β)) (cond : α → Option β → Truth) :
    List α :=
  ((rows.filter fun r => (cond r.1 r.2).holds).map Prod.fst).dedup

theorem mem_selectDistinct [DecidableEq α] {rows : List (α × Option β)}
    {cond : α → Option β → Truth} {a : α} :
    a ∈ selectDistinct rows cond ↔ ∃ o, (a, o) ∈ rows ∧ (cond a o).holds = true := by
  rw [selectDistinct, List.mem_dedup, List.mem_map]
  constructor
  · rintro ⟨⟨a', o⟩, h, rfl⟩
    exact ⟨o, List.mem_filter.1 h⟩
  · rintro ⟨o, h, hc⟩
    exact ⟨(a, o), List.mem_filter.2 ⟨h, hc⟩, rfl⟩

theorem nodup_selectDistinct [DecidableEq α] (rows : List (α × Option β))
    (cond : α → Option β → Truth) : (selectDistinct rows cond).Nodup :=
  List.nodup_dedup _

/-! ## Aggregates -/

/-- `SUM`, exact, and `NULL` over no rows. -/
def sumCol (l : List ℤ) : Option ℤ := if l = [] then none else some l.sum

/-- `COALESCE` with a default. -/
def coalesce (x : Option α) (d : α) : α := x.getD d

/-- `COALESCE(SUM(…), 0)` is the sum, also over no rows. -/
theorem coalesce_sumCol (l : List ℤ) : coalesce (sumCol l) 0 = l.sum := by
  rw [sumCol]
  split
  · rename_i h; simp [h, coalesce]
  · rfl

/-! ## Orderings -/

/-- The direction of an `ORDER BY`. -/
inductive Direction where
  | asc
  | desc
  deriving DecidableEq, Repr

/-- The ordering a direction makes of a comparison. -/
def Direction.apply (d : Direction) (le : α → α → Bool) (a b : α) : Bool :=
  match d with
  | .asc => le a b
  | .desc => le b a

theorem Direction.isOrder (d : Direction) {le : α → α → Bool} (h : Paging.IsOrder le) :
    Paging.IsOrder (d.apply le) := by
  cases d with
  | asc => exact h
  | desc =>
    exact ⟨fun a b => by simpa [Direction.apply] using h.total b a,
      fun a b c hab hbc => h.trans c b a hbc hab⟩

/-- Comparing by a column of the row. -/
theorem isOrder_comap {le : β → β → Bool} (h : Paging.IsOrder le) (f : α → β) :
    Paging.IsOrder fun a b => le (f a) (f b) :=
  ⟨fun a b => h.total (f a) (f b), fun a b c => h.trans (f a) (f b) (f c)⟩

/-- Comparison of a nullable column: `NULL` sorts before every value. -/
def leNull (le : α → α → Bool) : Option α → Option α → Bool
  | none, _ => true
  | some _, none => false
  | some a, some b => le a b

theorem isOrder_leNull {le : α → α → Bool} (h : Paging.IsOrder le) :
    Paging.IsOrder (leNull le) := by
  constructor
  · rintro (_ | a) (_ | b) <;> simp [leNull]
    simpa using h.total a b
  · rintro (_ | a) (_ | b) (_ | c) <;> simp [leNull]
    exact h.trans a b c

/-- Without an `ORDER BY` every order will do. -/
theorem isOrder_unsorted : Paging.IsOrder fun _ _ : α => true :=
  ⟨fun _ _ => rfl, fun _ _ _ _ _ => rfl⟩

/-! ## Statements on a table with a primary key -/

variable {κ : Type v} [DecidableEq κ]

/-- `SELECT * FROM t WHERE id = k`. -/
def lookup (key : α → κ) (k : κ) (t : List α) : Option α := t.find? fun x => key x = k

/-- `UPDATE t SET … WHERE id = …`, where `x` is the new row. -/
def updateRow (key : α → κ) (x : α) (t : List α) : List α :=
  t.map fun y => if key y = key x then x else y

/-- `DELETE FROM t WHERE id = k`. -/
def deleteRow (key : α → κ) (k : κ) (t : List α) : List α := t.filter fun x => key x ≠ k

section Keyed

variable {key : α → κ} {t : List α}

theorem lookup_eq_some_iff (hnd : (t.map key).Nodup) {k : κ} {x : α} :
    lookup key k t = some x ↔ x ∈ t ∧ key x = k := by
  constructor
  · intro h
    exact ⟨List.mem_of_find?_eq_some h, by simpa using List.find?_some h⟩
  · rintro ⟨hx, rfl⟩
    obtain ⟨y, hy⟩ : ∃ y, lookup key (key x) t = some y :=
      Option.isSome_iff_exists.1 (List.find?_isSome.2 ⟨x, hx, by simp⟩)
    have hky : key y = key x := by simpa using List.find?_some hy
    rw [hy, List.inj_on_of_nodup_map hnd (List.mem_of_find?_eq_some hy) hx hky]

@[simp] theorem map_key_updateRow (x : α) (t : List α) :
    (updateRow key x t).map key = t.map key := by
  rw [updateRow, List.map_map]
  refine List.map_congr_left ?_
  intro y _
  by_cases h : key y = key x <;> simp [h]

/-- An update replaces the row with its key and no other. -/
theorem mem_updateRow {x y : α} (h : y ∈ updateRow key x t) : y = x ∨ y ∈ t ∧ key y ≠ key x := by
  obtain ⟨z, hz, rfl⟩ := List.mem_map.1 h
  by_cases hk : key z = key x
  · simp [hk]
  · simp [hk, hz]

theorem mem_updateRow_self {x : α} (h : ∃ y ∈ t, key y = key x) : x ∈ updateRow key x t := by
  obtain ⟨y, hy, hk⟩ := h
  exact List.mem_map.2 ⟨y, hy, by simp [hk]⟩

theorem mem_deleteRow {k : κ} {x : α} : x ∈ deleteRow key k t ↔ x ∈ t ∧ key x ≠ k := by
  simp [deleteRow]

/-- Deleting a row that is not there deletes nothing. -/
theorem deleteRow_eq_self {k : κ} (h : ∀ x ∈ t, key x ≠ k) : deleteRow key k t = t := by
  simpa [deleteRow, List.filter_eq_self] using h

/-- An update is not seen by the other rows. -/
theorem deleteRow_updateRow (x : α) (t : List α) :
    deleteRow key (key x) (updateRow key x t) = deleteRow key (key x) t := by
  induction t with
  | nil => rfl
  | cons y t ih =>
    rw [updateRow, List.map_cons, ← updateRow]
    by_cases h : key y = key x
    · simpa [deleteRow, h] using ih
    · simpa [deleteRow, h] using ih

/-- A row, and what is left of the table without it. -/
theorem perm_cons_deleteRow (hnd : (t.map key).Nodup) {x : α} (hx : x ∈ t) :
    t.Perm (x :: deleteRow key (key x) t) := by
  have hnot : x ∉ deleteRow key (key x) t := fun h => (mem_deleteRow.1 h).2 rfl
  have hrest : (deleteRow key (key x) t).Nodup := hnd.of_map.filter _
  refine (List.perm_ext_iff_of_nodup hnd.of_map (List.nodup_cons.2 ⟨hnot, hrest⟩)).2 ?_
  intro y
  rw [List.mem_cons, mem_deleteRow]
  refine ⟨?_, ?_⟩
  · intro hy
    by_cases hk : key y = key x
    · exact Or.inl (List.inj_on_of_nodup_map hnd hy hx hk)
    · exact Or.inr ⟨hy, hk⟩
  · rintro (rfl | ⟨hy, -⟩)
    · exact hx
    · exact hy

theorem lookup_deleteRow_self (k : κ) (t : List α) : lookup key k (deleteRow key k t) = none := by
  refine List.find?_eq_none.2 ?_
  intro x hx
  simpa using (mem_deleteRow.1 hx).2

/-- Two tables that agree but for one key agree on the others. -/
theorem lookup_congr {t' : List α} {k k' : κ} (h : deleteRow key k t' = deleteRow key k t)
    (hne : k' ≠ k) : lookup key k' t' = lookup key k' t := by
  have hothers : ∀ l : List α, lookup key k' (deleteRow key k l) = lookup key k' l := by
    intro l
    rw [lookup, deleteRow, List.find?_filter, lookup]
    congr 1
    funext x
    by_cases hx : key x = k'
    · simp [hx, hne]
    · simp [hx]
  rw [← hothers t', h, hothers]

theorem nodup_deleteRow (k : κ) (hnd : (t.map key).Nodup) : ((deleteRow key k t).map key).Nodup :=
  (List.filter_sublist.map key).nodup hnd

theorem exists_key_updateRow (x : α) {k : κ} :
    (∃ y ∈ updateRow key x t, key y = k) ↔ ∃ y ∈ t, key y = k := by
  have h : k ∈ (updateRow key x t).map key ↔ k ∈ t.map key := by rw [map_key_updateRow]
  simpa only [List.mem_map] using h

end Keyed

end Sql
