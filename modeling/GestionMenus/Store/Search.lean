import Mathlib.Algebra.BigOperators.Group.List.Basic
import Mathlib.Algebra.Order.BigOperators.Group.List
import Mathlib.Algebra.Order.Ring.Int
import GestionMenus.Store.Queries

/-!
# What the searches mean

`Queries` evaluates the two `findFiltered` queries as SQL does.  Here their results are compared
with three descriptions of what a search should find, none of which mentions a join.

* `MenuRepository.Documented` is the sentence in the documentation of `findFiltered`: a text in the
  name of the menu or of one of its plats, a price and a total of calories between bounds.  The
  query selects exactly those menus, once each, and the count query that goes with it counts them;
  but a text of spaces is no criterion to it, since `:filtre = ''` pads the empty text with spaces.
* The total of calories the filter uses is SQL's exact `SUM`; the total the page shows is
  `Menu.getTotalCalories`, an `int`.  They are two computations of one number, and they agree as
  long as it fits.
* A keyword is put between two `%` and handed to `LIKE` as it is.  That is a search for the keyword
  as a contiguous text as long as it has no wildcard of its own, and no letter that the collation
  takes for another one.
-/

set_option autoImplicit false

namespace GestionMenus

/-! ## The documented meaning of the menu search -/

/-- Does a name, if there is one, match the pattern `%filtre%` in lower case? -/
def NomMatches (col : Collation) (filtre : String) (nom : Option String) : Prop :=
  ∃ n, nom = some n ∧
    Sql.like col.weight (['%'] ++ col.lowerText filtre.toList ++ ['%']) (col.lowerText n.toList) =
      true

/-- The calories of a menu: the sum over all the plats the join table gives it. -/
def Db.calories (db : Db) (menuId : ℤ) : ℤ :=
  ((db.tables.plat.filter fun p => ⟨menuId, p.id⟩ ∈ db.tables.menuPlat).map
    fun p => p.nbCalories.toInt).sum

namespace MenuRepository

/-- The criteria as the documentation of `findFiltered` words them; `Blank` says which texts are no
criterion. -/
structure Documented (Blank : String → Prop) (col : Collation) (db : Db) (c : MenuCriteria)
    (m : Menu) : Prop where
  filtre : Blank c.filtre ∨ NomMatches col c.filtre m.nom ∨
    ∃ p ∈ db.tables.plat, ⟨m.id, p.id⟩ ∈ db.tables.menuPlat ∧ NomMatches col c.filtre p.nom
  prixMin : ∀ b, c.prixMin = some b → b ≤ m.prix
  prixMax : ∀ b, c.prixMax = some b → m.prix ≤ b
  calMin : ∀ b, c.calMin = some b → b.toInt ≤ db.calories m.id
  calMax : ∀ b, c.calMax = some b → db.calories m.id ≤ b.toInt

/-- The count query Spring Data derives from `findFiltered`: `SELECT COUNT(DISTINCT m.id)` over the
same join and the same `WHERE`. -/
def countFiltered (col : Collation) (db : Db) (c : MenuCriteria) : ℕ :=
  (((Sql.leftJoin db.tables.menu fun m => db.platsOf m.id).filter
    fun r => (cond col db c r.1 r.2).holds).map fun r => r.1.id).dedup.length

theorem nomLike_holds_iff (col : Collation) (filtre : String) (nom : Option String) :
    (nomLike col filtre nom).holds = true ↔ NomMatches col filtre nom := by
  cases nom with
  | none => simp [nomLike, NomMatches]
  | some n => simp [nomLike, NomMatches]

/-- The plats a menu is joined with are those of the table the association names. -/
theorem platsOf_perm (db : Db) (menuId : ℤ) :
    (db.platsOf menuId).Perm
      (db.tables.plat.filter fun p => ⟨menuId, p.id⟩ ∈ db.tables.menuPlat) := by
  have hnd : (db.platsOf menuId).Nodup := by
    refine List.Nodup.of_map Plat.id ?_
    rw [db.map_id_platsOf]
    exact db.nodup_platIdsOf menuId
  refine (List.perm_ext_iff_of_nodup hnd ((List.Nodup.of_map _ db.valid.plat_pk).filter _)).2 ?_
  intro p
  rw [Db.mem_platsOf, List.mem_filter, decide_eq_true_eq]

/-- The correlated aggregate is over all the plats of the menu, whichever row it is evaluated
on. -/
theorem sumCalories_eq (db : Db) (m : Menu) : sumCalories db m = db.calories m.id := by
  rw [sumCalories, Sql.coalesce_sumCol, Db.calories]
  exact ((platsOf_perm db m.id).map fun p => p.nbCalories.toInt).sum_eq

theorem documented_iff {col : Collation} {db : Db} {c : MenuCriteria} {m : Menu} :
    Documented OnlySpaces col db c m ↔ NameMatches col db c.filtre m ∧ Bounds db c m := by
  have hname : NameMatches col db c.filtre m ↔ OnlySpaces c.filtre ∨ NomMatches col c.filtre m.nom ∨
      ∃ p ∈ db.tables.plat, ⟨m.id, p.id⟩ ∈ db.tables.menuPlat ∧ NomMatches col c.filtre p.nom := by
    simp only [NameMatches, nomLike_holds_iff, Db.mem_platsOf, and_assoc]
  rw [hname]
  refine ⟨?_, ?_⟩
  · intro h
    exact ⟨h.filtre, h.prixMin, h.prixMax, by rw [sumCalories_eq]; exact h.calMin,
      by rw [sumCalories_eq]; exact h.calMax⟩
  · rintro ⟨hf, hb⟩
    exact ⟨hf, hb.prixMin, hb.prixMax, by rw [← sumCalories_eq]; exact hb.calMin,
      by rw [← sumCalories_eq]; exact hb.calMax⟩

/-- Counting the identifiers of the selected rows counts the menus, since they are distinct in the
table. -/
theorem countFiltered_eq_length (col : Collation) (db : Db) (c : MenuCriteria) :
    countFiltered col db c = (findFiltered col db c).length := by
  have hids : ((findFiltered col db c).map Menu.id).Nodup := by
    refine (nodup_findFiltered col db c).map_on ?_
    intro a ha b hb he
    exact List.inj_on_of_nodup_map db.valid.menu_pk (mem_findFiltered.1 ha).1
      (mem_findFiltered.1 hb).1 he
  have hperm : (((Sql.leftJoin db.tables.menu fun m => db.platsOf m.id).filter
      fun r => (cond col db c r.1 r.2).holds).map fun r => r.1.id).dedup.Perm
        ((findFiltered col db c).map Menu.id) := by
    refine (List.perm_ext_iff_of_nodup (List.nodup_dedup _) hids).2 ?_
    intro k
    rw [findFiltered, Sql.selectDistinct]
    simp only [List.mem_dedup, List.mem_map, exists_exists_and_eq_and]
  rw [countFiltered, hperm.length_eq, List.length_map]

/-- **The menu search means what its documentation says**, spaces alone being no text to search for.
Every menu that meets the criteria is returned exactly once, nothing else is returned, and the count
query counts the menus returned. -/
theorem findFiltered_documented (col : Collation) (db : Db) (c : MenuCriteria) :
    (∀ m, (findFiltered col db c).count m = 1 ↔
      m ∈ db.tables.menu ∧ Documented OnlySpaces col db c m) ∧
    (∀ m ∈ findFiltered col db c, m ∈ db.tables.menu ∧ Documented OnlySpaces col db c m) ∧
    countFiltered col db c = (findFiltered col db c).length := by
  have hmem : ∀ m, m ∈ findFiltered col db c ↔
      m ∈ db.tables.menu ∧ Documented OnlySpaces col db c m := by
    intro m
    rw [mem_findFiltered, documented_iff]
  refine ⟨?_, fun m => (hmem m).1, countFiltered_eq_length col db c⟩
  intro m
  rw [← hmem m]
  refine ⟨?_, List.count_eq_one_of_mem (nodup_findFiltered col db c)⟩
  intro h
  exact List.count_pos_iff.1 (by omega)

/-- A single space finds all three menus of the card, and no name there has a space in it. -/
theorem findFiltered_not_documented :
    ¬ ∀ (col : Collation) (db : Db) (c : MenuCriteria),
      (∀ m, (findFiltered col db c).count m = 1 ↔
        m ∈ db.tables.menu ∧ Documented (· = "") col db c m) ∧
      (∀ m ∈ findFiltered col db c, m ∈ db.tables.menu ∧ Documented (· = "") col db c m) ∧
      countFiltered col db c = (findFiltered col db c).length := by
  intro h
  have hmenu : ⟨1, some "", some "Midi", 10⟩ ∈ findFiltered .codePoint carte { filtre := " " } :=
    mem_findFiltered.2 ⟨by decide, Or.inl (by decide), by constructor <;> simp⟩
  obtain ⟨-, hdoc⟩ := (h .codePoint carte { filtre := " " }).2.1 _ hmenu
  have hnames : ∀ n ∈ ["Midi", "Soupe", "Tarte", "Salade"],
      ¬ NomMatches .codePoint " " (some n) := by
    simp only [NomMatches, Option.some_inj, exists_eq_left']
    decide
  rcases hdoc.filtre with hempty | hnom | ⟨p, hp, -, hnom⟩
  · exact absurd hempty (by decide)
  · exact hnames "Midi" (by decide) hnom
  · have hplats : ∀ p ∈ carte.tables.plat, ∃ n ∈ ["Midi", "Soupe", "Tarte", "Salade"],
        p.nom = some n := by decide
    obtain ⟨n, hn, hpn⟩ := hplats p hp
    exact hnames n hn (hpn ▸ hnom)

/-! ## The total that is filtered and the total that is shown -/

theorem nonneg_calories (db : Db) (menuId : ℤ) : 0 ≤ db.calories menuId := by
  refine List.sum_nonneg ?_
  intro x hx
  obtain ⟨p, hp, rfl⟩ := List.mem_map.1 hx
  have hcheck := db.valid.plat_check p (List.mem_of_mem_filter hp)
  exact Int32.le_iff_toInt_le.1 ((checkPlat_ok_iff p).1 hcheck).1

/-- The total the page shows is the total of the filter, wrapped around into an `int`. -/
theorem toInt_getTotalCalories (db : Db) (menuId : ℤ) :
    (getTotalCalories (db.platsOf menuId)).toInt = (db.calories menuId).bmod (2 ^ 32) := by
  rw [getTotalCalories, toInt_getTotal, Db.calories,
    ((platsOf_perm db menuId).map fun p => p.nbCalories.toInt).sum_eq]

theorem toInt_getTotalCalories_of_lt {db : Db} {menuId : ℤ} (h : db.calories menuId < 2 ^ 31) :
    (getTotalCalories (db.platsOf menuId)).toInt = db.calories menuId := by
  have hpos := nonneg_calories db menuId
  rw [toInt_getTotalCalories, Int.bmod_eq_of_le (by omega) (by omega)]

/-- **The filter on calories agrees with the total shown exactly for the menus whose total fits in
an `int`.**  For a menu that meets the criteria on text and price, to be returned for the given
bounds is to show a total within them — for all bounds, if and only if the exact sum of the
calories of its plats is below `2³¹`. -/
theorem findFiltered_iff_getTotalCalories (col : Collation) (db : Db) (filtre : String)
    (prixMin prixMax : Option ℚ) (m : Menu) (hm : m ∈ db.tables.menu)
    (hfiltre : NameMatches col db filtre m)
    (hprix : (∀ b, prixMin = some b → b ≤ m.prix) ∧ ∀ b, prixMax = some b → m.prix ≤ b) :
    (∀ calMin calMax : Option Int32,
      m ∈ findFiltered col db ⟨filtre, prixMin, prixMax, calMin, calMax⟩ ↔
        (∀ b, calMin = some b → b ≤ getTotalCalories (db.platsOf m.id)) ∧
          ∀ b, calMax = some b → getTotalCalories (db.platsOf m.id) ≤ b) ↔
      db.calories m.id < 2 ^ 31 := by
  have hmem : ∀ calMin calMax : Option Int32,
      m ∈ findFiltered col db ⟨filtre, prixMin, prixMax, calMin, calMax⟩ ↔
        (∀ b, calMin = some b → b.toInt ≤ db.calories m.id) ∧
          ∀ b, calMax = some b → db.calories m.id ≤ b.toInt := by
    intro calMin calMax
    rw [mem_findFiltered, ← sumCalories_eq]
    exact ⟨fun h => ⟨h.2.2.calMin, h.2.2.calMax⟩,
      fun h => ⟨hm, hfiltre, hprix.1, hprix.2, h.1, h.2⟩⟩
  refine ⟨?_, ?_⟩
  · intro h
    -- no total that is shown exceeds the largest `int`, so the filter must let the menu through
    have hmax := ((hmem none (some Int32.maxValue)).1
      ((h none (some Int32.maxValue)).2 ⟨by simp, fun b hb => ?_⟩)).2 _ rfl
    · rw [show Int32.maxValue.toInt = 2 ^ 31 - 1 from rfl] at hmax
      omega
    · rw [← Option.some_inj.1 hb]
      exact Int32.le_maxValue _
  · intro h calMin calMax
    simp only [hmem, Int32.le_iff_toInt_le, toInt_getTotalCalories_of_lt h]

theorem findFiltered_iff_getTotalCalories_carte :
    carte.calories 1 = 100 ∧ ∀ calMin calMax : Option Int32,
      (⟨1, some "", some "Midi", 10⟩ ∈
          findFiltered .codePoint carte ⟨"", none, none, calMin, calMax⟩ ↔
        (∀ b, calMin = some b → b ≤ getTotalCalories (carte.platsOf 1)) ∧
          ∀ b, calMax = some b → getTotalCalories (carte.platsOf 1) ≤ b) :=
  ⟨by decide, (findFiltered_iff_getTotalCalories .codePoint carte "" none none
    ⟨1, some "", some "Midi", 10⟩ (by decide) (Or.inl onlySpaces_empty) ⟨by simp, by simp⟩).2
    (by decide)⟩

end MenuRepository

/-- A menu of two plats, the first of which has all the calories an `int` can count. -/
def banquet : Db where
  tables :=
    { categorie := [⟨1, some "Plat"⟩]
      menu := [⟨1, some "", some "Banquet", 10⟩]
      menuPlat := [⟨1, 1⟩, ⟨1, 2⟩]
      plat := [⟨1, some "Ogre", 2147483647, 0, 0, 0, 1⟩, ⟨2, some "Radis", 1, 0, 0, 0, 1⟩] }
  menuSeq := 2
  platSeq := 3
  valid :=
    { categorie_pk := by decide
      menu_pk := by decide
      menuPlat_pk := by decide
      plat_pk := by decide
      menuPlat_menu := by decide
      menuPlat_plat := by decide
      plat_categorie := by decide
      menu_check := by decide
      plat_check := by decide }
  menuSeq_pos := by decide
  platSeq_pos := by decide
  menu_lt := by decide
  plat_lt := by decide

/-- The menu of `banquet` shows a negative total, so that the bound `0` ought to exclude it; the
filter counts `2³¹` calories and returns it. -/
theorem findFiltered_not_getTotalCalories :
    ¬ ∀ (col : Collation) (db : Db) (c : MenuCriteria) (m : Menu), m ∈ db.tables.menu →
      MenuRepository.NameMatches col db c.filtre m →
      (∀ b, c.prixMin = some b → b ≤ m.prix) → (∀ b, c.prixMax = some b → m.prix ≤ b) →
      (m ∈ MenuRepository.findFiltered col db c ↔
        (∀ b, c.calMin = some b → b ≤ getTotalCalories (db.platsOf m.id)) ∧
          ∀ b, c.calMax = some b → getTotalCalories (db.platsOf m.id) ≤ b) := by
  intro h
  have hiff := h .codePoint banquet { calMin := some 0 } ⟨1, some "", some "Banquet", 10⟩
    (by decide) (Or.inl onlySpaces_empty) (by simp) (by simp)
  have hbounds : MenuRepository.Bounds banquet { calMin := some 0 }
      ⟨1, some "", some "Banquet", 10⟩ := by
    refine ⟨by simp, by simp, ?_, by simp⟩
    intro b hb
    rw [← Option.some_inj.1 hb, MenuRepository.sumCalories_eq]
    decide
  have htotal := (hiff.1 (MenuRepository.mem_findFiltered.2
    ⟨by decide, Or.inl onlySpaces_empty, hbounds⟩)).1
  exact absurd (htotal 0 rfl) (by decide)

/-! ## Keywords -/

/-- The two queries build the same pattern from a keyword: lower-casing the wildcards around it
changes nothing. -/
theorem lowerText_pattern (col : Collation) (k : String) :
    col.lowerText (['%'] ++ k.toList ++ ['%']) = '%' :: (col.lowerText k.toList ++ ['%']) := by
  simp [Collation.lowerText, col.lower_percent]

theorem MenuRepository.nomLike_some (col : Collation) (k n : String) :
    (MenuRepository.nomLike col k (some n)).holds =
      Sql.like col.weight ('%' :: (col.lowerText k.toList ++ ['%'])) (col.lowerText n.toList) := by
  simp [MenuRepository.nomLike]

theorem PlatRepository.nomLike_some (col : Collation) (k n : String) :
    (PlatRepository.nomLike col k (some n)).holds =
      Sql.like col.weight ('%' :: (col.lowerText k.toList ++ ['%'])) (col.lowerText n.toList) := by
  simp only [PlatRepository.nomLike, Option.map_some, Sql.Truth.holds_some, lowerText_pattern]

/-- There is a name that looks, in lower case, like the keyword disguised. -/
theorem exists_lowerText_eq_disguise (col : Collation) (k : String) :
    ∃ n : String, col.lowerText n.toList = Sql.disguise (col.lowerText k.toList) := by
  have h : ∀ l : List Char, ∃ l' : List Char,
      col.lowerText l' = Sql.disguise (col.lowerText l) := by
    intro l
    induction l with
    | nil => exact ⟨[], rfl⟩
    | cons c l ih =>
      obtain ⟨l', hl'⟩ := ih
      by_cases hp : col.lower c = '%'
      · exact ⟨l', by simpa [Collation.lowerText, Sql.disguise, hp] using hl'⟩
      · by_cases hu : col.lower c = '_'
        · exact ⟨'%' :: l', by
            simpa [Collation.lowerText, Sql.disguise, hu, col.lower_percent] using hl'⟩
        · exact ⟨c :: l', by simpa [Collation.lowerText, Sql.disguise, hp, hu] using hl'⟩
  obtain ⟨l', hl'⟩ := h k.toList
  exact ⟨String.ofList l', by rw [String.toList_ofList]; exact hl'⟩

/-- The collation takes no character for this one, but for its case. -/
def Collation.Distinct (col : Collation) (c : Char) : Prop :=
  ∀ x, col.weight (col.lower x) = col.weight (col.lower c) → col.lower x = col.lower c

/-- A name that has, in lower case, another character in the place of one of the keyword. -/
theorem exists_lowerText_eq_map (col : Collation) (k : String) (c x : Char) :
    ∃ n : String, col.lowerText n.toList =
      (col.lowerText k.toList).map fun d => if d = col.lower c then col.lower x else d := by
  refine ⟨String.ofList (k.toList.map fun d => if col.lower d = col.lower c then x else d), ?_⟩
  rw [String.toList_ofList, Collation.lowerText, Collation.lowerText, List.map_map, List.map_map]
  refine List.map_congr_left ?_
  intro d _
  simp only [Function.comp_apply]
  split <;> rfl

/-- A keyword without wildcards is searched for up to the weights of its characters. -/
theorem like_lowerText_iff {col : Collation} {k : String}
    (hk : Sql.Literal (col.lowerText k.toList)) (n : String) :
    Sql.like col.weight ('%' :: (col.lowerText k.toList ++ ['%'])) (col.lowerText n.toList) ↔
      (col.lowerText k.toList).map col.weight <:+: (col.lowerText n.toList).map col.weight :=
  Sql.like_contains hk _

/-- **When a keyword is searched for as it is.**  For every name the conditions of the two queries
amount to the lower-cased keyword occurring in the lower-cased name, if and only if no character of
the lower-cased keyword is a `%` or a `_`, nor one that the collation takes for another. -/
theorem nomLike_contains_iff (col : Collation) (k : String) :
    (∀ n : String,
      ((PlatRepository.nomLike col k (some n)).holds = true ↔
        col.lowerText k.toList <:+: col.lowerText n.toList) ∧
      ((MenuRepository.nomLike col k (some n)).holds = true ↔
        col.lowerText k.toList <:+: col.lowerText n.toList)) ↔
      ∀ c ∈ k.toList, col.lower c ≠ '%' ∧ col.lower c ≠ '_' ∧ col.Distinct c := by
  have hlit : (∀ c ∈ k.toList, col.lower c ≠ '%' ∧ col.lower c ≠ '_' ∧ col.Distinct c) ↔
      Sql.Literal (col.lowerText k.toList) ∧ ∀ c ∈ k.toList, col.Distinct c := by
    simp only [Sql.Literal, Collation.lowerText, List.forall_mem_map, ← and_assoc, forall_and]
  simp only [PlatRepository.nomLike_some, MenuRepository.nomLike_some, and_self, hlit]
  refine ⟨?_, ?_⟩
  · intro h
    have hliteral : Sql.Literal (col.lowerText k.toList) := by
      obtain ⟨n, hn⟩ := exists_lowerText_eq_disguise col k
      have hlike : Sql.like col.weight ('%' :: (col.lowerText k.toList ++ ['%']))
          (col.lowerText n.toList) := by
        rw [hn]
        exact Sql.like_percent.2 ⟨_, List.suffix_refl _, Sql.like_disguise _⟩
      exact Sql.literal_of_infix_disguise (hn ▸ (h n).1 hlike)
    refine ⟨hliteral, ?_⟩
    -- another character of the same weight, put in the place of `c`, is found all the same
    intro c hc x hx
    obtain ⟨n, hn⟩ := exists_lowerText_eq_map col k c x
    have hweights : (col.lowerText n.toList).map col.weight =
        (col.lowerText k.toList).map col.weight := by
      rw [hn, List.map_map]
      refine List.map_congr_left ?_
      intro d _
      simp only [Function.comp_apply]
      split
      · rename_i hd
        rw [hd, hx]
      · rfl
    have hfound := (h n).1 ((like_lowerText_iff hliteral n).2 (hweights ▸ List.infix_refl _))
    exact Sql.eq_of_infix_map (List.mem_map_of_mem hc) (hn ▸ hfound)
  · rintro ⟨hliteral, hdistinct⟩ n
    rw [like_lowerText_iff hliteral n, Sql.map_infix_map_iff]
    simp only [Collation.lowerText, List.forall_mem_map]
    exact fun c hc x _ => hdistinct c hc x

/-- The keyword `_` finds the name `Riz`, which does not contain it. -/
theorem nomLike_not_contains :
    ¬ ∀ (col : Collation) (k n : String), k ≠ "" →
      ((PlatRepository.nomLike col k (some n)).holds = true ↔
        col.lowerText k.toList <:+: col.lowerText n.toList) ∧
      ((MenuRepository.nomLike col k (some n)).holds = true ↔
        col.lowerText k.toList <:+: col.lowerText n.toList) := by
  intro h
  exact absurd ((h .codePoint "_" "Riz" (by decide)).1.1 (by decide)) (by decide)

/-- A collation that takes `è` for `e`. -/
def Collation.graveAsPlain : Collation :=
  { Collation.codePoint with
    weight := fun c => if c = 'è' then 'e'.toNat else c.toNat
    weight_space := by
      intro c h
      split at h
      · exact absurd h (by decide)
      · exact Char.toNat_inj.1 h }

/-- There the keyword `creme` finds a name it is not in. -/
example : (PlatRepository.nomLike .graveAsPlain "creme" (some "Crème brûlée")).holds = true ∧
    ¬ Collation.graveAsPlain.lowerText "creme".toList <:+:
      Collation.graveAsPlain.lowerText "Crème brûlée".toList := by
  decide

end GestionMenus
