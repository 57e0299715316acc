import Mathlib.Data.String.Basic
import GestionMenus.Store.Repository

/-!
# The two `findFiltered` queries

`MenuRepository.findFiltered` and `PlatRepository.findFiltered` are JPQL queries given as text.
Here they are evaluated the way SQL evaluates them: the `LEFT JOIN` first, then the `WHERE` in
three-valued logic on every joined row, then the `DISTINCT`.

* `MenuCriteria` and `PlatCriteria` are the parameters of the queries.
* `MenuRepository.findFiltered` and `PlatRepository.findFiltered` are the rows they select, before
  any ordering or paging.
* `SortOrder` is the `Sort` a page can be asked in, and `SortOrder.le` its ordering.

What the collation of the server does to letters — how `LOWER` maps them, which of them compare
equal and in which order they sort — is a parameter, `Collation`.
-/

set_option autoImplicit false

namespace GestionMenus

/-- What the queries use of the collation of the database. -/
structure Collation where
  /-- `LOWER`, which acts character by character. -/
  lower : Char → Char
  /-- `LOWER` leaves the wildcards of `LIKE` alone. -/
  lower_percent : lower '%' = '%'
  lower_underscore : lower '_' = '_'
  /-- What `=` and `LIKE` compare: in `latin1_swedish_ci` `e`, `é` and `è` weigh the same. -/
  weight : Char → ℕ
  /-- No other character compares equal to the space texts are padded with. -/
  weight_space : ∀ c, weight c = weight ' ' → c = ' '
  /-- The order `ORDER BY` sorts texts in. -/
  le : String → String → Bool
  /-- Texts always compare. -/
  isOrder : Paging.IsOrder le

/-- `LOWER(s)`. -/
def Collation.lowerText (col : Collation) (s : List Char) : List Char := s.map col.lower

/-- The empty text, or nothing but spaces. -/
def OnlySpaces (s : String) : Prop := ∀ c ∈ s.toList, c = ' '

instance (s : String) : Decidable (OnlySpaces s) := List.decidableBAll (fun c => c = ' ') s.toList

theorem onlySpaces_empty : OnlySpaces "" := by decide

/-- `s = ''` ignores spaces at the end of `s`. -/
theorem Collation.eqPad_empty_iff (col : Collation) (s : String) :
    Sql.eqPad col.weight s.toList [] = true ↔ OnlySpaces s :=
  Sql.eqPad_nil_iff col.weight col.weight_space s.toList

/-! ## Menus -/

/-- The criteria of the menu listing. -/
structure MenuCriteria where
  filtre : String := ""
  prixMin : Option ℚ := none
  prixMax : Option ℚ := none
  calMin : Option Int32 := none
  calMax : Option Int32 := none
  deriving DecidableEq

namespace MenuRepository

/-- `LOWER(nom) LIKE CONCAT('%', LOWER(:filtre), '%')`. -/
def nomLike (col : Collation) (filtre : String) (nom : Option String) : Sql.Truth :=
  nom.map fun nom =>
    Sql.like col.weight (['%'] ++ col.lowerText filtre.toList ++ ['%']) (col.lowerText nom.toList)

/-- `COALESCE((SELECT SUM(p2.nbCalories) FROM m.plats p2), 0)`. -/
def sumCalories (db : Db) (m : Menu) : ℤ :=
  Sql.coalesce (Sql.sumCol ((db.platsOf m.id).map fun p => p.nbCalories.toInt)) 0

/-- The `WHERE` clause, on a menu joined with one of its plats or with `NULL`. -/
def cond (col : Collation) (db : Db) (c : MenuCriteria) (m : Menu) (p : Option Plat) : Sql.Truth :=
  Sql.all [
    Sql.any [some (Sql.eqPad col.weight c.filtre.toList []), nomLike col c.filtre m.nom,
      nomLike col c.filtre (p.bind Plat.nom)],
    Sql.optional (fun x b => b ≤ x) m.prix c.prixMin,
    Sql.optional (fun x b => x ≤ b) m.prix c.prixMax,
    Sql.optional (fun x b => b.toInt ≤ x) (sumCalories db m) c.calMin,
    Sql.optional (fun x b => x ≤ b.toInt) (sumCalories db m) c.calMax]

/-- The rows of `menuRepository.findFiltered`, before ordering and paging. -/
def findFiltered (col : Collation) (db : Db) (c : MenuCriteria) : List Menu :=
  Sql.selectDistinct (Sql.leftJoin db.tables.menu fun m => db.platsOf m.id) (cond col db c)

/-- The bounds of the criteria, which are about the menu and not about the joined plat. -/
structure Bounds (db : Db) (c : MenuCriteria) (m : Menu) : Prop where
  prixMin : ∀ b, c.prixMin = some b → b ≤ m.prix
  prixMax : ∀ b, c.prixMax = some b → m.prix ≤ b
  calMin : ∀ b, c.calMin = some b → b.toInt ≤ sumCalories db m
  calMax : ∀ b, c.calMax = some b → sumCalories db m ≤ b.toInt

/-- The criterion `filtre`: on the menu's name, or on the name of one of its plats.  Spaces alone
are no criterion. -/
def NameMatches (col : Collation) (db : Db) (filtre : String) (m : Menu) : Prop :=
  OnlySpaces filtre ∨ (nomLike col filtre m.nom).holds = true ∨
    ∃ p ∈ db.platsOf m.id, (nomLike col filtre p.nom).holds = true

theorem cond_holds_iff (col : Collation) (db : Db) (c : MenuCriteria) (m : Menu) (p : Option Plat) :
    (cond col db c m p).holds = true ↔
      (OnlySpaces c.filtre ∨ (nomLike col c.filtre m.nom).holds = true ∨
        (nomLike col c.filtre (p.bind Plat.nom)).holds = true) ∧ Bounds db c m := by
  simp only [cond, Sql.holds_all, Sql.holds_any, List.forall_mem_cons, List.exists_mem_cons_iff,
    Sql.holds_optional, Sql.Truth.holds_some, Collation.eqPad_empty_iff, decide_eq_true_eq,
    List.not_mem_nil, false_and, exists_false, or_false, false_imp_iff, implies_true, and_true]
  exact and_congr_right fun _ =>
    ⟨fun h => ⟨h.1, h.2.1, h.2.2.1, h.2.2.2⟩, fun h => ⟨h.prixMin, h.prixMax, h.calMin, h.calMax⟩⟩

/-- **What the menu query selects**: the menus whose name, or one of whose plats' names, matches,
within the bounds.  The join neither loses a menu without plats nor cuts the sum down to the plats
that match. -/
theorem mem_findFiltered {col : Collation} {db : Db} {c : MenuCriteria} {m : Menu} :
    m ∈ findFiltered col db c ↔
      m ∈ db.tables.menu ∧ NameMatches col db c.filtre m ∧ Bounds db c m := by
  simp only [findFiltered, Sql.mem_selectDistinct, Sql.mem_leftJoin, cond_holds_iff]
  refine ⟨?_, ?_⟩
  · rintro ⟨o, ⟨hm, ho⟩, hname, hb⟩
    refine ⟨hm, ?_, hb⟩
    rcases hname with h | h | h
    · exact Or.inl h
    · exact Or.inr (Or.inl h)
    · rcases ho with ⟨-, rfl⟩ | ⟨p, hp, rfl⟩
      · exact absurd h (by simp [nomLike])
      · exact Or.inr (Or.inr ⟨p, hp, h⟩)
  · rintro ⟨hm, hname, hb⟩
    -- a name that matches on the menu itself is seen on any of its joined rows
    have hany : ∃ o, db.platsOf m.id = [] ∧ o = none ∨ ∃ p ∈ db.platsOf m.id, o = some p := by
      cases hp : db.platsOf m.id with
      | nil => exact ⟨none, Or.inl ⟨rfl, rfl⟩⟩
      | cons p ps => exact ⟨some p, Or.inr ⟨p, List.mem_cons_self, rfl⟩⟩
    obtain ⟨o, ho⟩ := hany
    rcases hname with h | h | ⟨p, hp, h⟩
    · exact ⟨o, ⟨hm, ho⟩, Or.inl h, hb⟩
    · exact ⟨o, ⟨hm, ho⟩, Or.inr (Or.inl h), hb⟩
    · exact ⟨some p, ⟨hm, Or.inr ⟨p, hp, rfl⟩⟩, Or.inr (Or.inr h), hb⟩

theorem nodup_findFiltered (col : Collation) (db : Db) (c : MenuCriteria) :
    (findFiltered col db c).Nodup :=
  Sql.nodup_selectDistinct _ _

/-- Dropping the bounds selects at least as much. -/
theorem findFiltered_subset_filtre (col : Collation) (db : Db) (c : MenuCriteria) :
    findFiltered col db c ⊆ findFiltered col db { filtre := c.filtre } := by
  intro m hm
  obtain ⟨hm, hname, -⟩ := mem_findFiltered.1 hm
  exact mem_findFiltered.2 ⟨hm, hname, by constructor <;> simp⟩

end MenuRepository

/-! ## Plats -/

/-- The criteria of the plat listing. -/
structure PlatCriteria where
  categorieId : Option ℤ := none
  minCalories : Option Int32 := none
  maxCalories : Option Int32 := none
  minLipides : Option Int32 := none
  maxLipides : Option Int32 := none
  minGlucides : Option Int32 := none
  maxGlucides : Option Int32 := none
  minProteines : Option Int32 := none
  maxProteines : Option Int32 := none
  motCle : String := ""
  deriving DecidableEq

namespace PlatRepository

/-- `LOWER(p.nom) LIKE LOWER(CONCAT('%', :motCle, '%'))`. -/
def nomLike (col : Collation) (motCle : String) (nom : Option String) : Sql.Truth :=
  nom.map fun nom =>
    Sql.like col.weight (col.lowerText (['%'] ++ motCle.toList ++ ['%'])) (col.lowerText nom.toList)

/-- The `WHERE` clause. -/
def cond (col : Collation) (c : PlatCriteria) (p : Plat) : Sql.Truth :=
  Sql.all [
    Sql.optional (fun x b => x = b) p.categorieId c.categorieId,
    Sql.optional (fun x b => b ≤ x) p.nbCalories c.minCalories,
    Sql.optional (fun x b => x ≤ b) p.nbCalories c.maxCalories,
    Sql.optional (fun x b => b ≤ x) p.nbLipides c.minLipides,
    Sql.optional (fun x b => x ≤ b) p.nbLipides c.maxLipides,
    Sql.optional (fun x b => b ≤ x) p.nbGlucides c.minGlucides,
    Sql.optional (fun x b => x ≤ b) p.nbGlucides c.maxGlucides,
    Sql.optional (fun x b => b ≤ x) p.nbProteines c.minProteines,
    Sql.optional (fun x b => x ≤ b) p.nbProteines c.maxProteines,
    Sql.any [some (Sql.eqPad col.weight c.motCle.toList []), nomLike col c.motCle p.nom]]

/-- The rows of `platRepository.findFiltered`, before ordering and paging. -/
def findFiltered (col : Collation) (db : Db) (c : PlatCriteria) : List Plat :=
  db.tables.plat.filter fun p => (cond col c p).holds

/-- The criteria, read as a conjunction. -/
structure Matches (col : Collation) (c : PlatCriteria) (p : Plat) : Prop where
  categorieId : ∀ b, c.categorieId = some b → p.categorieId = b
  minCalories : ∀ b, c.minCalories = some b → b ≤ p.nbCalories
  maxCalories : ∀ b, c.maxCalories = some b → p.nbCalories ≤ b
  minLipides : ∀ b, c.minLipides = some b → b ≤ p.nbLipides
  maxLipides : ∀ b, c.maxLipides = some b → p.nbLipides ≤ b
  minGlucides : ∀ b, c.minGlucides = some b → b ≤ p.nbGlucides
  maxGlucides : ∀ b, c.maxGlucides = some b → p.nbGlucides ≤ b
  minProteines : ∀ b, c.minProteines = some b → b ≤ p.nbProteines
  maxProteines : ∀ b, c.maxProteines = some b → p.nbProteines ≤ b
  motCle : OnlySpaces c.motCle ∨ (nomLike col c.motCle p.nom).holds = true

theorem cond_holds_iff (col : Collation) (c : PlatCriteria) (p : Plat) :
    (cond col c p).holds = true ↔ Matches col c p := by
  simp only [cond, Sql.holds_all, Sql.holds_any, List.forall_mem_cons, List.exists_mem_cons_iff,
    Sql.holds_optional, Sql.Truth.holds_some, Collation.eqPad_empty_iff, decide_eq_true_eq,
    List.not_mem_nil, false_and, exists_false, or_false, false_imp_iff, implies_true, and_true]
  refine ⟨?_, ?_⟩
  · rintro ⟨h₁, h₂, h₃, h₄, h₅, h₆, h₇, h₈, h₉, h₁₀⟩
    exact ⟨h₁, h₂, h₃, h₄, h₅, h₆, h₇, h₈, h₉, h₁₀⟩
  · rintro ⟨h₁, h₂, h₃, h₄, h₅, h₆, h₇, h₈, h₉, h₁₀⟩
    exact ⟨h₁, h₂, h₃, h₄, h₅, h₆, h₇, h₈, h₉, h₁₀⟩

/-- **What the plat query selects.** -/
theorem mem_findFiltered {col : Collation} {db : Db} {c : PlatCriteria} {p : Plat} :
    p ∈ findFiltered col db c ↔ p ∈ db.tables.plat ∧ Matches col c p := by
  rw [findFiltered, List.mem_filter, cond_holds_iff]

theorem nodup_findFiltered (col : Collation) (db : Db) (c : PlatCriteria) :
    (findFiltered col db c).Nodup :=
  (List.Nodup.of_map Plat.id db.valid.plat_pk).filter _

end PlatRepository

/-! ## Orderings -/

/-- The properties the menus are sorted by in the query. -/
inductive MenuProperty where
  | nom
  | prix
  deriving DecidableEq

/-- The properties the plats are sorted by in the query. -/
inductive PlatProperty where
  | nom
  | nbCalories
  | categorieNom
  | nbGlucides
  | nbLipides
  | nbProteines
  deriving DecidableEq

/-- A `Sort`: one property and a direction, or `Sort.unsorted()`. -/
abbrev SortOrder (π : Type) := Option (π × Sql.Direction)

/-- The comparison of two menus by a property. -/
def MenuProperty.le (col : Collation) : MenuProperty → Menu → Menu → Bool
  | .nom => fun a b => Sql.leNull col.le a.nom b.nom
  | .prix => fun a b => a.prix ≤ b.prix

/-- The name of the categorie of a plat. -/
def Db.categorieNom (db : Db) (p : Plat) : Option String :=
  (Sql.lookup Categorie.id p.categorieId db.tables.categorie).bind Categorie.nom

/-- The comparison of two plats by a property. -/
def PlatProperty.le (col : Collation) (db : Db) : PlatProperty → Plat → Plat → Bool
  | .nom => fun a b => Sql.leNull col.le a.nom b.nom
  | .nbCalories => fun a b => a.nbCalories ≤ b.nbCalories
  | .categorieNom => fun a b => Sql.leNull col.le (db.categorieNom a) (db.categorieNom b)
  | .nbGlucides => fun a b => a.nbGlucides ≤ b.nbGlucides
  | .nbLipides => fun a b => a.nbLipides ≤ b.nbLipides
  | .nbProteines => fun a b => a.nbProteines ≤ b.nbProteines

/-- The ordering a `Sort` asks for; `Sort.unsorted()` allows every order. -/
def SortOrder.le {π α : Type} (leBy : π → α → α → Bool) : SortOrder π → α → α → Bool
  | none => fun _ _ => true
  | some (p, d) => d.apply (leBy p)

theorem SortOrder.isOrder {π α : Type} {leBy : π → α → α → Bool} (h : ∀ p, Paging.IsOrder (leBy p))
    (s : SortOrder π) : Paging.IsOrder (SortOrder.le leBy s) := by
  cases s with
  | none => exact Sql.isOrder_unsorted
  | some o => exact o.2.isOrder (h o.1)

theorem isOrder_int32 : Paging.IsOrder fun a b : Int32 => decide (a ≤ b) :=
  ⟨fun a b => by simpa using Int32.le_total a b,
    fun a b c hab hbc => by simp only [decide_eq_true_eq] at *; exact Int32.le_trans hab hbc⟩

theorem MenuProperty.isOrder (col : Collation) (p : MenuProperty) : Paging.IsOrder (p.le col) := by
  cases p with
  | nom => exact Sql.isOrder_comap (Sql.isOrder_leNull col.isOrder) Menu.nom
  | prix =>
    exact ⟨fun a b => by simpa [MenuProperty.le] using le_total a.prix b.prix,
      fun a b c hab hbc => by
        simp only [MenuProperty.le, decide_eq_true_eq] at *
        exact le_trans hab hbc⟩

theorem PlatProperty.isOrder (col : Collation) (db : Db) (p : PlatProperty) :
    Paging.IsOrder (p.le col db) := by
  cases p with
  | nom => exact Sql.isOrder_comap (Sql.isOrder_leNull col.isOrder) Plat.nom
  | nbCalories => exact Sql.isOrder_comap isOrder_int32 Plat.nbCalories
  | categorieNom => exact Sql.isOrder_comap (Sql.isOrder_leNull col.isOrder) db.categorieNom
  | nbGlucides => exact Sql.isOrder_comap isOrder_int32 Plat.nbGlucides
  | nbLipides => exact Sql.isOrder_comap isOrder_int32 Plat.nbLipides
  | nbProteines => exact Sql.isOrder_comap isOrder_int32 Plat.nbProteines

/-! ## A small card

A database and a collation to evaluate the definitions on. -/

/-- Texts compared code point by code point. -/
def Collation.codePoint : Collation where
  lower := Char.toLower
  lower_percent := by decide
  lower_underscore := by decide
  weight := Char.toNat
  weight_space c h := Char.toNat_inj.1 h
  le a b := decide (a ≤ b)
  isOrder := ⟨fun a b => by simpa using le_total a b,
    fun a b c hab hbc => by simp only [decide_eq_true_eq] at *; exact le_trans hab hbc⟩

/-- Three menus over two of three plats. -/
def carte : Db where
  tables :=
    { categorie := [⟨1, some "Entree"⟩, ⟨2, some "Plat"⟩]
      menu :=
        [⟨1, some "", some "Midi", 10⟩, ⟨2, some "", some "Soir", 20⟩,
          ⟨3, some "", some "Fete", 30⟩]
      menuPlat := [⟨1, 1⟩, ⟨2, 2⟩, ⟨3, 1⟩, ⟨3, 2⟩]
      plat :=
        [⟨1, some "Soupe", 100, 5, 3, 10, 1⟩, ⟨2, some "Tarte", 400, 20, 6, 40, 2⟩,
          ⟨3, some "Salade", 100, 2, 1, 4, 1⟩] }
  menuSeq := 4
  platSeq := 4
  valid :=
    { categorie_pk := by decide
      menu_pk := by decide
      menuPlat_pk := by decide
      plat_pk := by decide
      menuPlat_menu := by decide
      menuPlat_plat := by decide
      plat_categorie := by decide
      menu_check := by decide
      plat_check := by decide }
  menuSeq_pos := by decide
  platSeq_pos := by decide
  menu_lt := by decide
  plat_lt := by decide

end GestionMenus
