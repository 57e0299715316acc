import GestionMenus.Store.Search
import GestionMenus.Web.Handlers

/-!
# What saving a plat does to the menus

A plat can be in any number of menus, and every one of them shows four totals: calories, glucides,
lipides and proteines.  `savePlat` writes one row of `plat` and nothing else, and the totals follow
from that.

* `Nutrient` is one of the four columns; `Nutrient.of` reads it off a plat and `Nutrient.total` is
  the method of `Menu` that adds it up.
* `Db.otherPlatsOf` are the plats of a menu apart from one.  A menu that contains the plat consists
  of it and of these; any other menu consists of these alone.
* `savePlat_effect` compares the totals before and after.  They are `int`s, so that adding, taking
  away and comparing them is all modulo `2³²`.
-/

set_option autoImplicit false

namespace GestionMenus

/-! ## Totals -/

/-- What a menu totals. -/
inductive Nutrient where
  | calories
  | glucides
  | lipides
  | proteines
  deriving DecidableEq, Repr

namespace Nutrient

/-- The accessor of `Plat`. -/
def of : Nutrient → Plat → Int32
  | .calories => Plat.nbCalories
  | .glucides => Plat.nbGlucides
  | .lipides => Plat.nbLipides
  | .proteines => Plat.nbProteines

/-- The method of `Menu`. -/
def total : Nutrient → List Plat → Int32
  | .calories => getTotalCalories
  | .glucides => getTotalGlucides
  | .lipides => getTotalLipides
  | .proteines => getTotalProteines

/-- Each total adds up its own column. -/
theorem total_eq (n : Nutrient) (plats : List Plat) : n.total plats = getTotal n.of plats := by
  cases n <;> rfl

theorem toInt_total (n : Nutrient) (plats : List Plat) :
    (n.total plats).toInt = ((plats.map fun p => (n.of p).toInt).sum).bmod (2 ^ 32) := by
  rw [total_eq, toInt_getTotal]

/-- The iteration order of the set of plats makes no difference. -/
theorem total_perm (n : Nutrient) {l l' : List Plat} (h : l.Perm l') : n.total l = n.total l' := by
  rw [← Int32.toInt_inj, toInt_total, toInt_total, (h.map fun p => (n.of p).toInt).sum_eq]

theorem total_cons (n : Nutrient) (p : Plat) (l : List Plat) :
    n.total (p :: l) = n.total l + n.of p := by
  rw [← Int32.toInt_inj, Int32.toInt_add, toInt_total, toInt_total, Int.bmod_add_bmod,
    List.map_cons, List.sum_cons, Int.add_comm]

end Nutrient

/-! ## One plat of a menu, and the others -/

/-- The plats of a menu apart from the one with this identifier. -/
def Db.otherPlatsOf (db : Db) (menuId id : ℤ) : List Plat :=
  (Sql.deleteRow Plat.id id db.tables.plat).filter fun p => ⟨menuId, p.id⟩ ∈ db.tables.menuPlat

theorem Db.platsOf_perm_cons {db : Db} {menuId : ℤ} {p : Plat} (hp : p ∈ db.tables.plat)
    (h : ⟨menuId, p.id⟩ ∈ db.tables.menuPlat) :
    (db.platsOf menuId).Perm (p :: db.otherPlatsOf menuId p.id) := by
  refine (MenuRepository.platsOf_perm db menuId).trans ?_
  refine ((Sql.perm_cons_deleteRow db.valid.plat_pk hp).filter _).trans ?_
  rw [List.filter_cons_of_pos (by simpa using h)]
  exact .refl _

theorem Db.platsOf_perm_others {db : Db} {menuId id : ℤ}
    (h : ⟨menuId, id⟩ ∉ db.tables.menuPlat) :
    (db.platsOf menuId).Perm (db.otherPlatsOf menuId id) := by
  refine (MenuRepository.platsOf_perm db menuId).trans (List.Perm.of_eq ?_)
  rw [Db.otherPlatsOf, Sql.deleteRow, List.filter_filter]
  refine List.filter_congr ?_
  intro p _
  by_cases hid : p.id = id
  · simp [hid, h]
  · simp [hid]

/-! ## `savePlat` -/

/-- **What saving a plat does to the menus.**  A `savePlat` that binds the fields of the plat and
the identifier of an existing categorie leaves `menu`, `menu_plat`, `categorie` and the other rows
of `plat` as they were.  Each of the four totals of a menu that contains the plat loses the old
value of its nutrient and gains the new one; the totals of the other menus are what they were. -/
theorem savePlat_effect (db db' : Db) (req : SavePlatRequest) (r : PlatsRequest)
    (hbind : ∃ c ∈ db.tables.categorie, req.plat.categorie = some ⟨c, c⟩)
    (h : savePlat db req = .ok (db', r)) :
    db'.tables.menu = db.tables.menu ∧ db'.tables.menuPlat = db.tables.menuPlat ∧
    db'.tables.categorie = db.tables.categorie ∧
    Sql.deleteRow Plat.id r.id db'.tables.plat = Sql.deleteRow Plat.id r.id db.tables.plat ∧
    ∃ c ∈ db.tables.categorie, req.plat.row r.id c.id ∈ db'.tables.plat ∧
      ∀ (menuId : ℤ) (n : Nutrient),
        (⟨menuId, r.id⟩ ∈ db.tables.menuPlat → ∃ p ∈ db.tables.plat, p.id = r.id ∧
          n.total (db'.platsOf menuId) =
            n.total (db.platsOf menuId) - n.of p + n.of (req.plat.row r.id c.id)) ∧
        (⟨menuId, r.id⟩ ∉ db.tables.menuPlat →
          n.total (db'.platsOf menuId) = n.total (db.platsOf menuId)) := by
  obtain ⟨c, hmem, hc⟩ := hbind
  have hsaved := (savePlat_ok h).1
  have hcategorie : db'.tables.categorie = db.tables.categorie := by
    obtain ⟨c', hc', -, -, hsame⟩ := hsaved.row
    rw [hc, Option.some_inj] at hc'
    subst hc'
    exact hsame rfl
  have hrow : req.plat.row r.id c.id ∈ db'.tables.plat := hsaved.row_mem hc
  have hothers : ∀ menuId, db'.otherPlatsOf menuId r.id = db.otherPlatsOf menuId r.id := by
    intro menuId
    rw [Db.otherPlatsOf, Db.otherPlatsOf, hsaved.deleteRow_eq, hsaved.menuPlat_eq]
  refine ⟨hsaved.menu_eq, hsaved.menuPlat_eq, hcategorie, hsaved.deleteRow_eq, c, hmem, hrow, ?_⟩
  intro menuId n
  refine ⟨?_, ?_⟩
  · intro hin
    obtain ⟨p, hp, hid⟩ : ∃ p ∈ db.tables.plat, p.id = r.id := db.valid.menuPlat_plat _ hin
    have hbefore := n.total_perm (Db.platsOf_perm_cons hp (hid ▸ hin))
    have hafter := n.total_perm (Db.platsOf_perm_cons hrow (hsaved.menuPlat_eq ▸ hin))
    refine ⟨p, hp, hid, ?_⟩
    calc n.total (db'.platsOf menuId)
        = n.total (db.otherPlatsOf menuId r.id) + n.of (req.plat.row r.id c.id) := by
          rw [hafter, n.total_cons, ← hothers]
          rfl
      _ = n.total (db.platsOf menuId) - n.of p + n.of (req.plat.row r.id c.id) := by
          rw [hbefore, n.total_cons, Int32.add_sub_cancel, hid]
  · intro hout
    rw [n.total_perm (Db.platsOf_perm_others hout),
      n.total_perm (Db.platsOf_perm_others (hsaved.menuPlat_eq ▸ hout)), hothers]

/-- The soup of the card becomes richer: menu 3, which contains it, shows 50 calories more, and menu
2 what it showed before. -/
theorem savePlat_effect_carte :
    let req : SavePlatRequest :=
      { plat := ⟨some 1, some "Soupe", 150, 5, 3, 10, some ⟨⟨1, some "Entree"⟩, ⟨1, some "Entree"⟩⟩⟩
        page := 0
        size := 10 }
    ∃ db' r, savePlat carte req = .ok (db', r) ∧
      getTotalCalories (db'.platsOf 3) = getTotalCalories (carte.platsOf 3) - 100 + 150 ∧
      getTotalCalories (db'.platsOf 2) = getTotalCalories (carte.platsOf 2) := by
  intro req
  obtain ⟨db', r, h, hid⟩ : ∃ db' r, savePlat carte req = .ok (db', r) ∧ r.id = 1 :=
    ⟨_, _, rfl, rfl⟩
  obtain ⟨-, -, -, -, c, -, -, heffect⟩ := savePlat_effect carte db' req r
    ⟨⟨1, some "Entree"⟩, by decide, rfl⟩ h
  rw [hid] at heffect
  obtain ⟨p, hp, hpid, htotal⟩ := (heffect 3 .calories).1 (by decide)
  have hcalories : p.nbCalories = 100 := by
    have hall : ∀ p ∈ carte.tables.plat, p.id = 1 → p.nbCalories = 100 := by decide
    exact hall p hp hpid
  refine ⟨db', r, h, ?_, (heffect 2 .calories).2 (by decide)⟩
  rw [← hcalories]
  exact htotal

end GestionMenus
