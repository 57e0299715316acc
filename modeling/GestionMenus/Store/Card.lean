import Mathlib.Data.Finset.Dedup
import GestionMenus.Base.Memory
import GestionMenus.Store.Repository

/-!
# The card

What the application is for, with nothing of how it stores it: a restaurant has plats, each of a
categorie, and menus, each with a price and a set of plats.

* `Card` is that, as three partial functions.  Its fields say that the plats of a menu are on the
  card and that the categorie of a plat is too, so there is no card with a menu that has lost a
  plat.
* `Db.card` reads a card off the four tables.  The join table disappears into the menus, and the
  order of the rows with it.

The rest is what the repository calls are on the card: a save writes one menu or one plat
(`card_saveMenu`, `card_savePlat`), a deletion takes one away (`card_deleteMenu`,
`card_deletePlat`), and nothing else on the card moves.
-/

set_option autoImplicit false

namespace GestionMenus

open Memory

/-- A menu of the card: its row, and the set of its plats. -/
structure StoredMenu where
  row : Menu
  plats : Finset ℤ
  deriving DecidableEq

/-- The card: menus, plats and categories by identifier. -/
@[ext] structure Card where
  menus : ℤ → Option StoredMenu
  plats : ℤ → Option Plat
  categories : ℤ → Option Categorie
  /-- A menu is made of plats of the card. -/
  menu_plats : ∀ id m, menus id = some m → ∀ k ∈ m.plats, ∃ p, plats k = some p
  /-- A plat is of a categorie of the card. -/
  plat_categorie : ∀ id p, plats id = some p → ∃ c, categories p.categorieId = some c

/-- The card the tables hold. -/
def Db.card (db : Db) : Card where
  menus id :=
    (Sql.lookup Menu.id id db.tables.menu).map fun m => ⟨m, (db.platIdsOf id).toFinset⟩
  plats id := Sql.lookup Plat.id id db.tables.plat
  categories id := Sql.lookup Categorie.id id db.tables.categorie
  menu_plats := by
    intro id m hm k hk
    obtain ⟨row, -, rfl⟩ := Option.map_eq_some_iff.1 hm
    obtain ⟨p, hp, hid⟩ := db.hasPlat_of_mem_platIdsOf (List.mem_toFinset.1 hk)
    exact ⟨p, (Sql.lookup_eq_some_iff db.valid.plat_pk).2 ⟨hp, hid⟩⟩
  plat_categorie := by
    intro id p hp
    obtain ⟨hmem, -⟩ := (Sql.lookup_eq_some_iff db.valid.plat_pk).1 hp
    obtain ⟨c, hc, hid⟩ := db.valid.plat_categorie p hmem
    exact ⟨c, (Sql.lookup_eq_some_iff db.valid.categorie_pk).2 ⟨hc, hid⟩⟩

section

variable {db db' : Db}

theorem card_menus_congr (hmenu : db'.tables.menu = db.tables.menu)
    (hplats : db'.tables.menuPlat = db.tables.menuPlat) : db'.card.menus = db.card.menus := by
  funext id
  simp only [Db.card, Db.platIdsOf, hmenu, hplats]

theorem card_plats_congr (h : db'.tables.plat = db.tables.plat) :
    db'.card.plats = db.card.plats := by
  funext id
  simp only [Db.card, h]

theorem card_categories_congr (h : db'.tables.categorie = db.tables.categorie) :
    db'.card.categories = db.card.categories := by
  funext id
  simp only [Db.card, h]

/-- The menus other than one, when its rows are all that has changed. -/
theorem MenuRepository.SameApart.card_menus {id k : ℤ} (h : SameApart id db db') (hk : k ≠ id) :
    db'.card.menus k = db.card.menus k := by
  have hids : db'.platIdsOf k = db.platIdsOf k := by
    have hfilter : ∀ d : Db, d.platIdsOf k = ((d.tables.menuPlat.filter fun r =>
        !decide (r.menuId = id)).filter fun r => r.menuId = k).map MenuPlat.platId := by
      intro d
      rw [Db.platIdsOf, List.filter_filter]
      congr 1
      refine List.filter_congr ?_
      intro r _
      by_cases hr : r.menuId = k
      · simp [hr, hk]
      · simp [hr]
    rw [hfilter, hfilter, h.menuPlat]
  simp only [Db.card, Sql.lookup_congr h.menu hk, hids]

/-- **A menu that is saved is written on the card**, with its plats. -/
theorem card_saveMenu {menu : MenuBean} {ids : List ℤ} {id : ℤ}
    (h : MenuRepository.Saved db menu ids db' id) (hothers : MenuRepository.SameApart id db db') :
    db'.card.menus = write db.card.menus ⟨id, some ⟨menu.row id, ids.toFinset⟩⟩ ∧
      db'.card.plats = db.card.plats ∧ db'.card.categories = db.card.categories := by
  refine ⟨eq_write ?_ fun k hk => hothers.card_menus hk, card_plats_congr h.plat_eq,
    card_categories_congr h.categorie_eq⟩
  have hlook : Sql.lookup Menu.id id db'.tables.menu = some (menu.row id) :=
    (Sql.lookup_eq_some_iff db'.valid.menu_pk).2 ⟨h.row_mem, rfl⟩
  have hids : (db'.platIdsOf id).toFinset = ids.toFinset := by
    ext k
    rw [List.mem_toFinset, db'.mem_platIdsOf, h.mem_menuPlat, List.mem_toFinset]
    simp
  simp only [Db.card, hids]
  rw [hlook, Option.map_some]

/-- **A menu that is deleted is taken off the card.** -/
theorem card_deleteMenu {id : ℤ} (ht : db'.tables = { db.tables with
      menu := Sql.deleteRow Menu.id id db.tables.menu
      menuPlat := db.tables.menuPlat.filter fun r => !decide (r.menuId = id) }) :
    db'.card.menus = write db.card.menus ⟨id, none⟩ ∧ db'.card.plats = db.card.plats ∧
      db'.card.categories = db.card.categories := by
  have hothers : MenuRepository.SameApart id db db' := by
    refine ⟨?_, ?_, by rw [ht], by rw [ht]⟩
    · rw [ht]
      simp [Sql.deleteRow]
    · rw [ht]
      simp
  refine ⟨eq_write ?_ fun k hk => hothers.card_menus hk, card_plats_congr (by rw [ht]),
    card_categories_congr (by rw [ht])⟩
  simp only [Db.card, ht, Sql.lookup_deleteRow_self, Option.map_none]

/-- What a flush writes on the card: the categorie, when it was changed. -/
def ManagedCategorie.write? (c : ManagedCategorie) : Option (Write ℤ Categorie) :=
  if c.current = c.loaded then none else some ⟨c.current.id, some c.current⟩

/-- A categorie is changed by the save of one of its plats. -/
theorem card_flushCategorie {plat : PlatBean} {id : ℤ}
    (h : PlatRepository.save db plat = .ok (db', id)) {c : ManagedCategorie}
    (hc : plat.categorie = some c) :
    db'.card.categories = Runs.run write db.card.categories c.write?.toList := by
  obtain ⟨c', hc', hflush, htable⟩ := PlatRepository.save_categorie h
  rw [hc, Option.some_inj] at hc'
  subst hc'
  rw [ManagedCategorie.write?]
  split_ifs at htable ⊢
  · exact card_categories_congr htable
  · refine eq_write ?_ fun k hk => Sql.lookup_congr ?_ hk
    · -- the plat has just been stored, so its categorie is there
      obtain ⟨c₀, hc₀, hid⟩ :=
        db'.valid.plat_categorie _ ((PlatRepository.save_ok h).row_mem hc)
      rw [htable] at hc₀
      have hmem := Sql.mem_updateRow_self ((Sql.exists_key_updateRow _).1
        ⟨c₀, hc₀, hid.trans hflush.id_eq.symm⟩)
      rw [← htable] at hmem
      exact (Sql.lookup_eq_some_iff db'.valid.categorie_pk).2 ⟨hmem, rfl⟩
    · rw [htable]
      exact Sql.deleteRow_updateRow c.current db.tables.categorie

/-- **A plat that is saved is written on the card**, and with it its categorie, if that was changed
too. -/
theorem card_savePlat {plat : PlatBean} {id : ℤ}
    (h : PlatRepository.save db plat = .ok (db', id)) {c : ManagedCategorie}
    (hc : plat.categorie = some c) :
    db'.card.plats = write db.card.plats ⟨id, some (plat.row id c.loaded.id)⟩ ∧
      db'.card.menus = db.card.menus ∧
      db'.card.categories = Runs.run write db.card.categories c.write?.toList := by
  have hsaved := PlatRepository.save_ok h
  refine ⟨eq_write ?_ fun k hk => Sql.lookup_congr hsaved.deleteRow_eq hk,
    card_menus_congr hsaved.menu_eq hsaved.menuPlat_eq, card_flushCategorie h hc⟩
  exact (Sql.lookup_eq_some_iff db'.valid.plat_pk).2 ⟨hsaved.row_mem hc, rfl⟩

/-- **A plat that is deleted is taken off the card.** -/
theorem card_deletePlat {id : ℤ}
    (ht : db'.tables = { db.tables with plat := Sql.deleteRow Plat.id id db.tables.plat }) :
    db'.card.plats = write db.card.plats ⟨id, none⟩ ∧ db'.card.menus = db.card.menus ∧
      db'.card.categories = db.card.categories := by
  refine ⟨eq_write ?_ fun k hk => Sql.lookup_congr ?_ hk,
    card_menus_congr (by rw [ht]) (by rw [ht]), card_categories_congr (by rw [ht])⟩
  · simp only [Db.card, ht, Sql.lookup_deleteRow_self]
  · rw [ht]
    simp [Sql.deleteRow]

end

end GestionMenus
