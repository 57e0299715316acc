import GestionMenus.Base.IdentityMap
import GestionMenus.Store.Schema

/-!
# What the repositories do to the database

`MenuRepository` and `PlatRepository` are Spring Data interfaces: their `save`, `deleteById` and
`findById` are one transaction each, rolled back as a whole when a statement in it fails.  Here a
call is a function from the database to either an error — and then the database is what it was —
or the next database.

* `save` inserts a bean without identifier and merges one with an identifier.  Merging a bean
  whose row is gone fails (both identifiers are generated, so Hibernate 6.6 knows the bean is
  detached), and merging the `plats` of a menu deletes the rows of `menu_plat` that are no longer
  wanted and inserts the new ones.
* `deleteById` does nothing to a missing identifier.  Deleting a menu first deletes its rows of
  `menu_plat`, since `Menu` owns the association; deleting a plat does not.
* `findById` goes through the persistence context of the request (`open-in-view` is on by
  default), so that one identifier is one object.

`MenuRepository.save_ok`, `MenuRepository.save_violation` and the lemmas beside them are all the
rest of the development uses.
-/

set_option autoImplicit false

namespace GestionMenus

open IdentityMap

/-! ## Beans -/

/-- A `Menu` object as the data binder fills it; `plats` is set by the controller. -/
structure MenuBean where
  id : Option ℤ
  nom : Option String
  description : Option String
  prix : ℚ
  deriving DecidableEq

/-- A managed `Categorie`: as it was loaded, and as it is when the transaction flushes. -/
structure ManagedCategorie where
  loaded : Categorie
  current : Categorie
  deriving DecidableEq

/-- A `Plat` object as the data binder fills it. -/
structure PlatBean where
  id : Option ℤ
  nom : Option String
  nbCalories : Int32
  nbLipides : Int32
  nbProteines : Int32
  nbGlucides : Int32
  categorie : Option ManagedCategorie
  deriving DecidableEq

/-- The row a menu is stored as. -/
def MenuBean.row (m : MenuBean) (id : ℤ) : Menu := ⟨id, m.description, m.nom, m.prix⟩

/-- The row a plat of the given categorie is stored as. -/
def PlatBean.row (p : PlatBean) (id categorieId : ℤ) : Plat :=
  ⟨id, p.nom, p.nbCalories, p.nbLipides, p.nbProteines, p.nbGlucides, categorieId⟩

/-- The objects of type `Plat` a request has loaded. -/
abbrev PlatSession := Session Plat.id

/-! ## The plats of a menu, and their totals -/

/-- `menu.getPlats()`: the rows the join table leads to.  The iteration order of the set is not
specified; the order of the table stands for it. -/
def Db.platsOf (db : Db) (menuId : ℤ) : List Plat :=
  (db.platIdsOf menuId).filterMap fun id => Sql.lookup Plat.id id db.tables.plat

theorem Db.map_id_platsOf (db : Db) (menuId : ℤ) :
    (db.platsOf menuId).map Plat.id = db.platIdsOf menuId := by
  have h : ∀ l : List ℤ, (∀ id ∈ l, db.HasPlat id) →
      (l.filterMap fun id => Sql.lookup Plat.id id db.tables.plat).map Plat.id = l := by
    intro l hl
    induction l with
    | nil => rfl
    | cons id l ih =>
      obtain ⟨p, hp, rfl⟩ := hl id List.mem_cons_self
      have hlook := (Sql.lookup_eq_some_iff db.valid.plat_pk).2 ⟨hp, rfl⟩
      rw [List.filterMap_cons, hlook, List.map_cons,
        ih fun id' h' => hl id' (List.mem_cons_of_mem _ h')]
  exact h _ fun _ hid => db.hasPlat_of_mem_platIdsOf hid

theorem Db.mem_platsOf {db : Db} {menuId : ℤ} {p : Plat} :
    p ∈ db.platsOf menuId ↔ p ∈ db.tables.plat ∧ ⟨menuId, p.id⟩ ∈ db.tables.menuPlat := by
  simp only [Db.platsOf, List.mem_filterMap, Sql.lookup_eq_some_iff db.valid.plat_pk,
    db.mem_platIdsOf]
  constructor
  · rintro ⟨id, hid, hp, rfl⟩
    exact ⟨hp, hid⟩
  · rintro ⟨hp, hid⟩
    exact ⟨p.id, hid, hp, rfl⟩

/-- `plats.stream().mapToInt(field).sum()`, in `int` arithmetic. -/
def getTotal (field : Plat → Int32) (plats : List Plat) : Int32 :=
  plats.foldl (fun acc p => acc + field p) 0

/-- `Menu.getTotalCalories`. -/
def getTotalCalories (plats : List Plat) : Int32 := getTotal Plat.nbCalories plats

/-- `Menu.getTotalGlucides`. -/
def getTotalGlucides (plats : List Plat) : Int32 := getTotal Plat.nbGlucides plats

/-- `Menu.getTotalLipides`. -/
def getTotalLipides (plats : List Plat) : Int32 := getTotal Plat.nbLipides plats

/-- `Menu.getTotalProteines`. -/
def getTotalProteines (plats : List Plat) : Int32 := getTotal Plat.nbProteines plats

/-- A total is the sum of the column, wrapped around into an `int`. -/
theorem toInt_getTotal (field : Plat → Int32) (plats : List Plat) :
    (getTotal field plats).toInt = ((plats.map fun p => (field p).toInt).sum).bmod (2 ^ 32) := by
  have h : ∀ acc : Int32, (plats.foldl (fun acc p => acc + field p) acc).toInt =
      (acc.toInt + (plats.map fun p => (field p).toInt).sum).bmod (2 ^ 32) := by
    induction plats with
    | nil => intro acc; simp [Int32.toInt_bmod]
    | cons p plats ih =>
      intro acc
      rw [List.foldl_cons, ih, Int32.toInt_add, Int.bmod_add_bmod, List.map_cons, List.sum_cons,
        Int.add_assoc]
  simpa [getTotal] using h 0

/-! ## Inserting the rows of `menu_plat` -/

/-- The insertions of a save, one statement for each plat. -/
def Db.insertMenuPlats (db : Db) (menuId : ℤ) : List ℤ → Except StoreError Db
  | [] => .ok db
  | p :: ps => do
    let db ← db.insertMenuPlat ⟨menuId, p⟩
    db.insertMenuPlats menuId ps

theorem Db.insertMenuPlats_ok {db db' : Db} {menuId : ℤ} {ps : List ℤ}
    (h : db.insertMenuPlats menuId ps = .ok db') :
    (∀ p ∈ ps, db.HasPlat p) ∧
      db'.tables = { db.tables with
        menuPlat := db.tables.menuPlat ++ ps.map fun p => ⟨menuId, p⟩ } ∧
      db'.menuSeq = db.menuSeq ∧ db'.platSeq = db.platSeq := by
  induction ps generalizing db with
  | nil => cases h; simp
  | cons p ps ih =>
    obtain ⟨db₁, h₁, h₂⟩ := bind_ok h
    obtain ⟨⟨-, -, hp⟩, ht₁, hm₁, hp₁⟩ := insertMenuPlat_ok h₁
    obtain ⟨hps, ht₂, hm₂, hp₂⟩ := ih h₂
    refine ⟨?_, by rw [ht₂, ht₁]; simp, hm₂.trans hm₁, hp₂.trans hp₁⟩
    intro q hq
    rcases List.mem_cons.1 hq with rfl | hq
    · exact hp
    · have h := hps q hq
      rw [HasPlat, ht₁] at h
      exact h

/-- Inserting new rows for existing plats goes through. -/
theorem Db.exists_insertMenuPlats {db : Db} {menuId : ℤ} {ps : List ℤ} (hmenu : db.HasMenu menuId)
    (hnd : ps.Nodup) (hnew : ∀ p ∈ ps, ⟨menuId, p⟩ ∉ db.tables.menuPlat)
    (hplat : ∀ p ∈ ps, db.HasPlat p) : ∃ db', db.insertMenuPlats menuId ps = .ok db' := by
  induction ps generalizing db with
  | nil => exact ⟨db, rfl⟩
  | cons p ps ih =>
    obtain ⟨db₁, h₁⟩ := exists_insertMenuPlat (hnew p List.mem_cons_self) hmenu
      (hplat p List.mem_cons_self)
    obtain ⟨-, ht₁, -, -⟩ := insertMenuPlat_ok h₁
    obtain ⟨hp, hnd⟩ := List.nodup_cons.1 hnd
    have hmenu₁ : db₁.HasMenu menuId := by rw [HasMenu, ht₁]; exact hmenu
    obtain ⟨db₂, h₂⟩ := ih hmenu₁ hnd
      (fun q hq hmem => by
        rw [ht₁] at hmem
        rcases List.mem_append.1 hmem with hmem | hmem
        · exact hnew q (List.mem_cons_of_mem _ hq) hmem
        · simp only [List.mem_singleton, MenuPlat.mk.injEq, true_and] at hmem
          exact hp (hmem ▸ hq))
      (fun q hq => by rw [HasPlat, ht₁]; exact hplat q (List.mem_cons_of_mem _ hq))
    refine ⟨db₂, ?_⟩
    rw [insertMenuPlats, h₁]
    exact h₂

/-- A failing insertion names a plat that does not exist: its row is the only thing that can be
wrong with new rows of an existing menu. -/
theorem Db.insertMenuPlats_error {db : Db} {menuId : ℤ} {ps : List ℤ} {e : StoreError}
    (h : db.insertMenuPlats menuId ps = .error e) (hmenu : db.HasMenu menuId) (hnd : ps.Nodup)
    (hnew : ∀ p ∈ ps, ⟨menuId, p⟩ ∉ db.tables.menuPlat) : ∃ p ∈ ps, ¬ db.HasPlat p := by
  by_contra hall
  have hplat : ∀ p ∈ ps, db.HasPlat p := fun p hp => by
    by_contra hno
    exact hall ⟨p, hp, hno⟩
  obtain ⟨db', h'⟩ := exists_insertMenuPlats hmenu hnd hnew hplat
  rw [h] at h'
  exact absurd h' (by simp)

/-! ## `MenuRepository` -/

namespace MenuRepository

/-- The rows of `menu_plat` still to be inserted for a menu whose plats become `ids`. -/
def missing (db : Db) (menuId : ℤ) (ids : List ℤ) : List ℤ :=
  ids.filter fun p => ⟨menuId, p⟩ ∉ db.tables.menuPlat

/-- `entityManager.persist`: a new row, then its association. -/
def persist (db : Db) (menu : MenuBean) (ids : List ℤ) : Except StoreError (Db × ℤ) := do
  let (db, id) ← db.insertMenu menu.description menu.nom menu.prix
  let db ← db.insertMenuPlats id ids
  pure (db, id)

/-- `entityManager.merge`: the association is changed row by row, and the rows that stay are not
touched. -/
def merge (db : Db) (menu : MenuBean) (id : ℤ) (ids : List ℤ) : Except StoreError (Db × ℤ) :=
  if db.HasMenu id then do
    let db ← db.updateMenu (menu.row id)
    let db := db.deleteMenuPlat fun r => r.menuId = id && r.platId ∉ ids
    let db ← db.insertMenuPlats id (missing db id ids)
    pure (db, id)
  else .error (.staleObject .menu)

/-- `menuRepository.save(menu)`, where `plats` is the set `menu.getPlats()`. -/
def save (db : Db) (menu : MenuBean) (plats : List (Obj Plat)) : Except StoreError (Db × ℤ) :=
  match menu.id with
  | none => persist db menu (plats.map fun o => o.row.id)
  | some id => merge db menu id (plats.map fun o => o.row.id)

/-- `menuRepository.deleteById(id)`. -/
def deleteById (db : Db) (id : ℤ) : Except StoreError Db :=
  if db.HasMenu id then (db.deleteMenuPlat fun r => r.menuId = id).deleteMenu id else .ok db

/-- The menu table after a save. -/
def savedMenus (db : Db) (menu : MenuBean) (id : ℤ) : List Menu :=
  match menu.id with
  | none => db.tables.menu ++ [menu.row id]
  | some id => Sql.updateRow Menu.id (menu.row id) db.tables.menu

theorem savedMenus_some {db : Db} {menu : MenuBean} {id : ℤ} (h : menu.id = some id) (k : ℤ) :
    savedMenus db menu k = Sql.updateRow Menu.id (menu.row id) db.tables.menu := by
  rw [savedMenus, h]

/-- What a successful save has done.  The association is given by its members; that it has no
repeated row is part of every `Db`. -/
structure Saved (db : Db) (menu : MenuBean) (ids : List ℤ) (db' : Db) (id : ℤ) : Prop where
  id_eq : id = menu.id.getD db.menuSeq
  check : checkMenu (menu.row id) = .ok ()
  hasMenu : menu.id = none ∨ db.HasMenu id
  menu_eq : db'.tables.menu = savedMenus db menu id
  plat_eq : db'.tables.plat = db.tables.plat
  categorie_eq : db'.tables.categorie = db.tables.categorie
  hasPlat : ∀ p ∈ ids, db.HasPlat p
  mem_menuPlat : ∀ r, r ∈ db'.tables.menuPlat ↔
    r ∈ db.tables.menuPlat ∧ r.menuId ≠ id ∨ r.menuId = id ∧ r.platId ∈ ids
  menuSeq_le : db.menuSeq ≤ db'.menuSeq
  platSeq_eq : db'.platSeq = db.platSeq

theorem not_mem_menuPlat_menuSeq (db : Db) (p : ℤ) : ⟨db.menuSeq, p⟩ ∉ db.tables.menuPlat := by
  intro h
  obtain ⟨m, hm, hid⟩ := db.valid.menuPlat_menu _ h
  have := (db.menu_lt m hm).2
  simp only at hid
  omega

theorem persist_ok {db db' : Db} {menu : MenuBean} {ids : List ℤ} {id : ℤ} (hid : menu.id = none)
    (h : persist db menu ids = .ok (db', id)) : Saved db menu ids db' id := by
  obtain ⟨⟨db₁, id₁⟩, h₁, h⟩ := bind_ok h
  obtain ⟨db₂, h₂, h⟩ := bind_ok h
  cases h
  obtain ⟨rfl, hc, ht₁, hm₁, hp₁⟩ := Db.insertMenu_ok h₁
  obtain ⟨hplat, ht₂, hm₂, hp₂⟩ := Db.insertMenuPlats_ok h₂
  refine
    { id_eq := by rw [hid]; rfl
      check := hc
      hasMenu := Or.inl hid
      menu_eq := by rw [ht₂, ht₁, savedMenus, hid]; rfl
      plat_eq := by rw [ht₂, ht₁]
      categorie_eq := by rw [ht₂, ht₁]
      hasPlat := fun p hp => by have := hplat p hp; rwa [Db.HasPlat, ht₁] at this
      mem_menuPlat := fun r => ?_
      menuSeq_le := by omega
      platSeq_eq := hp₂.trans hp₁ }
  -- the identifier is new, so no row of the association has it yet
  have hne : r ∈ db.tables.menuPlat → r.menuId ≠ db.menuSeq := fun hr he =>
    not_mem_menuPlat_menuSeq db r.platId (by rw [← he]; exact hr)
  rw [ht₂, ht₁, List.mem_append, List.mem_map]
  refine ⟨?_, ?_⟩
  · rintro (hr | ⟨p, hp, rfl⟩)
    · exact Or.inl ⟨hr, hne hr⟩
    · exact Or.inr ⟨rfl, hp⟩
  · rintro (hr | ⟨hm, hp⟩)
    · exact Or.inl hr.1
    · exact Or.inr ⟨r.platId, hp, by rw [← hm]⟩

/-- The association a merge leaves: the rows that stay and the rows that were missing. -/
theorem mem_merged (rows : List MenuPlat) (id : ℤ) (ids : List ℤ) (r : MenuPlat) :
    (r ∈ rows.filter (fun r => !(decide (r.menuId = id) && decide (r.platId ∉ ids))) ++
      (ids.filter fun p => ⟨id, p⟩ ∉
        rows.filter fun r => !(decide (r.menuId = id) && decide (r.platId ∉ ids))).map
          fun p => ⟨id, p⟩) ↔
    r ∈ rows ∧ r.menuId ≠ id ∨ r.menuId = id ∧ r.platId ∈ ids := by
  obtain ⟨m, p⟩ := r
  by_cases hm : m = id
  · subst hm
    by_cases hp : p ∈ ids <;> by_cases hr : ⟨m, p⟩ ∈ rows <;> simp [hp, hr]
  · simp [hm, Ne.symm hm]

theorem merge_ok {db db' : Db} {menu : MenuBean} {ids : List ℤ} {id₀ id : ℤ}
    (hid : menu.id = some id₀) (h : merge db menu id₀ ids = .ok (db', id)) :
    Saved db menu ids db' id := by
  rw [merge] at h
  split at h
  · rename_i hmenu
    obtain ⟨db₁, h₁, h⟩ := bind_ok h
    obtain ⟨db₂, h₂, h⟩ := bind_ok h
    cases h
    obtain ⟨hc, ht₁, hm₁, hp₁⟩ := Db.updateMenu_ok h₁
    obtain ⟨hplat, ht₂, hm₂, hp₂⟩ := Db.insertMenuPlats_ok h₂
    simp only [Db.HasPlat, missing, Db.deleteMenuPlat, ht₁] at hplat ht₂ hm₂ hp₂
    refine
      { id_eq := by rw [hid]; rfl
        check := hc
        hasMenu := Or.inr hmenu
        menu_eq := by rw [ht₂, savedMenus, hid]
        plat_eq := by rw [ht₂]
        categorie_eq := by rw [ht₂]
        hasPlat := fun p hp => ?_
        mem_menuPlat := fun r => ?_
        menuSeq_le := by omega
        platSeq_eq := hp₂.trans hp₁ }
    · -- a plat that is not inserted was in the association already
      by_cases hmem : ⟨id₀, p⟩ ∈ db.tables.menuPlat
      · exact db.valid.menuPlat_plat _ hmem
      · exact hplat p (List.mem_filter.2 ⟨hp, by simp [hmem]⟩)
    · rw [ht₂]
      exact mem_merged db.tables.menuPlat id₀ ids r
  · exact absurd h (by simp)

/-- **What `menuRepository.save` does when it succeeds.** -/
theorem save_ok {db db' : Db} {menu : MenuBean} {plats : List (Obj Plat)} {id : ℤ}
    (h : save db menu plats = .ok (db', id)) :
    Saved db menu (plats.map fun o => o.row.id) db' id := by
  rw [save] at h
  split at h
  · rename_i hid; exact persist_ok hid h
  · rename_i hid; exact merge_ok hid h

/-- The menus after a save: those before it, and the one saved. -/
theorem Saved.hasMenu_iff {db db' : Db} {menu : MenuBean} {ids : List ℤ} {id : ℤ}
    (h : Saved db menu ids db' id) (k : ℤ) : db'.HasMenu k ↔ db.HasMenu k ∨ k = id := by
  have hid := h.id_eq
  have hmenu := h.hasMenu
  rw [Db.HasMenu, h.menu_eq, savedMenus]
  cases hm : menu.id with
  | none =>
    simp only [List.mem_append, List.mem_singleton, or_and_right, exists_or, exists_eq_left]
    exact or_congr Iff.rfl eq_comm
  | some id₀ =>
    rw [hm, Option.getD_some] at hid
    subst hid
    rw [Sql.exists_key_updateRow]
    refine ⟨Or.inl, fun hk => hk.elim (fun hk => hk) fun he => he ▸ ?_⟩
    exact hmenu.resolve_left (by rw [hm]; simp)

/-- The menu is stored as it was submitted. -/
theorem Saved.row_mem {db db' : Db} {menu : MenuBean} {ids : List ℤ} {id : ℤ}
    (h : Saved db menu ids db' id) : menu.row id ∈ db'.tables.menu := by
  have hid := h.id_eq
  have hmenu := h.hasMenu
  rw [h.menu_eq, savedMenus]
  cases hm : menu.id with
  | none => exact List.mem_append_right _ (List.mem_singleton_self _)
  | some id₀ =>
    rw [hm, Option.getD_some] at hid
    subst hid
    exact Sql.mem_updateRow_self (hmenu.resolve_left (by rw [hm]; simp))

theorem persist_error {db : Db} {menu : MenuBean} {ids : List ℤ} {e : StoreError}
    (h : persist db menu ids = .error e) (hnd : ids.Nodup) :
    checkMenu (menu.row db.menuSeq) = .error e ∨ ∃ p ∈ ids, ¬ db.HasPlat p := by
  rcases bind_error h with h₁ | ⟨⟨db₁, id₁⟩, h₁, h⟩
  · exact Or.inl (Db.insertMenu_error h₁)
  obtain ⟨rfl, -, ht₁, -, -⟩ := Db.insertMenu_ok h₁
  rcases bind_error h with h₂ | ⟨db₂, -, h⟩
  · have hmenu : db₁.HasMenu db.menuSeq := by
      rw [Db.HasMenu, ht₁]
      exact ⟨_, List.mem_append_right _ (List.mem_singleton_self _), rfl⟩
    obtain ⟨p, hp, hno⟩ := Db.insertMenuPlats_error h₂ hmenu hnd fun p _ => by
      rw [ht₁]
      exact not_mem_menuPlat_menuSeq db p
    rw [Db.HasPlat, ht₁] at hno
    exact Or.inr ⟨p, hp, hno⟩
  · exact absurd h (by simp [pure, Except.pure])

theorem merge_error {db : Db} {menu : MenuBean} {ids : List ℤ} {id : ℤ} {e : StoreError}
    (h : merge db menu id ids = .error e) (hnd : ids.Nodup) :
    e = .staleObject .menu ∧ ¬ db.HasMenu id ∨ checkMenu (menu.row id) = .error e ∨
      ∃ p ∈ ids, ¬ db.HasPlat p := by
  rw [merge] at h
  split at h
  · rename_i hmenu
    rcases bind_error h with h₁ | ⟨db₁, h₁, h⟩
    · exact Or.inr (Or.inl (Db.updateMenu_error h₁))
    obtain ⟨-, ht₁, -, -⟩ := Db.updateMenu_ok h₁
    rcases bind_error h with h₂ | ⟨db₂, -, h⟩
    · obtain ⟨p, hp, hno⟩ := Db.insertMenuPlats_error h₂
        (by simp only [Db.HasMenu, Db.deleteMenuPlat, ht₁]
            exact (Sql.exists_key_updateRow _).2 hmenu)
        (hnd.filter _) (fun p hp => by simpa using (List.mem_filter.1 hp).2)
      simp only [Db.HasPlat, Db.deleteMenuPlat, ht₁] at hno
      exact Or.inr (Or.inr ⟨p, List.mem_of_mem_filter hp, hno⟩)
    · exact absurd h (by simp [pure, Except.pure])
  · rename_i hmenu
    cases h
    exact Or.inl ⟨rfl, hmenu⟩

/-- **What `menuRepository.save` can fail with**, for a set of plats without repetition: the menu
is gone, a column refuses the bean, or a plat is gone. -/
theorem save_error {db : Db} {menu : MenuBean} {plats : List (Obj Plat)} {e : StoreError}
    (h : save db menu plats = .error e) (hnd : (plats.map fun o => o.row.id).Nodup) :
    (e = .staleObject .menu ∧ ∃ id, menu.id = some id ∧ ¬ db.HasMenu id) ∨
      checkMenu (menu.row (menu.id.getD db.menuSeq)) = .error e ∨
      ∃ o ∈ plats, ¬ db.HasPlat o.row.id := by
  have hgone : (∃ p ∈ plats.map fun o => o.row.id, ¬ db.HasPlat p) →
      ∃ o ∈ plats, ¬ db.HasPlat o.row.id := by
    rintro ⟨p, hp, hno⟩
    obtain ⟨o, ho, rfl⟩ := List.mem_map.1 hp
    exact ⟨o, ho, hno⟩
  rw [save] at h
  split at h
  · rename_i hid
    rw [hid]
    exact Or.inr ((persist_error h hnd).imp id hgone)
  · rename_i id hid
    rw [hid]
    rcases merge_error h hnd with ⟨he, hno⟩ | h | h
    · exact Or.inl ⟨he, id, rfl, hno⟩
    · exact Or.inr (Or.inl h)
    · exact Or.inr (Or.inr (hgone h))

/-- A key of `menu_plat` is violated by a save only when one of the plats is gone. -/
theorem save_violation {db : Db} {menu : MenuBean} {plats : List (Obj Plat)} {e : StoreError}
    (h : save db menu plats = .error e) (hnd : (plats.map fun o => o.row.id).Nodup)
    (he : e.onMenuPlatKeys = true) : ∃ o ∈ plats, ¬ db.HasPlat o.row.id := by
  rcases save_error h hnd with ⟨rfl, -⟩ | hc | hgone
  · exact absurd he (by simp [StoreError.onMenuPlatKeys])
  · rw [checkMenu_error hc] at he
    exact absurd he (by simp)
  · exact hgone

/-- A bean the columns accept, with an identifier that is new or in use, is saved. -/
theorem exists_save {db : Db} {menu : MenuBean} {plats : List (Obj Plat)}
    (hmenu : ∀ id, menu.id = some id → db.HasMenu id)
    (hcheck : checkMenu (menu.row (menu.id.getD db.menuSeq)) = .ok ())
    (hnd : (plats.map fun o => o.row.id).Nodup) (hplat : ∀ o ∈ plats, db.HasPlat o.row.id) :
    ∃ db' id, save db menu plats = .ok (db', id) := by
  cases h : save db menu plats with
  | ok r => exact ⟨r.1, r.2, rfl⟩
  | error e =>
    rcases save_error h hnd with ⟨-, id, hid, hno⟩ | hc | ⟨o, ho, hno⟩
    · exact absurd (hmenu id hid) hno
    · rw [hcheck] at hc
      exact absurd hc (by simp)
    · exact absurd (hplat o ho) hno

/-! ### The other menus -/

/-- Two contents that differ at most in one menu and its rows of the join table. -/
structure SameApart (id : ℤ) (db db' : Db) : Prop where
  menu : Sql.deleteRow Menu.id id db'.tables.menu = Sql.deleteRow Menu.id id db.tables.menu
  menuPlat : (db'.tables.menuPlat.filter fun r => !decide (r.menuId = id)) =
    db.tables.menuPlat.filter fun r => !decide (r.menuId = id)
  plat : db'.tables.plat = db.tables.plat
  categorie : db'.tables.categorie = db.tables.categorie

theorem SameApart.trans {id : ℤ} {db₁ db₂ db₃ : Db} (h : SameApart id db₁ db₂)
    (h' : SameApart id db₂ db₃) : SameApart id db₁ db₃ :=
  ⟨h'.menu.trans h.menu, h'.menuPlat.trans h.menuPlat, h'.plat.trans h.plat,
    h'.categorie.trans h.categorie⟩

theorem deleteRow_savedMenus {db : Db} {menu : MenuBean} {ids : List ℤ} {db' : Db} {id : ℤ}
    (h : Saved db menu ids db' id) :
    Sql.deleteRow Menu.id id (savedMenus db menu id) = Sql.deleteRow Menu.id id db.tables.menu := by
  have hid := h.id_eq
  rw [savedMenus]
  cases hm : menu.id with
  | none =>
    simp only [Sql.deleteRow, List.filter_append]
    simp [MenuBean.row]
  | some id₀ =>
    rw [hm, Option.getD_some] at hid
    subst hid
    exact Sql.deleteRow_updateRow (menu.row id) db.tables.menu

/-- The rows a save inserts are rows of the menu saved. -/
theorem filter_insertMenuPlats {db db' : Db} {id : ℤ} {ps : List ℤ}
    (h : db.insertMenuPlats id ps = .ok db') :
    (db'.tables.menuPlat.filter fun r => !decide (r.menuId = id)) =
      db.tables.menuPlat.filter fun r => !decide (r.menuId = id) := by
  obtain ⟨-, ht, -, -⟩ := Db.insertMenuPlats_ok h
  rw [ht, List.filter_append]
  simp [List.filter_map, Function.comp_def]

/-- **A save leaves everything but the menu saved as it was**, down to the order of the rows. -/
theorem save_sameApart {db db' : Db} {menu : MenuBean} {plats : List (Obj Plat)} {id : ℤ}
    (h : save db menu plats = .ok (db', id)) : SameApart id db db' := by
  have hsaved := save_ok h
  refine ⟨by rw [hsaved.menu_eq, deleteRow_savedMenus hsaved], ?_, hsaved.plat_eq,
    hsaved.categorie_eq⟩
  rw [save] at h
  split at h
  · obtain ⟨⟨db₁, id₁⟩, h₁, h⟩ := bind_ok h
    obtain ⟨db₂, h₂, h⟩ := bind_ok h
    cases h
    obtain ⟨-, -, ht₁, -, -⟩ := Db.insertMenu_ok h₁
    rw [filter_insertMenuPlats h₂, ht₁]
  · rw [merge] at h
    split at h
    · obtain ⟨db₁, h₁, h⟩ := bind_ok h
      obtain ⟨db₂, h₂, h⟩ := bind_ok h
      cases h
      obtain ⟨-, ht₁, -, -⟩ := Db.updateMenu_ok h₁
      rw [filter_insertMenuPlats h₂]
      simp only [Db.deleteMenuPlat, ht₁, List.filter_filter]
      refine List.filter_congr ?_
      intro r _
      by_cases hr : r.menuId = id <;> simp [hr]
    · exact absurd h (by simp)

/-- A new menu uses up one identifier, and a merge none. -/
theorem save_menuSeq {db db' : Db} {menu : MenuBean} {plats : List (Obj Plat)} {id : ℤ}
    (h : save db menu plats = .ok (db', id)) :
    db'.menuSeq = if menu.id = none then db.menuSeq + 1 else db.menuSeq := by
  rw [save] at h
  split at h
  · rename_i hid
    obtain ⟨⟨db₁, id₁⟩, h₁, h⟩ := bind_ok h
    obtain ⟨db₂, h₂, h⟩ := bind_ok h
    cases h
    obtain ⟨-, -, -, hm₁, -⟩ := Db.insertMenu_ok h₁
    obtain ⟨-, -, hm₂, -⟩ := Db.insertMenuPlats_ok h₂
    rw [hm₂, hm₁, if_pos hid]
  · rename_i hid
    rw [merge] at h
    split at h
    · obtain ⟨db₁, h₁, h⟩ := bind_ok h
      obtain ⟨db₂, h₂, h⟩ := bind_ok h
      cases h
      obtain ⟨-, -, hm₁, -⟩ := Db.updateMenu_ok h₁
      obtain ⟨-, -, hm₂, -⟩ := Db.insertMenuPlats_ok h₂
      rw [hm₂, if_neg (by rw [hid]; simp)]
      exact hm₁
    · exact absurd h (by simp)

/-- Deleting a menu that is not there touches no row. -/
theorem delete_missing {db : Db} {id : ℤ} (hmenu : ¬ db.HasMenu id) :
    Sql.deleteRow Menu.id id db.tables.menu = db.tables.menu ∧
      (db.tables.menuPlat.filter fun r => !decide (r.menuId = id)) = db.tables.menuPlat := by
  refine ⟨List.filter_eq_self.2 ?_, List.filter_eq_self.2 ?_⟩
  · intro m hm
    simpa using fun he => hmenu ⟨m, hm, he⟩
  · -- no menu has the identifier, hence no row of the association
    intro r hr
    obtain ⟨m, hm, hid⟩ := db.valid.menuPlat_menu r hr
    simpa using fun he => hmenu ⟨m, hm, hid.trans he⟩

/-- **What `menuRepository.deleteById` does**: it never fails, the menu and its rows of the join
table are gone, and nothing else changes. -/
theorem exists_deleteById (db : Db) (id : ℤ) :
    ∃ db', deleteById db id = .ok db' ∧
      db'.tables = { db.tables with
        menu := Sql.deleteRow Menu.id id db.tables.menu
        menuPlat := db.tables.menuPlat.filter fun r => !decide (r.menuId = id) } ∧
      db'.menuSeq = db.menuSeq ∧ db'.platSeq = db.platSeq := by
  rw [deleteById]
  split
  · rename_i hmenu
    have hfree : ∀ r ∈ (db.deleteMenuPlat fun r => r.menuId = id).tables.menuPlat,
        r.menuId ≠ id := fun r hr => by simpa using (List.mem_filter.1 hr).2
    obtain ⟨db', h⟩ := Db.exists_deleteMenu hfree
    obtain ⟨-, ht, hm, hp⟩ := Db.deleteMenu_ok h
    exact ⟨db', h, ht, hm, hp⟩
  · rename_i hmenu
    refine ⟨db, rfl, ?_, rfl, rfl⟩
    rw [(delete_missing hmenu).1, (delete_missing hmenu).2]

end MenuRepository

/-! ## `PlatRepository` -/

namespace PlatRepository

/-- What a flush does to a managed categorie: it is written back when it was changed. -/
def flushCategorie (db : Db) (c : ManagedCategorie) : Except StoreError Db :=
  if c.current.id ≠ c.loaded.id then .error (.identifierAltered .categorie)
  else if c.current = c.loaded then .ok db
  else db.updateCategorie c.current

/-- `platRepository.save(plat)`. -/
def save (db : Db) (plat : PlatBean) : Except StoreError (Db × ℤ) :=
  match plat.id, plat.categorie with
  | none, some c => do
    let (db, id) ← db.insertPlat (plat.row 0 c.loaded.id)
    let db ← flushCategorie db c
    pure (db, id)
  | some id, some c =>
    if db.HasPlat id then do
      let db ← db.updatePlat (plat.row id c.loaded.id)
      let db ← flushCategorie db c
      pure (db, id)
    else .error (.staleObject .plat)
  | some id, none =>
    if db.HasPlat id then .error (.notNull .plat "categorie_id") else .error (.staleObject .plat)
  | none, none => .error (.notNull .plat "categorie_id")

/-- `platRepository.deleteById(id)`. -/
def deleteById (db : Db) (id : ℤ) : Except StoreError Db :=
  if db.HasPlat id then db.deletePlat id else .ok db

/-- `platRepository.findById(id)`: the object the request already holds, or the row turned into
one. -/
def findById (db : Db) (s : PlatSession) (id : ℤ) : Option (Obj Plat) × PlatSession :=
  match s.find? id with
  | some o => (some o, s)
  | none =>
    match Sql.lookup Plat.id id db.tables.plat with
    | some p => let (o, s) := s.load p; (some o, s)
    | none => (none, s)

/-- A flush only ever writes `categorie`. -/
theorem flushCategorie_ok {db db' : Db} {c : ManagedCategorie} (h : flushCategorie db c = .ok db') :
    (∃ cs, db'.tables = { db.tables with categorie := cs }) ∧
      (c.current = c.loaded → db' = db) ∧
      db'.menuSeq = db.menuSeq ∧ db'.platSeq = db.platSeq := by
  rw [flushCategorie] at h
  split at h
  · exact absurd h (by simp)
  · split at h
    · cases h
      exact ⟨⟨_, rfl⟩, fun _ => rfl, rfl, rfl⟩
    · rename_i hne
      obtain ⟨-, ht, hm, hp⟩ := Db.updateCategorie_ok h
      exact ⟨⟨_, ht⟩, fun he => absurd he hne, hm, hp⟩

/-- What a successful save of a plat has done. -/
structure Saved (db : Db) (plat : PlatBean) (db' : Db) (id : ℤ) : Prop where
  id_eq : id = plat.id.getD db.platSeq
  hasPlat : plat.id = none ∨ db.HasPlat id
  row : ∃ c, plat.categorie = some c ∧ checkPlat (plat.row id c.loaded.id) = .ok () ∧
    (db'.tables.plat = match plat.id with
      | none => db.tables.plat ++ [plat.row id c.loaded.id]
      | some _ => Sql.updateRow Plat.id (plat.row id c.loaded.id) db.tables.plat) ∧
    (c.current = c.loaded → db'.tables.categorie = db.tables.categorie)
  menu_eq : db'.tables.menu = db.tables.menu
  menuPlat_eq : db'.tables.menuPlat = db.tables.menuPlat
  menuSeq_eq : db'.menuSeq = db.menuSeq
  platSeq_le : db.platSeq ≤ db'.platSeq

/-- **What `platRepository.save` is when it succeeds**: the row is inserted or updated, and then the
categorie is flushed. -/
theorem save_cases {db db' : Db} {plat : PlatBean} {id : ℤ} (h : save db plat = .ok (db', id)) :
    ∃ c db₁, plat.categorie = some c ∧ flushCategorie db₁ c = .ok db' ∧
      (plat.id = none ∧ db.insertPlat (plat.row 0 c.loaded.id) = .ok (db₁, id) ∨
        plat.id = some id ∧ db.HasPlat id ∧ db.updatePlat (plat.row id c.loaded.id) = .ok db₁) := by
  rw [save] at h
  split at h
  · rename_i c hid hcat
    obtain ⟨⟨db₁, id₁⟩, h₁, h⟩ := bind_ok h
    obtain ⟨db₂, h₂, h⟩ := bind_ok h
    cases h
    exact ⟨c, db₁, hcat, h₂, Or.inl ⟨hid, h₁⟩⟩
  · rename_i id₀ c hid hcat
    split at h
    · rename_i hplat
      obtain ⟨db₁, h₁, h⟩ := bind_ok h
      obtain ⟨db₂, h₂, h⟩ := bind_ok h
      cases h
      exact ⟨c, db₁, hcat, h₂, Or.inr ⟨hid, hplat, h₁⟩⟩
    · exact absurd h (by simp)
  · split at h <;> exact absurd h (by simp)
  · exact absurd h (by simp)

/-- **What `platRepository.save` does when it succeeds.** -/
theorem save_ok {db db' : Db} {plat : PlatBean} {id : ℤ} (h : save db plat = .ok (db', id)) :
    Saved db plat db' id := by
  obtain ⟨c, db₁, hcat, h₂, ⟨hid, h₁⟩ | ⟨hid, hplat, h₁⟩⟩ := save_cases h
  · obtain ⟨rfl, ⟨hc, -⟩, ht₁, hm₁, hp₁⟩ := Db.insertPlat_ok h₁
    obtain ⟨⟨cs, ht₂⟩, hsame, hm₂, hp₂⟩ := flushCategorie_ok h₂
    refine
      { id_eq := by rw [hid]; rfl
        hasPlat := Or.inl hid
        row := ⟨c, hcat, hc, by rw [ht₂, ht₁, hid]; rfl, fun he => by rw [hsame he, ht₁]⟩
        menu_eq := by rw [ht₂, ht₁]
        menuPlat_eq := by rw [ht₂, ht₁]
        menuSeq_eq := hm₂.trans hm₁
        platSeq_le := by omega }
  · obtain ⟨⟨hc, -⟩, ht₁, hm₁, hp₁⟩ := Db.updatePlat_ok h₁
    obtain ⟨⟨cs, ht₂⟩, hsame, hm₂, hp₂⟩ := flushCategorie_ok h₂
    refine
      { id_eq := by rw [hid]; rfl
        hasPlat := Or.inr hplat
        row := ⟨c, hcat, hc, by rw [ht₂, ht₁, hid], fun he => by rw [hsame he, ht₁]⟩
        menu_eq := by rw [ht₂, ht₁]
        menuPlat_eq := by rw [ht₂, ht₁]
        menuSeq_eq := hm₂.trans hm₁
        platSeq_le := by omega }

/-- A new plat takes the next identifier. -/
theorem save_platSeq {db db' : Db} {plat : PlatBean} {id : ℤ}
    (h : save db plat = .ok (db', id)) :
    db'.platSeq = if plat.id = none then db.platSeq + 1 else db.platSeq := by
  obtain ⟨c, db₁, -, h₂, ⟨hid, h₁⟩ | ⟨hid, -, h₁⟩⟩ := save_cases h
  · rw [(flushCategorie_ok h₂).2.2.2, (Db.insertPlat_ok h₁).2.2.2.2, if_pos hid]
  · rw [(flushCategorie_ok h₂).2.2.2, (Db.updatePlat_ok h₁).2.2.2, if_neg (by rw [hid]; simp)]

/-- The plat is stored as it was submitted. -/
theorem Saved.row_mem {db db' : Db} {plat : PlatBean} {id : ℤ} (h : Saved db plat db' id)
    {c : ManagedCategorie} (hc : plat.categorie = some c) :
    plat.row id c.loaded.id ∈ db'.tables.plat := by
  obtain ⟨c', hc', -, htable, -⟩ := h.row
  rw [hc, Option.some_inj] at hc'
  subst hc'
  rw [htable]
  cases hp : plat.id with
  | none => exact List.mem_append_right _ (List.mem_singleton_self _)
  | some id₀ => exact Sql.mem_updateRow_self (h.hasPlat.resolve_left (by rw [hp]; simp))

/-- The other plats are as they were. -/
theorem Saved.deleteRow_eq {db db' : Db} {plat : PlatBean} {id : ℤ} (h : Saved db plat db' id) :
    Sql.deleteRow Plat.id id db'.tables.plat = Sql.deleteRow Plat.id id db.tables.plat := by
  obtain ⟨c, -, -, htable, -⟩ := h.row
  rw [htable]
  cases plat.id with
  | none =>
    simp only [Sql.deleteRow, List.filter_append]
    simp [PlatBean.row]
  | some id₀ => exact Sql.deleteRow_updateRow (plat.row id c.loaded.id) db.tables.plat

/-- A plat that is merged, of a categorie left as it is, changes its own row and no other. -/
theorem Saved.tables_eq {db db' : Db} {plat : PlatBean} {id : ℤ} (h : Saved db plat db' id)
    (hid : plat.id = some id) {c : Categorie} (hc : plat.categorie = some ⟨c, c⟩) :
    db'.tables = { db.tables with
      plat := Sql.updateRow Plat.id (plat.row id c.id) db.tables.plat } := by
  obtain ⟨c', hc', -, htable, hcategorie⟩ := h.row
  obtain rfl := Option.some_inj.1 (hc.symm.trans hc')
  rw [hid] at htable
  have heta : db'.tables = ⟨db'.tables.categorie, db'.tables.menu, db'.tables.menuPlat,
    db'.tables.plat⟩ := rfl
  rw [heta, hcategorie rfl, h.menu_eq, h.menuPlat_eq, htable]

/-- The plats after a save: those before it, and the one saved. -/
theorem Saved.hasPlat_iff {db db' : Db} {plat : PlatBean} {id : ℤ} (h : Saved db plat db' id)
    (k : ℤ) : db'.HasPlat k ↔ db.HasPlat k ∨ k = id := by
  obtain ⟨c, -, -, htable, -⟩ := h.row
  have hid := h.id_eq
  have hplat := h.hasPlat
  rw [Db.HasPlat, htable]
  cases hp : plat.id with
  | none =>
    simp only [List.mem_append, List.mem_singleton, or_and_right, exists_or, exists_eq_left]
    exact or_congr Iff.rfl eq_comm
  | some id₀ =>
    rw [hp, Option.getD_some] at hid
    subst hid
    rw [Sql.exists_key_updateRow]
    refine ⟨Or.inl, fun hk => hk.elim (fun hk => hk) fun he => he ▸ ?_⟩
    exact hplat.resolve_left (by rw [hp]; simp)

/-- A managed categorie that can be flushed: its identifier is the one it was loaded with, and its
name is too, or one the column accepts. -/
structure Flushable (c : ManagedCategorie) : Prop where
  id_eq : c.current.id = c.loaded.id
  nom : c.current = c.loaded ∨ checkVarchar .categorie "nom" c.current.nom = .ok ()

theorem flushCategorie_error {db : Db} {c : ManagedCategorie} {e : StoreError}
    (h : flushCategorie db c = .error e) : ¬ Flushable c ∧ e.onMenuPlatKeys = false := by
  rw [flushCategorie] at h
  split at h
  · rename_i hid
    cases h
    exact ⟨fun hc => hid hc.id_eq, rfl⟩
  · split at h
    · exact absurd h (by simp)
    · rename_i hne
      have hcheck := Db.updateCategorie_error h
      refine ⟨fun hc => ?_, checkVarchar_error hcheck⟩
      rw [hc.nom.resolve_left hne] at hcheck
      exact absurd hcheck (by simp)

/-- **What a flush does to the table of the categories**: nothing, or it writes the one back that
was changed. -/
theorem flushCategorie_categorie {db db' : Db} {c : ManagedCategorie}
    (h : flushCategorie db c = .ok db') : Flushable c ∧ db'.tables.categorie =
      if c.current = c.loaded then db.tables.categorie
      else Sql.updateRow Categorie.id c.current db.tables.categorie := by
  rw [flushCategorie] at h
  split at h
  · exact absurd h (by simp)
  · rename_i hid
    rw [not_not] at hid
    split at h
    · rename_i heq
      cases h
      exact ⟨⟨hid, Or.inl heq⟩, by rw [if_pos heq]⟩
    · rename_i hne
      obtain ⟨hcheck, ht, -⟩ := Db.updateCategorie_ok h
      exact ⟨⟨hid, Or.inr hcheck⟩, by rw [if_neg hne, ht]⟩

/-- What a save of a plat does to the table of the categories. -/
theorem save_categorie {db db' : Db} {plat : PlatBean} {id : ℤ}
    (h : save db plat = .ok (db', id)) :
    ∃ c, plat.categorie = some c ∧ Flushable c ∧ db'.tables.categorie =
      if c.current = c.loaded then db.tables.categorie
      else Sql.updateRow Categorie.id c.current db.tables.categorie := by
  obtain ⟨c, db₁, hcat, h₂, h₁⟩ := save_cases h
  obtain ⟨hflush, ht₂⟩ := flushCategorie_categorie h₂
  refine ⟨c, hcat, hflush, ?_⟩
  have ht₁ : db₁.tables.categorie = db.tables.categorie := by
    rcases h₁ with ⟨-, h₁⟩ | ⟨-, -, h₁⟩
    · obtain ⟨-, -, ht₁, -, -⟩ := Db.insertPlat_ok h₁
      rw [ht₁]
    · obtain ⟨-, ht₁, -, -⟩ := Db.updatePlat_ok h₁
      rw [ht₁]
  rw [ht₂, ht₁]

/-- **What `platRepository.save` can fail with**: the plat is gone, it has no categorie, a column
refuses the bean, or its categorie cannot be written back. -/
theorem save_error {db : Db} {plat : PlatBean} {e : StoreError} (h : save db plat = .error e) :
    (e = .staleObject .plat ∧ ∃ id, plat.id = some id ∧ ¬ db.HasPlat id) ∨
      (e = .notNull .plat "categorie_id" ∧ plat.categorie = none) ∨
      ∃ c, plat.categorie = some c ∧
        (checkPlat (plat.row (plat.id.getD db.platSeq) c.loaded.id) = .error e ∨
          (e = .foreignKey .plat ∧ ¬ db.HasCategorie c.loaded.id) ∨
          (¬ Flushable c ∧ e.onMenuPlatKeys = false)) := by
  rw [save] at h
  split at h
  · rename_i c hid hcat
    refine Or.inr (Or.inr ⟨c, hcat, ?_⟩)
    rw [hid]
    rcases bind_error h with h | ⟨⟨db₁, id₁⟩, -, h⟩
    · exact (Db.insertPlat_error h).imp id Or.inl
    rcases bind_error h with h | ⟨db₂, -, h⟩
    · exact Or.inr (Or.inr (flushCategorie_error h))
    · exact absurd h (by simp [pure, Except.pure])
  · rename_i id c hid hcat
    split at h
    · refine Or.inr (Or.inr ⟨c, hcat, ?_⟩)
      rw [hid]
      rcases bind_error h with h | ⟨db₁, -, h⟩
      · exact (Db.updatePlat_error h).imp (fun h => h) Or.inl
      rcases bind_error h with h | ⟨db₂, -, h⟩
      · exact Or.inr (Or.inr (flushCategorie_error h))
      · exact absurd h (by simp [pure, Except.pure])
    · rename_i hplat
      cases h
      exact Or.inl ⟨rfl, id, hid, hplat⟩
  · rename_i id hid hcat
    split at h
    · cases h
      exact Or.inr (Or.inl ⟨rfl, hcat⟩)
    · rename_i hplat
      cases h
      exact Or.inl ⟨rfl, id, hid, hplat⟩
  · rename_i hid hcat
    cases h
    exact Or.inr (Or.inl ⟨rfl, hcat⟩)

/-- Saving a plat violates no key of `menu_plat`. -/
theorem save_no_violation {db : Db} {plat : PlatBean} {e : StoreError}
    (h : save db plat = .error e) : e.onMenuPlatKeys = false := by
  rcases save_error h with ⟨rfl, -⟩ | ⟨rfl, -⟩ | ⟨c, -, hc | ⟨rfl, -⟩ | hc⟩
  · rfl
  · rfl
  · exact checkPlat_error hc
  · rfl
  · exact hc.2

/-- A bean the columns accept, of an existing categorie that can be flushed, with an identifier
that is new or in use, is saved. -/
theorem exists_save {db : Db} {plat : PlatBean} {c : ManagedCategorie}
    (hplat : ∀ id, plat.id = some id → db.HasPlat id) (hcat : plat.categorie = some c)
    (hflush : Flushable c) (hc : db.HasCategorie c.loaded.id)
    (hcheck : checkPlat (plat.row (plat.id.getD db.platSeq) c.loaded.id) = .ok ()) :
    ∃ db' id, save db plat = .ok (db', id) := by
  cases h : save db plat with
  | ok r => exact ⟨r.1, r.2, rfl⟩
  | error e =>
    rcases save_error h with ⟨-, id, hid, hno⟩ | ⟨-, hnone⟩ | ⟨c', hc', hbad⟩
    · exact absurd (hplat id hid) hno
    · rw [hcat] at hnone
      exact absurd hnone (by simp)
    · rw [hcat, Option.some_inj] at hc'
      subst hc'
      rcases hbad with hbad | ⟨-, hno⟩ | ⟨hne, -⟩
      · rw [hcheck] at hbad
        exact absurd hbad (by simp)
      · exact absurd hc hno
      · exact absurd hflush hne

/-- **What `platRepository.deleteById` does when it succeeds.** -/
theorem deleteById_ok {db db' : Db} {id : ℤ} (h : deleteById db id = .ok db') :
    (∀ r ∈ db.tables.menuPlat, r.platId ≠ id) ∧
      db'.tables = { db.tables with plat := Sql.deleteRow Plat.id id db.tables.plat } ∧
      db'.menuSeq = db.menuSeq ∧ db'.platSeq = db.platSeq := by
  rw [deleteById] at h
  split at h
  · exact Db.deletePlat_ok h
  · rename_i hplat
    cases h
    refine ⟨?_, ?_, rfl, rfl⟩
    · intro r hr he
      obtain ⟨p, hp, hid⟩ := db.valid.menuPlat_plat r hr
      exact hplat ⟨p, hp, hid.trans he⟩
    · have hsame : Sql.deleteRow Plat.id id db.tables.plat = db.tables.plat :=
        List.filter_eq_self.2 fun p hp => by simpa using fun he => hplat ⟨p, hp, he⟩
      rw [hsame]

/-- Deleting a plat fails exactly when a menu contains it. -/
theorem deleteById_error {db : Db} {id : ℤ} {e : StoreError} (h : deleteById db id = .error e) :
    e = .foreignKey .menuPlat ∧ ∃ r ∈ db.tables.menuPlat, r.platId = id := by
  rw [deleteById] at h
  split at h
  · exact Db.deletePlat_error h
  · exact absurd h (by simp)

/-! ### Looking a plat up -/

theorem findById_some {db : Db} {s : PlatSession} {id : ℤ} {o : Obj Plat}
    (h : (findById db s id).1 = some o) : o.row.id = id ∧ o ∈ (findById db s id).2.objs := by
  cases hs : s.find? id with
  | some o' =>
    simp only [findById, hs, Option.some_inj] at h ⊢
    subst h
    exact ⟨(Session.mem_of_find? hs).2, (Session.mem_of_find? hs).1⟩
  | none =>
    cases hp : Sql.lookup Plat.id id db.tables.plat with
    | none => simp [findById, hs, hp] at h
    | some p =>
      simp only [findById, hs, hp, Option.some_inj] at h ⊢
      subst h
      have hid : p.id = id := by simpa using List.find?_some hp
      exact ⟨(s.load_key p).trans hid, s.load_mem p⟩

/-- A lookup adds the object it returns to those the request holds, and no other. -/
theorem mem_findById_iff {db : Db} {s : PlatSession} {o : Obj Plat} (id : ℤ) :
    o ∈ (findById db s id).2.objs ↔ o ∈ s.objs ∨ (findById db s id).1 = some o := by
  cases hs : s.find? id with
  | some o' =>
    simp only [findById, hs, Option.some_inj]
    exact ⟨Or.inl, fun h => h.elim (fun h => h) fun he => he ▸ (Session.mem_of_find? hs).1⟩
  | none =>
    cases hp : Sql.lookup Plat.id id db.tables.plat with
    | none => simp [findById, hs, hp]
    | some p =>
      simp only [findById, hs, hp, Option.some_inj]
      rw [s.mem_load_iff p, eq_comm]

/-- A plat that exists is found. -/
theorem exists_findById {db : Db} (s : PlatSession) {id : ℤ} (h : db.HasPlat id) :
    ∃ o, (findById db s id).1 = some o := by
  cases hs : s.find? id with
  | some o' => exact ⟨o', by simp only [findById, hs]⟩
  | none =>
    obtain ⟨p, hp, hid⟩ := h
    have hlook := (Sql.lookup_eq_some_iff db.valid.plat_pk).2 ⟨hp, hid⟩
    exact ⟨(s.load p).1, by simp only [findById, hs, hlook]⟩

/-- A plat found for the first time exists. -/
theorem hasPlat_of_findById {db : Db} {s : PlatSession} {id : ℤ} {o : Obj Plat}
    (h : (findById db s id).1 = some o) (hnew : o ∉ s.objs) : db.HasPlat id := by
  cases hs : s.find? id with
  | some o' =>
    simp only [findById, hs, Option.some_inj] at h
    exact absurd (h ▸ (Session.mem_of_find? hs).1) hnew
  | none =>
    cases hp : Sql.lookup Plat.id id db.tables.plat with
    | none => simp [findById, hs, hp] at h
    | some p => exact ⟨p, (Sql.lookup_eq_some_iff db.valid.plat_pk).1 hp⟩

end PlatRepository

end GestionMenus
