import Mathlib.Data.Rat.Defs
import Mathlib.Algebra.Order.Ring.Rat
import GestionMenus.Base.Sql

/-!
# The database `prjspring2025`

The four tables of `prjspring2025.sql`, the constraints it declares on them, and the statements
the application issues, each with the errors MariaDB raises in its default strict mode.

* `Categorie`, `Plat`, `Menu` and `MenuPlat` are the rows.  An identifier (a `Long`, a
  `bigint(20)`) is an integer, a `double` is represented by its exact value in `ℚ`, an `int(11)` by
  an `Int32`.
* `Tables.Valid` is what the `PRIMARY KEY`, `FOREIGN KEY`, `CHECK` and `varchar(255)` clauses say
  together, and `Db` is a database content with the proof that it satisfies them, so that no
  statement can produce a content the server would not hold.
* Each statement (`insertMenu`, `updateMenu`, `deleteMenu`, `insertPlat`, …) checks its
  constraints and either fails or returns the next content.  The `…_ok` lemmas are their
  specifications; nothing below unfolds a statement again.

`AUTO_INCREMENT` hands out `menuSeq` and `platSeq`, which are above every identifier in use.
-/

set_option autoImplicit false

namespace GestionMenus

/-! ## Rows -/

/-- A row of `categorie`. -/
structure Categorie where
  id : ℤ
  nom : Option String
  deriving DecidableEq

/-- A row of `plat`. -/
structure Plat where
  id : ℤ
  nom : Option String
  nbCalories : Int32
  nbLipides : Int32
  nbProteines : Int32
  nbGlucides : Int32
  /-- The column `categorie_id`. -/
  categorieId : ℤ
  deriving DecidableEq

/-- A row of `menu`. -/
structure Menu where
  id : ℤ
  description : Option String
  nom : Option String
  prix : ℚ
  deriving DecidableEq

/-- A row of the join table `menu_plat`. -/
structure MenuPlat where
  menuId : ℤ
  platId : ℤ
  deriving DecidableEq

/-! ## Column constraints -/

/-- The tables, to say which one an error is about. -/
inductive Table where
  | categorie
  | menu
  | menuPlat
  | plat
  deriving DecidableEq, Repr

/-- What a statement or a save can fail with.  All but the last two are raised by
the server. -/
inductive StoreError where
  /-- Duplicate entry for the primary key of the table. -/
  | duplicateKey (t : Table)
  /-- A foreign key declared on the table fails. -/
  | foreignKey (t : Table)
  /-- Data too long for the column. -/
  | dataTooLong (t : Table) (column : String)
  /-- A character the column's character set cannot hold. -/
  | incorrectString (t : Table) (column : String)
  /-- The `CHECK` on the column fails. -/
  | checkFailed (t : Table) (column : String)
  /-- The column is `NOT NULL`. -/
  | notNull (t : Table) (column : String)
  /-- The row to be merged is gone: Hibernate's optimistic locking failure. -/
  | staleObject (t : Table)
  /-- The identifier of a managed object was changed: Hibernate refuses to flush it. -/
  | identifierAltered (t : Table)
  deriving DecidableEq, Repr

/-- A violation of the primary key or of a foreign key of `menu_plat`. -/
def StoreError.onMenuPlatKeys : StoreError → Bool
  | .duplicateKey .menuPlat => true
  | .foreignKey .menuPlat => true
  | _ => false

/-- The code points of the bytes `80` to `9F` of `latin1`, from `charsets/latin1.xml`. -/
def latin1High : List ℕ :=
  [0x20AC, 0x0081, 0x201A, 0x0192, 0x201E, 0x2026, 0x2020, 0x2021,
   0x02C6, 0x2030, 0x0160, 0x2039, 0x0152, 0x008D, 0x017D, 0x008F,
   0x0090, 0x2018, 0x2019, 0x201C, 0x201D, 0x2022, 0x2013, 0x2014,
   0x02DC, 0x2122, 0x0161, 0x203A, 0x0153, 0x009D, 0x017E, 0x0178]

/-- Can the character be stored in a table declared `DEFAULT CHARSET=latin1`?  All four are. -/
def latin1 (c : Char) : Bool :=
  c.toNat < 0x80 || (0xA0 ≤ c.toNat && c.toNat ≤ 0xFF) || latin1High.contains c.toNat

/-- `varchar(255)`, the type of every text column. -/
def checkVarchar (t : Table) (column : String) (s : Option String) : Except StoreError Unit :=
  match s with
  | none => .ok ()
  | some s =>
    if s.length ≤ 255 then
      if s.toList.all latin1 then .ok () else .error (.incorrectString t column)
    else .error (.dataTooLong t column)

theorem checkVarchar_some_ok_iff (t : Table) (column s : String) :
    checkVarchar t column (some s) = .ok () ↔ s.length ≤ 255 ∧ s.toList.all latin1 = true := by
  rw [checkVarchar]
  split
  · split <;> simp_all
  · simp_all

/-- `CHECK (column >= 0)`. -/
def checkNonneg (t : Table) (column : String) (ok : Bool) : Except StoreError Unit :=
  if ok then .ok () else .error (.checkFailed t column)

theorem checkNonneg_ok_iff (t : Table) (column : String) (ok : Bool) :
    checkNonneg t column ok = .ok () ↔ ok = true := by
  cases ok <;> simp [checkNonneg]

/-- The constraints on the columns of `menu`. -/
def checkMenu (m : Menu) : Except StoreError Unit := do
  checkVarchar .menu "description" m.description
  checkVarchar .menu "nom" m.nom
  checkNonneg .menu "prix" (0 ≤ m.prix)

/-- The constraints on the columns of `plat`. -/
def checkPlat (p : Plat) : Except StoreError Unit := do
  checkNonneg .plat "nb_calories" (0 ≤ p.nbCalories)
  checkNonneg .plat "nb_glucides" (0 ≤ p.nbGlucides)
  checkNonneg .plat "nb_lipides" (0 ≤ p.nbLipides)
  checkNonneg .plat "nb_proteines" (0 ≤ p.nbProteines)
  checkVarchar .plat "nom" p.nom

/-- A computation that succeeds did so step by step. -/
theorem bind_ok {ε α β : Type} {x : Except ε α} {f : α → Except ε β} {r : β}
    (h : (x >>= f) = .ok r) : ∃ a, x = .ok a ∧ f a = .ok r := by
  cases x with
  | error e => exact absurd h (by simp [bind, Except.bind])
  | ok a => exact ⟨a, rfl, h⟩

/-- A computation that fails did so in its first step or after it. -/
theorem bind_error {ε α β : Type} {x : Except ε α} {f : α → Except ε β} {e : ε}
    (h : (x >>= f) = .error e) :
    x = .error e ∨ ∃ a, x = .ok a ∧ f a = .error e := by
  cases x with
  | error e' => exact Or.inl (by simpa [bind, Except.bind] using h)
  | ok a => exact Or.inr ⟨a, rfl, h⟩

/-- A sequence of checks passes when each of them does. -/
theorem seq_ok_iff {α : Type} {x : Except StoreError Unit} {y : Except StoreError α} {r : α} :
    (x >>= fun _ => y) = .ok r ↔ x = .ok () ∧ y = .ok r := by
  cases x with
  | error e => simp [bind, Except.bind]
  | ok u => simp [bind, Except.bind]

theorem checkMenu_ok_iff (m : Menu) :
    checkMenu m = .ok () ↔ checkVarchar .menu "description" m.description = .ok () ∧
      checkVarchar .menu "nom" m.nom = .ok () ∧ 0 ≤ m.prix := by
  simp only [checkMenu, seq_ok_iff, checkNonneg_ok_iff, decide_eq_true_eq]

theorem checkPlat_ok_iff (p : Plat) :
    checkPlat p = .ok () ↔ 0 ≤ p.nbCalories ∧ 0 ≤ p.nbGlucides ∧ 0 ≤ p.nbLipides ∧
      0 ≤ p.nbProteines ∧ checkVarchar .plat "nom" p.nom = .ok () := by
  simp only [checkPlat, seq_ok_iff, checkNonneg_ok_iff, decide_eq_true_eq]

/-- A column constraint that fails is not a key that fails. -/
theorem checkVarchar_error {t : Table} {column : String} {s : Option String} {e : StoreError}
    (h : checkVarchar t column s = .error e) : e.onMenuPlatKeys = false := by
  cases s with
  | none => exact absurd h (by simp [checkVarchar])
  | some s =>
    rw [checkVarchar] at h
    split at h
    · split at h
      · exact absurd h (by simp)
      · cases h; rfl
    · cases h; rfl

theorem checkNonneg_error {t : Table} {column : String} {ok : Bool} {e : StoreError}
    (h : checkNonneg t column ok = .error e) : e.onMenuPlatKeys = false := by
  rw [checkNonneg] at h
  split at h
  · exact absurd h (by simp)
  · cases h; rfl

theorem checkMenu_error {m : Menu} {e : StoreError} (h : checkMenu m = .error e) :
    e.onMenuPlatKeys = false := by
  rcases bind_error h with h | ⟨_, -, h⟩
  · exact checkVarchar_error h
  rcases bind_error h with h | ⟨_, -, h⟩
  · exact checkVarchar_error h
  · exact checkNonneg_error h

theorem checkPlat_error {p : Plat} {e : StoreError} (h : checkPlat p = .error e) :
    e.onMenuPlatKeys = false := by
  rcases bind_error h with h | ⟨_, -, h⟩
  · exact checkNonneg_error h
  rcases bind_error h with h | ⟨_, -, h⟩
  · exact checkNonneg_error h
  rcases bind_error h with h | ⟨_, -, h⟩
  · exact checkNonneg_error h
  rcases bind_error h with h | ⟨_, -, h⟩
  · exact checkNonneg_error h
  · exact checkVarchar_error h

/-! ## Database contents -/

/-- The contents of the four tables. -/
structure Tables where
  categorie : List Categorie
  menu : List Menu
  menuPlat : List MenuPlat
  plat : List Plat
  deriving DecidableEq

/-- The constraints of `prjspring2025.sql`. -/
structure Tables.Valid (t : Tables) : Prop where
  categorie_pk : (t.categorie.map Categorie.id).Nodup
  menu_pk : (t.menu.map Menu.id).Nodup
  menuPlat_pk : t.menuPlat.Nodup
  plat_pk : (t.plat.map Plat.id).Nodup
  /-- The constraint `FKtm1ww2v3ygjp8fi35v3yc2u4d`. -/
  menuPlat_menu : ∀ r ∈ t.menuPlat, ∃ m ∈ t.menu, m.id = r.menuId
  /-- The constraint `FK5wijsn1ol92rwunymd51dlfwn`. -/
  menuPlat_plat : ∀ r ∈ t.menuPlat, ∃ p ∈ t.plat, p.id = r.platId
  /-- The constraint `FKqk8rf3sky00fc8avq2uymm84p`. -/
  plat_categorie : ∀ p ∈ t.plat, ∃ c ∈ t.categorie, c.id = p.categorieId
  menu_check : ∀ m ∈ t.menu, checkMenu m = .ok ()
  plat_check : ∀ p ∈ t.plat, checkPlat p = .ok ()

/-- A content of the database the server can hold, with the next `AUTO_INCREMENT` values. -/
structure Db where
  tables : Tables
  menuSeq : ℤ
  platSeq : ℤ
  valid : tables.Valid
  menuSeq_pos : 0 < menuSeq
  platSeq_pos : 0 < platSeq
  menu_lt : ∀ m ∈ tables.menu, 0 < m.id ∧ m.id < menuSeq
  plat_lt : ∀ p ∈ tables.plat, 0 < p.id ∧ p.id < platSeq

namespace Db

variable (db : Db)

/-- Is there a menu with this identifier? -/
def HasMenu (id : ℤ) : Prop := ∃ m ∈ db.tables.menu, m.id = id

/-- Is there a plat with this identifier? -/
def HasPlat (id : ℤ) : Prop := ∃ p ∈ db.tables.plat, p.id = id

/-- Is there a categorie with this identifier? -/
def HasCategorie (id : ℤ) : Prop := ∃ c ∈ db.tables.categorie, c.id = id

instance (id : ℤ) : Decidable (db.HasMenu id) := inferInstanceAs (Decidable (∃ m ∈ _, _))
instance (id : ℤ) : Decidable (db.HasPlat id) := inferInstanceAs (Decidable (∃ p ∈ _, _))
instance (id : ℤ) : Decidable (db.HasCategorie id) := inferInstanceAs (Decidable (∃ c ∈ _, _))

/-- The identifiers of the plats of a menu, as the join table has them. -/
def platIdsOf (menuId : ℤ) : List ℤ :=
  (db.tables.menuPlat.filter fun r => r.menuId = menuId).map MenuPlat.platId

theorem mem_platIdsOf {m p : ℤ} : p ∈ db.platIdsOf m ↔ ⟨m, p⟩ ∈ db.tables.menuPlat := by
  simp only [platIdsOf, List.mem_map, List.mem_filter, decide_eq_true_eq]
  constructor
  · rintro ⟨⟨m', p'⟩, ⟨hr, rfl⟩, rfl⟩
    exact hr
  · intro h
    exact ⟨⟨m, p⟩, ⟨h, rfl⟩, rfl⟩

theorem nodup_platIdsOf (m : ℤ) : (db.platIdsOf m).Nodup := by
  refine List.Nodup.map_on ?_ (db.valid.menuPlat_pk.filter _)
  rintro ⟨m₁, p₁⟩ h₁ ⟨m₂, p₂⟩ h₂ hp
  simp only [List.mem_filter, decide_eq_true_eq] at h₁ h₂ hp
  rw [h₁.2, h₂.2, hp]

theorem hasPlat_of_mem_platIdsOf {m p : ℤ} (h : p ∈ db.platIdsOf m) : db.HasPlat p :=
  db.valid.menuPlat_plat _ (db.mem_platIdsOf.1 h)

/-! ## Statements on `menu_plat` -/

/-- `INSERT INTO menu_plat`. -/
def insertMenuPlat (r : MenuPlat) : Except StoreError Db :=
  if hnew : r ∈ db.tables.menuPlat then .error (.duplicateKey .menuPlat)
  else if hmenu : db.HasMenu r.menuId then
    if hplat : db.HasPlat r.platId then
      .ok { db with
        tables := { db.tables with menuPlat := db.tables.menuPlat ++ [r] }
        valid := { db.valid with
          menuPlat_pk := by
            rw [List.nodup_append_comm]
            exact List.nodup_cons.2 ⟨hnew, db.valid.menuPlat_pk⟩
          menuPlat_menu := by
            intro r' hr'
            rcases List.mem_append.1 hr' with h | h
            · exact db.valid.menuPlat_menu r' h
            · rw [List.mem_singleton.1 h]
              exact hmenu
          menuPlat_plat := by
            intro r' hr'
            rcases List.mem_append.1 hr' with h | h
            · exact db.valid.menuPlat_plat r' h
            · rw [List.mem_singleton.1 h]
              exact hplat } }
    else .error (.foreignKey .menuPlat)
  else .error (.foreignKey .menuPlat)

theorem insertMenuPlat_ok {db db' : Db} {r : MenuPlat} (h : db.insertMenuPlat r = .ok db') :
    (r ∉ db.tables.menuPlat ∧ db.HasMenu r.menuId ∧ db.HasPlat r.platId) ∧
      db'.tables = { db.tables with menuPlat := db.tables.menuPlat ++ [r] } ∧
      db'.menuSeq = db.menuSeq ∧ db'.platSeq = db.platSeq := by
  rw [insertMenuPlat] at h
  split at h
  · exact absurd h (by simp)
  · rename_i hnew
    split at h
    · rename_i hmenu
      split at h
      · rename_i hplat
        cases h
        exact ⟨⟨hnew, hmenu, hplat⟩, rfl, rfl, rfl⟩
      · exact absurd h (by simp)
    · exact absurd h (by simp)

/-- The insertion goes through when its keys are right. -/
theorem exists_insertMenuPlat {db : Db} {r : MenuPlat} (hnew : r ∉ db.tables.menuPlat)
    (hmenu : db.HasMenu r.menuId) (hplat : db.HasPlat r.platId) :
    ∃ db', db.insertMenuPlat r = .ok db' := by
  rw [insertMenuPlat, dif_neg hnew, dif_pos hmenu, dif_pos hplat]
  exact ⟨_, rfl⟩

/-- `DELETE FROM menu_plat WHERE …`, which violates nothing. -/
def deleteMenuPlat (cond : MenuPlat → Bool) : Db :=
  { db with
    tables := { db.tables with menuPlat := db.tables.menuPlat.filter fun r => !cond r }
    valid := { db.valid with
      menuPlat_pk := db.valid.menuPlat_pk.filter _
      menuPlat_menu := fun r hr => db.valid.menuPlat_menu r (List.mem_of_mem_filter hr)
      menuPlat_plat := fun r hr => db.valid.menuPlat_plat r (List.mem_of_mem_filter hr) } }

/-! ## Statements on `menu` -/

/-- `INSERT INTO menu`, with the identifier `AUTO_INCREMENT` gives the row. -/
def insertMenu (description nom : Option String) (prix : ℚ) : Except StoreError (Db × ℤ) :=
  match h : checkMenu ⟨db.menuSeq, description, nom, prix⟩ with
  | .error e => .error e
  | .ok () =>
    .ok ({ db with
      tables := { db.tables with menu := db.tables.menu ++ [⟨db.menuSeq, description, nom, prix⟩] }
      menuSeq := db.menuSeq + 1
      valid := { db.valid with
        menu_pk := by
          rw [List.map_append, List.nodup_append_comm]
          refine List.nodup_cons.2 ⟨?_, db.valid.menu_pk⟩
          intro hmem
          obtain ⟨m, hm, hid⟩ := List.mem_map.1 hmem
          have hlt := (db.menu_lt m hm).2
          simp only at hid
          omega
        menuPlat_menu := fun r hr =>
          (db.valid.menuPlat_menu r hr).imp fun m hm => ⟨List.mem_append_left _ hm.1, hm.2⟩
        menu_check := by
          intro m hm
          rcases List.mem_append.1 hm with hm | hm
          · exact db.valid.menu_check m hm
          · rw [List.mem_singleton.1 hm]
            exact h }
      menuSeq_pos := by have := db.menuSeq_pos; omega
      menu_lt := by
        intro m hm
        rcases List.mem_append.1 hm with hm | hm
        · have := db.menu_lt m hm
          omega
        · rw [List.mem_singleton.1 hm]
          exact ⟨db.menuSeq_pos, by simp⟩ }, db.menuSeq)

theorem insertMenu_ok {db db' : Db} {description nom : Option String} {prix : ℚ} {id : ℤ}
    (h : db.insertMenu description nom prix = .ok (db', id)) :
    id = db.menuSeq ∧ checkMenu ⟨db.menuSeq, description, nom, prix⟩ = .ok () ∧
      db'.tables =
        { db.tables with menu := db.tables.menu ++ [⟨db.menuSeq, description, nom, prix⟩] } ∧
      db'.menuSeq = db.menuSeq + 1 ∧ db'.platSeq = db.platSeq := by
  rw [insertMenu] at h
  split at h
  · exact absurd h (by simp)
  · rename_i hc
    cases h
    exact ⟨rfl, hc, rfl, rfl, rfl⟩

theorem insertMenu_error {db : Db} {description nom : Option String} {prix : ℚ} {e : StoreError}
    (h : db.insertMenu description nom prix = .error e) :
    checkMenu ⟨db.menuSeq, description, nom, prix⟩ = .error e := by
  rw [insertMenu] at h
  split at h
  · rename_i hc
    cases h
    exact hc
  · exact absurd h (by simp)

/-- `UPDATE menu SET … WHERE id = …`. -/
def updateMenu (m : Menu) : Except StoreError Db :=
  match h : checkMenu m with
  | .error e => .error e
  | .ok () =>
    .ok { db with
      tables := { db.tables with menu := Sql.updateRow Menu.id m db.tables.menu }
      valid := { db.valid with
        menu_pk := by rw [Sql.map_key_updateRow]; exact db.valid.menu_pk
        menuPlat_menu := fun r hr =>
          (Sql.exists_key_updateRow m).2 (db.valid.menuPlat_menu r hr)
        menu_check := by
          intro m' hm'
          rcases Sql.mem_updateRow hm' with rfl | hm'
          · exact h
          · exact db.valid.menu_check m' hm'.1 }
      menu_lt := by
        intro m' hm'
        obtain ⟨m₀, hm₀, hid⟩ := (Sql.exists_key_updateRow m).1 ⟨m', hm', rfl⟩
        rw [← hid]
        exact db.menu_lt m₀ hm₀ }

theorem updateMenu_ok {db db' : Db} {m : Menu} (h : db.updateMenu m = .ok db') :
    checkMenu m = .ok () ∧
      db'.tables = { db.tables with menu := Sql.updateRow Menu.id m db.tables.menu } ∧
      db'.menuSeq = db.menuSeq ∧ db'.platSeq = db.platSeq := by
  rw [updateMenu] at h
  split at h
  · exact absurd h (by simp)
  · rename_i hc
    cases h
    exact ⟨hc, rfl, rfl, rfl⟩

theorem updateMenu_error {db : Db} {m : Menu} {e : StoreError} (h : db.updateMenu m = .error e) :
    checkMenu m = .error e := by
  rw [updateMenu] at h
  split at h
  · rename_i hc
    cases h
    exact hc
  · exact absurd h (by simp)

/-- `DELETE FROM menu WHERE id = …`, refused while the join table names the menu. -/
def deleteMenu (id : ℤ) : Except StoreError Db :=
  if h : ∃ r ∈ db.tables.menuPlat, r.menuId = id then .error (.foreignKey .menuPlat)
  else
    .ok { db with
      tables := { db.tables with menu := Sql.deleteRow Menu.id id db.tables.menu }
      valid := { db.valid with
        menu_pk := Sql.nodup_deleteRow id db.valid.menu_pk
        menuPlat_menu := by
          intro r hr
          obtain ⟨m, hm, hid⟩ := db.valid.menuPlat_menu r hr
          refine ⟨m, Sql.mem_deleteRow.2 ⟨hm, fun he => h ⟨r, hr, ?_⟩⟩, hid⟩
          rw [← hid, he]
        menu_check := fun m hm => db.valid.menu_check m (Sql.mem_deleteRow.1 hm).1 }
      menu_lt := fun m hm => db.menu_lt m (Sql.mem_deleteRow.1 hm).1 }

theorem deleteMenu_ok {db db' : Db} {id : ℤ} (h : db.deleteMenu id = .ok db') :
    (∀ r ∈ db.tables.menuPlat, r.menuId ≠ id) ∧
      db'.tables = { db.tables with menu := Sql.deleteRow Menu.id id db.tables.menu } ∧
      db'.menuSeq = db.menuSeq ∧ db'.platSeq = db.platSeq := by
  rw [deleteMenu] at h
  split at h
  · exact absurd h (by simp)
  · rename_i hr
    cases h
    exact ⟨fun r hmem he => hr ⟨r, hmem, he⟩, rfl, rfl, rfl⟩

theorem exists_deleteMenu {db : Db} {id : ℤ} (h : ∀ r ∈ db.tables.menuPlat, r.menuId ≠ id) :
    ∃ db', db.deleteMenu id = .ok db' := by
  rw [deleteMenu, dif_neg (fun ⟨r, hr, he⟩ => h r hr he)]
  exact ⟨_, rfl⟩

/-! ## Statements on `plat` and `categorie` -/

/-- `INSERT INTO plat`: the row `p`, with the identifier `AUTO_INCREMENT` gives it. -/
def insertPlat (p : Plat) : Except StoreError (Db × ℤ) :=
  match h : checkPlat { p with id := db.platSeq } with
  | .error e => .error e
  | .ok () =>
    if hcat : db.HasCategorie p.categorieId then
      .ok ({ db with
        tables := { db.tables with plat := db.tables.plat ++ [{ p with id := db.platSeq }] }
        platSeq := db.platSeq + 1
        valid := { db.valid with
          plat_pk := by
            rw [List.map_append, List.nodup_append_comm]
            refine List.nodup_cons.2 ⟨?_, db.valid.plat_pk⟩
            intro hmem
            obtain ⟨q, hq, hid⟩ := List.mem_map.1 hmem
            have hlt := (db.plat_lt q hq).2
            simp only at hid
            omega
          menuPlat_plat := fun r hr =>
            (db.valid.menuPlat_plat r hr).imp fun q hq => ⟨List.mem_append_left _ hq.1, hq.2⟩
          plat_categorie := by
            intro q hq
            rcases List.mem_append.1 hq with hq | hq
            · exact db.valid.plat_categorie q hq
            · rw [List.mem_singleton.1 hq]
              exact hcat
          plat_check := by
            intro q hq
            rcases List.mem_append.1 hq with hq | hq
            · exact db.valid.plat_check q hq
            · rw [List.mem_singleton.1 hq]
              exact h }
        platSeq_pos := by have := db.platSeq_pos; omega
        plat_lt := by
          intro q hq
          rcases List.mem_append.1 hq with hq | hq
          · have := db.plat_lt q hq
            omega
          · rw [List.mem_singleton.1 hq]
            exact ⟨db.platSeq_pos, by simp⟩ }, db.platSeq)
    else .error (.foreignKey .plat)

theorem insertPlat_ok {db db' : Db} {p : Plat} {id : ℤ} (h : db.insertPlat p = .ok (db', id)) :
    id = db.platSeq ∧
      (checkPlat { p with id := db.platSeq } = .ok () ∧ db.HasCategorie p.categorieId) ∧
      db'.tables = { db.tables with plat := db.tables.plat ++ [{ p with id := db.platSeq }] } ∧
      db'.menuSeq = db.menuSeq ∧ db'.platSeq = db.platSeq + 1 := by
  rw [insertPlat] at h
  split at h
  · exact absurd h (by simp)
  · rename_i hc
    split at h
    · rename_i hcat
      cases h
      exact ⟨rfl, ⟨hc, hcat⟩, rfl, rfl, rfl⟩
    · exact absurd h (by simp)

theorem insertPlat_error {db : Db} {p : Plat} {e : StoreError} (h : db.insertPlat p = .error e) :
    checkPlat { p with id := db.platSeq } = .error e ∨
      e = .foreignKey .plat ∧ ¬ db.HasCategorie p.categorieId := by
  rw [insertPlat] at h
  split at h
  · rename_i hc
    cases h
    exact Or.inl hc
  · split at h
    · exact absurd h (by simp)
    · rename_i hcat
      cases h
      exact Or.inr ⟨rfl, hcat⟩

/-- `UPDATE plat SET … WHERE id = …`. -/
def updatePlat (p : Plat) : Except StoreError Db :=
  match h : checkPlat p with
  | .error e => .error e
  | .ok () =>
    if hcat : db.HasCategorie p.categorieId then
      .ok { db with
        tables := { db.tables with plat := Sql.updateRow Plat.id p db.tables.plat }
        valid := { db.valid with
          plat_pk := by rw [Sql.map_key_updateRow]; exact db.valid.plat_pk
          menuPlat_plat := fun r hr =>
            (Sql.exists_key_updateRow p).2 (db.valid.menuPlat_plat r hr)
          plat_categorie := by
            intro q hq
            rcases Sql.mem_updateRow hq with rfl | hq
            · exact hcat
            · exact db.valid.plat_categorie q hq.1
          plat_check := by
            intro q hq
            rcases Sql.mem_updateRow hq with rfl | hq
            · exact h
            · exact db.valid.plat_check q hq.1 }
        plat_lt := by
          intro q hq
          obtain ⟨q₀, hq₀, hid⟩ := (Sql.exists_key_updateRow p).1 ⟨q, hq, rfl⟩
          rw [← hid]
          exact db.plat_lt q₀ hq₀ }
    else .error (.foreignKey .plat)

theorem updatePlat_ok {db db' : Db} {p : Plat} (h : db.updatePlat p = .ok db') :
    (checkPlat p = .ok () ∧ db.HasCategorie p.categorieId) ∧
      db'.tables = { db.tables with plat := Sql.updateRow Plat.id p db.tables.plat } ∧
      db'.menuSeq = db.menuSeq ∧ db'.platSeq = db.platSeq := by
  rw [updatePlat] at h
  split at h
  · exact absurd h (by simp)
  · rename_i hc
    split at h
    · rename_i hcat
      cases h
      exact ⟨⟨hc, hcat⟩, rfl, rfl, rfl⟩
    · exact absurd h (by simp)

theorem updatePlat_error {db : Db} {p : Plat} {e : StoreError} (h : db.updatePlat p = .error e) :
    checkPlat p = .error e ∨ e = .foreignKey .plat ∧ ¬ db.HasCategorie p.categorieId := by
  rw [updatePlat] at h
  split at h
  · rename_i hc
    cases h
    exact Or.inl hc
  · split at h
    · exact absurd h (by simp)
    · rename_i hcat
      cases h
      exact Or.inr ⟨rfl, hcat⟩

/-- `DELETE FROM plat WHERE id = …`, refused while the join table names the plat. -/
def deletePlat (id : ℤ) : Except StoreError Db :=
  if h : ∃ r ∈ db.tables.menuPlat, r.platId = id then .error (.foreignKey .menuPlat)
  else
    .ok { db with
      tables := { db.tables with plat := Sql.deleteRow Plat.id id db.tables.plat }
      valid := { db.valid with
        plat_pk := Sql.nodup_deleteRow id db.valid.plat_pk
        menuPlat_plat := by
          intro r hr
          obtain ⟨p, hp, hid⟩ := db.valid.menuPlat_plat r hr
          refine ⟨p, Sql.mem_deleteRow.2 ⟨hp, fun he => h ⟨r, hr, ?_⟩⟩, hid⟩
          rw [← hid, he]
        plat_categorie := fun p hp => db.valid.plat_categorie p (Sql.mem_deleteRow.1 hp).1
        plat_check := fun p hp => db.valid.plat_check p (Sql.mem_deleteRow.1 hp).1 }
      plat_lt := fun p hp => db.plat_lt p (Sql.mem_deleteRow.1 hp).1 }

theorem deletePlat_ok {db db' : Db} {id : ℤ} (h : db.deletePlat id = .ok db') :
    (∀ r ∈ db.tables.menuPlat, r.platId ≠ id) ∧
      db'.tables = { db.tables with plat := Sql.deleteRow Plat.id id db.tables.plat } ∧
      db'.menuSeq = db.menuSeq ∧ db'.platSeq = db.platSeq := by
  rw [deletePlat] at h
  split at h
  · exact absurd h (by simp)
  · rename_i hr
    cases h
    exact ⟨fun r hmem he => hr ⟨r, hmem, he⟩, rfl, rfl, rfl⟩

theorem deletePlat_error {db : Db} {id : ℤ} {e : StoreError} (h : db.deletePlat id = .error e) :
    e = .foreignKey .menuPlat ∧ ∃ r ∈ db.tables.menuPlat, r.platId = id := by
  rw [deletePlat] at h
  split at h
  · rename_i hr
    cases h
    exact ⟨rfl, hr⟩
  · exact absurd h (by simp)

/-- `UPDATE categorie SET nom = … WHERE id = …`. -/
def updateCategorie (c : Categorie) : Except StoreError Db :=
  match checkVarchar .categorie "nom" c.nom with
  | .error e => .error e
  | .ok () =>
    .ok { db with
      tables := { db.tables with categorie := Sql.updateRow Categorie.id c db.tables.categorie }
      valid := { db.valid with
        categorie_pk := by rw [Sql.map_key_updateRow]; exact db.valid.categorie_pk
        plat_categorie := fun p hp =>
          (Sql.exists_key_updateRow c).2 (db.valid.plat_categorie p hp) } }

theorem updateCategorie_ok {db db' : Db} {c : Categorie} (h : db.updateCategorie c = .ok db') :
    checkVarchar .categorie "nom" c.nom = .ok () ∧
      db'.tables =
        { db.tables with categorie := Sql.updateRow Categorie.id c db.tables.categorie } ∧
      db'.menuSeq = db.menuSeq ∧ db'.platSeq = db.platSeq := by
  rw [updateCategorie] at h
  split at h
  · exact absurd h (by simp)
  · rename_i hc
    cases h
    exact ⟨hc, rfl, rfl, rfl⟩

theorem updateCategorie_error {db : Db} {c : Categorie} {e : StoreError}
    (h : db.updateCategorie c = .error e) : checkVarchar .categorie "nom" c.nom = .error e := by
  rw [updateCategorie] at h
  split at h
  · rename_i hc
    cases h
    exact hc
  · exact absurd h (by simp)

end Db

end GestionMenus
