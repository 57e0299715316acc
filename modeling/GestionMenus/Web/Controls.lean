import GestionMenus.Web.Handlers

/-!
# Where the controls of a listing lead

The filter form, the page-size form and the redirect after a deletion all carry the page number on,
while the number of pages is about to change.  This file says for each of them exactly when the
listing it leads to shows a row although rows match.

* `ShowsMenus` and `ShowsPlats` are the question, asked of a request: whatever order the server
  answers in, the request renders, and it shows at least one row as soon as one matches.
* `WithinRange page size n` is the answer: there are no rows, or enough for that page.

For a deletion the number of rows is the number before it, less one: `findFiltered_deleteMenu` and
`findFiltered_deletePlat` say that a deletion takes exactly its own row out of a listing.
-/

set_option autoImplicit false

namespace GestionMenus

/-- A page of `n` rows is worth showing: there are none, or they reach that page. -/
def WithinRange (page size : ℤ) (n : ℕ) : Prop := n = 0 ∨ page.toNat * size.toNat < n

instance (page size : ℤ) (n : ℕ) : Decidable (WithinRange page size n) :=
  inferInstanceAs (Decidable (_ ∨ _))

/-- The request renders, and shows at least one menu as soon as one matches. -/
def ShowsMenus (col : Collation) (db : Db) (req : MenusRequest) : Prop :=
  ∀ srv : MenuServer col db, ∃ m alert, getMenus col db srv req = .ok (m, alert) ∧
    (MenuRepository.findFiltered col db req.toMenuCriteria ≠ [] → m.menus ≠ [])

/-- The request renders, and shows at least one plat as soon as one matches. -/
def ShowsPlats (col : Collation) (db : Db) (req : PlatsRequest) : Prop :=
  ∀ srv : PlatServer col db, ∃ m alert, getPlats col db srv req = .ok (m, alert) ∧
    (PlatRepository.findFiltered col db req.toPlatCriteria ≠ [] → m.plats ≠ [])

/-- The link that deletes a listed menu.  Both ways to it, through the form and through the detail,
hand on page, size and `filtre`. -/
def MenusModel.deleteLink (m : MenusModel) (x : Menu) : DeleteMenuRequest :=
  { id := x.id, page := m.page.number, size := m.page.size, filtre := m.filtre }

/-- The link that deletes a listed plat. -/
def PlatsModel.deleteLink (m : PlatsModel) (x : Plat) : DeletePlatRequest :=
  { id := x.id, page := m.page.number, size := m.page.size, motCle := m.motCle }

section

variable {col : Collation} {db db' : Db}

/-! ## The page a request lands on -/

theorem getMenus_ok {srv : MenuServer col db} {req : MenusRequest} {m : MenusModel}
    {alert : Option Alert} (h : getMenus col db srv req = .ok (m, alert)) :
    listMenus col db srv req = .ok m := by
  rw [getMenus] at h
  obtain ⟨m', hl, h⟩ := bind_ok h
  obtain ⟨a, -, h⟩ := bind_ok h
  cases h
  exact hl

theorem getPlats_ok {srv : PlatServer col db} {req : PlatsRequest} {m : PlatsModel}
    {alert : Option Alert} (h : getPlats col db srv req = .ok (m, alert)) :
    listePlats col db srv req = .ok m := by
  rw [getPlats] at h
  obtain ⟨m', hl, h⟩ := bind_ok h
  obtain ⟨a, -, h⟩ := bind_ok h
  cases h
  exact hl

/-- A page of a legal answer is empty exactly when the rows do not reach it. -/
theorem page_nonempty_iff {α : Type} {le : α → α → Bool} {page size : ℤ} (hs : 1 ≤ size)
    {l r rows : List α} (hr : Paging.Answers le l r)
    (hrows : rows.Perm (Paging.slice size.toNat page.toNat r)) :
    (l ≠ [] → rows ≠ []) ↔ WithinRange page size l.length := by
  have hempty : rows = [] ↔ l.length ≤ page.toNat * size.toNat := by
    rw [← hr.length_eq, ← Paging.slice_eq_nil_iff (show 0 < size.toNat by omega),
      ← List.length_eq_zero_iff, hrows.length_eq, List.length_eq_zero_iff]
  rw [WithinRange, Ne, Ne, hempty, ← List.length_eq_zero_iff, Nat.not_le]
  exact Decidable.imp_iff_not_or.trans (or_congr Decidable.not_not Iff.rfl)

/-- **Which requests show a menu.** -/
theorem showsMenus_iff (req : MenusRequest) (hp : 0 ≤ req.page) (hs : 1 ≤ req.size)
    (hact : req.action ≠ "new" ∧ req.action ≠ "mod") :
    ShowsMenus col db req ↔ WithinRange req.page req.size
      (MenuRepository.findFiltered col db req.toMenuCriteria).length := by
  have hrows : ∀ (srv : MenuServer col db) (m : MenusModel), listMenus col db srv req = .ok m →
      ((MenuRepository.findFiltered col db req.toMenuCriteria ≠ [] → m.menus ≠ []) ↔
        WithinRange req.page req.size
          (MenuRepository.findFiltered col db req.toMenuCriteria).length) := by
    intro srv m hm
    exact page_nonempty_iff hs (srv.legal _ _) (listMenus_for hp hs hm).perm
  refine ⟨?_, ?_⟩
  · intro h
    obtain ⟨m, alert, hm, hshow⟩ := h (QueryServer.sorting (MenuProperty.isOrder col))
    exact (hrows _ m (getMenus_ok hm)).1 hshow
  · intro h srv
    obtain ⟨⟨m, alert⟩, hm⟩ := (exists_getMenus_iff srv req hp hs).2 fun _ ha =>
      absurd ha (not_or.2 hact)
    exact ⟨m, alert, hm, (hrows srv m (getMenus_ok hm)).2 h⟩

/-- **Which requests show a plat.** -/
theorem showsPlats_iff (req : PlatsRequest) (hp : 0 ≤ req.page) (hs : 1 ≤ req.size)
    (hact : req.action ≠ "new" ∧ req.action ≠ "mod") :
    ShowsPlats col db req ↔ WithinRange req.page req.size
      (PlatRepository.findFiltered col db req.toPlatCriteria).length := by
  have hrows : ∀ (srv : PlatServer col db) (m : PlatsModel), listePlats col db srv req = .ok m →
      ((PlatRepository.findFiltered col db req.toPlatCriteria ≠ [] → m.plats ≠ []) ↔
        WithinRange req.page req.size
          (PlatRepository.findFiltered col db req.toPlatCriteria).length) := by
    intro srv m hm
    exact page_nonempty_iff hs (srv.legal _ _) (List.Perm.of_eq (listePlats_for hp hs hm).plats_eq)
  refine ⟨?_, ?_⟩
  · intro h
    obtain ⟨m, alert, hm, hshow⟩ := h (QueryServer.sorting (PlatProperty.isOrder col db))
    exact (hrows _ m (getPlats_ok hm)).1 hshow
  · intro h srv
    obtain ⟨⟨m, alert⟩, hm⟩ := (exists_getPlats_iff srv req hp hs).2 fun _ ha =>
      absurd ha (not_or.2 hact)
    exact ⟨m, alert, hm, (hrows srv m (getPlats_ok hm)).2 h⟩

/-! ## What a deletion takes out of a listing -/

theorem Db.platsOf_congr {menuId : ℤ} (hplat : db'.tables.plat = db.tables.plat)
    (hids : db'.platIdsOf menuId = db.platIdsOf menuId) :
    db'.platsOf menuId = db.platsOf menuId := by
  rw [Db.platsOf, Db.platsOf, hplat, hids]

/-- Deleting a menu leaves the plats of the others alone. -/
theorem platsOf_deleteMenu {id menuId : ℤ}
    (ht : db'.tables = { db.tables with
      menu := Sql.deleteRow Menu.id id db.tables.menu
      menuPlat := db.tables.menuPlat.filter fun r => !decide (r.menuId = id) })
    (hne : menuId ≠ id) : db'.platsOf menuId = db.platsOf menuId := by
  refine Db.platsOf_congr (by rw [ht]) ?_
  rw [Db.platIdsOf, Db.platIdsOf, ht, List.filter_filter]
  congr 1
  refine List.filter_congr ?_
  intro r _
  by_cases hr : r.menuId = menuId
  · simp [hr, hne]
  · simp [hr]

/-- Rows that lose exactly one of theirs are one less. -/
theorem length_eq_of_mem_iff_ne {α : Type} [DecidableEq α] {l l' : List α} {x : α} (hl : l.Nodup)
    (hl' : l'.Nodup) (hx : x ∈ l) (h : ∀ y, y ∈ l' ↔ y ∈ l ∧ y ≠ x) :
    l'.length = l.length - 1 := by
  have hperm : l'.Perm (l.erase x) :=
    (List.perm_ext_iff_of_nodup hl' (hl.erase x)).2 fun y => by
      rw [h, hl.mem_erase_iff, and_comm]
  rw [hperm.length_eq, List.length_erase_of_mem hx]

/-- **Deleting a menu takes exactly that menu out of a listing.** -/
theorem findFiltered_deleteMenu {x : Menu} {c : MenuCriteria}
    (ht : db'.tables = { db.tables with
      menu := Sql.deleteRow Menu.id x.id db.tables.menu
      menuPlat := db.tables.menuPlat.filter fun r => !decide (r.menuId = x.id) })
    (hx : x ∈ MenuRepository.findFiltered col db c) :
    (MenuRepository.findFiltered col db' c).length =
      (MenuRepository.findFiltered col db c).length - 1 := by
  refine length_eq_of_mem_iff_ne (MenuRepository.nodup_findFiltered col db c)
    (MenuRepository.nodup_findFiltered col db' c) hx fun m => ?_
  have hxm := (MenuRepository.mem_findFiltered.1 hx).1
  by_cases hid : m.id = x.id
  · -- the identifier is the primary key
    have hno : m ∉ MenuRepository.findFiltered col db' c := fun hm => by
      have hmem := (MenuRepository.mem_findFiltered.1 hm).1
      rw [ht] at hmem
      exact (Sql.mem_deleteRow.1 hmem).2 hid
    refine ⟨fun h => absurd h hno, fun h => absurd ?_ h.2⟩
    exact List.inj_on_of_nodup_map db.valid.menu_pk (MenuRepository.mem_findFiltered.1 h.1).1 hxm
      hid
  · have hplats := platsOf_deleteMenu ht hid
    have hmem : m ∈ db'.tables.menu ↔ m ∈ db.tables.menu := by
      rw [ht, Sql.mem_deleteRow]
      exact and_iff_left hid
    have hcond : ∀ p, MenuRepository.cond col db' c m p = MenuRepository.cond col db c m p :=
      fun p => by simp only [MenuRepository.cond, MenuRepository.sumCalories, hplats]
    have hne : m ≠ x := fun he => hid (he ▸ rfl)
    simp only [MenuRepository.findFiltered, Sql.mem_selectDistinct, Sql.mem_leftJoin, hmem, hplats,
      hcond, hne, ne_eq, not_false_eq_true, and_true]

/-- **Deleting a plat takes exactly that plat out of a listing.** -/
theorem findFiltered_deletePlat {x : Plat} {c : PlatCriteria}
    (ht : db'.tables = { db.tables with plat := Sql.deleteRow Plat.id x.id db.tables.plat })
    (hx : x ∈ PlatRepository.findFiltered col db c) :
    (PlatRepository.findFiltered col db' c).length =
      (PlatRepository.findFiltered col db c).length - 1 := by
  refine length_eq_of_mem_iff_ne (PlatRepository.nodup_findFiltered col db c)
    (PlatRepository.nodup_findFiltered col db' c) hx fun p => ?_
  have hxp := (PlatRepository.mem_findFiltered.1 hx).1
  rw [PlatRepository.mem_findFiltered, PlatRepository.mem_findFiltered, ht, Sql.mem_deleteRow]
  refine ⟨fun h => ⟨⟨h.1.1, h.2⟩, fun he => h.1.2 (he ▸ rfl)⟩, fun h => ⟨⟨h.1.1, ?_⟩, h.1.2⟩⟩
  intro hid
  exact h.2 (List.inj_on_of_nodup_map db.valid.plat_pk h.1.1 hxp hid)

/-! ## The controls -/

/-- What the three controls of a menu listing do. -/
theorem menu_controls_iff (srv : MenuServer col db) (req : MenusRequest) (hp : 0 ≤ req.page)
    (hs : 1 ≤ req.size) {m : MenusModel} (hm : listMenus col db srv req = .ok m) :
    (∀ c, ShowsMenus col db (m.filterForm c) ↔
      WithinRange req.page req.size (MenuRepository.findFiltered col db c).length) ∧
    (∀ s ∈ menuSizes, ShowsMenus col db (m.sizeForm s) ↔
      WithinRange req.page s
        (MenuRepository.findFiltered col db { filtre := req.filtre }).length) ∧
    (∀ x ∈ m.menus, ∃ db₁ r, deleteMenu db (m.deleteLink x) = .ok (db₁, r) ∧
      (ShowsMenus col db₁ r ↔ WithinRange req.page req.size
        ((MenuRepository.findFiltered col db { filtre := req.filtre }).length - 1))) := by
  have hf := listMenus_for hp hs hm
  have hnumber : (m.page.number : ℤ) = req.page := by rw [hf.number_eq]; omega
  have hsize : (m.page.size : ℤ) = req.size := by rw [hf.size_eq]; omega
  refine ⟨?_, ?_, ?_⟩
  · intro c
    rw [MenusModel.filterForm, hnumber, hsize]
    exact showsMenus_iff _ hp hs ⟨by simp, by simp⟩
  · intro s hmem
    have hpos : ∀ s ∈ menuSizes, 1 ≤ (s : ℤ) := by decide
    rw [MenusModel.sizeForm, hnumber, hf.criteria_eq]
    exact showsMenus_iff _ hp (hpos s hmem) ⟨by simp, by simp⟩
  · intro x hx
    obtain ⟨db₁, hdel, ht, -, -⟩ := deleteMenu_ok db (m.deleteLink x)
    refine ⟨db₁, _, hdel, ?_⟩
    -- the deleted row matched the criteria, hence what is left of them in the redirect
    have hmatch : x ∈ MenuRepository.findFiltered col db { filtre := req.filtre } :=
      MenuRepository.findFiltered_subset_filtre col db _
        ((srv.legal _ _).mem_iff.1 (Paging.mem_of_mem_slice (hf.perm.mem_iff.1 hx)))
    rw [← findFiltered_deleteMenu ht hmatch]
    simp only [MenusModel.deleteLink, hnumber, hsize, hf.criteria_eq]
    exact showsMenus_iff _ hp hs ⟨by simp, by simp⟩

/-- Dropping all the criteria but the keyword selects at least as much. -/
theorem findFiltered_subset_motCle (col : Collation) (db : Db) (c : PlatCriteria) :
    PlatRepository.findFiltered col db c ⊆
      PlatRepository.findFiltered col db { motCle := c.motCle } := by
  intro p hp
  obtain ⟨hp, hm⟩ := PlatRepository.mem_findFiltered.1 hp
  refine PlatRepository.mem_findFiltered.2 ⟨hp, ?_⟩
  constructor
  case motCle => exact hm.motCle
  all_goals simp

/-- What the three controls of a plat listing do. -/
theorem plat_controls_iff (srv : PlatServer col db) (req : PlatsRequest) (hp : 0 ≤ req.page)
    (hs : 1 ≤ req.size) {m : PlatsModel} (hm : listePlats col db srv req = .ok m) :
    (∀ c, ShowsPlats col db (m.filterForm c) ↔
      WithinRange req.page req.size (PlatRepository.findFiltered col db c).length) ∧
    (∀ s ∈ platSizes, ShowsPlats col db (m.sizeForm s) ↔
      WithinRange req.page s
        (PlatRepository.findFiltered col db req.toPlatCriteria.linked).length) ∧
    (∀ x ∈ m.plats, ∀ db₁ r, deletePlat db (m.deleteLink x) = .ok (db₁, r) →
      (ShowsPlats col db₁ r ↔ WithinRange req.page req.size
        ((PlatRepository.findFiltered col db { motCle := req.motCle }).length - 1))) := by
  have hf := listePlats_for hp hs hm
  have hnumber : (m.page.number : ℤ) = req.page := by rw [hf.number_eq]; omega
  have hsize : (m.page.size : ℤ) = req.size := by rw [hf.size_eq]; omega
  refine ⟨?_, ?_, ?_⟩
  · intro c
    rw [PlatsModel.filterForm, hnumber, hsize]
    exact showsPlats_iff _ hp hs ⟨by simp, by simp⟩
  · intro s hmem
    have hpos : ∀ s ∈ platSizes, 1 ≤ (s : ℤ) := by decide
    rw [PlatsModel.sizeForm, hnumber, hf.criteria_eq]
    exact showsPlats_iff _ hp (hpos s hmem) ⟨by simp, by simp⟩
  · intro x hx db₁ r hdel
    obtain ⟨-, ht, -, -, rfl⟩ := deletePlat_ok hdel
    have hmatch : x ∈ PlatRepository.findFiltered col db { motCle := req.motCle } := by
      rw [hf.plats_eq] at hx
      exact findFiltered_subset_motCle col db _
        ((srv.legal _ _).mem_iff.1 (Paging.mem_of_mem_slice hx))
    rw [← findFiltered_deletePlat ht hmatch]
    simp only [PlatsModel.deleteLink, hnumber, hsize, hf.criteria_eq]
    exact showsPlats_iff _ hp hs ⟨by simp, by simp⟩

variable (col db) in
/-- **Where the controls of a listing lead.**  From any page of a listing, each of the filter form,
the page-size form and the redirect after the deletion of a listed row shows a row as soon as one
matches, if and only if the page number it carries on is within the rows it asks for.  The deletion
of a menu always succeeds; the one of a plat that a menu contains is refused, and then there is no
redirect to follow. -/
theorem controls_land_iff :
    (∀ (srv : MenuServer col db) (req : MenusRequest) (m : MenusModel), 0 ≤ req.page →
      1 ≤ req.size → listMenus col db srv req = .ok m →
      (∀ c, ShowsMenus col db (m.filterForm c) ↔
        WithinRange req.page req.size (MenuRepository.findFiltered col db c).length) ∧
      (∀ s ∈ menuSizes, ShowsMenus col db (m.sizeForm s) ↔
        WithinRange req.page s
          (MenuRepository.findFiltered col db { filtre := req.filtre }).length) ∧
      (∀ x ∈ m.menus, ∃ db₁ r, deleteMenu db (m.deleteLink x) = .ok (db₁, r) ∧
        (ShowsMenus col db₁ r ↔ WithinRange req.page req.size
          ((MenuRepository.findFiltered col db { filtre := req.filtre }).length - 1)))) ∧
    (∀ (srv : PlatServer col db) (req : PlatsRequest) (m : PlatsModel), 0 ≤ req.page →
      1 ≤ req.size → listePlats col db srv req = .ok m →
      (∀ c, ShowsPlats col db (m.filterForm c) ↔
        WithinRange req.page req.size (PlatRepository.findFiltered col db c).length) ∧
      (∀ s ∈ platSizes, ShowsPlats col db (m.sizeForm s) ↔
        WithinRange req.page s
          (PlatRepository.findFiltered col db req.toPlatCriteria.linked).length) ∧
      (∀ x ∈ m.plats, ∀ db₁ r, deletePlat db (m.deleteLink x) = .ok (db₁, r) →
        (ShowsPlats col db₁ r ↔ WithinRange req.page req.size
          ((PlatRepository.findFiltered col db { motCle := req.motCle }).length - 1)))) :=
  ⟨fun srv req _ hp hs hm => menu_controls_iff srv req hp hs hm,
    fun srv req _ hp hs hm => plat_controls_iff srv req hp hs hm⟩

end

/-- The card answered in its own order. -/
def carteMenus : MenuServer .codePoint carte := QueryServer.sorting (MenuProperty.isOrder _)

theorem controls_land_iff_carte :
    ∃ m, listMenus .codePoint carte carteMenus { page := 1, size := 2 } = .ok m ∧
      ShowsMenus .codePoint carte (m.filterForm {}) := by
  obtain ⟨m, hm, -⟩ := listMenus_ok carteMenus { page := 1, size := 2 } (by decide) (by decide)
  exact ⟨m, hm, (((controls_land_iff .codePoint carte).1 carteMenus { page := 1, size := 2 } m
    (by decide) (by decide) hm).1 {}).2 (by decide)⟩

/-- On the second page of two menus, looking for the one menu of a name finds nothing; so does
asking for five menus on a page from the third page of one; so does deleting the last menu. -/
theorem not_showsMenus_carte :
    (∃ m, listMenus .codePoint carte carteMenus { page := 1, size := 2 } = .ok m ∧
      1 < m.page.totalPages ∧ ¬ ShowsMenus .codePoint carte (m.filterForm { filtre := "Midi" })) ∧
    (∃ m, listMenus .codePoint carte carteMenus { page := 2, size := 1 } = .ok m ∧
      2 < m.page.totalPages ∧ ¬ ShowsMenus .codePoint carte (m.sizeForm 5) ∧
      ∃ x ∈ m.menus, ∀ db₁ r, deleteMenu carte (m.deleteLink x) = .ok (db₁, r) →
        ¬ ShowsMenus .codePoint db₁ r) := by
  refine ⟨?_, ?_⟩
  · obtain ⟨m, hm, hf⟩ := listMenus_ok carteMenus { page := 1, size := 2 } (by decide) (by decide)
    refine ⟨m, hm, by rw [hf.totalPages_eq]; decide, ?_⟩
    rw [(menu_controls_iff carteMenus _ (by decide) (by decide) hm).1]
    decide
  · obtain ⟨m, hm, hf⟩ := listMenus_ok carteMenus { page := 2, size := 1 } (by decide) (by decide)
    obtain ⟨-, hsizes, hdel⟩ := menu_controls_iff carteMenus _ (by decide) (by decide) hm
    refine ⟨m, hm, by rw [hf.totalPages_eq]; decide, by rw [hsizes 5 (by decide)]; decide, ?_⟩
    have hne : m.menus ≠ [] := by
      exact (page_nonempty_iff (by decide) (carteMenus.legal _ _) hf.perm).2 (by decide)
        (by decide)
    obtain ⟨x, hx⟩ := List.exists_mem_of_ne_nil _ hne
    refine ⟨x, hx, ?_⟩
    intro db₁ r h
    obtain ⟨db₂, r₂, h₂, hiff⟩ := hdel x hx
    rw [h, Except.ok.injEq, Prod.mk.injEq] at h₂
    obtain ⟨rfl, rfl⟩ := h₂
    rw [hiff]
    decide

end GestionMenus
