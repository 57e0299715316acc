import GestionMenus.Store.Queries

/-!
# The two listings

`MenuController.listMenus` with `menus.html`, and `PlatController.listePlats` with `plats.html`.

A listing is a function of the request parameters, of the database, and of the order the server
happens to answer in.  That order is all that is not determined, and it is a parameter:

* `QueryServer` gives one legal answer (`Paging.Answers`) to each query.  Quantifying over all
  servers is quantifying over everything SQL leaves open; taking the same server for two requests
  is assuming that identical queries are answered in the same order.
* `MenusRequest` and `PlatsRequest` are the query strings, with the defaults of the
  `@RequestParam`s.
* `listMenus` and `listePlats` are the controllers.  They fail exactly when `PageRequest.of` does.
* `MenusModel.pageLinks`, `filterForm`, `sizeForm` and their counterparts on `PlatsModel` are the
  links and forms of the templates, each as the request it leads to.  None of them carries all the
  criteria on.
* `renderMenus` and `renderPlats` are the part of the rendering that can fail, the alert.

`listMenus_ok` and `listePlats_ok` say what a listing shows; the questions about pages, links and
forms start from there.

Page numbers and sizes are integers here: the code multiplies them as `long`s.
-/

set_option autoImplicit false

namespace GestionMenus

/-- What a request can fail with. -/
inductive WebError where
  /-- `PageRequest.of` refuses a negative page. -/
  | pageIndex
  /-- `PageRequest.of` refuses a size below one. -/
  | pageSize
  /-- A parameter that cannot be converted to the type of its field. -/
  | binding (field : String)
  /-- A repository call failed. -/
  | store (e : StoreError)
  /-- The template read an attribute that is not there, or a row that is gone. -/
  | rendering (expression : String)
  deriving DecidableEq, Repr

/-! ## Pages -/

/-- A `PageRequest` that could be built. -/
structure PageRequest where
  page : ℕ
  size : ℕ
  size_pos : 0 < size

/-- `PageRequest.of(page, size, …)`. -/
def PageRequest.of (page size : ℤ) : Except WebError PageRequest :=
  if page < 0 then .error .pageIndex
  else if h : size < 1 then .error .pageSize
  else .ok ⟨page.toNat, size.toNat, by omega⟩

theorem PageRequest.of_ok {page size : ℤ} (hp : 0 ≤ page) (hs : 1 ≤ size) :
    PageRequest.of page size = .ok ⟨page.toNat, size.toNat, by omega⟩ := by
  rw [PageRequest.of, if_neg (show ¬ page < 0 by omega), dif_neg (show ¬ size < 1 by omega)]

/-- A Spring Data `Page`. -/
structure Page (α : Type) where
  content : List α
  number : ℕ
  size : ℕ
  totalElements : ℕ

/-- `page.totalPages`. -/
def Page.totalPages {α : Type} (p : Page α) : ℕ := Paging.totalPages p.size p.totalElements

/-! ## What the server answers -/

section Server

variable {κ π α : Type}

/-- How the server answers: for each criteria and each ordering, one legal answer. -/
structure QueryServer (matching : κ → List α) (leBy : π → α → α → Bool) where
  answer : κ → SortOrder π → List α
  legal : ∀ c s, Paging.Answers (SortOrder.le leBy s) (matching c) (answer c s)

variable {matching : κ → List α} {leBy : π → α → α → Bool}

/-- The page of a query: the rows between offset and limit, and the answer of the count query. -/
def QueryServer.page (srv : QueryServer matching leBy) (c : κ) (s : SortOrder π)
    (pageable : PageRequest) : Page α where
  content := Paging.slice pageable.size pageable.page (srv.answer c s)
  number := pageable.page
  size := pageable.size
  totalElements := (matching c).length

/-- The server that sorts stably. -/
def QueryServer.sorting (hle : ∀ p, Paging.IsOrder (leBy p)) : QueryServer matching leBy where
  answer c s := (matching c).mergeSort (SortOrder.le leBy s)
  legal _ s := (SortOrder.isOrder hle s).answers_mergeSort _

/-- The server that gives the answer `r` to one query, and sorts stably otherwise. -/
def QueryServer.answering [DecidableEq κ] [DecidableEq π] (hle : ∀ p, Paging.IsOrder (leBy p))
    (c : κ) (s : SortOrder π) (r : List α)
    (hr : Paging.Answers (SortOrder.le leBy s) (matching c) r) : QueryServer matching leBy where
  answer c' s' :=
    if c' = c ∧ s' = s then r else (sorting hle : QueryServer matching leBy).answer c' s'
  legal c' s' := by
    split
    · rename_i h
      rw [h.1, h.2]
      exact hr
    · exact (sorting hle).legal c' s'

@[simp] theorem QueryServer.answering_answer [DecidableEq κ] [DecidableEq π]
    (hle : ∀ p, Paging.IsOrder (leBy p)) (c : κ) (s : SortOrder π) (r : List α)
    (hr : Paging.Answers (SortOrder.le leBy s) (matching c) r) :
    (answering hle c s r hr).answer c s = r := by
  simp [answering]

/-- **What holds for every server holds for every legal answer**, as far as one query is
concerned. -/
theorem QueryServer.forall_answer_iff [DecidableEq κ] [DecidableEq π]
    (hle : ∀ p, Paging.IsOrder (leBy p)) (c : κ) (s : SortOrder π) (P : List α → Prop) :
    (∀ srv : QueryServer matching leBy, P (srv.answer c s)) ↔
      ∀ r, Paging.Answers (SortOrder.le leBy s) (matching c) r → P r := by
  refine ⟨?_, fun h srv => h _ (srv.legal c s)⟩
  intro h r hr
  have hP := h (answering hle c s r hr)
  rwa [answering_answer] at hP

end Server

/-! ## `GET /menus` -/

/-- The parameters of `GET /menus`. -/
structure MenusRequest extends MenuCriteria where
  page : ℤ := 0
  size : ℤ := 10
  sort : String := ""
  action : String := ""
  id : ℤ := 0
  deriving DecidableEq

/-- How the server answers the menu queries. -/
abbrev MenuServer (col : Collation) (db : Db) :=
  QueryServer (MenuRepository.findFiltered col db) (MenuProperty.le col)

/-- The ordering pushed into the query.  The calorie sorts are not among them. -/
def menuSortOrder : String → SortOrder MenuProperty
  | "nomAsc" => some (.nom, .asc)
  | "nomDesc" => some (.nom, .desc)
  | "prixAsc" => some (.prix, .asc)
  | "prixDesc" => some (.prix, .desc)
  | _ => none

/-- `menu.getTotalCalories()` of a listed menu. -/
def Db.totalCalories (db : Db) (m : Menu) : Int32 := getTotalCalories (db.platsOf m.id)

/-- The sort in memory, on the content of the page. -/
def sortMenus (db : Db) : String → List Menu → List Menu
  | "calAsc", menus => menus.mergeSort fun m₁ m₂ => db.totalCalories m₁ ≤ db.totalCalories m₂
  | "calDesc", menus => menus.mergeSort fun m₁ m₂ => db.totalCalories m₂ ≤ db.totalCalories m₁
  | _, menus => menus

theorem sortMenus_perm (db : Db) (sort : String) (menus : List Menu) :
    (sortMenus db sort menus).Perm menus := by
  unfold sortMenus
  split
  · exact List.mergeSort_perm _ _
  · exact List.mergeSort_perm _ _
  · exact List.Perm.refl _

/-- The model of `menus.html`. -/
structure MenusModel extends MenuCriteria where
  /-- `menuRepository.getReferenceById(id)`: a proxy, of which only the identifier is known. -/
  menu : Option ℤ
  action : String
  menus : List Menu
  page : Page Menu
  sort : String

/-- The attributes `menu` and `action` of a listing. -/
def MenusRequest.alertAttributes (req : MenusRequest) : Option ℤ × String :=
  if 0 < req.id ∧ (req.action = "new" ∨ req.action = "mod") then (some req.id, req.action)
  else if req.action ≠ "del" then (none, "")
  else (none, req.action)

/-- `MenuController.listMenus`. -/
def listMenus (col : Collation) (db : Db) (srv : MenuServer col db) (req : MenusRequest) :
    Except WebError MenusModel := do
  let pageable ← PageRequest.of req.page req.size
  let menuPage := srv.page req.toMenuCriteria (menuSortOrder req.sort) pageable
  let menus := sortMenus db req.sort menuPage.content
  let (menu, action) := req.alertAttributes
  pure
    { toMenuCriteria := req.toMenuCriteria
      menu := menu
      action := action
      menus := menus
      page := menuPage
      sort := req.sort }

/-- The page link `i` of `menus.html`: of the criteria it has only `filtre`. -/
def MenusModel.pageLink (m : MenusModel) (i : ℕ) : MenusRequest :=
  { filtre := m.filtre, page := i, size := m.page.size, sort := m.sort }

/-- The numbered page links of `menus.html`, shown when there is more than one page. -/
def MenusModel.pageLinks (m : MenusModel) : List MenusRequest :=
  if m.page.totalPages > 1 then (List.range m.page.totalPages).map m.pageLink else []

/-- The filter form of `menus.html`: the criteria are typed in, page and size are hidden fields. -/
def MenusModel.filterForm (m : MenusModel) (c : MenuCriteria) : MenusRequest :=
  { toMenuCriteria := c, page := m.page.number, size := m.page.size }

/-- The sizes `menus.html` offers. -/
def menuSizes : List ℕ := [5, 10, 20, 50]

/-- The page-size form of `menus.html`. -/
def MenusModel.sizeForm (m : MenusModel) (size : ℕ) : MenusRequest :=
  { filtre := m.filtre, page := m.page.number, size := size, sort := m.sort }

/-- The alert above a listing. -/
inductive Alert where
  | created (nom : Option String)
  | modified (nom : Option String)
  | deleted
  deriving DecidableEq

/-- The alert of `menus.html`.  Reading `menu.nom` initialises the proxy, which fails when the row
is gone. -/
def renderMenus (db : Db) (m : MenusModel) : Except WebError (Option Alert) :=
  let nom : Except WebError (Option String) :=
    match m.menu.bind fun id => Sql.lookup Menu.id id db.tables.menu with
    | some menu => .ok menu.nom
    | none => .error (.rendering "menu.nom")
  if m.action = "new" then do return some (.created (← nom))
  else if m.action = "mod" then do return some (.modified (← nom))
  else if m.action = "del" then .ok (some .deleted)
  else .ok none

/-- `GET /menus`, rendered. -/
def getMenus (col : Collation) (db : Db) (srv : MenuServer col db) (req : MenusRequest) :
    Except WebError (MenusModel × Option Alert) := do
  let m ← listMenus col db srv req
  let alert ← renderMenus db m
  pure (m, alert)

/-! ## `GET /plats` -/

/-- The parameters of `GET /plats`. -/
structure PlatsRequest extends PlatCriteria where
  page : ℤ := 0
  size : ℤ := 10
  sort : String := ""
  action : String := ""
  id : ℤ := 0
  deriving DecidableEq

/-- How the server answers the plat queries. -/
abbrev PlatServer (col : Collation) (db : Db) :=
  QueryServer (PlatRepository.findFiltered col db) (PlatProperty.le col db)

/-- The ordering pushed into the query. -/
def platSortOrder : String → SortOrder PlatProperty
  | "nomAsc" => some (.nom, .asc)
  | "nomDesc" => some (.nom, .desc)
  | "calAsc" => some (.nbCalories, .asc)
  | "calDesc" => some (.nbCalories, .desc)
  | "catAsc" => some (.categorieNom, .asc)
  | "catDesc" => some (.categorieNom, .desc)
  | "glucidesAsc" => some (.nbGlucides, .asc)
  | "glucidesDesc" => some (.nbGlucides, .desc)
  | "lipidesAsc" => some (.nbLipides, .asc)
  | "lipidesDesc" => some (.nbLipides, .desc)
  | "proteinesAsc" => some (.nbProteines, .asc)
  | "proteinesDesc" => some (.nbProteines, .desc)
  | _ => none

/-- The model of `plats.html`. -/
structure PlatsModel extends PlatCriteria where
  /-- The attribute `plat`, absent when `findById` found nothing. -/
  plat : Option Plat
  action : String
  plats : List Plat
  page : Page Plat
  sort : String
  categories : List Categorie

/-- The attributes `plat` and `action` of a listing.  An identifier that is not found leaves
`action` as it is. -/
def PlatsRequest.alertAttributes (db : Db) (req : PlatsRequest) : Option Plat × String :=
  if req.action ≠ "" ∧ 0 < req.id then (Sql.lookup Plat.id req.id db.tables.plat, req.action)
  else if req.action ≠ "del" then (none, "")
  else (none, req.action)

/-- `PlatController.listePlats`. -/
def listePlats (col : Collation) (db : Db) (srv : PlatServer col db) (req : PlatsRequest) :
    Except WebError PlatsModel := do
  let pageable ← PageRequest.of req.page req.size
  let pagePlats := srv.page req.toPlatCriteria (platSortOrder req.sort) pageable
  let (plat, action) := req.alertAttributes db
  pure
    { toPlatCriteria := req.toPlatCriteria
      plat := plat
      action := action
      plats := pagePlats.content
      page := pagePlats
      sort := req.sort
      categories := db.tables.categorie }

/-- The criteria the links of `plats.html` carry on. -/
def PlatCriteria.linked (c : PlatCriteria) : PlatCriteria :=
  { motCle := c.motCle
    categorieId := c.categorieId
    minCalories := c.minCalories
    maxCalories := c.maxCalories }

/-- The page link `i` of `plats.html`. -/
def PlatsModel.pageLink (m : PlatsModel) (i : ℕ) : PlatsRequest :=
  { toPlatCriteria := m.toPlatCriteria.linked, page := i, size := m.page.size, sort := m.sort }

/-- The numbered page links of `plats.html`, shown when there is more than one page. -/
def PlatsModel.pageLinks (m : PlatsModel) : List PlatsRequest :=
  if m.page.totalPages > 1 then (List.range m.page.totalPages).map m.pageLink else []

/-- The filter form of `plats.html`. -/
def PlatsModel.filterForm (m : PlatsModel) (c : PlatCriteria) : PlatsRequest :=
  { toPlatCriteria := c, page := m.page.number, size := m.page.size }

/-- The sizes `plats.html` offers. -/
def platSizes : List ℕ := [5, 10, 15, 20, 25, 30, 35, 40, 45, 50]

/-- The page-size form of `plats.html`. -/
def PlatsModel.sizeForm (m : PlatsModel) (size : ℕ) : PlatsRequest :=
  { toPlatCriteria := m.toPlatCriteria.linked
    page := m.page.number
    size := size
    sort := m.sort }

/-- The alert of `plats.html`.  Without the attribute `plat` there is no `plat.nom`. -/
def renderPlats (m : PlatsModel) : Except WebError (Option Alert) :=
  let nom : Except WebError (Option String) :=
    match m.plat with
    | some plat => .ok plat.nom
    | none => .error (.rendering "plat.nom")
  if m.action = "new" then do return some (.created (← nom))
  else if m.action = "mod" then do return some (.modified (← nom))
  else if m.action = "del" then .ok (some .deleted)
  else .ok none

/-- `GET /plats`, rendered. -/
def getPlats (col : Collation) (db : Db) (srv : PlatServer col db) (req : PlatsRequest) :
    Except WebError (PlatsModel × Option Alert) := do
  let m ← listePlats col db srv req
  let alert ← renderPlats m
  pure (m, alert)

/-! ## What a listing shows -/

section Rows

variable {col : Collation} {db : Db}

/-- The model of `menus.html` is the one for the request: the slice of the server's answer, in an
order of its own when the calories are to be sorted by, and what the links are made from. -/
structure MenusModel.For (m : MenusModel) (srv : MenuServer col db) (req : MenusRequest) :
    Prop where
  menus_eq : m.menus = sortMenus db req.sort (Paging.slice req.size.toNat req.page.toNat
    (srv.answer req.toMenuCriteria (menuSortOrder req.sort)))
  number_eq : m.page.number = req.page.toNat
  size_eq : m.page.size = req.size.toNat
  total_eq :
    m.page.totalElements = (MenuRepository.findFiltered col db req.toMenuCriteria).length
  criteria_eq : m.toMenuCriteria = req.toMenuCriteria
  sort_eq : m.sort = req.sort
  alert_eq : (m.menu, m.action) = req.alertAttributes

/-- **What `listMenus` shows.** -/
theorem listMenus_ok (srv : MenuServer col db) (req : MenusRequest) (hp : 0 ≤ req.page)
    (hs : 1 ≤ req.size) : ∃ m, listMenus col db srv req = .ok m ∧ m.For srv req := by
  rw [listMenus, PageRequest.of_ok hp hs]
  exact ⟨_, rfl, ⟨rfl, rfl, rfl, rfl, rfl, rfl, rfl⟩⟩

theorem listMenus_for {srv : MenuServer col db} {req : MenusRequest} (hp : 0 ≤ req.page)
    (hs : 1 ≤ req.size) {m : MenusModel} (h : listMenus col db srv req = .ok m) :
    m.For srv req := by
  obtain ⟨m', hm', hf⟩ := listMenus_ok srv req hp hs
  rw [h, Except.ok.injEq] at hm'
  exact hm' ▸ hf

/-- The model of `plats.html` is the one for the request. -/
structure PlatsModel.For (m : PlatsModel) (srv : PlatServer col db) (req : PlatsRequest) :
    Prop where
  plats_eq : m.plats = Paging.slice req.size.toNat req.page.toNat
    (srv.answer req.toPlatCriteria (platSortOrder req.sort))
  number_eq : m.page.number = req.page.toNat
  size_eq : m.page.size = req.size.toNat
  total_eq :
    m.page.totalElements = (PlatRepository.findFiltered col db req.toPlatCriteria).length
  criteria_eq : m.toPlatCriteria = req.toPlatCriteria
  sort_eq : m.sort = req.sort
  alert_eq : (m.plat, m.action) = req.alertAttributes db

/-- **What `listePlats` shows.** -/
theorem listePlats_ok (srv : PlatServer col db) (req : PlatsRequest) (hp : 0 ≤ req.page)
    (hs : 1 ≤ req.size) : ∃ m, listePlats col db srv req = .ok m ∧ m.For srv req := by
  rw [listePlats, PageRequest.of_ok hp hs]
  exact ⟨_, rfl, ⟨rfl, rfl, rfl, rfl, rfl, rfl, rfl⟩⟩

theorem listePlats_for {srv : PlatServer col db} {req : PlatsRequest} (hp : 0 ≤ req.page)
    (hs : 1 ≤ req.size) {m : PlatsModel} (h : listePlats col db srv req = .ok m) :
    m.For srv req := by
  obtain ⟨m', hm', hf⟩ := listePlats_ok srv req hp hs
  rw [h, Except.ok.injEq] at hm'
  exact hm' ▸ hf

/-- The menus shown are those of the slice. -/
theorem MenusModel.For.perm {m : MenusModel} {srv : MenuServer col db} {req : MenusRequest}
    (h : m.For srv req) :
    m.menus.Perm (Paging.slice req.size.toNat req.page.toNat
      (srv.answer req.toMenuCriteria (menuSortOrder req.sort))) := by
  rw [h.menus_eq]
  exact sortMenus_perm _ _ _

/-- How many pages the links of the listing count. -/
theorem MenusModel.For.totalPages_eq {m : MenusModel} {srv : MenuServer col db}
    {req : MenusRequest} (h : m.For srv req) :
    m.page.totalPages = Paging.totalPages req.size.toNat
      (MenuRepository.findFiltered col db req.toMenuCriteria).length := by
  rw [Page.totalPages, h.size_eq, h.total_eq]

theorem PlatsModel.For.totalPages_eq {m : PlatsModel} {srv : PlatServer col db}
    {req : PlatsRequest} (h : m.For srv req) :
    m.page.totalPages = Paging.totalPages req.size.toNat
      (PlatRepository.findFiltered col db req.toPlatCriteria).length := by
  rw [Page.totalPages, h.size_eq, h.total_eq]

/-! ## When a listing renders -/

@[simp] theorem ok_bind {α β : Type} (a : α) (f : α → Except WebError β) :
    ((Except.ok a : Except WebError α) >>= f) = f a :=
  rfl

/-- The alert of `menus.html` needs its menu when there is something to confirm. -/
theorem exists_renderMenus_iff (m : MenusModel) :
    (∃ a, renderMenus db m = .ok a) ↔
      (m.action = "new" ∨ m.action = "mod" → ∃ id, m.menu = some id ∧ db.HasMenu id) := by
  have hlook : (∃ menu, (m.menu.bind fun id => Sql.lookup Menu.id id db.tables.menu) = some menu) ↔
      ∃ id, m.menu = some id ∧ db.HasMenu id := by
    simp only [Option.bind_eq_some_iff, Sql.lookup_eq_some_iff db.valid.menu_pk, Db.HasMenu]
    refine ⟨?_, ?_⟩
    · rintro ⟨x, id, h, hx⟩
      exact ⟨id, h, x, hx⟩
    · rintro ⟨id, h, x, hx⟩
      exact ⟨x, id, h, hx⟩
  rw [← hlook, renderMenus]
  cases hx : m.menu.bind fun id => Sql.lookup Menu.id id db.tables.menu with
  | some menu => split_ifs <;> simp_all [pure, Except.pure]
  | none => split_ifs <;> simp_all

/-- The alert of `plats.html` needs its plat when there is something to confirm. -/
theorem exists_renderPlats_iff (m : PlatsModel) :
    (∃ a, renderPlats m = .ok a) ↔
      (m.action = "new" ∨ m.action = "mod" → ∃ p, m.plat = some p) := by
  rw [renderPlats]
  cases hx : m.plat with
  | some plat => split_ifs <;> simp_all [pure, Except.pure]
  | none => split_ifs <;> simp_all

/-- **When `GET /menus` renders**: a menu to be confirmed must still be there. -/
theorem exists_getMenus_iff (srv : MenuServer col db) (req : MenusRequest) (hp : 0 ≤ req.page)
    (hs : 1 ≤ req.size) :
    (∃ v, getMenus col db srv req = .ok v) ↔
      (0 < req.id → req.action = "new" ∨ req.action = "mod" → db.HasMenu req.id) := by
  obtain ⟨m, hm, hf⟩ := listMenus_ok srv req hp hs
  have hrender : (∃ v, getMenus col db srv req = .ok v) ↔ ∃ a, renderMenus db m = .ok a := by
    rw [getMenus, hm, ok_bind]
    cases renderMenus db m with
    | ok a => exact ⟨fun _ => ⟨a, rfl⟩, fun _ => ⟨(m, a), rfl⟩⟩
    | error e => simp
  rw [hrender, exists_renderMenus_iff]
  have halert := hf.alert_eq
  rw [MenusRequest.alertAttributes] at halert
  split_ifs at halert with h₁ h₂ <;> obtain ⟨hmenu, haction⟩ := Prod.mk.inj halert
  · simp [hmenu, haction, h₁]
  · simp only [hmenu, haction]
    exact ⟨fun _ hid ha => absurd ⟨hid, ha⟩ h₁, fun _ => by simp⟩
  · simp only [hmenu, haction]
    exact ⟨fun _ hid ha => absurd ⟨hid, ha⟩ h₁, fun _ ha => by simp_all⟩

/-- **When `GET /plats` renders**: a plat to be confirmed must still be there. -/
theorem exists_getPlats_iff (srv : PlatServer col db) (req : PlatsRequest) (hp : 0 ≤ req.page)
    (hs : 1 ≤ req.size) :
    (∃ v, getPlats col db srv req = .ok v) ↔
      (0 < req.id → req.action = "new" ∨ req.action = "mod" → db.HasPlat req.id) := by
  obtain ⟨m, hm, hf⟩ := listePlats_ok srv req hp hs
  have hrender : (∃ v, getPlats col db srv req = .ok v) ↔ ∃ a, renderPlats m = .ok a := by
    rw [getPlats, hm, ok_bind]
    cases renderPlats m with
    | ok a => exact ⟨fun _ => ⟨a, rfl⟩, fun _ => ⟨(m, a), rfl⟩⟩
    | error e => simp
  rw [hrender, exists_renderPlats_iff]
  have halert := hf.alert_eq
  rw [PlatsRequest.alertAttributes] at halert
  split_ifs at halert with h₁ h₂ <;> obtain ⟨hplat, haction⟩ := Prod.mk.inj halert
  · simp only [hplat, haction, Sql.lookup_eq_some_iff db.valid.plat_pk, h₁.2, true_imp_iff]
    rfl
  · simp only [hplat, haction]
    refine ⟨fun _ hid ha => absurd ⟨?_, hid⟩ h₁, fun _ => by simp⟩
    rcases ha with ha | ha <;> simp [ha]
  · simp only [hplat, haction]
    refine ⟨fun _ hid ha => absurd ⟨?_, hid⟩ h₁, fun _ ha => by simp_all⟩
    rcases ha with ha | ha <;> simp [ha]

end Rows

end GestionMenus
