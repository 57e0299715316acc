import Mathlib.Algebra.Group.Nat.Even
import GestionMenus.Base.Runs
import GestionMenus.Web.Listing

/-!
# The menu form

`MenuController.editMenu` renders `menuForm.html`, and from then on the form lives in the browser:
two lists of items, a button on each item, hidden inputs and three totals, all of them kept up to
date by four small functions.  This file is the page and its script.

* `editMenu` is the controller and the template together.  Which plats go to which list is decided
  by `menu.plats.contains(plat)`, on objects without `equals`; both come out of the persistence
  context of the request, so the comparison is one of identifiers after all (`availableIds_render`).
* `updateTotals`, `updateHiddenInputs`, `ajouterPlat`, `retirerPlat` and `validateMenuSelection` are
  the functions of the script, and `MenuForm.click` is what the button of an item does: it calls
  whatever its `onclick` says.
* `MenuForm.Inv` is the invariant of the page.  `MenuForm.Inv.click` says that a click keeps it, and
  `menuForm_clicks` that any number of clicks does.
* `MenuForm.step` adds the filter of the page, which is a new `GET /edit`.
  `filter_keeps_selection_iff` says exactly when it leaves the selection alone.

The numbers a browser adds up are exact as long as they are below `2 ^ 53`, and are integers here.
-/

set_option autoImplicit false

namespace GestionMenus

open IdentityMap

/-! ## The page -/

/-- What the `onclick` attribute of a button calls. -/
inductive Handler where
  | ajouterPlat
  | retirerPlat
  deriving DecidableEq, Repr

/-- The button of an item. -/
structure Button where
  classList : List String
  innerText : String
  onclick : Handler
  deriving DecidableEq

/-- The button of an item rendered into `availablePlatsList`. -/
def Button.ajouter : Button := ⟨["btn", "btn-sm", "btn-outline-primary"], "Ajouter", .ajouterPlat⟩

/-- The button of an item rendered into `selectedPlatsList`. -/
def Button.retirer : Button := ⟨["btn", "btn-sm", "btn-outline-danger"], "Retirer", .retirerPlat⟩

/-- The `data-` attributes of an item. -/
structure ItemData where
  id : ℤ
  calories : Int32
  glucides : Int32
  lipides : Int32
  proteines : Int32
  deriving DecidableEq

/-- The attributes an item is rendered with. -/
def ItemData.of (p : Plat) : ItemData :=
  ⟨p.id, p.nbCalories, p.nbGlucides, p.nbLipides, p.nbProteines⟩

/-- A `.list-group-item`. -/
structure Item where
  data : ItemData
  button : Button
  deriving DecidableEq

/-- The part of `menuForm.html` the script works on, and the fields of the form. -/
structure MenuForm where
  menu : MenuBean
  page : ℤ
  size : ℤ
  filtre : String
  availablePlatsList : List Item
  selectedPlatsList : List Item
  totalPlats : ℕ
  totalCalories : ℤ
  totalLipides : ℤ
  /-- The values of the hidden inputs `platIds`. -/
  hiddenPlatInputs : List ℤ
  deriving DecidableEq

namespace MenuForm

/-- The identifiers in the list of available plats. -/
def availableIds (f : MenuForm) : List ℤ := f.availablePlatsList.map fun x => x.data.id

/-- The identifiers in the list of selected plats. -/
def selectedIds (f : MenuForm) : List ℤ := f.selectedPlatsList.map fun x => x.data.id

/-! ## The script -/

/-- `updateHiddenInputs`. -/
def updateHiddenInputs (f : MenuForm) : MenuForm :=
  { f with hiddenPlatInputs := f.selectedPlatsList.map fun x => x.data.id }

/-- `updateTotals`. -/
def updateTotals (f : MenuForm) : MenuForm :=
  updateHiddenInputs
    { f with
      totalPlats := f.selectedPlatsList.length
      totalCalories := f.selectedPlatsList.foldl (fun t x => t + x.data.calories.toInt) 0
      totalLipides := f.selectedPlatsList.foldl (fun t x => t + x.data.lipides.toInt) 0 }

/-- The list an item is in. -/
inductive Side where
  | available
  | selected
  deriving DecidableEq, Repr

/-- The items of a list. -/
def items (f : MenuForm) : Side → List Item
  | .available => f.availablePlatsList
  | .selected => f.selectedPlatsList

/-- `item.parentNode.removeChild(item)`. -/
def removeChild (f : MenuForm) (side : Side) (i : ℕ) : MenuForm :=
  match side with
  | .available => { f with availablePlatsList := f.availablePlatsList.eraseIdx i }
  | .selected => { f with selectedPlatsList := f.selectedPlatsList.eraseIdx i }

/-- What both handlers do to the button: take one class off, put another one on, and change the
text and the handler. -/
def rewire (x : Item) (off on text : String) (onclick : Handler) : Item :=
  let classes := x.button.classList.filter (· ≠ off)
  { x with button := ⟨if on ∈ classes then classes else classes ++ [on], text, onclick⟩ }

/-- `ajouterPlat(button)`, for the button of the item `x` at place `i` of a list. -/
def ajouterPlat (f : MenuForm) (side : Side) (i : ℕ) (x : Item) : MenuForm :=
  let x := rewire x "btn-outline-primary" "btn-outline-danger" "Retirer" .retirerPlat
  let f := f.removeChild side i
  updateTotals { f with selectedPlatsList := f.selectedPlatsList ++ [x] }

/-- `retirerPlat(button)`. -/
def retirerPlat (f : MenuForm) (side : Side) (i : ℕ) (x : Item) : MenuForm :=
  let x := rewire x "btn-outline-danger" "btn-outline-primary" "Ajouter" .ajouterPlat
  let f := f.removeChild side i
  updateTotals { f with availablePlatsList := f.availablePlatsList ++ [x] }

/-- A click on the button of the `i`-th item of a list. -/
def click (f : MenuForm) (side : Side) (i : ℕ) : MenuForm :=
  match (f.items side)[i]? with
  | none => f
  | some x =>
    match x.button.onclick with
    | .ajouterPlat => f.ajouterPlat side i x
    | .retirerPlat => f.retirerPlat side i x

/-- `validateMenuSelection`. -/
def validateMenuSelection (f : MenuForm) : Bool := f.selectedPlatsList.length ≠ 0

end MenuForm

/-! ## `GET /edit` -/

/-- The nine criteria of the plat filter of the form. -/
structure SelectionCriteria where
  categorieId : Option ℤ := none
  minCalories : Option Int32 := none
  maxCalories : Option Int32 := none
  minLipides : Option Int32 := none
  maxLipides : Option Int32 := none
  minGlucides : Option Int32 := none
  maxGlucides : Option Int32 := none
  minProteines : Option Int32 := none
  maxProteines : Option Int32 := none
  deriving DecidableEq

/-- The parameters of `GET /edit`. -/
structure EditRequest extends SelectionCriteria where
  id : ℤ := 0
  page : ℤ := 0
  size : ℤ := 10
  filtre : String := ""
  deriving DecidableEq

/-- Is at least one criterion given? -/
def SelectionCriteria.given (c : SelectionCriteria) : Bool :=
  c.categorieId.isSome || c.minCalories.isSome || c.maxCalories.isSome ||
    c.minLipides.isSome || c.maxLipides.isSome ||
    c.minGlucides.isSome || c.maxGlucides.isSome ||
    c.minProteines.isSome || c.maxProteines.isSome

/-- The plats the form offers.  Their order is that of the table, for want of an `ORDER BY`. -/
def offeredPlats (col : Collation) (db : Db) (c : SelectionCriteria) : List Plat :=
  if c.given then
    PlatRepository.findFiltered col db
      { categorieId := c.categorieId
        minCalories := c.minCalories
        maxCalories := c.maxCalories
        minLipides := c.minLipides
        maxLipides := c.maxLipides
        minGlucides := c.minGlucides
        maxGlucides := c.maxGlucides
        minProteines := c.minProteines
        maxProteines := c.maxProteines
        motCle := "" }
  else db.tables.plat

/-- What `editMenu` answers with. -/
inductive EditResponse where
  | menuForm (f : MenuForm)
  | redirect (url : String)

/-- `menuForm.html` for a menu and the plats it is offered, once the page is loaded.  `offered` and
`own` are loaded in this order: the plats of the menu only when the template asks for them. -/
def renderMenuForm (req : EditRequest) (menu : MenuBean) (offered own : List Plat) : MenuForm :=
  let plats := (Session.empty Plat.id).loadAll offered
  let menuPlats := (plats.2.loadAll own).1
  MenuForm.updateTotals
    { menu := menu
      page := req.page
      size := req.size
      filtre := req.filtre
      availablePlatsList :=
        (plats.1.filter fun o => !containsRef menuPlats o).map fun o => ⟨.of o.row, .ajouter⟩
      selectedPlatsList := menuPlats.map fun o => ⟨.of o.row, .retirer⟩
      totalPlats := 0
      totalCalories := 0
      totalLipides := 0
      hiddenPlatInputs := [] }

/-- `MenuController.editMenu`. -/
def editMenu (col : Collation) (db : Db) (req : EditRequest) : EditResponse :=
  let offered := offeredPlats col db req.toSelectionCriteria
  if req.id ≠ 0 then
    match Sql.lookup Menu.id req.id db.tables.menu with
    | some m =>
      .menuForm
        (renderMenuForm req ⟨some m.id, m.nom, m.description, m.prix⟩ offered (db.platsOf m.id))
    | none =>
      .redirect ("redirect:/menus?page=" ++ toString req.page ++ "&size=" ++ toString req.size ++
        "&filtre=" ++ req.filtre)
  else .menuForm (renderMenuForm req ⟨none, none, none, 0⟩ offered [])

/-! ## The invariant of the page -/

namespace MenuForm

/-- **The invariant of the page**, for the items it was rendered with. -/
structure Inv (data : List ItemData) (f : MenuForm) : Prop where
  /-- The two lists hold the items of the page, each in one of them. -/
  perm : ((f.availablePlatsList ++ f.selectedPlatsList).map Item.data).Perm data
  available_button : ∀ x ∈ f.availablePlatsList, x.button = .ajouter
  selected_button : ∀ x ∈ f.selectedPlatsList, x.button = .retirer
  /-- The totals and the hidden inputs are up to date. -/
  updated : f.updateTotals = f

theorem rewire_ajouter {x : Item} (h : x.button = .ajouter) :
    rewire x "btn-outline-primary" "btn-outline-danger" "Retirer" .retirerPlat =
      ⟨x.data, .retirer⟩ := by
  rw [rewire, h]
  exact congrArg (Item.mk x.data) (by decide)

theorem rewire_retirer {x : Item} (h : x.button = .retirer) :
    rewire x "btn-outline-danger" "btn-outline-primary" "Ajouter" .ajouterPlat =
      ⟨x.data, .ajouter⟩ := by
  rw [rewire, h]
  exact congrArg (Item.mk x.data) (by decide)

/-- An item taken out of a list, seen from its data. -/
theorem map_data_perm_of_getElem? {l : List Item} {i : ℕ} {x : Item} (h : l[i]? = some x) :
    (l.map Item.data).Perm (x.data :: (l.eraseIdx i).map Item.data) := by
  obtain ⟨hi, rfl⟩ := List.getElem?_eq_some_iff.1 h
  exact ((List.getElem_cons_eraseIdx_perm hi).map Item.data).symm

/-- **What a click does**: nothing, or it moves the item to the other list. -/
theorem Inv.click_cases {data : List ItemData} {f : MenuForm} (hf : f.Inv data) (side : Side)
    (i : ℕ) :
    (f.items side)[i]? = none ∧ f.click side i = f ∨
    (∃ x, side = .available ∧ f.availablePlatsList[i]? = some x ∧
      f.click side i = updateTotals { f with
        availablePlatsList := f.availablePlatsList.eraseIdx i
        selectedPlatsList := f.selectedPlatsList ++ [⟨x.data, .retirer⟩] }) ∨
    (∃ x, side = .selected ∧ f.selectedPlatsList[i]? = some x ∧
      f.click side i = updateTotals { f with
        availablePlatsList := f.availablePlatsList ++ [⟨x.data, .ajouter⟩]
        selectedPlatsList := f.selectedPlatsList.eraseIdx i }) := by
  cases hx : (f.items side)[i]? with
  | none => exact Or.inl ⟨rfl, by rw [click, hx]⟩
  | some x =>
    refine Or.inr ?_
    cases side with
    | available =>
      have hb := hf.available_button x (List.mem_of_getElem? hx)
      refine Or.inl ⟨x, rfl, hx, ?_⟩
      rw [click, hx]
      simp only [hb, Button.ajouter, ajouterPlat, rewire_ajouter hb, removeChild]
    | selected =>
      have hb := hf.selected_button x (List.mem_of_getElem? hx)
      refine Or.inr ⟨x, rfl, hx, ?_⟩
      rw [click, hx]
      simp only [hb, Button.retirer, retirerPlat, rewire_retirer hb, removeChild]

/-- **A click keeps the invariant.** -/
theorem Inv.click {data : List ItemData} {f : MenuForm} (hf : f.Inv data) (side : Side) (i : ℕ) :
    (f.click side i).Inv data := by
  obtain ⟨-, h⟩ | ⟨x, -, hx, h⟩ | ⟨x, -, hx, h⟩ := hf.click_cases side i
  · rw [h]
    exact hf
  · have hperm := (map_data_perm_of_getElem? hx).append_right (f.selectedPlatsList.map Item.data)
    rw [← List.map_append] at hperm
    rw [h]
    refine
      { perm := (?_ : List.Perm _ _).trans (hperm.symm.trans hf.perm)
        available_button := fun y hy => hf.available_button y (List.mem_of_mem_eraseIdx hy)
        selected_button := fun y hy => ?_
        updated := rfl }
    · simp only [updateTotals, updateHiddenInputs, List.map_append, List.map_cons, List.map_nil,
        ← List.append_assoc]
      exact List.perm_append_singleton _ _
    · rcases List.mem_append.1 hy with hy | hy
      · exact hf.selected_button y hy
      · rw [List.mem_singleton.1 hy]
  · have hperm := (map_data_perm_of_getElem? hx).append_left (f.availablePlatsList.map Item.data)
    rw [← List.map_append] at hperm
    rw [h]
    refine
      { perm := (?_ : List.Perm _ _).trans (hperm.symm.trans hf.perm)
        available_button := fun y hy => ?_
        selected_button := fun y hy => hf.selected_button y (List.mem_of_mem_eraseIdx hy)
        updated := rfl }
    · simp [updateTotals, updateHiddenInputs]
    · rcases List.mem_append.1 hy with hy | hy
      · exact hf.available_button y hy
      · rw [List.mem_singleton.1 hy]

/-- **Any number of clicks keeps the invariant.** -/
theorem Inv.clicks {data : List ItemData} {f : MenuForm} (hf : f.Inv data)
    (clicks : List (Side × ℕ)) : (Runs.run (fun f c => f.click c.1 c.2) f clicks).Inv data :=
  Runs.run_invariant hf (fun _ c h => h.click c.1 c.2) clicks

/-! ## The page as it is rendered -/

section Render

variable (req : EditRequest) (menu : MenuBean) (offered own : List Plat)

theorem selectedIds_render :
    (renderMenuForm req menu offered own).selectedIds = own.map Plat.id := by
  have h := ((Session.empty Plat.id).loadAll offered).2.loadAll_keys own
  simpa only [selectedIds, renderMenuForm, updateTotals, updateHiddenInputs, List.map_map,
    Function.comp_def, ItemData.of] using h

/-- **`contains` compares identifiers**: the plats offered are those the menu does not have. -/
theorem availableIds_render :
    (renderMenuForm req menu offered own).availableIds =
      (offered.map Plat.id).filter fun k => k ∉ own.map Plat.id := by
  have hkeys := (Session.empty Plat.id).loadAll_keys offered
  have hmem := (Session.empty Plat.id).loadAll_mem offered
  generalize hs : (Session.empty Plat.id).loadAll offered = plats at hkeys hmem
  have hcontains : ∀ o ∈ plats.1, (!containsRef (plats.2.loadAll own).1 o) =
      decide (o.row.id ∉ own.map Plat.id) := by
    intro o ho
    have hiff := Session.containsRef_iff _ (plats.2.loadAll_mem own)
      (Session.mem_loadAll own (hmem o ho))
    rw [plats.2.loadAll_keys own] at hiff
    rw [decide_not, Bool.not_eq_eq_eq_not, Bool.not_not, Bool.eq_iff_iff, hiff, decide_eq_true_eq]
  rw [← hkeys, List.filter_map]
  simp only [availableIds, renderMenuForm, updateTotals, updateHiddenInputs, hs, List.map_map,
    Function.comp_def, ItemData.of]
  rw [List.filter_congr hcontains]

theorem inv_render :
    (renderMenuForm req menu offered own).Inv
      (((renderMenuForm req menu offered own).availablePlatsList ++
        (renderMenuForm req menu offered own).selectedPlatsList).map Item.data) where
  perm := List.Perm.refl _
  available_button x hx := by
    obtain ⟨o, -, rfl⟩ := List.mem_map.1 hx
    rfl
  selected_button x hx := by
    obtain ⟨o, -, rfl⟩ := List.mem_map.1 hx
    rfl
  updated := rfl

/-- The items show the rows they were rendered from. -/
theorem data_render {x : Item}
    (hx : x ∈ (renderMenuForm req menu offered own).availablePlatsList ++
      (renderMenuForm req menu offered own).selectedPlatsList) :
    ∃ p, (p ∈ offered ∨ p ∈ own) ∧ x.data = .of p := by
  have hrow : ∀ o ∈ ((Session.empty Plat.id).loadAll offered).2.objs, o.row ∈ offered := by
    intro o ho
    rcases Session.row_mem_of_loadAll ho with h | h
    · exact absurd h (by simp [Session.empty])
    · exact h
  rcases List.mem_append.1 hx with h | h
  · obtain ⟨o, ho, rfl⟩ := List.mem_map.1 h
    exact ⟨o.row, Or.inl (hrow o (Session.loadAll_mem _ _ o (List.mem_of_mem_filter ho))), rfl⟩
  · obtain ⟨o, ho, rfl⟩ := List.mem_map.1 h
    refine ⟨o.row, ?_, rfl⟩
    exact (Session.row_mem_of_loadAll (Session.loadAll_mem _ _ o ho)).imp (hrow o) fun h => h

end Render

end MenuForm

/-- The identifiers of the plats of the menu a form is opened for. -/
def ownIds (db : Db) (id : ℤ) : List ℤ := if id ≠ 0 then db.platIdsOf id else []

theorem offeredPlats_subset (col : Collation) (db : Db) (c : SelectionCriteria) :
    offeredPlats col db c ⊆ db.tables.plat := by
  intro p hp
  rw [offeredPlats] at hp
  split at hp
  · exact (PlatRepository.mem_findFiltered.1 hp).1
  · exact hp

theorem nodup_offeredPlats (col : Collation) (db : Db) (c : SelectionCriteria) :
    ((offeredPlats col db c).map Plat.id).Nodup := by
  rw [offeredPlats]
  split
  · exact (List.filter_sublist.map Plat.id).nodup db.valid.plat_pk
  · exact db.valid.plat_pk

theorem nodup_ownIds (db : Db) (id : ℤ) : (ownIds db id).Nodup := by
  rw [ownIds]
  split
  · exact db.nodup_platIdsOf id
  · exact List.nodup_nil

/-- **What `editMenu` renders**: the form of the menu with its own plats selected. -/
theorem editMenu_menuForm {col : Collation} {db : Db} {req : EditRequest} {f : MenuForm}
    (h : editMenu col db req = .menuForm f) :
    ∃ menu own, f = renderMenuForm req menu (offeredPlats col db req.toSelectionCriteria) own ∧
      own ⊆ db.tables.plat ∧ own.map Plat.id = ownIds db req.id ∧
      (menu.id = if req.id ≠ 0 then some req.id else none) ∧
      (req.id ≠ 0 → db.HasMenu req.id) := by
  rw [editMenu] at h
  split_ifs at h with hid
  · split at h
    · rename_i m hm
      obtain ⟨hmem, hkey⟩ := (Sql.lookup_eq_some_iff db.valid.menu_pk).1 hm
      cases h
      refine ⟨_, db.platsOf m.id, rfl, fun p hp => (Db.mem_platsOf.1 hp).1, ?_, ?_,
        fun _ => ⟨m, hmem, hkey⟩⟩
      · rw [db.map_id_platsOf, ownIds, if_pos hid, hkey]
      · rw [if_pos hid, hkey]
    · exact absurd h (by simp)
  · cases h
    exact ⟨_, [], rfl, by simp, by rw [ownIds, if_neg hid]; rfl, by rw [if_neg hid],
      fun h => absurd h hid⟩

/-- The identifiers a form is rendered with: those offered, and those of the menu. -/
def renderedIds (col : Collation) (db : Db) (id : ℤ) (c : SelectionCriteria) : List ℤ :=
  (offeredPlats col db c).map Plat.id ++ ownIds db id

/-! ## Any number of clicks -/

namespace MenuForm

/-- The identifiers on a page never change. -/
theorem Inv.ids_perm {data : List ItemData} {f : MenuForm} (hf : f.Inv data) :
    (f.availableIds ++ f.selectedIds).Perm (data.map ItemData.id) := by
  have h := hf.perm.map ItemData.id
  rwa [List.map_map, List.map_append] at h

theorem Inv.totals {data : List ItemData} {f : MenuForm} (hf : f.Inv data) :
    f.hiddenPlatInputs = f.selectedIds ∧ f.totalPlats = f.selectedPlatsList.length ∧
      f.totalCalories = (f.selectedPlatsList.map fun x => x.data.calories.toInt).sum ∧
      f.totalLipides = (f.selectedPlatsList.map fun x => x.data.lipides.toInt).sum := by
  rw [List.sum_eq_foldl, List.sum_eq_foldl, List.foldl_map, List.foldl_map]
  have h := hf.updated
  exact ⟨(congrArg hiddenPlatInputs h).symm, (congrArg totalPlats h).symm,
    (congrArg totalCalories h).symm, (congrArg totalLipides h).symm⟩

/-- The button of an item tells which list it is in. -/
theorem Inv.onclick_iff {data : List ItemData} {f : MenuForm} (hf : f.Inv data) {x : Item}
    (hx : x ∈ f.availablePlatsList ∨ x ∈ f.selectedPlatsList) :
    x.button.onclick = .retirerPlat ↔ x ∈ f.selectedPlatsList := by
  refine ⟨fun h => hx.resolve_left fun hav => ?_, fun h => by rw [hf.selected_button x h]; rfl⟩
  rw [hf.available_button x hav] at h
  exact absurd h (by decide)

end MenuForm

/-- What is on the page `editMenu` renders. -/
theorem ids_editMenu {col : Collation} {db : Db} {req : EditRequest} {f : MenuForm}
    (h : editMenu col db req = .menuForm f) :
    ∃ data, f.Inv data ∧ (data.map ItemData.id).Nodup ∧
      (∀ k, k ∈ data.map ItemData.id ↔ k ∈ renderedIds col db req.id req.toSelectionCriteria) ∧
      (∀ d ∈ data, ∃ p ∈ db.tables.plat, d = .of p) ∧ f.selectedIds = ownIds db req.id := by
  obtain ⟨menu, own, rfl, hown, hids, -, -⟩ := editMenu_menuForm h
  have hinv := MenuForm.inv_render req menu (offeredPlats col db req.toSelectionCriteria) own
  have hperm := hinv.ids_perm
  have havail := MenuForm.availableIds_render req menu
    (offeredPlats col db req.toSelectionCriteria) own
  have hsel := MenuForm.selectedIds_render req menu
    (offeredPlats col db req.toSelectionCriteria) own
  rw [hids] at havail hsel
  rw [havail, hsel] at hperm
  refine ⟨_, hinv, hperm.nodup_iff.1 ?_, ?_, ?_, hsel⟩
  · refine ((nodup_offeredPlats col db _).filter _).append (nodup_ownIds db req.id) ?_
    intro k hk hown
    exact absurd hown (by simpa using (List.mem_filter.1 hk).2)
  · intro k
    rw [← hperm.mem_iff, renderedIds, List.mem_append, List.mem_append, List.mem_filter]
    by_cases hk : k ∈ ownIds db req.id <;> simp [hk]
  · intro d hd
    obtain ⟨x, hx, rfl⟩ := List.mem_map.1 hd
    obtain ⟨p, hp, hdata⟩ := MenuForm.data_render _ _ _ _ hx
    exact ⟨p, hp.elim (fun h => offeredPlats_subset col db _ h) fun h => hown h, hdata⟩

/-- **Any number of clicks.**  On the page `editMenu` renders, after any clicks on the buttons of
its items, the two lists hold no plat twice and no plat in common, together they hold the plats the
page was rendered with, each button is the one of the list its item is in, and the hidden inputs and
the totals are those of the selected list. -/
theorem menuForm_clicks {col : Collation} {db : Db} {req : EditRequest} {f : MenuForm}
    (h : editMenu col db req = .menuForm f) (clicks : List (MenuForm.Side × ℕ)) :
    let f' := Runs.run (fun f c => f.click c.1 c.2) f clicks
    (f'.availableIds.Nodup ∧ f'.selectedIds.Nodup ∧ f'.availableIds.Disjoint f'.selectedIds) ∧
    (∀ k, k ∈ f'.availableIds ∨ k ∈ f'.selectedIds ↔
      k ∈ (offeredPlats col db req.toSelectionCriteria).map Plat.id ∨ k ∈ ownIds db req.id) ∧
    (∀ x, x ∈ f'.availablePlatsList ∨ x ∈ f'.selectedPlatsList →
      ((x.button.onclick = .retirerPlat ↔ x ∈ f'.selectedPlatsList) ∧
        ∃ p ∈ db.tables.plat, x.data = .of p)) ∧
    f'.hiddenPlatInputs = f'.selectedIds ∧ f'.totalPlats = f'.selectedPlatsList.length ∧
    f'.totalCalories = (f'.selectedPlatsList.map fun x => x.data.calories.toInt).sum ∧
    f'.totalLipides = (f'.selectedPlatsList.map fun x => x.data.lipides.toInt).sum := by
  obtain ⟨data, hinv, hnd, hids, hdata, -⟩ := ids_editMenu h
  intro f'
  have hf' : f'.Inv data := hinv.clicks clicks
  have hperm := hf'.ids_perm
  refine ⟨?_, fun k => ?_, fun x hx => ⟨hf'.onclick_iff hx, ?_⟩, hf'.totals⟩
  · exact List.nodup_append'.1 (hperm.nodup_iff.2 hnd)
  · rw [← List.mem_append, hperm.mem_iff, hids, renderedIds, List.mem_append]
  · exact hdata x.data (hf'.perm.mem_iff.1 (List.mem_map_of_mem (List.mem_append.2 hx)))

theorem menuForm_clicks_carte :
    ∃ f, editMenu .codePoint carte { id := 1 } = .menuForm f ∧
      (Runs.run (fun f c => f.click c.1 c.2) f
        [(.available, 1), (.selected, 0)]).hiddenPlatInputs = [3] := by
  have h : ∃ f, editMenu .codePoint carte { id := 1 } = .menuForm f ∧
      (Runs.run (fun f c => f.click c.1 c.2) f
        [(.available, 1), (.selected, 0)]).selectedIds = [3] := ⟨_, rfl, by decide⟩
  obtain ⟨f, hf, hsel⟩ := h
  exact ⟨f, hf, (menuForm_clicks hf _).2.2.2.1.trans hsel⟩

/-! ## Filtering the plats on the page -/

/-- What a user does on the page: click the button of a plat, or submit the filter. -/
inductive FormStep where
  | clic (platId : ℤ)
  | filtrer (c : SelectionCriteria)

namespace MenuForm

/-- Where the item of a plat is on the page. -/
def position? (f : MenuForm) (platId : ℤ) : Option (Side × ℕ) :=
  match f.availablePlatsList.findIdx? fun x => x.data.id = platId with
  | some i => some (.available, i)
  | none => (f.selectedPlatsList.findIdx? fun x => x.data.id = platId).map fun i => (.selected, i)

/-- A click on the button of a plat, if it is on the page. -/
def clicPlat (f : MenuForm) (platId : ℤ) : MenuForm :=
  match f.position? platId with
  | some (side, i) => f.click side i
  | none => f

/-- The request the filter form of the page sends: the hidden fields, and the new criteria. -/
def filterRequest (f : MenuForm) (c : SelectionCriteria) : EditRequest :=
  { toSelectionCriteria := c
    id := f.menu.id.getD 0
    page := f.page
    size := f.size
    filtre := f.filtre }

/-- A step on the page.  The filter replaces the page by what `GET /edit` answers with. -/
def step (col : Collation) (db : Db) (f : MenuForm) : FormStep → MenuForm
  | .clic platId => f.clicPlat platId
  | .filtrer c =>
    match editMenu col db (f.filterRequest c) with
    | .menuForm f' => f'
    | .redirect _ => f

theorem position?_available {f : MenuForm} {p : ℤ} {i : ℕ}
    (h : f.position? p = some (.available, i)) :
    ∃ x, f.availablePlatsList[i]? = some x ∧ x.data.id = p := by
  rw [position?] at h
  split at h
  · rename_i j hj
    obtain ⟨hlt, hp, -⟩ := List.findIdx?_eq_some_iff_getElem.1 hj
    cases h
    exact ⟨_, List.getElem?_eq_getElem hlt, by simpa using hp⟩
  · simp at h

theorem position?_selected {f : MenuForm} {p : ℤ} {i : ℕ}
    (h : f.position? p = some (.selected, i)) :
    ∃ x, f.selectedPlatsList[i]? = some x ∧ x.data.id = p := by
  rw [position?] at h
  split at h
  · simp at h
  · obtain ⟨j, hj, he⟩ := Option.map_eq_some_iff.1 h
    obtain ⟨hlt, hp, -⟩ := List.findIdx?_eq_some_iff_getElem.1 hj
    cases he
    exact ⟨_, List.getElem?_eq_getElem hlt, by simpa using hp⟩

theorem position?_eq_none {f : MenuForm} {p : ℤ} (h : f.position? p = none) :
    p ∉ f.availableIds ++ f.selectedIds := by
  rw [position?] at h
  split at h
  · simp at h
  · rename_i h₁
    rw [Option.map_eq_none_iff, List.findIdx?_eq_none_iff] at h
    rw [List.findIdx?_eq_none_iff] at h₁
    intro hp
    rcases List.mem_append.1 hp with hp | hp
    · obtain ⟨x, hx, he⟩ := List.mem_map.1 hp
      simpa [he] using h₁ x hx
    · obtain ⟨x, hx, he⟩ := List.mem_map.1 hp
      simpa [he] using h x hx

theorem Inv.clicPlat {data : List ItemData} {f : MenuForm} (hf : f.Inv data) (p : ℤ) :
    (f.clicPlat p).Inv data := by
  rw [MenuForm.clicPlat]
  split
  · exact hf.click _ _
  · exact hf

/-- A click does not touch the fields of the form. -/
theorem menu_click (f : MenuForm) (side : Side) (i : ℕ) : (f.click side i).menu = f.menu := by
  rw [click]
  split
  · rfl
  · split <;> cases side <;> rfl

theorem menu_clicPlat (f : MenuForm) (p : ℤ) : (f.clicPlat p).menu = f.menu := by
  rw [clicPlat]
  split
  · exact f.menu_click _ _
  · rfl

/-- An item that is added comes last. -/
theorem Inv.selectedIds_click_available {data : List ItemData} {f : MenuForm} (hf : f.Inv data)
    {i : ℕ} {x : Item} (hx : f.availablePlatsList[i]? = some x) :
    (f.click .available i).selectedIds = f.selectedIds ++ [x.data.id] := by
  obtain ⟨hnone, -⟩ | ⟨y, -, hy, h⟩ | ⟨y, hside, -⟩ := hf.click_cases .available i
  · rw [items, hx] at hnone
    exact absurd hnone (by simp)
  · rw [hx, Option.some_inj] at hy
    subst hy
    rw [h]
    simp [selectedIds, updateTotals, updateHiddenInputs]
  · exact absurd hside (by simp)

theorem Inv.selectedIds_click_selected {data : List ItemData} {f : MenuForm} (hf : f.Inv data)
    {i : ℕ} {x : Item} (hx : f.selectedPlatsList[i]? = some x) :
    (f.click .selected i).selectedIds =
      (f.selectedPlatsList.eraseIdx i).map fun x => x.data.id := by
  obtain ⟨hnone, -⟩ | ⟨y, hside, -⟩ | ⟨y, -, hy, h⟩ := hf.click_cases .selected i
  · rw [items, hx] at hnone
    exact absurd hnone (by simp)
  · exact absurd hside (by simp)
  · rw [h]
    rfl

/-- **A click changes sides**, for its plat and for no other. -/
theorem Inv.mem_clicPlat_iff {data : List ItemData} {f : MenuForm} (hf : f.Inv data)
    (hnd : (data.map ItemData.id).Nodup) {p : ℤ} (hp : p ∈ data.map ItemData.id) (k : ℤ) :
    k ∈ (f.clicPlat p).selectedIds ↔ if k = p then k ∉ f.selectedIds else k ∈ f.selectedIds := by
  have hids := hf.ids_perm.nodup_iff.2 hnd
  cases hpos : f.position? p with
  | none => exact absurd (hf.ids_perm.mem_iff.2 hp) (position?_eq_none hpos)
  | some loc =>
    obtain ⟨side, i⟩ := loc
    have hclic : f.clicPlat p = f.click side i := by rw [MenuForm.clicPlat, hpos]
    cases side with
    | available =>
      obtain ⟨x, hx, rfl⟩ := position?_available hpos
      have hno : x.data.id ∉ f.selectedIds :=
        (List.nodup_append'.1 hids).2.2 (List.mem_map_of_mem (List.mem_of_getElem? hx))
      rw [hclic, hf.selectedIds_click_available hx, List.mem_append, List.mem_singleton]
      by_cases hk : k = x.data.id
      · simp [hk, hno]
      · simp [hk]
    | selected =>
      obtain ⟨x, hx, rfl⟩ := position?_selected hpos
      have hperm : f.selectedIds.Perm
          (x.data.id :: (f.selectedPlatsList.eraseIdx i).map fun x => x.data.id) := by
        have h := (map_data_perm_of_getElem? hx).map ItemData.id
        rwa [List.map_map, List.map_cons, List.map_map] at h
      have hnd' := List.nodup_cons.1 (hperm.nodup_iff.1 (List.nodup_append'.1 hids).2.1)
      rw [hclic, hf.selectedIds_click_selected hx, hperm.mem_iff, List.mem_cons]
      by_cases hk : k = x.data.id
      · simpa [hk] using hnd'.1
      · simp [hk]

/-- A click on a plat that is not on the page does nothing. -/
theorem Inv.clicPlat_of_not_mem {data : List ItemData} {f : MenuForm} (hf : f.Inv data) {p : ℤ}
    (hp : p ∉ data.map ItemData.id) : f.clicPlat p = f := by
  rw [MenuForm.clicPlat]
  cases hpos : f.position? p with
  | none => rfl
  | some loc =>
    refine absurd (hf.ids_perm.mem_iff.1 ?_) hp
    obtain ⟨side, i⟩ := loc
    cases side with
    | available =>
      obtain ⟨x, hx, rfl⟩ := position?_available hpos
      exact List.mem_append_left _ (List.mem_map_of_mem (List.mem_of_getElem? hx))
    | selected =>
      obtain ⟨x, hx, rfl⟩ := position?_selected hpos
      exact List.mem_append_right _ (List.mem_map_of_mem (List.mem_of_getElem? hx))

end MenuForm

/-- The criteria the page was last loaded with, and the clicks since then. -/
def sinceLoad (c : SelectionCriteria) (steps : List FormStep) : SelectionCriteria × List ℤ :=
  Runs.run (fun s e =>
    match e with
    | .clic p => (s.1, s.2 ++ [p])
    | .filtrer c => (c, [])) (c, []) steps

/-- What the page is after some steps: it was rendered for the menu `id` with some criteria, and a
plat of the menu is selected unless it was clicked an odd number of times since. -/
structure Tracks (col : Collation) (db : Db) (id : ℤ) (since : SelectionCriteria × List ℤ)
    (f : MenuForm) : Prop where
  menu_id : f.menu.id.getD 0 = id
  page : ∃ data, f.Inv data ∧ (data.map ItemData.id).Nodup ∧
    ∀ k, k ∈ data.map ItemData.id ↔ k ∈ renderedIds col db id since.1
  selected_iff : ∀ p ∈ renderedIds col db id since.1,
    (p ∈ f.selectedIds ↔ (p ∈ ownIds db id ↔ Even (since.2.count p)))

section Filter

variable {col : Collation} {db : Db}

/-- A freshly loaded page. -/
theorem Tracks.of_editMenu {req : EditRequest} {f : MenuForm}
    (h : editMenu col db req = .menuForm f) :
    Tracks col db req.id (req.toSelectionCriteria, []) f := by
  obtain ⟨data, hinv, hnd, hids, -, hsel⟩ := ids_editMenu h
  obtain ⟨menu, own, rfl, -, -, hid, -⟩ := editMenu_menuForm h
  refine ⟨?_, ⟨data, hinv, hnd, hids⟩, fun p _ => by rw [hsel]; simp⟩
  have hmenu : (renderMenuForm req menu (offeredPlats col db req.toSelectionCriteria) own).menu =
      menu := rfl
  rw [hmenu, hid]
  split
  · rfl
  · rename_i h0
    exact (not_not.1 h0).symm

/-- The filter finds the menu it was opened for. -/
theorem exists_editMenu (col : Collation) {db : Db} (req : EditRequest)
    (h : req.id ≠ 0 → db.HasMenu req.id) : ∃ f, editMenu col db req = .menuForm f := by
  rw [editMenu]
  split_ifs with hid
  · obtain ⟨m, hm⟩ := h hid
    rw [(Sql.lookup_eq_some_iff db.valid.menu_pk).2 hm]
    exact ⟨_, rfl⟩
  · exact ⟨_, rfl⟩

/-- A filter step reloads the page. -/
theorem Tracks.filtrer {id : ℤ} {since : SelectionCriteria × List ℤ} {f : MenuForm}
    (hf : Tracks col db id since f) (hmenu : id ≠ 0 → db.HasMenu id) (c : SelectionCriteria) :
    Tracks col db id (c, []) (f.step col db (.filtrer c)) ∧
      (f.step col db (.filtrer c)).selectedIds = ownIds db id := by
  have hid : (f.filterRequest c).id = id := hf.menu_id
  obtain ⟨f', h'⟩ := exists_editMenu col (f.filterRequest c) (hid ▸ hmenu)
  have hstep : f.step col db (.filtrer c) = f' := by rw [MenuForm.step, h']
  obtain ⟨-, -, -, -, -, hsel⟩ := ids_editMenu h'
  rw [hstep]
  exact ⟨hid ▸ Tracks.of_editMenu h', hid ▸ hsel⟩

/-- A click is one more click. -/
theorem Tracks.clic {id : ℤ} {since : SelectionCriteria × List ℤ} {f : MenuForm}
    (hf : Tracks col db id since f) (p : ℤ) :
    Tracks col db id (since.1, since.2 ++ [p]) (f.step col db (.clic p)) := by
  obtain ⟨data, hinv, hnd, hids⟩ := hf.page
  refine ⟨?_, ⟨data, hinv.clicPlat p, hnd, hids⟩, ?_⟩
  · rw [MenuForm.step, MenuForm.menu_clicPlat]
    exact hf.menu_id
  · intro q hq
    rw [MenuForm.step, List.count_append]
    by_cases hp : p ∈ data.map ItemData.id
    · rw [hinv.mem_clicPlat_iff hnd hp, hf.selected_iff q hq]
      by_cases hqp : q = p
      · subst hqp
        rw [if_pos rfl, List.count_singleton_self, Nat.even_add_one]
        tauto
      · rw [if_neg hqp, List.count_singleton, if_neg (by simpa using Ne.symm hqp), Nat.add_zero]
    · have hqp : p ≠ q := fun he => hp (he ▸ (hids q).2 hq)
      rw [hinv.clicPlat_of_not_mem hp, hf.selected_iff q hq, List.count_singleton,
        if_neg (by simpa using hqp), Nat.add_zero]

/-- **The page after any number of steps.** -/
theorem Tracks.run {id : ℤ} {c : SelectionCriteria} {f : MenuForm}
    (hf : Tracks col db id (c, []) f) (hmenu : id ≠ 0 → db.HasMenu id) (steps : List FormStep) :
    Tracks col db id (sinceLoad c steps) (Runs.run (MenuForm.step col db) f steps) := by
  refine Runs.run_induction (P := fun steps f => Tracks col db id (sinceLoad c steps) f) hf
    (fun steps e ih => ?_) steps
  rw [sinceLoad, Runs.run_concat]
  cases e with
  | clic p => exact ih.clic p
  | filtrer c' => exact (ih.filtrer hmenu c').1

/-- One filter step leaves the selection alone exactly when every plat on the page was clicked an
even number of times since the page was loaded. -/
theorem Tracks.filtrer_keeps_iff {id : ℤ} {since : SelectionCriteria × List ℤ} {f : MenuForm}
    (hf : Tracks col db id since f) (hmenu : id ≠ 0 → db.HasMenu id) (c : SelectionCriteria) :
    (∀ k, k ∈ (f.step col db (.filtrer c)).selectedIds ↔ k ∈ f.selectedIds) ↔
      ∀ p ∈ renderedIds col db id since.1, Even (since.2.count p) := by
  rw [(hf.filtrer hmenu c).2]
  refine ⟨?_, ?_⟩
  · intro h p hp
    have hsel := hf.selected_iff p hp
    rw [← h p] at hsel
    tauto
  · intro h k
    by_cases hk : k ∈ renderedIds col db id since.1
    · have hsel := hf.selected_iff k hk
      have heven := h k hk
      tauto
    · -- a plat that is not on the page is in neither selection
      obtain ⟨data, hinv, -, hids⟩ := hf.page
      have hno : k ∉ f.selectedIds := fun hmem =>
        hk ((hids k).1 (hinv.ids_perm.mem_iff.1 (List.mem_append_right _ hmem)))
      exact ⟨fun hown => absurd (List.mem_append_right _ hown) hk, fun hmem => absurd hmem hno⟩

/-- **Filtering the plats of the form.**  Over any sequence of clicks and filter steps on the page
of a menu, new or stored, every filter step leaves the selection alone if and only if, before each
of them, every plat on the page has been clicked an even number of times since the page was last
loaded. -/
theorem filter_keeps_selection_iff {req : EditRequest} {f : MenuForm}
    (h : editMenu col db req = .menuForm f) (steps : List FormStep) :
    (∀ a c b, steps = a ++ .filtrer c :: b → ∀ k,
      k ∈ (Runs.run (MenuForm.step col db) f (a ++ [.filtrer c])).selectedIds ↔
        k ∈ (Runs.run (MenuForm.step col db) f a).selectedIds) ↔
    (∀ a c b, steps = a ++ .filtrer c :: b →
      ∀ p ∈ renderedIds col db req.id (sinceLoad req.toSelectionCriteria a).1,
        Even ((sinceLoad req.toSelectionCriteria a).2.count p)) := by
  obtain ⟨-, -, -, -, -, -, hmenu⟩ := editMenu_menuForm h
  refine forall_congr' fun a => forall_congr' fun c => forall_congr' fun b => ?_
  refine imp_congr_right ?_
  intro _
  rw [Runs.run_concat]
  exact ((Tracks.of_editMenu h).run hmenu a).filtrer_keeps_iff hmenu c

end Filter

/-- A plat is added and taken away again, and then the plats are filtered: the selection is kept. -/
theorem filter_keeps_selection_iff_carte :
    ∃ f, editMenu .codePoint carte { id := 1 } = .menuForm f ∧
      ∀ k, k ∈ (Runs.run (MenuForm.step .codePoint carte) f
          [.clic 2, .clic 2, .filtrer { maxCalories := some 300 }]).selectedIds ↔
        k ∈ (Runs.run (MenuForm.step .codePoint carte) f [.clic 2, .clic 2]).selectedIds := by
  obtain ⟨f, hf⟩ := exists_editMenu .codePoint { id := 1 } fun _ => show carte.HasMenu 1 by decide
  refine ⟨f, hf, (filter_keeps_selection_iff hf
    [.clic 2, .clic 2, .filtrer { maxCalories := some 300 }]).2 ?_ [.clic 2, .clic 2] _ [] rfl⟩
  intro a c b hab
  -- the only filter is behind both clicks
  obtain rfl : a = [.clic 2, .clic 2] := by
    match a, hab with
    | [_, _], hab =>
      simp only [List.cons_append, List.cons.injEq] at hab
      rw [← hab.1, ← hab.2.1]
    | _ :: _ :: _ :: _, hab => simp at hab
  show ∀ p ∈ renderedIds .codePoint carte 1 {}, Even ([2, 2].count p)
  decide

/-- A new menu: one plat is added, then the available plats are filtered, and it is gone. -/
theorem not_filter_keeps_selection_carte :
    ∃ f, editMenu .codePoint carte {} = .menuForm f ∧
      (Runs.run (MenuForm.step .codePoint carte) f [.clic 2]).selectedIds = [2] ∧
      (Runs.run (MenuForm.step .codePoint carte) f
        [.clic 2, .filtrer { maxCalories := some 300 }]).selectedIds = [] :=
  ⟨_, rfl, by decide, by decide⟩

end GestionMenus
