import Mathlib.Algebra.BigOperators.Group.List.Basic
import GestionMenus.Store.Search
import GestionMenus.Web.PlatForm
import GestionMenus.Web.Sessions

/-!
# The detail pages

`MenuController.showMenuDetail` with `menuDetail.html`, and `PlatController.showPlatDetail` with
`platDetail.html`.

* `MenuDetail` and `PlatDetail` are the pages; the four totals of a menu are those of
  `Menu.getTotalCalories` and its siblings, in `int` arithmetic.
* `showMenuDetail` and `showPlatDetail` are the controllers.  A row that is not found leads to the
  first page of the listing.

The totals of a menu are shown in three places: on this page and in the list of the menus, computed
on the server in 32 bits, and on the form, added up in the browser.  `detail_of_saved` follows a
menu from the form to its page; `totals_agree_iff` says when the form and the page show the same.
-/

set_option autoImplicit false

namespace GestionMenus

open Double

/-- The parameters of `GET /menuDetail/{id}`. -/
structure MenuDetailRequest where
  id : ℤ
  page : ℤ := 0
  size : ℤ := 5
  filtre : String := ""
  deriving DecidableEq

/-- `menuDetail.html`. -/
structure MenuDetail where
  menu : Menu
  /-- `menu.plats`. -/
  plats : List Plat
  page : ℤ
  size : ℤ
  filtre : String

/-- What `showMenuDetail` answers with. -/
inductive MenuDetailResponse where
  | menuDetail (d : MenuDetail)
  | redirect (req : MenusRequest)

/-- `MenuController.showMenuDetail`. -/
def showMenuDetail (db : Db) (req : MenuDetailRequest) : MenuDetailResponse :=
  match Sql.lookup Menu.id req.id db.tables.menu with
  | some m =>
    .menuDetail
      { menu := m
        plats := db.platsOf m.id
        page := req.page
        size := req.size
        filtre := req.filtre }
  | none => .redirect {}

/-- The parameters of `GET /platDetail/{id}`. -/
structure PlatDetailRequest where
  id : ℤ
  page : ℤ := 0
  size : ℤ := 10
  motCle : String := ""
  deriving DecidableEq

/-- `platDetail.html`. -/
structure PlatDetail where
  plat : Plat
  /-- `plat.categorie.nom`. -/
  categorieNom : Option String
  page : ℤ
  size : ℤ
  motCle : String

/-- What `showPlatDetail` answers with. -/
inductive PlatDetailResponse where
  | platDetail (d : PlatDetail)
  | redirect (req : PlatsRequest)

/-- `PlatController.showPlatDetail`. -/
def showPlatDetail (db : Db) (req : PlatDetailRequest) : PlatDetailResponse :=
  match Sql.lookup Plat.id req.id db.tables.plat with
  | some p =>
    .platDetail
      { plat := p
        categorieNom := db.categorieNom p
        page := req.page
        size := req.size
        motCle := req.motCle }
  | none => .redirect {}

/-- **What `GET /menuDetail/{id}` shows of a stored menu.** -/
theorem showMenuDetail_stored {db : Db} {m : Menu} (hm : m ∈ db.tables.menu)
    {req : MenuDetailRequest} (hreq : req.id = m.id) :
    showMenuDetail db req = .menuDetail
      { menu := m, plats := db.platsOf m.id, page := req.page, size := req.size,
        filtre := req.filtre } := by
  rw [showMenuDetail, (Sql.lookup_eq_some_iff db.valid.menu_pk).2 ⟨hm, hreq.symm⟩]

/-- **What `GET /platDetail/{id}` shows of a stored plat.** -/
theorem showPlatDetail_stored {db : Db} {p : Plat} (hp : p ∈ db.tables.plat)
    {req : PlatDetailRequest} (hreq : req.id = p.id) :
    showPlatDetail db req = .platDetail
      { plat := p, categorieNom := db.categorieNom p, page := req.page, size := req.size,
        motCle := req.motCle } := by
  rw [showPlatDetail, (Sql.lookup_eq_some_iff db.valid.plat_pk).2 ⟨hp, hreq.symm⟩]

/-! ## The selected items and the plats of a menu -/

section Totals

variable {db : Db} {data : List ItemData} {f : MenuForm} {ps : List Plat}

/-- The items selected on a form are the plats with their identifiers. -/
theorem MenuForm.Inv.data_perm (hf : f.Inv data) (hnd : (data.map ItemData.id).Nodup)
    (hdata : ∀ d ∈ data, ∃ p ∈ db.tables.plat, d = .of p) (hps : ps ⊆ db.tables.plat)
    (hpsnd : (ps.map Plat.id).Nodup) (hids : ∀ k, k ∈ ps.map Plat.id ↔ k ∈ f.selectedIds) :
    (f.selectedPlatsList.map Item.data).Perm (ps.map ItemData.of) := by
  have hselnd : (f.selectedPlatsList.map Item.data).Nodup := by
    refine List.Nodup.of_map ItemData.id ?_
    rw [List.map_map]
    exact (List.nodup_append'.1 (hf.ids_perm.nodup_iff.2 hnd)).2.1
  have hofnd : (ps.map ItemData.of).Nodup := by
    refine List.Nodup.of_map ItemData.id ?_
    rw [List.map_map]
    exact hpsnd
  have hrow : ∀ x ∈ f.selectedPlatsList, ∃ p ∈ db.tables.plat, x.data = .of p := fun x hx =>
    hdata _ (hf.perm.mem_iff.1 (List.mem_map_of_mem (List.mem_append_right _ hx)))
  refine (List.perm_ext_iff_of_nodup hselnd hofnd).2 ?_
  intro d
  rw [List.mem_map, List.mem_map]
  refine ⟨?_, ?_⟩
  · rintro ⟨x, hx, rfl⟩
    obtain ⟨p, hp, hxp⟩ := hrow x hx
    obtain ⟨q, hq, hqid⟩ := List.mem_map.1 ((hids _).2 (List.mem_map_of_mem hx))
    rw [hxp] at hqid ⊢
    exact ⟨q, hq, by rw [List.inj_on_of_nodup_map db.valid.plat_pk (hps hq) hp hqid]⟩
  · rintro ⟨q, hq, rfl⟩
    obtain ⟨x, hx, hxid⟩ := List.mem_map.1 ((hids _).1 (List.mem_map_of_mem hq))
    obtain ⟨p, hp, hxp⟩ := hrow x hx
    rw [hxp] at hxid
    exact ⟨x, hx, hxp.trans (by rw [List.inj_on_of_nodup_map db.valid.plat_pk hp (hps hq) hxid])⟩

/-- The totals of the form are the sums of the columns. -/
theorem MenuForm.Inv.totals_eq (hf : f.Inv data)
    (hperm : (f.selectedPlatsList.map Item.data).Perm (ps.map ItemData.of)) :
    f.totalPlats = ps.length ∧
      f.totalCalories = (ps.map fun p => p.nbCalories.toInt).sum ∧
      f.totalLipides = (ps.map fun p => p.nbLipides.toInt).sum := by
  obtain ⟨-, hplats, hcalories, hlipides⟩ := hf.totals
  have hsum : ∀ field : ItemData → Int32,
      (f.selectedPlatsList.map fun x => (field x.data).toInt).sum =
        (ps.map fun p => (field (.of p)).toInt).sum := by
    intro field
    have h := (hperm.map fun d => (field d).toInt).sum_eq
    rwa [List.map_map, List.map_map] at h
  refine ⟨?_, hcalories.trans (hsum ItemData.calories), hlipides.trans (hsum ItemData.lipides)⟩
  rw [hplats, ← List.length_map (f := Item.data), hperm.length_eq, List.length_map]

end Totals

/-- A total shown on the server is the exact sum as long as that fits an `int`. -/
theorem toInt_getTotal_eq_iff {field : Plat → Int32} {ps : List Plat}
    (hpos : ∀ p ∈ ps, 0 ≤ (field p).toInt) :
    (getTotal field ps).toInt = (ps.map fun p => (field p).toInt).sum ↔
      (ps.map fun p => (field p).toInt).sum < 2 ^ 31 := by
  rw [toInt_getTotal]
  have hsum : 0 ≤ (ps.map fun p => (field p).toInt).sum := by
    refine List.sum_nonneg ?_
    intro x hx
    obtain ⟨p, hp, rfl⟩ := List.mem_map.1 hx
    exact hpos p hp
  generalize (ps.map fun p => (field p).toInt).sum = n at hsum
  refine ⟨fun h => ?_, fun h => Int.bmod_eq_of_le (by omega) (by omega)⟩
  have hlt := Int.bmod_lt (x := n) (m := 2 ^ 32) (by decide)
  rw [h] at hlt
  omega

/-! ## From the form to the page -/

/-- The parameters of the hidden fields are read as their list. -/
theorem MenuInput.request_platIds (i : MenuInput) : i.request.platIds.getD [] = i.platIds := by
  by_cases h : i.platIds = [] <;> simp [request, h]

/-- **A saved menu is shown as it was composed.**  Any form, clicked on, filled in and submitted
with nothing in between: the page of the menu shows the submitted fields, the price as a `double`,
and the selected plats; it counts as many plats as the form did, and its calories and its fat are
the totals of the form, wrapped around into an `int`. -/
theorem detail_of_saved (col : Collation) (db db' : Db) (req : EditRequest) (f : MenuForm)
    (hf : editMenu col db req = .menuForm f) (e : Edit) (r : MenusRequest)
    (hsave : saveMenu db (e.request f) = .ok (db', r)) (dreq : MenuDetailRequest)
    (hdreq : dreq.id = r.id) :
    ∃ d, showMenuDetail db' dreq = .menuDetail d ∧
      d.menu = ⟨r.id, some (submittedText e.description), some e.nom, toDouble e.prix⟩ ∧
      (d.plats.map Plat.id).Perm (e.apply f).selectedIds ∧
      d.plats.length = (e.apply f).totalPlats ∧
      (getTotalCalories d.plats).toInt = (e.apply f).totalCalories.bmod (2 ^ 32) ∧
      (getTotalLipides d.plats).toInt = (e.apply f).totalLipides.bmod (2 ^ 32) := by
  obtain ⟨data, hinv, hnd, -, hdata, -⟩ := ids_editMenu hf
  have hclicked : (e.apply f).Inv data := hinv.clicks e.clicks
  obtain ⟨⟨ids, hids, hsaved⟩, -⟩ := saveMenu_ok hsave
  have hrow := hsaved.row_mem
  rw [e.request_menu] at hrow
  have hsubmitted : (e.request f).platIds.getD [] = (e.apply f).selectedIds := by
    rw [Edit.request, MenuInput.request_platIds, ← hclicked.totals.1]
    rfl
  -- the selected plats are stored, so that the lookups find them all
  have hmem : ∀ k, k ∈ (db'.platsOf r.id).map Plat.id ↔ k ∈ (e.apply f).selectedIds := by
    intro k
    rw [db'.map_id_platsOf, db'.mem_platIdsOf, hsaved.mem_menuPlat, hids, hsubmitted]
    have hplat : k ∈ (e.apply f).selectedIds → db.HasPlat k := by
      intro hk
      obtain ⟨x, hx, rfl⟩ := List.mem_map.1 hk
      obtain ⟨p, hp, hxp⟩ := hdata _ (hclicked.perm.mem_iff.1
        (List.mem_map_of_mem (List.mem_append_right _ hx)))
      exact ⟨p, hp, by rw [hxp]; rfl⟩
    simpa using hplat
  have hnodup : ((db'.platsOf r.id).map Plat.id).Nodup := by
    rw [db'.map_id_platsOf]
    exact db'.nodup_platIdsOf r.id
  have hsub : db'.platsOf r.id ⊆ db.tables.plat := fun p hp =>
    hsaved.plat_eq ▸ (Db.mem_platsOf.1 hp).1
  have hperm := hclicked.data_perm hnd hdata hsub hnodup hmem
  obtain ⟨hplats, hcalories, hlipides⟩ := hclicked.totals_eq hperm
  refine ⟨_, showMenuDetail_stored hrow hdreq, rfl, ?_, hplats.symm, ?_, ?_⟩
  · refine (List.perm_ext_iff_of_nodup hnodup ?_).2 hmem
    exact (List.nodup_append'.1 (hclicked.ids_perm.nodup_iff.2 hnd)).2.1
  · rw [hcalories]
    exact toInt_getTotal Plat.nbCalories _
  · rw [hlipides]
    exact toInt_getTotal Plat.nbLipides _

/-- A plat added to a menu of the card, its new name and price: the page of the menu. -/
theorem detail_of_saved_carte :
    ∃ f db' r d, editMenu .codePoint carte { id := 1 } = .menuForm f ∧
      saveMenu carte (Edit.request ⟨[(.available, 1)], "Midi plus", "", 12⟩ f) = .ok (db', r) ∧
      showMenuDetail db' { id := r.id } = .menuDetail d ∧
      d.menu = ⟨1, some "", some "Midi plus", 12⟩ ∧ d.plats.length = 2 := by
  have hmidi : ⟨1, some "", some "Midi", 10⟩ ∈ carte.tables.menu := by decide
  obtain ⟨f, hf, hmenu, -⟩ := editMenu_stored .codePoint hmidi
    (rfl : ({ id := 1 } : EditRequest).id = 1)
  have htotal : (Edit.apply ⟨[(.available, 1)], "Midi plus", "", 12⟩ f).totalPlats = 2 := by
    cases hf
    decide
  have hrequest := Edit.request_menu ⟨[(.available, 1)], "Midi plus", "", 12⟩ f
  rw [hmenu] at hrequest
  obtain ⟨db', r, hsave⟩ : ∃ db' r,
      saveMenu carte (Edit.request ⟨[(.available, 1)], "Midi plus", "", 12⟩ f) = .ok (db', r) :=
    exists_saveMenu (by rw [hrequest]; decide) (by rw [hrequest]; decide +kernel)
  obtain ⟨⟨ids, -, hsaved⟩, -⟩ := saveMenu_ok hsave
  have hid : r.id = 1 := by rw [hsaved.id_eq, hrequest]; rfl
  obtain ⟨d, hd, hmenu, -, hplats, -, -⟩ :=
    detail_of_saved .codePoint carte db' { id := 1 } f hf _ r hsave { id := r.id } rfl
  refine ⟨f, db', r, d, hf, hsave, hd, ?_, ?_⟩
  · rw [hmenu, hid]
    decide +kernel
  · exact_mod_cast hplats.trans htotal

/-- **When the form and the page of a menu show the same totals.**  The numbers of plats are always
the same; the calories are exactly when those of the form fit an `int`, and so is the fat. -/
theorem totals_agree_iff (col : Collation) (db : Db) (m : Menu) (hm : m ∈ db.tables.menu)
    (req : EditRequest) (hreq : req.id = m.id) (dreq : MenuDetailRequest) (hdreq : dreq.id = m.id) :
    ∃ f d, editMenu col db req = .menuForm f ∧ showMenuDetail db dreq = .menuDetail d ∧
      f.totalPlats = d.plats.length ∧
      ((getTotalCalories d.plats).toInt = f.totalCalories ↔ f.totalCalories < 2 ^ 31) ∧
      ((getTotalLipides d.plats).toInt = f.totalLipides ↔ f.totalLipides < 2 ^ 31) := by
  obtain ⟨f, hf, -, hhidden⟩ := editMenu_stored col hm hreq
  obtain ⟨data, hinv, hnd, -, hdata, -⟩ := ids_editMenu hf
  have hids : (db.platsOf m.id).map Plat.id = f.selectedIds := by
    rw [db.map_id_platsOf, ← hhidden, hinv.totals.1]
  have hsub : db.platsOf m.id ⊆ db.tables.plat := fun p hp => (Db.mem_platsOf.1 hp).1
  have hnodup : ((db.platsOf m.id).map Plat.id).Nodup := by
    rw [db.map_id_platsOf]
    exact db.nodup_platIdsOf m.id
  have hperm := hinv.data_perm hnd hdata hsub hnodup fun k => by rw [hids]
  obtain ⟨hplats, hcalories, hlipides⟩ := hinv.totals_eq hperm
  have hcheck : ∀ p ∈ db.platsOf m.id, checkPlat p = .ok () := fun p hp =>
    db.valid.plat_check p (hsub hp)
  refine ⟨f, _, hf, showMenuDetail_stored hm hdreq, hplats, ?_, ?_⟩
  · rw [hcalories]
    refine toInt_getTotal_eq_iff ?_
    intro p hp
    exact Int32.le_iff_toInt_le.1 ((checkPlat_ok_iff p).1 (hcheck p hp)).1
  · rw [hlipides]
    refine toInt_getTotal_eq_iff ?_
    intro p hp
    exact Int32.le_iff_toInt_le.1 ((checkPlat_ok_iff p).1 (hcheck p hp)).2.2.1

/-- The third menu of the card has 500 calories and 25 g of fat, on the form as on its page. -/
theorem totals_agree_carte :
    ∃ f d, editMenu .codePoint carte { id := 3 } = .menuForm f ∧
      showMenuDetail carte { id := 3 } = .menuDetail d ∧ f.totalPlats = d.plats.length ∧
      (getTotalCalories d.plats).toInt = f.totalCalories ∧
      (getTotalLipides d.plats).toInt = f.totalLipides := by
  obtain ⟨f, d, hf, hd, hplats, hcalories, hlipides⟩ := totals_agree_iff .codePoint carte
    ⟨3, some "", some "Fete", 30⟩ (by decide) { id := 3 } rfl { id := 3 } rfl
  have hsmall : f.totalCalories < 2 ^ 31 ∧ f.totalLipides < 2 ^ 31 := by
    cases hf
    decide
  exact ⟨f, d, hf, hd, hplats, hcalories.2 hsmall.1, hlipides.2 hsmall.2⟩

end GestionMenus
