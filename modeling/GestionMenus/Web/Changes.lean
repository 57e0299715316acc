import Mathlib.Data.Finset.Insert
import GestionMenus.Web.Resend

/-!
# The cards a user can make

`Store.Card` says what the application is for; this file says what a user can make of it.

* `CardState` is the card, with the identifiers the next menu and the next plat get.
* `Change` is a change of one menu or one plat, `Change.apply` what it makes of the card, and
  `Change.Allowed` when there is nothing against it: the fields meet the constraints of the forms
  and fit their columns, the plats of a menu are on the card, and a plat is not deleted from under
  a menu.

`cards_reached_iff` says that these are the changes of a user alone on the site: from every page of
every visit, with the links and forms of the pages, the user can make the cards that a sequence of
allowed changes leads to, and no others.
-/

set_option autoImplicit false

namespace GestionMenus

open Runs Memory Double

/-! ## The changes of the card -/

/-- The card, and the identifiers of the next menu and of the next plat. -/
@[ext] structure CardState where
  menus : ℤ → Option StoredMenu
  plats : ℤ → Option Plat
  categories : ℤ → Option Categorie
  menuSeq : ℤ
  platSeq : ℤ

def Db.cardState (db : Db) : CardState :=
  ⟨db.card.menus, db.card.plats, db.card.categories, db.menuSeq, db.platSeq⟩

/-- What can be typed into the fields: a text field has one line, and a number field takes a
decimal. -/
structure Saisie where
  noms : Set String
  descriptions : Set String
  prix : Set ℚ

/-- The constraints on a name, in both forms. -/
structure Saisie.Nom (t : Saisie) (nom : String) : Prop where
  typed : nom ∈ t.noms
  minlength : 3 ≤ utf16Length nom
  maxlength : utf16Length nom ≤ 100

/-- The constraints on the fields of `menuForm.html`. -/
structure Saisie.Fields (t : Saisie) (nom description : String) (prix : ℚ) : Prop where
  nom : t.Nom nom
  description_typed : description ∈ t.descriptions
  description_maxlength : utf16Length description ≤ 500
  prix_typed : prix ∈ t.prix
  prix_min : 1 ≤ prix
  prix_finite : toDouble prix < 2 ^ 1024

/-- A change of the card.  A menu or a plat without identifier is a new one. -/
inductive Change where
  | menu (id : Option ℤ) (nom description : String) (prix : ℚ) (plats : Finset ℤ)
  | plat (id : Option ℤ) (nom : String) (categorie : ℤ)
      (nbCalories nbGlucides nbLipides nbProteines : Int32)
  | supprimerMenu (id : ℤ)
  | supprimerPlat (id : ℤ)

/-- The card after a change.  The price of a menu is the `double` of what was typed. -/
def Change.apply (c : CardState) : Change → CardState
  | .menu id nom description prix plats =>
    let k := id.getD c.menuSeq
    { c with
      menus := write c.menus
        ⟨k, some ⟨⟨k, some (submittedText description), some nom, toDouble prix⟩, plats⟩⟩
      menuSeq := if id = none then c.menuSeq + 1 else c.menuSeq }
  | .plat id nom categorie nbCalories nbGlucides nbLipides nbProteines =>
    let k := id.getD c.platSeq
    { c with
      plats := write c.plats
        ⟨k, some
          { id := k
            nom := some nom
            nbCalories := nbCalories
            nbGlucides := nbGlucides
            nbLipides := nbLipides
            nbProteines := nbProteines
            categorieId := categorie }⟩
      platSeq := if id = none then c.platSeq + 1 else c.platSeq }
  | .supprimerMenu id => { c with menus := write c.menus ⟨id, none⟩ }
  | .supprimerPlat id => { c with plats := write c.plats ⟨id, none⟩ }

/-- There is nothing against a change. -/
def Change.Allowed (t : Saisie) (c : CardState) : Change → Prop
  | .menu id nom description prix plats =>
    (∀ k, id = some k → c.menus k ≠ none) ∧ t.Fields nom description prix ∧
      ((submittedText description).length ≤ 255 ∧ description.toList.all latin1 = true ∧
        nom.toList.all latin1 = true) ∧
      plats.Nonempty ∧ ∀ k ∈ plats, c.plats k ≠ none
  | .plat id nom categorie nbCalories nbGlucides nbLipides nbProteines =>
    (∀ k, id = some k → c.plats k ≠ none) ∧ t.Nom nom ∧ nom.toList.all latin1 = true ∧
      c.categories categorie ≠ none ∧
      0 ≤ nbCalories ∧ 0 ≤ nbGlucides ∧ 0 ≤ nbLipides ∧ 0 ≤ nbProteines
  | .supprimerMenu id => c.menus id ≠ none
  | .supprimerPlat id => c.plats id ≠ none ∧ ∀ k m, c.menus k = some m → id ∉ m.plats

/-- One allowed change. -/
def CardState.Step (t : Saisie) (c c' : CardState) : Prop :=
  ∃ x : Change, x.Allowed t c ∧ c' = x.apply c

/-- An act of a user alone, who fills in the forms as they ask. -/
def Act.Allowed (t : Saisie) : Act → Prop
  | .enregistrerMenu nom description prix => t.Fields nom description prix
  | .enregistrerPlat nom _ nbCalories nbGlucides nbLipides nbProteines =>
    t.Nom nom ∧ 0 ≤ nbCalories ∧ 0 ≤ nbGlucides ∧ 0 ≤ nbLipides ∧ 0 ≤ nbProteines
  | .autre _ => False
  | _ => True

/-! ## What the card says of the tables -/

namespace Db

variable (db : Db) (k : ℤ)

theorem card_menus_ne_none : db.card.menus k ≠ none ↔ db.HasMenu k := by
  rw [Db.card, Ne, Option.map_eq_none_iff, ← Ne, Option.ne_none_iff_exists']
  exact exists_congr fun m => Sql.lookup_eq_some_iff db.valid.menu_pk

theorem card_plats_ne_none : db.card.plats k ≠ none ↔ db.HasPlat k := by
  rw [Option.ne_none_iff_exists']
  exact exists_congr fun p => Sql.lookup_eq_some_iff db.valid.plat_pk

theorem card_categories_ne_none : db.card.categories k ≠ none ↔ db.HasCategorie k := by
  rw [Option.ne_none_iff_exists']
  exact exists_congr fun c => Sql.lookup_eq_some_iff db.valid.categorie_pk

/-- A plat no menu of the card contains is in no row of the join table. -/
theorem card_free_iff :
    (∀ j m, db.card.menus j = some m → k ∉ m.plats) ↔
      ∀ row ∈ db.tables.menuPlat, row.platId ≠ k := by
  refine ⟨?_, ?_⟩
  · intro h row hrow hk
    obtain ⟨m, hm, hid⟩ := db.valid.menuPlat_menu row hrow
    have hlook := (Sql.lookup_eq_some_iff db.valid.menu_pk).2 ⟨hm, hid⟩
    refine h row.menuId ⟨m, (db.platIdsOf row.menuId).toFinset⟩ ?_ ?_
    · simp only [Db.card, hlook, Option.map_some]
    · rw [List.mem_toFinset, db.mem_platIdsOf, ← hk]
      exact hrow
  · intro h j m hm hk
    obtain ⟨row, -, rfl⟩ := Option.map_eq_some_iff.1 hm
    rw [List.mem_toFinset, db.mem_platIdsOf] at hk
    exact h _ hk rfl

end Db

/-! ## The changes the requests make -/

section Effects

variable {db db' : Db}

theorem cardState_saveMenu {req : SaveMenuRequest} {r : MenusRequest}
    (h : saveMenu db req = .ok (db', r)) {id : Option ℤ} {nom description : String} {prix : ℚ}
    (hmenu : req.menu = ⟨id, some nom, some (submittedText description), toDouble prix⟩)
    {plats : Finset ℤ} (hplats : ∀ k, k ∈ plats ↔ k ∈ req.platIds.getD [] ∧ db.HasPlat k) :
    db'.cardState = (Change.menu id nom description prix plats).apply db.cardState := by
  obtain ⟨⟨ids, hids, hsaved⟩, hothers, hseq⟩ := saveMenu_ok h
  obtain ⟨hmenus, hplats', hcategories⟩ := card_saveMenu hsaved hothers
  have hset : ids.toFinset = plats := by
    ext k
    rw [List.mem_toFinset, hids, hplats]
  have hid := hsaved.id_eq
  rw [hmenu] at hmenus hid hseq
  rw [hset, hid] at hmenus
  exact CardState.ext hmenus hplats' hcategories hseq hsaved.platSeq_eq

theorem cardState_savePlat {i : PlatInput} {r : PlatsRequest} (h : i.save db = .ok (db', r)) :
    ∃ nbCalories nbGlucides nbLipides nbProteines : Int32,
      (nbCalories.toInt = i.nbCalories ∧ nbGlucides.toInt = i.nbGlucides ∧
        nbLipides.toInt = i.nbLipides ∧ nbProteines.toInt = i.nbProteines) ∧
      db'.cardState = (Change.plat i.id i.nom i.categorie nbCalories nbGlucides nbLipides
        nbProteines).apply db.cardState := by
  obtain ⟨plat, c, -, hc, -, hh, hsave⟩ := PlatInput.save_cases h
  have hcid := ((Sql.lookup_eq_some_iff db.valid.categorie_pk).1 hc).2
  have hsaved := PlatRepository.save_ok hsave
  obtain ⟨hplats, hmenus, hcategories⟩ := card_savePlat hsave hh.categorie
  have hid := hsaved.id_eq
  have hseq := PlatRepository.save_platSeq hsave
  rw [hh.id] at hid hseq
  -- the row that is written is what was typed
  have hrow : plat.row r.id c.id = ⟨i.id.getD db.platSeq, some i.nom, plat.nbCalories,
      plat.nbLipides, plat.nbProteines, plat.nbGlucides, i.categorie⟩ := by
    rw [PlatBean.row, hid, hh.nom, hcid]
  rw [hrow, hid] at hplats
  rw [ManagedCategorie.write?, if_pos rfl] at hcategories
  exact ⟨plat.nbCalories, plat.nbGlucides, plat.nbLipides, plat.nbProteines,
    ⟨hh.nbCalories, hh.nbGlucides, hh.nbLipides, hh.nbProteines⟩,
    CardState.ext hmenus hplats hcategories hsaved.menuSeq_eq hseq⟩

theorem cardState_deleteMenu {req : DeleteMenuRequest} {r : MenusRequest}
    (h : deleteMenu db req = .ok (db', r)) :
    db'.cardState = (Change.supprimerMenu req.id).apply db.cardState := by
  obtain ⟨db₁, hdel, ht, hm, hp⟩ := deleteMenu_ok db req
  rw [h] at hdel
  cases hdel
  obtain ⟨hmenus, hplats, hcategories⟩ := card_deleteMenu ht
  exact CardState.ext hmenus hplats hcategories hm hp

theorem cardState_deletePlat {req : DeletePlatRequest} {r : PlatsRequest}
    (h : deletePlat db req = .ok (db', r)) :
    db'.cardState = (Change.supprimerPlat req.id).apply db.cardState := by
  obtain ⟨-, ht, hm, hp, -⟩ := deletePlat_ok h
  obtain ⟨hplats, hmenus, hcategories⟩ := card_deletePlat ht
  exact CardState.ext hmenus hplats hcategories hm hp

end Effects

section Requests

variable {fw : Framework} {col : Collation} {srv : Servers fw col} {db : Db}

theorem thenMenus_store (srv : Servers fw col) (db : Db) (x : Except WebError (Db × MenusRequest)) :
    (thenMenus srv db x).1 = db ∨ ∃ red, x = .ok ((thenMenus srv db x).1, red) := by
  cases x with
  | ok x => exact Or.inr ⟨x.2, rfl⟩
  | error e => exact Or.inl rfl

theorem thenPlats_store (srv : Servers fw col) (db : Db) (x : Except WebError (Db × PlatsRequest)) :
    (thenPlats srv db x).1 = db ∨ ∃ red, x = .ok ((thenPlats srv db x).1, red) := by
  cases x with
  | ok x => exact Or.inr ⟨x.2, rfl⟩
  | error e => exact Or.inl rfl

/-- **What a request can do to the store.** -/
inductive Requete.Stores (db db' : Db) : Requete → Prop
  | menuDelete {req : DeleteMenuRequest} {red : MenusRequest}
      (h : deleteMenu db req = .ok (db', red)) : Stores db db' (.get (.menuDelete req))
  | platDelete {req : DeletePlatRequest} {red : PlatsRequest}
      (h : deletePlat db req = .ok (db', red)) : Stores db db' (.get (.platDelete req))
  | saveMenu {req : SaveMenuRequest} {red : MenusRequest}
      (h : GestionMenus.saveMenu db req = .ok (db', red)) : Stores db db' (.saveMenu req)
  | savePlat {i : PlatInput} {red : PlatsRequest} (h : i.save db = .ok (db', red)) :
      Stores db db' (.savePlat i)

theorem answer_stores (srv : Servers fw col) (db : Db) (r : Requete) :
    (answer srv db r).1 = db ∨ r.Stores db (answer srv db r).1 := by
  match r with
  | .get .accueil | .get (.menus _) | .get (.plats _) | .get (.edit _) | .get (.platEdit _)
  | .get (.menuDetail _) | .get (.platDetail _) => exact Or.inl rfl
  | .get (.menuDelete req) =>
    exact (thenMenus_store srv db _).imp id fun ⟨_, h⟩ => .menuDelete h
  | .get (.platDelete req) =>
    exact (thenPlats_store srv db _).imp id fun ⟨_, h⟩ => .platDelete h
  | .saveMenu req => exact (thenMenus_store srv db _).imp id fun ⟨_, h⟩ => .saveMenu h
  | .savePlat i => exact (thenPlats_store srv db _).imp id fun ⟨_, h⟩ => .savePlat h

/-- The form of a menu comes from `editMenu`. -/
theorem answer_menuForm {r : Requete} {f : MenuForm}
    (h : (answer srv db r).2 = .ok (.menuForm f)) :
    (answer srv db r).1 = db ∧ ∃ req, editMenu col db req = .menuForm f := by
  have hmenus : ∀ {d req}, showMenus srv d req ≠ .ok (.menuForm f) := fun h => by
    obtain ⟨m, alert, hv, -⟩ := showMenus_ok h
    cases hv
  have hplats : ∀ {d req}, showPlats srv d req ≠ .ok (.menuForm f) := fun h => by
    obtain ⟨m, alert, hv, -⟩ := showPlats_ok h
    cases hv
  match r with
  | .get .accueil => cases h
  | .get (.menus req) => exact absurd h hmenus
  | .get (.plats req) => exact absurd h hplats
  | .get (.edit req) =>
    refine ⟨rfl, req, ?_⟩
    simp only [answer] at h
    split at h
    · cases h
      assumption
    · obtain ⟨req', hshow⟩ := followRedirect_ok h
      exact absurd hshow hmenus
  | .get (.platEdit req) =>
    simp only [answer] at h
    split at h
    · cases h
    · exact absurd h hplats
  | .get (.menuDetail req) =>
    simp only [answer] at h
    split at h
    · cases h
    · exact absurd h hmenus
  | .get (.platDetail req) =>
    simp only [answer] at h
    split at h
    · cases h
    · exact absurd h hplats
  | .get (.menuDelete req) | .saveMenu req =>
    obtain ⟨_, _, -, -, h⟩ := thenMenus_ok h
    exact absurd h hmenus
  | .get (.platDelete req) | .savePlat i =>
    obtain ⟨_, _, -, -, h⟩ := thenPlats_ok h
    exact absurd h hplats

end Requests

/-! ## Every act is an allowed change -/

section Accepted

variable {t : Saisie} {db : Db} {nom : String}

theorem Saisie.Fields.accepted {description : String} {prix : ℚ}
    (h : t.Fields nom description prix) {f : MenuForm} (hselection : f.hiddenPlatInputs ≠ [])
    (hplat : ∀ k ∈ f.hiddenPlatInputs, db.HasPlat k)
    (hmenu : ∀ k, f.menu.id = some k → db.HasMenu k) :
    (f.input nom description prix).Accepted db where
  nom_minlength := h.nom.minlength
  nom_maxlength := h.nom.maxlength
  description_maxlength := h.description_maxlength
  prix_min := h.prix_min
  prix_finite := h.prix_finite
  selection := hselection
  hasPlat := hplat
  hasMenu := hmenu

theorem Saisie.Nom.accepted {i : PlatInput} (h : t.Nom i.nom)
    (hcategorie : db.HasCategorie i.categorie)
    (hnonneg : 0 ≤ i.nbCalories ∧ 0 ≤ i.nbGlucides ∧ 0 ≤ i.nbLipides ∧ 0 ≤ i.nbProteines)
    (hplat : ∀ k, i.id = some k → db.HasPlat k) : i.Accepted db where
  nom_minlength := h.minlength
  nom_maxlength := h.maxlength
  hasCategorie := hcategorie
  nbCalories_min := hnonneg.1
  nbGlucides_min := hnonneg.2.1
  nbLipides_min := hnonneg.2.2.1
  nbProteines_min := hnonneg.2.2.2
  hasPlat := hplat

end Accepted

namespace View.Sends

variable {v : View} {act : Act}

theorem saveMenu_cases {req : SaveMenuRequest} (h : v.Sends act (.saveMenu req)) :
    ∃ f nom description prix, v = .menuForm f ∧ act = .enregistrerMenu nom description prix ∧
      f.validateMenuSelection = true ∧ req = (f.input nom description prix).request := by
  cases h with
  | enregistrerMenu f nom description prix hselection =>
    exact ⟨f, nom, description, prix, rfl, rfl, hselection, rfl⟩

theorem act_of_savePlat {i : PlatInput} (h : v.Sends act (.savePlat i)) :
    act = .enregistrerPlat i.nom i.categorie i.nbCalories i.nbGlucides i.nbLipides
      i.nbProteines := by
  cases h with
  | enregistrerPlat f => rfl

end View.Sends

namespace Visit

variable {fw : Framework} {col : Collation} {t : Saisie} {s : Visit} {e : Servers fw col × Act}

/-- The items of a form are plats that are stored. -/
def Current (s : Visit) : Prop :=
  ∀ f, s.view = .menuForm f → ∃ data, f.Inv data ∧ ∀ k ∈ data.map ItemData.id, s.db.HasPlat k

theorem Current.step (hcurrent : s.Current) (hs : s.Sound) (halone : ∀ db, e.2 ≠ .autre db) :
    (s.step e).Current := by
  obtain ⟨db, hdb, -⟩ | ⟨f, side, i, hv, h⟩ | h | ⟨r, hr, h⟩ := s.step_cases e
  · exact absurd hdb (halone db)
  · obtain ⟨data, hinv, hstored⟩ := hcurrent f hv
    rw [h]
    rintro f' ⟨⟩
    exact ⟨data, hinv.click side i, hstored⟩
  · rw [h]
    exact hcurrent
  · rw [h]
    cases hanswer : (answer e.1 s.db r).2 with
    | ok v =>
      rintro f rfl
      obtain ⟨hdb, req, hf⟩ := answer_menuForm hanswer
      obtain ⟨data, hinv, -, -, hdata, -⟩ := ids_editMenu hf
      refine ⟨data, hinv, ?_⟩
      rintro k hk
      obtain ⟨d, hd, rfl⟩ := List.mem_map.1 hk
      obtain ⟨p, hp, rfl⟩ := hdata d hd
      exact hdb.symm ▸ ⟨p, hp, rfl⟩
    | error err =>
      have hrange := (View.sends_of_request hr).inRange hs.inRange
      rw [answer_error hrange hanswer]
      exact hcurrent

/-- A menu that is saved from its form. -/
theorem saveMenu_allowed (hcurrent : s.Current) {f : MenuForm} (hv : s.view = .menuForm f)
    (hselection : f.validateMenuSelection = true) {nom description : String} {prix : ℚ}
    (hfields : t.Fields nom description prix) {db' : Db} {red : MenusRequest}
    (h : saveMenu s.db (f.input nom description prix).request = .ok (db', red)) :
    CardState.Step t s.db.cardState db'.cardState := by
  obtain ⟨data, hinv, hstored⟩ := hcurrent f hv
  obtain ⟨⟨ids, -, hsaved⟩, -⟩ := saveMenu_ok h
  have hids : f.hiddenPlatInputs = f.selectedIds := hinv.totals.1
  have hne : f.selectedIds ≠ [] := by
    simpa [MenuForm.validateMenuSelection, MenuForm.selectedIds] using hselection
  have hplat : ∀ k ∈ f.selectedIds, s.db.HasPlat k := fun k hk =>
    hstored k (hinv.ids_perm.mem_iff.1 (List.mem_append_right _ hk))
  have hmenu : ∀ k, f.menu.id = some k → s.db.HasMenu k := by
    intro k hk
    have hid : (f.input nom description prix).request.menu.id = some k := hk
    have hred : red.id = k := by rw [hsaved.id_eq, hid, Option.getD_some]
    exact hred ▸ hsaved.hasMenu.resolve_left (by rw [hid]; simp)
  have haccepted : (f.input nom description prix).Accepted s.db :=
    hfields.accepted (hids.symm ▸ hne) (fun k hk => hplat k (hids ▸ hk)) hmenu
  refine ⟨.menu f.menu.id nom description prix f.selectedIds.toFinset,
    ⟨?_, hfields, ?_, ?_, ?_⟩, ?_⟩
  · exact fun k hk => (s.db.card_menus_ne_none k).2 (hmenu k hk)
  · exact (MenuInput.checkMenu_iff haccepted _).1 hsaved.check
  · obtain ⟨k, hk⟩ := List.exists_mem_of_ne_nil _ hne
    exact ⟨k, List.mem_toFinset.2 hk⟩
  · exact fun k hk => (s.db.card_plats_ne_none k).2 (hplat k (List.mem_toFinset.1 hk))
  · refine cardState_saveMenu h rfl ?_
    intro k
    rw [MenuInput.request_platIds, List.mem_toFinset]
    show _ ↔ k ∈ f.hiddenPlatInputs ∧ _
    rw [hids]
    exact ⟨fun hk => ⟨hk, hplat k hk⟩, And.left⟩

/-- A plat that is saved from its form. -/
theorem savePlat_allowed {db db' : Db} {i : PlatInput} (hnom : t.Nom i.nom)
    (hnonneg : 0 ≤ i.nbCalories ∧ 0 ≤ i.nbGlucides ∧ 0 ≤ i.nbLipides ∧ 0 ≤ i.nbProteines)
    {red : PlatsRequest} (h : i.save db = .ok (db', red)) :
    CardState.Step t db.cardState db'.cardState := by
  obtain ⟨nbCalories, nbGlucides, nbLipides, nbProteines, hnumbers, hstate⟩ :=
    cardState_savePlat h
  obtain ⟨plat, c, -, hc, -, hh, hsave⟩ := PlatInput.save_cases h
  have hsaved := PlatRepository.save_ok hsave
  obtain ⟨hmem, hcid⟩ := (Sql.lookup_eq_some_iff db.valid.categorie_pk).1 hc
  have hplat : ∀ k, i.id = some k → db.HasPlat k := by
    intro k hk
    have hid : red.id = k := by rw [hsaved.id_eq, hh.id, hk, Option.getD_some]
    exact hid ▸ hsaved.hasPlat.resolve_left (by rw [hh.id, hk]; simp)
  have haccepted : i.Accepted db := hnom.accepted ⟨c, hmem, hcid⟩ hnonneg hplat
  have hle : ∀ {x : Int32} {n : ℤ}, x.toInt = n → 0 ≤ n → 0 ≤ x := fun hx hn =>
    Int32.le_iff_toInt_le.2 (hx ▸ hn)
  obtain ⟨c', -, hcheck, -⟩ := hsaved.row
  refine ⟨.plat i.id i.nom i.categorie nbCalories nbGlucides nbLipides nbProteines,
    ⟨?_, hnom, (PlatInput.checkPlat_iff haccepted hh _ _).1 hcheck, ?_, ?_⟩, hstate⟩
  · exact fun k hk => (db.card_plats_ne_none k).2 (hplat k hk)
  · exact (db.card_categories_ne_none _).2 ⟨c, hmem, hcid⟩
  · exact ⟨hle hnumbers.1 hnonneg.1, hle hnumbers.2.1 hnonneg.2.1,
      hle hnumbers.2.2.1 hnonneg.2.2.1, hle hnumbers.2.2.2 hnonneg.2.2.2⟩

/-- **Every act leaves the card, or makes an allowed change.** -/
theorem step_changes (hcurrent : s.Current) (hact : e.2.Allowed t) :
    (s.step e).db.cardState = s.db.cardState ∨
      CardState.Step t s.db.cardState (s.step e).db.cardState := by
  obtain ⟨db, hdb, -⟩ | ⟨f, side, i, hv, h⟩ | h | ⟨r, hr, h⟩ := s.step_cases e
  · rw [hdb] at hact
    exact hact.elim
  · rw [h]
    exact Or.inl rfl
  · rw [h]
    exact Or.inl rfl
  have hsends := View.sends_of_request hr
  rw [h]
  rcases answer_stores e.1 s.db r with hsame | hstores
  · rw [hsame]
    exact Or.inl rfl
  cases hstores with
  | @menuDelete req _ hdel =>
    rw [cardState_deleteMenu hdel]
    by_cases hmenu : s.db.card.menus req.id = none
    · exact Or.inl (CardState.ext (write_eq_self hmenu) rfl rfl rfl rfl)
    · exact Or.inr ⟨.supprimerMenu req.id, hmenu, rfl⟩
  | @platDelete req _ hdel =>
    rw [cardState_deletePlat hdel]
    by_cases hplat : s.db.card.plats req.id = none
    · exact Or.inl (CardState.ext rfl (write_eq_self hplat) rfl rfl rfl)
    · refine Or.inr ⟨.supprimerPlat req.id, ⟨hplat, ?_⟩, rfl⟩
      exact (s.db.card_free_iff _).2 (deletePlat_ok hdel).1
  | @saveMenu req _ hsave =>
    obtain ⟨f, nom, description, prix, hv, hact', hselection, rfl⟩ := hsends.saveMenu_cases
    rw [hact'] at hact
    exact Or.inr (saveMenu_allowed hcurrent hv hselection hact hsave)
  | @savePlat i _ hsave =>
    rw [hsends.act_of_savePlat] at hact
    exact Or.inr (savePlat_allowed hact.1 hact.2 hsave)

/-! ## Every allowed change can be made -/

/-- A user can get from one page to the other. -/
def Reaches (fw : Framework) (col : Collation) (t : Saisie) (s s' : Visit) : Prop :=
  ∃ acts : List (Servers fw col × Act), (∀ e ∈ acts, e.2.Allowed t) ∧ run Visit.step s acts = s'

theorem Reaches.trans {s₁ s₂ s₃ : Visit} (h₁ : Reaches fw col t s₁ s₂)
    (h₂ : Reaches fw col t s₂ s₃) : Reaches fw col t s₁ s₃ := by
  obtain ⟨acts₁, hacts₁, rfl⟩ := h₁
  obtain ⟨acts₂, hacts₂, rfl⟩ := h₂
  refine ⟨acts₁ ++ acts₂, ?_, run_append _ _ _ _⟩
  intro e he
  exact (List.mem_append.1 he).elim (hacts₁ e) (hacts₂ e)

theorem reaches_step (s : Visit) (hact : e.2.Allowed t) : Reaches fw col t s (s.step e) :=
  ⟨[e], by simpa using hact, rfl⟩

theorem reaches_clicks {srv : Servers fw col} {is : List ℕ} {s' : Visit}
    (h : s.clicks (fun _ => srv) is = s') : Reaches fw col t s s' := by
  refine ⟨is.map fun i => (srv, .suivre i), ?_, by rw [← clicks_eq_run, h]⟩
  intro e he
  obtain ⟨i, -, rfl⟩ := List.mem_map.1 he
  trivial

/-- Some plats of the form change sides, one click each. -/
theorem reaches_clicPlats (srv : Servers fw col) (t : Saisie) (db : Db) {data : List ItemData}
    (hnd : (data.map ItemData.id).Nodup) {ks : List ℤ} (hks : ks.Nodup)
    (hsub : ks ⊆ data.map ItemData.id) {f : MenuForm} (hf : f.Inv data) :
    ∃ f', Reaches fw col t ⟨db, .menuForm f⟩ ⟨db, .menuForm f'⟩ ∧ f'.Inv data ∧ f'.menu = f.menu ∧
      ∀ k, k ∈ f'.selectedIds ↔ if k ∈ ks then k ∉ f.selectedIds else k ∈ f.selectedIds := by
  induction ks generalizing f with
  | nil => exact ⟨f, ⟨[], by simp, rfl⟩, hf, rfl, by simp⟩
  | cons p ks ih =>
    obtain ⟨hp, hks⟩ := List.nodup_cons.1 hks
    obtain ⟨hpdata, hsub⟩ := List.cons_subset.1 hsub
    obtain ⟨f', hreach, hf', hmenu, hids⟩ := ih hks hsub (hf.clicPlat p)
    have hclic : Reaches fw col t ⟨db, .menuForm f⟩ ⟨db, .menuForm (f.clicPlat p)⟩ := by
      rw [MenuForm.clicPlat]
      split
      · rename_i side i _
        exact reaches_step (e := (srv, .cliquer side i)) _ trivial
      · exact ⟨[], by simp, rfl⟩
    refine ⟨f', hclic.trans hreach, hf', hmenu.trans (f.menu_clicPlat p), ?_⟩
    intro k
    rw [hids, hf.mem_clicPlat_iff hnd hpdata]
    by_cases hk : k = p
    · simp [hk, hp]
    · simp [hk]

/-- **Any plats of the form can be selected**, and no others. -/
theorem reaches_selection (srv : Servers fw col) (t : Saisie) (db : Db) {data : List ItemData}
    (hnd : (data.map ItemData.id).Nodup) {f : MenuForm} (hf : f.Inv data) {plats : Finset ℤ}
    (hsub : ∀ k ∈ plats, k ∈ data.map ItemData.id) :
    ∃ f', Reaches fw col t ⟨db, .menuForm f⟩ ⟨db, .menuForm f'⟩ ∧ f'.Inv data ∧ f'.menu = f.menu ∧
      ∀ k, k ∈ f'.selectedIds ↔ k ∈ plats := by
  -- click on those that are on the wrong side
  obtain ⟨f', hreach, hf', hmenu, hids⟩ := reaches_clicPlats srv t db hnd
    (hnd.filter fun k => decide (¬ (k ∈ f.selectedIds ↔ k ∈ plats)))
    (List.filter_subset_self _) hf
  refine ⟨f', hreach, hf', hmenu, ?_⟩
  intro k
  rw [hids]
  have hselected : k ∈ f.selectedIds → k ∈ data.map ItemData.id := fun h =>
    hf.ids_perm.mem_iff.1 (List.mem_append_right _ h)
  have hplats := hsub k
  split_ifs with h <;> rw [List.mem_filter, decide_eq_true_eq] at h <;> tauto

/-- The form of a menu, new or stored, with every plat of the store on it. -/
theorem menuForm_reached (srv : Servers fw col) (hs : s.Sound) {id : Option ℤ}
    (hid : ∀ k, id = some k → s.db.HasMenu k) :
    ∃ is f data, s.clicks (fun _ => srv) is = ⟨s.db, .menuForm f⟩ ∧ f.menu.id = id ∧ f.Inv data ∧
      (data.map ItemData.id).Nodup ∧ ∀ k, s.db.HasPlat k → k ∈ data.map ItemData.id := by
  obtain ⟨is, req, f, his, hf, hcriteria, hmenu⟩ : ∃ is req f,
      s.clicks (fun _ => srv) is = ⟨s.db, .menuForm f⟩ ∧ editMenu col s.db req = .menuForm f ∧
        req.toSelectionCriteria = {} ∧ f.menu.id = id := by
    cases id with
    | none =>
      obtain ⟨i, m, alert, hi, -⟩ := exists_menus hs.navbar fun _ => srv
      let req : EditRequest :=
        { page := m.page.number, size := m.page.size, filtre := m.filtre }
      obtain ⟨f, hf⟩ : ∃ f, editMenu col s.db req = .menuForm f :=
        exists_editMenu col req fun h => absurd rfl h
      obtain ⟨menu, own, hrender, -, -, hid, -⟩ := editMenu_menuForm hf
      obtain ⟨j, hj⟩ : ∃ j, (s.clicks (fun _ => srv) [i]).clicks (fun _ => srv) [j] =
          ⟨s.db, .menuForm f⟩ := by
        rw [hi]
        refine exists_click (l := ⟨.nouveau, .edit req, false⟩) ?_ rfl (by rw [answer, hf])
        exact List.mem_append_right _ (List.mem_append_left _ (List.mem_append_left _
          (List.mem_append_left _ (.head _))))
      refine ⟨[i] ++ [j], req, f, (clicks_append _ s [i] [j]).trans hj, hf, rfl, ?_⟩
      rw [hrender]
      exact hid
    | some k =>
      obtain ⟨x, hx, rfl⟩ := hid k rfl
      obtain ⟨-, is, req, f, -, his, hf, -, hcriteria, hmenu, -⟩ :=
        menu_reached hs.navbar (fun _ => srv) hx
      exact ⟨is, req, f, his, hf, hcriteria, by rw [hmenu]⟩
  obtain ⟨data, hinv, hnd, hids, -⟩ := ids_editMenu hf
  refine ⟨is, f, data, his, hmenu, hinv, hnd, ?_⟩
  rintro k ⟨p, hp, rfl⟩
  refine (hids _).2 (List.mem_append_left _ ?_)
  rw [hcriteria]
  exact List.mem_map_of_mem hp

theorem platForm_reached (srv : Servers fw col) (hs : s.Sound) {id : Option ℤ}
    (hid : ∀ k, id = some k → s.db.HasPlat k) :
    ∃ is f, s.clicks (fun _ => srv) is = ⟨s.db, .platForm f⟩ ∧ f.plat.id = id := by
  cases id with
  | none =>
    obtain ⟨i, m, alert, hi, -⟩ := exists_plats hs.navbar fun _ => srv
    let req : EditPlatRequest :=
      { page := m.page.number, size := m.page.size, motCle := m.motCle }
    obtain ⟨f, hf⟩ : ∃ f, editPlat s.db req = .platForm f := exists_editPlat fun h => absurd rfl h
    obtain ⟨j, hj⟩ : ∃ j, (s.clicks (fun _ => srv) [i]).clicks (fun _ => srv) [j] =
        ⟨s.db, .platForm f⟩ := by
      rw [hi]
      refine exists_click (l := ⟨.nouveau, .platEdit req, false⟩) ?_ rfl (by rw [answer, hf])
      exact List.mem_append_right _ (List.mem_append_left _ (List.mem_append_left _
        (List.mem_append_left _ (.head _))))
    exact ⟨[i] ++ [j], f, (clicks_append _ s [i] [j]).trans hj, (editPlat_platForm hf).1⟩
  | some k =>
    obtain ⟨x, hx, rfl⟩ := hid k rfl
    obtain ⟨-, is, f, -, his, hplat⟩ := plat_reached hs.navbar (fun _ => srv) hx
    exact ⟨is, f, his, by rw [hplat]; rfl⟩

/-- A menu can be put on the card. -/
theorem menu_made (srv : Servers fw col) (hs : s.Sound) {id : Option ℤ} {nom description : String}
    {prix : ℚ} {plats : Finset ℤ}
    (h : (Change.menu id nom description prix plats).Allowed t s.db.cardState) :
    ∃ s', Reaches fw col t s s' ∧
      s'.db.cardState = (Change.menu id nom description prix plats).apply s.db.cardState := by
  obtain ⟨hid, hfields, hfits, hne, hplats⟩ := h
  have hmenu : ∀ k, id = some k → s.db.HasMenu k := fun k hk =>
    (s.db.card_menus_ne_none k).1 (hid k hk)
  have hplat : ∀ k ∈ plats, s.db.HasPlat k := fun k hk =>
    (s.db.card_plats_ne_none k).1 (hplats k hk)
  -- to the form, then the clicks, then the submission
  obtain ⟨is, f₀, data, his, hf₀, hinv₀, hnd, hdata⟩ := menuForm_reached srv hs hmenu
  obtain ⟨f, hreach, hinv, hf, hids⟩ := reaches_selection srv t s.db hnd hinv₀ fun k hk =>
    hdata k (hplat k hk)
  have hhidden : ∀ k, k ∈ f.hiddenPlatInputs ↔ k ∈ plats := fun k => by rw [hinv.totals.1, hids]
  obtain ⟨k₀, hk₀⟩ := hne
  have haccepted : (f.input nom description prix).Accepted s.db := by
    refine hfields.accepted (List.ne_nil_of_mem ((hhidden k₀).2 hk₀)) ?_ ?_
    · exact fun k hk => hplat k ((hhidden k).1 hk)
    · rw [hf, hf₀]
      exact hmenu
  obtain ⟨db', red, hsave⟩ := exists_saveMenu haccepted.hasMenu
    ((MenuInput.checkMenu_iff haccepted _).2 hfits)
  have hselection : f.validateMenuSelection = true := by
    have hlength := List.length_pos_of_mem ((hids k₀).2 hk₀)
    rw [MenuForm.selectedIds, List.length_map] at hlength
    simpa [MenuForm.validateMenuSelection] using List.length_pos_iff.1 hlength
  have hrequest : (View.menuForm f).request? (.enregistrerMenu nom description prix) =
      some (.saveMenu (f.input nom description prix).request) := by
    simp only [View.request?, hselection, if_true]
  refine ⟨_, ((reaches_clicks his).trans hreach).trans
    (reaches_step (e := (srv, .enregistrerMenu nom description prix)) _ hfields), ?_⟩
  simp only [step, hrequest, answer, hsave, thenMenus]
  refine cardState_saveMenu hsave ?_ ?_
  · rw [← hf₀, ← hf]
    rfl
  · intro k
    rw [MenuInput.request_platIds]
    exact ⟨fun hk => ⟨(hhidden k).2 hk, hplat k hk⟩, fun hk => (hhidden k).1 hk.1⟩

/-- A plat can be put on the card. -/
theorem plat_made (srv : Servers fw col) (hs : s.Sound) {id : Option ℤ} {nom : String}
    {categorie : ℤ} {nbCalories nbGlucides nbLipides nbProteines : Int32}
    (h : (Change.plat id nom categorie nbCalories nbGlucides nbLipides nbProteines).Allowed t
      s.db.cardState) :
    ∃ s', Reaches fw col t s s' ∧ s'.db.cardState =
      (Change.plat id nom categorie nbCalories nbGlucides nbLipides nbProteines).apply
        s.db.cardState := by
  obtain ⟨hid, hnom, hlatin, hcategorie, hnonneg⟩ := h
  have hplat : ∀ k, id = some k → s.db.HasPlat k := fun k hk =>
    (s.db.card_plats_ne_none k).1 (hid k hk)
  obtain ⟨is, f, his, hf⟩ := platForm_reached srv hs hplat
  obtain ⟨c, hc, hcid⟩ := (s.db.card_categories_ne_none categorie).1 hcategorie
  let i := f.input nom categorie nbCalories.toInt nbGlucides.toInt nbLipides.toInt
    nbProteines.toInt
  have hnonneg' : 0 ≤ nbCalories.toInt ∧ 0 ≤ nbGlucides.toInt ∧ 0 ≤ nbLipides.toInt ∧
      0 ≤ nbProteines.toInt := by
    simp only [Int32.le_iff_toInt_le] at hnonneg
    exact hnonneg
  have haccepted : i.Accepted s.db := by
    refine Saisie.Nom.accepted (i := i) hnom ⟨c, hc, hcid⟩ hnonneg' ?_
    exact fun k hk => hplat k (hf.symm.trans hk)
  have hfits : i.Fits :=
    ⟨nbCalories.toInt_lt, nbGlucides.toInt_lt, nbLipides.toInt_lt, nbProteines.toInt_lt⟩
  obtain ⟨db', red, hsave, -⟩ := (PlatInput.isStored_iff haccepted).2 ⟨hfits, hlatin⟩
  have hact : (Act.enregistrerPlat nom categorie nbCalories.toInt nbGlucides.toInt
      nbLipides.toInt nbProteines.toInt).Allowed t := ⟨hnom, hnonneg'⟩
  refine ⟨_, (reaches_clicks his).trans (reaches_step (e := (srv, _)) _ hact), ?_⟩
  have hstep : ((⟨s.db, .platForm f⟩ : Visit).step (srv, .enregistrerPlat nom categorie
      nbCalories.toInt nbGlucides.toInt nbLipides.toInt nbProteines.toInt)).db = db' := by
    simp only [step, View.request?, answer]
    rw [show i.save s.db = _ from hsave]
    rfl
  rw [hstep]
  obtain ⟨_, _, _, _, ⟨h₁, h₂, h₃, h₄⟩, hstate⟩ := cardState_savePlat hsave
  rw [hstate, Int32.toInt_inj.1 h₁, Int32.toInt_inj.1 h₂, Int32.toInt_inj.1 h₃,
    Int32.toInt_inj.1 h₄, show i.id = id from hf]
  rfl

theorem supprimerMenu_made (srv : Servers fw col) (hs : s.Sound) {id : ℤ}
    (h : (Change.supprimerMenu id).Allowed t s.db.cardState) :
    ∃ s', Reaches fw col t s s' ∧
      s'.db.cardState = (Change.supprimerMenu id).apply s.db.cardState := by
  obtain ⟨x, hx, rfl⟩ := (s.db.card_menus_ne_none id).1 h
  obtain ⟨⟨is, d, -, his, rfl, -⟩, -⟩ := menu_reached hs.navbar (fun _ => srv) hx
  let req : DeleteMenuRequest :=
    { id := d.menu.id, page := d.page, size := d.size, filtre := d.filtre }
  obtain ⟨db', hdel, -⟩ := deleteMenu_ok s.db req
  have hlink : ⟨.supprimer, .menuDelete req, false⟩ ∈ (View.menuDetail d).links :=
    List.mem_append_right _ (by simp [MenuDetail.links, req])
  obtain ⟨i, hi⟩ := exists_suivre (s := ⟨s.db, .menuDetail d⟩) srv hlink rfl
  refine ⟨_, (reaches_clicks his).trans (reaches_step (e := (srv, .suivre i)) _ trivial), ?_⟩
  rw [hi, answer, hdel]
  exact cardState_deleteMenu hdel

theorem supprimerPlat_made (srv : Servers fw col) (hs : s.Sound) {id : ℤ}
    (h : (Change.supprimerPlat id).Allowed t s.db.cardState) :
    ∃ s', Reaches fw col t s s' ∧
      s'.db.cardState = (Change.supprimerPlat id).apply s.db.cardState := by
  obtain ⟨x, hx, rfl⟩ := (s.db.card_plats_ne_none id).1 h.1
  obtain ⟨⟨is, d, -, his, rfl, -⟩, -⟩ := plat_reached hs.navbar (fun _ => srv) hx
  let req : DeletePlatRequest :=
    { id := d.plat.id, page := d.page, size := d.size, motCle := d.motCle }
  obtain ⟨db', red, hdel, -⟩ : ∃ db' red, deletePlat s.db req = .ok (db', red) ∧ _ :=
    exists_deletePlat ((s.db.card_free_iff _).1 h.2)
  have hlink : ⟨.supprimer, .platDelete req, false⟩ ∈ (View.platDetail d).links :=
    List.mem_append_right _ (by simp [PlatDetail.links, req])
  obtain ⟨i, hi⟩ := exists_suivre (s := ⟨s.db, .platDetail d⟩) srv hlink rfl
  refine ⟨_, (reaches_clicks his).trans (reaches_step (e := (srv, .suivre i)) _ trivial), ?_⟩
  rw [hi, answer, hdel]
  exact cardState_deletePlat hdel

/-- **Every allowed change can be made**, from every page. -/
theorem change_made (srv : Servers fw col) (hs : s.Sound) {c : CardState}
    (h : CardState.Step t s.db.cardState c) :
    ∃ s', Reaches fw col t s s' ∧ s'.db.cardState = c := by
  obtain ⟨x, hx, rfl⟩ := h
  cases x with
  | menu => exact menu_made srv hs hx
  | plat => exact plat_made srv hs hx
  | supprimerMenu => exact supprimerMenu_made srv hs hx
  | supprimerPlat => exact supprimerPlat_made srv hs hx

/-! ## The cards that can be made -/

theorem alone_of_allowed (h : e.2.Allowed t) (db : Db) : e.2 ≠ .autre db := by
  intro he
  rw [he] at h
  exact h

theorem current_run (db : Db) {acts : List (Servers fw col × Act)} (halone : Alone acts) :
    (run step (init db) acts).Current := by
  induction acts using List.reverseRecOn with
  | nil => exact fun f hf => by cases hf
  | append_singleton acts e ih =>
    have halone' : Alone acts := fun x hx => halone x (List.mem_append_left _ hx)
    rw [run_concat]
    exact (ih halone').step (sound_run db halone')
      (halone e (List.mem_append_right _ (List.mem_singleton_self e)))

/-- **The cards a user can make.**  After any visit of one user alone, what the user can make of the
card, with the links and the forms of the pages, is what a sequence of allowed changes makes of it:
every such card, and no other. -/
theorem cards_reached_iff (t : Saisie) (db : Db) (acts : List (Servers fw col × Act))
    (halone : Alone acts) (c : CardState) :
    let s := run step (init db) acts
    (∃ acts' : List (Servers fw col × Act), (∀ e ∈ acts', e.2.Allowed t) ∧
      (run step s acts').db.cardState = c) ↔
      Relation.ReflTransGen (CardState.Step t) s.db.cardState c := by
  have hinv : ∀ (s : Visit) (e : Servers fw col × Act), s.Sound ∧ s.Current → e.2.Allowed t →
      (s.step e).Sound ∧ (s.step e).Current := fun s e hs he =>
    ⟨hs.1.step (alone_of_allowed he), hs.2.step hs.1 (alone_of_allowed he)⟩
  have hmade : ∀ (s : Visit) y, s.Sound ∧ s.Current → CardState.Step t s.db.cardState y →
      ∃ acts' : List (Servers fw col × Act), (∀ e ∈ acts', e.2.Allowed t) ∧
        (run step s acts').db.cardState = y := by
    intro s y hs hy
    obtain ⟨_, ⟨acts', hacts', rfl⟩, hs'⟩ := change_made (stableServers fw col) hs.1 hy
    exact ⟨acts', hacts', hs'⟩
  exact exists_run_iff hinv (fun s e hs he => step_changes hs.2 he) hmade
    ⟨sound_run db halone, current_run db halone⟩ c

/-- A new menu, from the page the menus are listed on. -/
theorem cards_reached_iff_carte :
    let t : Saisie := ⟨{nom | '\n' ∉ nom.toList}, {d | '\r' ∉ d.toList}, {15}⟩
    let acts := [(stableServers .byName .codePoint, Act.suivre 3)]
    let s := run step (init carte) acts
    Alone acts ∧ ∃ acts' : List (Servers .byName .codePoint × Act), (∀ e ∈ acts', e.2.Allowed t) ∧
      (run step s acts').db.cardState.menus 4 = some ⟨⟨4, some "", some "Brunch", 15⟩, {1, 3}⟩ := by
  intro t acts s
  have halone : Alone acts := by simp [acts, Alone]
  have hfields : t.Fields "Brunch" "" 15 :=
    ⟨⟨(by decide : '\n' ∉ "Brunch".toList), by decide, by decide⟩,
      (by decide : '\r' ∉ "".toList), by decide, rfl, by decide, by decide +kernel⟩
  have hallowed : (Change.menu none "Brunch" "" 15 {1, 3}).Allowed t s.db.cardState :=
    ⟨fun k hk => absurd hk (by simp), hfields, by decide, ⟨1, by decide⟩, by decide⟩
  obtain ⟨acts', hacts', h⟩ := (cards_reached_iff t carte acts halone _).2
    (.single ⟨_, hallowed, rfl⟩)
  refine ⟨halone, acts', hacts', ?_⟩
  have hprix : toDouble 15 = 15 := by decide +kernel
  rw [h]
  show some (⟨⟨4, some "", some "Brunch", toDouble 15⟩, {1, 3}⟩ : StoredMenu) = _
  rw [hprix]

end Visit

end GestionMenus
