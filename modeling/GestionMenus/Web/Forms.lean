import Mathlib.Algebra.Order.Ring.Nat
import GestionMenus.Base.Double
import GestionMenus.Base.Lines
import GestionMenus.Web.Handlers

/-!
# What the forms accept, and what the store accepts

A value a user types passes three gates: the attributes of the HTML form, the conversion to the
type of the Java field, and the column it is stored in.  Nothing ties them together, and this file
compares them.

* `MenuInput.Accepted` and `PlatInput.Accepted` are the HTML constraints of `menuForm.html` and
  `platForm.html`.  HTML counts UTF-16 code units (`utf16Length`), MariaDB counts characters.
* `textareaText` and `inputText` are what an element of a page makes of a stored text.
* `MenuInput.request` and `bindPlat` are the submission and the data binder.  The line breaks of a
  `textarea` are submitted as CR LF; a price is rounded to a `double` (`Base/Double.lean`); an `int`
  field refuses what does not fit.
* `MenuInput.IsStored` and `PlatInput.IsStored` say that the request succeeds and the row holds the
  values.

`forms_stored_iff` says which of the values the forms accept are stored: the description must fit
its `varchar(255)`, the price must be a `double`, the numbers must fit an `int`, and the texts must
be in the character set of the tables.  The forms ask for none of this.
-/

set_option autoImplicit false

namespace GestionMenus

open Double

/-! ## Texts -/

/-- The length of a text as HTML counts it, in UTF-16 code units. -/
def utf16Length (s : String) : ℕ :=
  (s.toList.map fun c => if c.toNat < 0x10000 then 1 else 2).sum

theorem length_le_utf16Length (s : String) : s.length ≤ utf16Length s := by
  have h : ∀ l : List Char, l.length ≤ (l.map fun c => if c.toNat < 0x10000 then 1 else 2).sum := by
    intro l
    induction l with
    | nil => simp
    | cons c l ih =>
      rw [List.map_cons, List.sum_cons, List.length_cons]
      split <;> omega
  rw [← String.length_toList]
  exact h s.toList

/-- The text of a `textarea` as it is submitted, with CR LF for a line break. -/
def submittedText (s : String) : String := String.ofList (Lines.toCrLf s.toList)

/-- The text of a `textarea` that is rendered with a stored text. -/
def textareaText (s : String) : String := String.ofList (Lines.textarea s.toList)

/-- The text of an `input` that is rendered with a stored text: it has a single line. -/
def inputText (s : String) : String :=
  String.ofList (s.toList.filter fun c => c ≠ '\r' ∧ c ≠ '\n')

/-- A text with a single line. -/
def OneLine (s : String) : Prop := ∀ c ∈ s.toList, c ≠ '\r' ∧ c ≠ '\n'

instance (s : String) : Decidable (OneLine s) :=
  List.decidableBAll (fun c => c ≠ '\r' ∧ c ≠ '\n') s.toList

/-- A text whose line breaks are CR LF, with none at its beginning. -/
def CrLfText (s : String) : Prop := Lines.CrLf s.toList = true ∧ s.toList.head? ≠ some '\r'

instance (s : String) : Decidable (CrLfText s) :=
  inferInstanceAs (Decidable (Lines.CrLf s.toList = true ∧ s.toList.head? ≠ some '\r'))

theorem inputText_eq_self_iff (s : String) : inputText s = s ↔ OneLine s := by
  rw [inputText, OneLine, ← String.toList_inj, String.toList_ofList, List.filter_eq_self]
  simp only [decide_eq_true_eq]

theorem submittedText_textareaText_iff (s : String) :
    submittedText (textareaText s) = s ↔ CrLfText s := by
  rw [submittedText, textareaText, CrLfText, ← String.toList_inj, String.toList_ofList,
    String.toList_ofList, Lines.toCrLf_textarea_iff]

/-- Line breaks are in every character set. -/
theorem all_latin1_submittedText (s : String) :
    (submittedText s).toList.all latin1 = s.toList.all latin1 := by
  have h : ∀ l : List Char, (Lines.toCrLf l).all latin1 = l.all latin1 := by
    intro l
    induction l with
    | nil => rfl
    | cons c l ih =>
      rw [Lines.toCrLf] at ih ⊢
      rw [List.flatMap_cons, List.all_append, ih, List.all_cons]
      split
      · rename_i hc
        subst hc
        rfl
      · simp
  rw [submittedText, String.toList_ofList, h]

/-! ## `menuForm.html` -/

/-- What is typed into the menu form, and its hidden fields. -/
structure MenuInput where
  id : Option ℤ
  nom : String
  description : String
  /-- The decimal in the number field. -/
  prix : ℚ
  platIds : List ℤ
  page : ℤ := 0
  size : ℤ := 10
  filtre : String := ""

namespace MenuInput

/-- The constraints of the menu form, when no other request interferes: the menu it was opened for
and the plats it shows are stored. -/
structure Accepted (db : Db) (i : MenuInput) : Prop where
  nom_minlength : 3 ≤ utf16Length i.nom
  nom_maxlength : utf16Length i.nom ≤ 100
  description_maxlength : utf16Length i.description ≤ 500
  prix_min : 1 ≤ i.prix
  /-- To a number field, what overflows a `double` is not a number. -/
  prix_finite : toDouble i.prix < 2 ^ 1024
  /-- `validateMenuSelection`. -/
  selection : i.platIds ≠ []
  hasPlat : ∀ p ∈ i.platIds, db.HasPlat p
  hasMenu : ∀ id, i.id = some id → db.HasMenu id

/-- The submission, as the controller gets it: `Menu.prix` is a `double`.  Without hidden inputs
there is no parameter `platIds`. -/
def request (i : MenuInput) : SaveMenuRequest where
  menu := ⟨i.id, some i.nom, some (submittedText i.description), toDouble i.prix⟩
  platIds := if i.platIds = [] then none else some i.platIds
  page := i.page
  size := i.size
  filtre := i.filtre

/-- The request succeeds, and the menu is stored with the submitted values. -/
def IsStored (db : Db) (i : MenuInput) : Prop :=
  ∃ db' r, saveMenu db i.request = .ok (db', r) ∧
    ⟨r.id, some (submittedText i.description), some i.nom, i.prix⟩ ∈ db'.tables.menu ∧
    ∀ k, k ∈ db'.platIdsOf r.id ↔ k ∈ i.platIds

/-- The state `saveMenu` reaches before it saves. -/
theorem exists_pending (db : Db) {i : MenuInput} (h : i.Accepted db) :
    ∃ p : PendingSave, saveMenu db i.request = p.finish db ∧ p.request = i.request ∧
      ∀ k, k ∈ p.selectedIds ↔ k ∈ i.platIds := by
  refine ⟨_, rfl, request_loop db _ _, ?_⟩
  intro k
  have hids : i.request.platIds.getD [] = i.platIds := by simp [request, h.selection]
  rw [hids, mem_selectedIds_loop (p := .start i.request) hids]
  refine ⟨?_, fun hk => Or.inr ⟨hk, h.hasPlat k hk⟩⟩
  rintro (hk | hk)
  · exact absurd hk (by simp [PendingSave.selectedIds, PendingSave.start])
  · exact hk.1

/-- The columns of `menu` and the menu form. -/
theorem checkMenu_iff {db : Db} {i : MenuInput} (h : i.Accepted db) (id : ℤ) :
    checkMenu (i.request.menu.row id) = .ok () ↔
      (submittedText i.description).length ≤ 255 ∧ i.description.toList.all latin1 = true ∧
        i.nom.toList.all latin1 = true := by
  have hnom : i.nom.length ≤ 255 := by
    have h₁ := length_le_utf16Length i.nom
    have h₂ := h.nom_maxlength
    omega
  have hprix : 0 ≤ toDouble i.prix := toDouble_nonneg (le_trans (by decide) h.prix_min)
  simp only [checkMenu_ok_iff, request, MenuBean.row, checkVarchar_some_ok_iff,
    all_latin1_submittedText, hnom, hprix, true_and, and_true, and_assoc]

theorem isStored_iff {db : Db} {i : MenuInput} (h : i.Accepted db) :
    i.IsStored db ↔
      (submittedText i.description).length ≤ 255 ∧ i.description.toList.all latin1 = true ∧
        i.nom.toList.all latin1 = true ∧ IsDouble i.prix := by
  obtain ⟨p, hsave, hreq, hids⟩ := exists_pending db h
  -- the row that is written holds the price after its conversion
  have hrow : ∀ {db' r}, saveMenu db i.request = .ok (db', r) →
      ⟨r.id, some (submittedText i.description), some i.nom, toDouble i.prix⟩ ∈
        db'.tables.menu := by
    intro db' r hok
    rw [hsave] at hok
    have hrow := (PendingSave.finish_ok hok).1.row_mem
    rw [hreq] at hrow
    exact hrow
  refine ⟨?_, ?_⟩
  · rintro ⟨db', r, hok, hmem, -⟩
    have hprix : toDouble i.prix = i.prix :=
      congrArg Menu.prix (List.inj_on_of_nodup_map db'.valid.menu_pk (hrow hok) hmem rfl)
    rw [hsave] at hok
    have hs := (PendingSave.finish_ok hok).1
    obtain ⟨hlength, hdescription, hnom⟩ := (checkMenu_iff h r.id).1 (hreq ▸ hs.check)
    exact ⟨hlength, hdescription, hnom, (toDouble_eq_self_iff _).1 hprix⟩
  · rintro ⟨hlength, hdescription, hnom, hprix⟩
    obtain ⟨db', id, hok⟩ : ∃ db' id, MenuRepository.save db p.request.menu p.selectedPlats =
        .ok (db', id) := by
      refine MenuRepository.exists_save ?_ ?_ p.selected_nodup ?_
      · rw [hreq]
        exact h.hasMenu
      · rw [hreq]
        exact (checkMenu_iff h _).2 ⟨hlength, hdescription, hnom⟩
      · exact fun o ho => h.hasPlat _ ((hids _).1 (List.mem_map_of_mem ho))
    obtain ⟨r, hr⟩ : ∃ r, p.finish db = .ok (db', r) := by
      rw [PendingSave.finish, hok]
      exact ⟨_, rfl⟩
    have hs := (PendingSave.finish_ok hr).1
    refine ⟨db', r, hsave.trans hr, ?_, ?_⟩
    · have hmem := hrow (hsave.trans hr)
      rw [(toDouble_eq_self_iff _).2 hprix] at hmem
      exact hmem
    · intro k
      rw [Db.mem_platIdsOf, hs.mem_menuPlat]
      simp [hids]

end MenuInput

/-! ## `platForm.html` -/

/-- What is typed into the plat form, and its hidden fields. -/
structure PlatInput where
  id : Option ℤ
  nom : String
  categorie : ℤ
  nbCalories : ℤ
  nbGlucides : ℤ
  nbLipides : ℤ
  nbProteines : ℤ
  page : ℤ := 0
  size : ℤ := 10
  motCle : String := ""

/-- Binding a number to an `int` field. -/
def bindInt (field : String) (n : ℤ) : Except WebError Int32 :=
  if -2 ^ 31 ≤ n ∧ n < 2 ^ 31 then .ok (Int32.ofInt n) else .error (.binding field)

theorem bindInt_ok {field : String} {n : ℤ} {x : Int32} (h : bindInt field n = .ok x) :
    n < 2 ^ 31 ∧ x.toInt = n := by
  rw [bindInt] at h
  split_ifs at h with hn
  cases h
  exact ⟨hn.2, Int32.toInt_ofInt_of_le hn.1 hn.2⟩

theorem exists_bindInt (field : String) {n : ℤ} (h₀ : 0 ≤ n) (h₁ : n < 2 ^ 31) :
    ∃ x, bindInt field n = .ok x := by
  rw [bindInt, if_pos ⟨by omega, h₁⟩]
  exact ⟨_, rfl⟩

/-- The data binder on the parameters of the plat form.  The parameter `categorie` is turned into
the `Categorie` with that identifier, if there is one. -/
def bindPlat (db : Db) (i : PlatInput) : Except WebError PlatBean := do
  let nbCalories ← bindInt "nbCalories" i.nbCalories
  let nbGlucides ← bindInt "nbGlucides" i.nbGlucides
  let nbLipides ← bindInt "nbLipides" i.nbLipides
  let nbProteines ← bindInt "nbProteines" i.nbProteines
  pure
    { id := i.id
      nom := some i.nom
      nbCalories := nbCalories
      nbLipides := nbLipides
      nbProteines := nbProteines
      nbGlucides := nbGlucides
      categorie :=
        (Sql.lookup Categorie.id i.categorie db.tables.categorie).map fun c => ⟨c, c⟩ }

namespace PlatInput

/-- The constraints of the plat form, when no other request interferes. -/
structure Accepted (db : Db) (i : PlatInput) : Prop where
  nom_minlength : 3 ≤ utf16Length i.nom
  nom_maxlength : utf16Length i.nom ≤ 100
  hasCategorie : db.HasCategorie i.categorie
  nbCalories_min : 0 ≤ i.nbCalories
  nbGlucides_min : 0 ≤ i.nbGlucides
  nbLipides_min : 0 ≤ i.nbLipides
  nbProteines_min : 0 ≤ i.nbProteines
  hasPlat : ∀ id, i.id = some id → db.HasPlat id

/-- `POST /plats/save`, from the binder on. -/
def save (db : Db) (i : PlatInput) : Except WebError (Db × PlatsRequest) := do
  let plat ← bindPlat db i
  savePlat db { plat := plat, page := i.page, size := i.size, motCle := i.motCle }

/-- The request succeeds, and the plat is stored with the submitted values. -/
def IsStored (db : Db) (i : PlatInput) : Prop :=
  ∃ db' r, i.save db = .ok (db', r) ∧ ∃ p ∈ db'.tables.plat, p.id = r.id ∧ p.nom = some i.nom ∧
    p.categorieId = i.categorie ∧ p.nbCalories.toInt = i.nbCalories ∧
    p.nbGlucides.toInt = i.nbGlucides ∧ p.nbLipides.toInt = i.nbLipides ∧
    p.nbProteines.toInt = i.nbProteines

/-- All four numbers fit an `int`. -/
structure Fits (i : PlatInput) : Prop where
  nbCalories : i.nbCalories < 2 ^ 31
  nbGlucides : i.nbGlucides < 2 ^ 31
  nbLipides : i.nbLipides < 2 ^ 31
  nbProteines : i.nbProteines < 2 ^ 31

/-- A bean that holds what was typed. -/
structure Holds (i : PlatInput) (c : Categorie) (plat : PlatBean) : Prop where
  id : plat.id = i.id
  nom : plat.nom = some i.nom
  categorie : plat.categorie = some ⟨c, c⟩
  nbCalories : plat.nbCalories.toInt = i.nbCalories
  nbGlucides : plat.nbGlucides.toInt = i.nbGlucides
  nbLipides : plat.nbLipides.toInt = i.nbLipides
  nbProteines : plat.nbProteines.toInt = i.nbProteines

/-- **What the binder makes of the form**: the bean that holds it, when the numbers fit. -/
theorem bindPlat_ok {db : Db} {i : PlatInput} {plat : PlatBean} {c : Categorie}
    (hc : Sql.lookup Categorie.id i.categorie db.tables.categorie = some c)
    (h : bindPlat db i = .ok plat) : i.Fits ∧ i.Holds c plat := by
  rw [bindPlat, hc] at h
  obtain ⟨nbCalories, h₁, h⟩ := bind_ok h
  obtain ⟨nbGlucides, h₂, h⟩ := bind_ok h
  obtain ⟨nbLipides, h₃, h⟩ := bind_ok h
  obtain ⟨nbProteines, h₄, h⟩ := bind_ok h
  cases h
  exact ⟨⟨(bindInt_ok h₁).1, (bindInt_ok h₂).1, (bindInt_ok h₃).1, (bindInt_ok h₄).1⟩,
    ⟨rfl, rfl, rfl, (bindInt_ok h₁).2, (bindInt_ok h₂).2, (bindInt_ok h₃).2, (bindInt_ok h₄).2⟩⟩

theorem exists_bindPlat {db : Db} {i : PlatInput} (h : i.Accepted db) (hf : i.Fits) :
    ∃ plat, bindPlat db i = .ok plat := by
  obtain ⟨x₁, h₁⟩ := exists_bindInt "nbCalories" h.nbCalories_min hf.nbCalories
  obtain ⟨x₂, h₂⟩ := exists_bindInt "nbGlucides" h.nbGlucides_min hf.nbGlucides
  obtain ⟨x₃, h₃⟩ := exists_bindInt "nbLipides" h.nbLipides_min hf.nbLipides
  obtain ⟨x₄, h₄⟩ := exists_bindInt "nbProteines" h.nbProteines_min hf.nbProteines
  rw [bindPlat, h₁, h₂, h₃, h₄]
  exact ⟨_, rfl⟩

/-- The columns of `plat` and the plat form. -/
theorem checkPlat_iff {db : Db} {i : PlatInput} (h : i.Accepted db) {c : Categorie}
    {plat : PlatBean} (hh : i.Holds c plat) (id categorieId : ℤ) :
    checkPlat (plat.row id categorieId) = .ok () ↔ i.nom.toList.all latin1 = true := by
  have hnom : i.nom.length ≤ 255 := by
    have h₁ := length_le_utf16Length i.nom
    have h₂ := h.nom_maxlength
    omega
  have hnonneg : ∀ x : Int32, 0 ≤ x.toInt → 0 ≤ x := fun x hx => Int32.le_iff_toInt_le.2 hx
  have h₁ := hnonneg _ (hh.nbCalories.symm ▸ h.nbCalories_min)
  have h₂ := hnonneg _ (hh.nbGlucides.symm ▸ h.nbGlucides_min)
  have h₃ := hnonneg _ (hh.nbLipides.symm ▸ h.nbLipides_min)
  have h₄ := hnonneg _ (hh.nbProteines.symm ▸ h.nbProteines_min)
  simp only [checkPlat_ok_iff, PlatBean.row, h₁, h₂, h₃, h₄, hh.nom, checkVarchar_some_ok_iff, hnom,
    true_and]

theorem isStored_iff {db : Db} {i : PlatInput} (h : i.Accepted db) :
    i.IsStored db ↔ i.Fits ∧ i.nom.toList.all latin1 = true := by
  obtain ⟨c, hc⟩ : ∃ c, Sql.lookup Categorie.id i.categorie db.tables.categorie = some c := by
    obtain ⟨c, hc⟩ := h.hasCategorie
    exact ⟨c, (Sql.lookup_eq_some_iff db.valid.categorie_pk).2 hc⟩
  have hcid := ((Sql.lookup_eq_some_iff db.valid.categorie_pk).1 hc).2
  refine ⟨?_, ?_⟩
  · rintro ⟨db', r, hok, -⟩
    rw [save] at hok
    obtain ⟨plat, hb, hok⟩ := bind_ok hok
    obtain ⟨hf, hh⟩ := bindPlat_ok hc hb
    obtain ⟨c', -, hcheck, -⟩ := (savePlat_ok hok).1.row
    exact ⟨hf, (checkPlat_iff h hh _ _).1 hcheck⟩
  · rintro ⟨hf, hlatin⟩
    obtain ⟨plat, hb⟩ := exists_bindPlat h hf
    obtain ⟨-, hh⟩ := bindPlat_ok hc hb
    obtain ⟨db', id, hok⟩ := PlatRepository.exists_save (hh.id ▸ h.hasPlat) hh.categorie
      ⟨rfl, Or.inl rfl⟩ (show db.HasCategorie c.id from hcid ▸ h.hasCategorie)
      ((checkPlat_iff h hh _ _).2 hlatin)
    have hsave : ∃ r, i.save db = .ok (db', r) ∧ r.id = id := by
      rw [save, hb, ok_bind, savePlat, hok]
      exact ⟨_, rfl, rfl⟩
    obtain ⟨r, hr, rfl⟩ := hsave
    have hs := PlatRepository.save_ok hok
    exact ⟨db', r, hr, plat.row r.id c.id, hs.row_mem hh.categorie, rfl, hh.nom, hcid,
      hh.nbCalories, hh.nbGlucides, hh.nbLipides, hh.nbProteines⟩

end PlatInput

/-! ## The two together -/

/-- **What the forms accept and the store accepts.**  With no concurrent request, a menu the form
accepts is stored with the submitted values if and only if its description fits the column, its
texts are in the character set of the table and its price is a `double`; a plat the form accepts, if
and only if its four numbers fit an `int` and its name is in the character set. -/
theorem forms_stored_iff (db : Db) :
    (∀ i : MenuInput, i.Accepted db → (i.IsStored db ↔
      (submittedText i.description).length ≤ 255 ∧ i.description.toList.all latin1 = true ∧
        i.nom.toList.all latin1 = true ∧ IsDouble i.prix)) ∧
    (∀ i : PlatInput, i.Accepted db → (i.IsStored db ↔
      i.Fits ∧ i.nom.toList.all latin1 = true)) :=
  ⟨fun _ h => MenuInput.isStored_iff h, fun _ h => PlatInput.isStored_iff h⟩

/-- A new menu for the card. -/
def menuDuo : MenuInput :=
  { id := none, nom := "Duo", description := "", prix := 5, platIds := [3] }

theorem accepted_menuDuo : menuDuo.Accepted carte :=
  ⟨by decide, by decide, by decide, by decide, by decide +kernel, by decide, by decide,
    by simp [menuDuo]⟩

theorem forms_stored_iff_carte : menuDuo.IsStored carte :=
  ((forms_stored_iff carte).1 menuDuo accepted_menuDuo).2
    ⟨by decide, by decide, by decide, (toDouble_eq_self_iff _).1 (by decide +kernel)⟩

/-- The same menu with a long description. -/
def menuLong : MenuInput :=
  { menuDuo with description := String.ofList (List.replicate 256 'a') }

/-- The same menu, for more than a `double` can tell to the cent. -/
def menuCher : MenuInput := { menuDuo with prix := 1234567890123456.78 }

/-- A plat of two thousand million calories and more. -/
def platLourd : PlatInput :=
  { id := none
    nom := "Pain"
    categorie := 1
    nbCalories := 2 ^ 31
    nbGlucides := 0
    nbLipides := 0
    nbProteines := 0 }

/-- The forms accept all three, and none is stored as it was submitted. -/
theorem not_forms_stored_carte :
    (menuLong.Accepted carte ∧ ¬ menuLong.IsStored carte) ∧
    (menuCher.Accepted carte ∧ ¬ menuCher.IsStored carte) ∧
      platLourd.Accepted carte ∧ ¬ platLourd.IsStored carte := by
  have hdesc : utf16Length menuLong.description ≤ 500 := by
    rw [utf16Length, menuLong, String.toList_ofList]
    decide +kernel
  have hlong : menuLong.Accepted carte :=
    ⟨accepted_menuDuo.nom_minlength, accepted_menuDuo.nom_maxlength, hdesc,
      accepted_menuDuo.prix_min, accepted_menuDuo.prix_finite, accepted_menuDuo.selection,
      accepted_menuDuo.hasPlat, accepted_menuDuo.hasMenu⟩
  have hcher : menuCher.Accepted carte :=
    { accepted_menuDuo with prix_min := by decide +kernel, prix_finite := by decide +kernel }
  have hlourd : platLourd.Accepted carte :=
    ⟨by decide, by decide, by decide, by decide, by decide, by decide, by decide,
      by simp [platLourd]⟩
  refine ⟨⟨hlong, ?_⟩, ⟨hcher, ?_⟩, hlourd, ?_⟩
  · intro h
    have hlen := ((MenuInput.isStored_iff hlong).1 h).1
    rw [submittedText, menuLong, String.toList_ofList, String.length_ofList] at hlen
    exact absurd hlen (by decide +kernel)
  · intro h
    obtain ⟨-, -, -, hprix⟩ := (MenuInput.isStored_iff hcher).1 h
    exact absurd ((toDouble_eq_self_iff _).2 hprix) (by decide +kernel)
  · intro h
    exact absurd ((PlatInput.isStored_iff hlourd).1 h).1.nbCalories (by decide)

end GestionMenus
