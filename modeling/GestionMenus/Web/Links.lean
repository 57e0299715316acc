import GestionMenus.Web.Controls
import GestionMenus.Web.Detail

/-!
# The links of the pages

Every link of the templates, as the request it leads to.  The numbered page links and the forms of
the two listings are in `Listing`; this file has the rest: the navigation bar, the headers the
listings are sorted by, the links of the rows, and those of the forms and the detail pages.

* `Url` is where a link leads, and `Link` a link on a page, which may be disabled.
* `View` is the page in the browser, and `View.links` are its links.

The headers of `plats.html` do not all carry the same criteria on: a header of a nutrient has the
bounds of that nutrient, the others have those of the calories.  `walkPlats_criteria` says what a
sequence of controls leaves of the criteria: those that every one of them carries on.
-/

set_option autoImplicit false

namespace GestionMenus

/-! ## The listing of the menus -/

/-- The columns `menus.html` can be sorted by. -/
inductive MenuColonne where
  | nom
  | prix
  | calories
  deriving DecidableEq, Repr

/-- What a header asks for, when the listing is sorted by `sort`. -/
def toggle (sort asc desc : String) : String := if sort = asc then desc else asc

/-- The value of `sort` in the header of a column. -/
def MenuColonne.toggle (sort : String) : MenuColonne → String
  | .nom => GestionMenus.toggle sort "nomAsc" "nomDesc"
  | .prix => GestionMenus.toggle sort "prixAsc" "prixDesc"
  | .calories => GestionMenus.toggle sort "calAsc" "calDesc"

/-- The header of a column of `menus.html`. -/
def MenusModel.entete (m : MenusModel) (k : MenuColonne) : MenusRequest :=
  { filtre := m.filtre, page := m.page.number, size := m.page.size, sort := k.toggle m.sort }

/-- `page.first`. -/
def Page.first {α : Type} (p : Page α) : Bool := p.number = 0

/-- `page.last`. -/
def Page.last {α : Type} (p : Page α) : Bool := p.totalPages ≤ p.number + 1

/-! ## The listing of the plats -/

/-- The columns `plats.html` can be sorted by. -/
inductive PlatColonne where
  | nom
  | categorie
  | calories
  | glucides
  | lipides
  | proteines
  deriving DecidableEq, Repr

/-- The value of `sort` in the header of a column. -/
def PlatColonne.toggle (sort : String) : PlatColonne → String
  | .nom => GestionMenus.toggle sort "nomAsc" "nomDesc"
  | .categorie => GestionMenus.toggle sort "catAsc" "catDesc"
  | .calories => GestionMenus.toggle sort "calAsc" "calDesc"
  | .glucides => GestionMenus.toggle sort "glucidesAsc" "glucidesDesc"
  | .lipides => GestionMenus.toggle sort "lipidesAsc" "lipidesDesc"
  | .proteines => GestionMenus.toggle sort "proteinesAsc" "proteinesDesc"

/-- The criteria the header of a column carries on. -/
def PlatColonne.criteria (c : PlatCriteria) : PlatColonne → PlatCriteria
  | .nom | .categorie | .calories => c.linked
  | .glucides =>
    { motCle := c.motCle
      categorieId := c.categorieId
      minGlucides := c.minGlucides
      maxGlucides := c.maxGlucides }
  | .lipides =>
    { motCle := c.motCle
      categorieId := c.categorieId
      minLipides := c.minLipides
      maxLipides := c.maxLipides }
  | .proteines =>
    { motCle := c.motCle
      categorieId := c.categorieId
      minProteines := c.minProteines
      maxProteines := c.maxProteines }

/-- The header of a column of `plats.html`. -/
def PlatsModel.entete (m : PlatsModel) (k : PlatColonne) : PlatsRequest :=
  { toPlatCriteria := k.criteria m.toPlatCriteria
    page := m.page.number
    size := m.page.size
    sort := k.toggle m.sort }

/-! ## What the controls carry on -/

/-- The controls of `plats.html` that lead from one listing to the next without new criteria. -/
inductive PlatControle where
  | entete (k : PlatColonne)
  | numero (i : ℕ)
  | taille (size : ℕ)

/-- Where a control leads. -/
def PlatsModel.follow (m : PlatsModel) : PlatControle → PlatsRequest
  | .entete k => m.entete k
  | .numero i => m.pageLink i
  | .taille size => m.sizeForm size

/-- The names of the criteria. -/
inductive PlatCritere where
  | motCle
  | categorieId
  | calories
  | glucides
  | lipides
  | proteines
  deriving DecidableEq, Repr

/-- The criteria with a name that is kept, and none of the others. -/
def PlatCriteria.restrict (keep : PlatCritere → Bool) (c : PlatCriteria) : PlatCriteria where
  motCle := if keep .motCle then c.motCle else ""
  categorieId := if keep .categorieId then c.categorieId else none
  minCalories := if keep .calories then c.minCalories else none
  maxCalories := if keep .calories then c.maxCalories else none
  minGlucides := if keep .glucides then c.minGlucides else none
  maxGlucides := if keep .glucides then c.maxGlucides else none
  minLipides := if keep .lipides then c.minLipides else none
  maxLipides := if keep .lipides then c.maxLipides else none
  minProteines := if keep .proteines then c.minProteines else none
  maxProteines := if keep .proteines then c.maxProteines else none

/-- Does a control carry a criterion on? -/
def PlatControle.keeps : PlatControle → PlatCritere → Bool
  | _, .motCle => true
  | _, .categorieId => true
  | .entete k, .glucides => k = .glucides
  | .entete k, .lipides => k = .lipides
  | .entete k, .proteines => k = .proteines
  | .entete k, .calories => k = .nom ∨ k = .categorie ∨ k = .calories
  | .numero _, k => k = .calories
  | .taille _, k => k = .calories

/-- The sizes are those of the select. -/
def PlatControle.Offered : PlatControle → Prop
  | .taille size => size ∈ platSizes
  | _ => True

section Walk

variable {col : Collation} {db : Db}

/-- One control after the other; each of the requests may be answered in an order of its own. -/
def walkPlats (m : PlatsModel) (ks : List (PlatServer col db × PlatControle)) :
    Except WebError PlatsModel :=
  ks.foldlM (fun m k => do return (← getPlats col db k.1 (m.follow k.2)).1) m

/-- What a control carries on is what it keeps of the criteria. -/
theorem PlatsModel.follow_criteria (m : PlatsModel) (k : PlatControle) :
    (m.follow k).toPlatCriteria = m.toPlatCriteria.restrict k.keeps := by
  cases k with
  | entete k => cases k <;> rfl
  | numero i => rfl
  | taille size => rfl

/-- Restricting twice is restricting to what is kept both times. -/
theorem PlatCriteria.restrict_restrict (c : PlatCriteria) (keep keep' : PlatCritere → Bool) :
    (c.restrict keep).restrict keep' = c.restrict fun k => keep k && keep' k := by
  simp only [restrict, Bool.and_eq_true, PlatCriteria.mk.injEq]
  refine ⟨?_, ?_, ?_, ?_, ?_, ?_, ?_, ?_, ?_, ?_⟩ <;> split_ifs <;> simp_all

/-- Fewer criteria select at least as much. -/
theorem findFiltered_restrict (col : Collation) (db : Db) (c : PlatCriteria)
    (keep : PlatCritere → Bool) :
    PlatRepository.findFiltered col db c ⊆
      PlatRepository.findFiltered col db (c.restrict keep) := by
  intro p hp
  obtain ⟨hp, hm⟩ := PlatRepository.mem_findFiltered.1 hp
  refine PlatRepository.mem_findFiltered.2 ⟨hp, ?_⟩
  have hopt : ∀ {β : Type} {x : Option β} {keep : Bool} {P : β → Prop},
      (∀ b, x = some b → P b) → ∀ b, (if keep then x else none) = some b → P b := by
    intro β x keep P h b hb
    split_ifs at hb
    exact h b hb
  exact
    { categorieId := hopt hm.categorieId
      minCalories := hopt hm.minCalories
      maxCalories := hopt hm.maxCalories
      minLipides := hopt hm.minLipides
      maxLipides := hopt hm.maxLipides
      minGlucides := hopt hm.minGlucides
      maxGlucides := hopt hm.maxGlucides
      minProteines := hopt hm.minProteines
      maxProteines := hopt hm.maxProteines
      motCle := by
        simp only [PlatCriteria.restrict]
        split_ifs
        · exact hm.motCle
        · exact Or.inl onlySpaces_empty }

/-- The columns of the headers among the controls. -/
def colonnes : List PlatControle → List PlatColonne :=
  List.filterMap fun
    | .entete k => some k
    | _ => none

/-- What a control asks for, apart from the criteria. -/
theorem PlatsModel.follow_sort (m : PlatsModel) (k : PlatControle) :
    (m.follow k).sort = (colonnes [k]).foldl (fun s k => k.toggle s) m.sort := by
  cases k <;> rfl

/-- The request of a control can be answered. -/
theorem PlatsModel.follow_inRange {m : PlatsModel} (hm : 0 < m.page.size) {k : PlatControle}
    (hk : k.Offered) : 0 ≤ (m.follow k).page ∧ 1 ≤ (m.follow k).size := by
  have hsizes : ∀ s ∈ platSizes, 1 ≤ (s : ℤ) := by decide
  cases k with
  | entete k => exact ⟨Int.natCast_nonneg _, by show 1 ≤ (m.page.size : ℤ); omega⟩
  | numero i => exact ⟨Int.natCast_nonneg _, by show 1 ≤ (m.page.size : ℤ); omega⟩
  | taille size => exact ⟨Int.natCast_nonneg _, hsizes size hk⟩

/-- **One control**: the criteria it keeps, its ordering, and the rows that match. -/
theorem getPlats_follow (srv : PlatServer col db) {m : PlatsModel} (hm : 0 < m.page.size)
    {k : PlatControle} (hk : k.Offered) :
    ∃ m' alert, getPlats col db srv (m.follow k) = .ok (m', alert) ∧ 0 < m'.page.size ∧
      m'.toPlatCriteria = m.toPlatCriteria.restrict k.keeps ∧
      m'.sort = (colonnes [k]).foldl (fun s k => k.toggle s) m.sort ∧
      m'.page.totalElements =
        (PlatRepository.findFiltered col db m'.toPlatCriteria).length := by
  obtain ⟨hp, hs⟩ := m.follow_inRange hm hk
  have haction : (m.follow k).action = "" := by cases k <;> rfl
  obtain ⟨⟨m', alert⟩, hget⟩ := (exists_getPlats_iff srv (m.follow k) hp hs).2 fun _ h => by
    simp [haction] at h
  have hf := listePlats_for hp hs (getPlats_ok hget)
  refine ⟨m', alert, hget, ?_, ?_, ?_, ?_⟩
  · rw [hf.size_eq]
    omega
  · rw [hf.criteria_eq, m.follow_criteria]
  · rw [hf.sort_eq, m.follow_sort]
  · rw [hf.total_eq, hf.criteria_eq]

/-- A listing shows as many rows as match its criteria. -/
def PlatsModel.Counted (col : Collation) (db : Db) (m : PlatsModel) : Prop :=
  0 < m.page.size ∧
    m.page.totalElements = (PlatRepository.findFiltered col db m.toPlatCriteria).length

/-- **What a sequence of controls leaves of a listing.** -/
theorem walkPlats_ok {m : PlatsModel} (hm : m.Counted col db)
    {ks : List (PlatServer col db × PlatControle)} (hks : ∀ k ∈ ks, k.2.Offered) :
    ∃ m', walkPlats m ks = .ok m' ∧ m'.Counted col db ∧
      m'.toPlatCriteria =
        m.toPlatCriteria.restrict (fun c => (ks.map Prod.snd).all fun k => k.keeps c) ∧
      m'.sort = (colonnes (ks.map Prod.snd)).foldl (fun s k => k.toggle s) m.sort := by
  induction ks generalizing m with
  | nil => exact ⟨m, rfl, hm, rfl, rfl⟩
  | cons k ks ih =>
    obtain ⟨m₁, alert, hget, hsize, hcriteria, hsort, htotal⟩ :=
      getPlats_follow k.1 hm.1 (hks k List.mem_cons_self)
    obtain ⟨m', hwalk, hm', hcriteria', hsort'⟩ := ih ⟨hsize, htotal⟩ fun k' hk' =>
      hks k' (List.mem_cons_of_mem _ hk')
    refine ⟨m', ?_, hm', ?_, ?_⟩
    · rw [walkPlats, List.foldlM_cons, hget]
      exact hwalk
    · rw [hcriteria', hcriteria, PlatCriteria.restrict_restrict]
      rfl
    · rw [hsort', hsort, ← List.foldl_append, colonnes, ← List.filterMap_append]
      rfl

variable (col db) in
/-- **What the controls of the plat listing remember.**  From a listing, any sequence of headers,
page links and page sizes leads to a listing.  A criterion is still there at its end exactly when
each of the controls carries it on; the ordering is that of the headers, one after the other; and
at least as many plats match as at the beginning. -/
theorem walkPlats_criteria (srv : PlatServer col db) (req : PlatsRequest) (hp : 0 ≤ req.page)
    (hs : 1 ≤ req.size) (m : PlatsModel) (hm : listePlats col db srv req = .ok m)
    (ks : List (PlatServer col db × PlatControle)) (hks : ∀ k ∈ ks, k.2.Offered) :
    ∃ m', walkPlats m ks = .ok m' ∧
      m'.toPlatCriteria =
        req.toPlatCriteria.restrict (fun c => (ks.map Prod.snd).all fun k => k.keeps c) ∧
      m'.sort = (colonnes (ks.map Prod.snd)).foldl (fun s k => k.toggle s) req.sort ∧
      PlatRepository.findFiltered col db m.toPlatCriteria ⊆
        PlatRepository.findFiltered col db m'.toPlatCriteria ∧
      m.page.totalElements ≤ m'.page.totalElements := by
  have hf := listePlats_for hp hs hm
  have hcounted : m.Counted col db :=
    ⟨by rw [hf.size_eq]; omega, by rw [hf.total_eq, hf.criteria_eq]⟩
  obtain ⟨m', hwalk, hm', hcriteria, hsort⟩ := walkPlats_ok hcounted hks
  have hsub : PlatRepository.findFiltered col db m.toPlatCriteria ⊆
      PlatRepository.findFiltered col db m'.toPlatCriteria := by
    rw [hcriteria]
    exact findFiltered_restrict col db _ _
  refine ⟨m', hwalk, hf.criteria_eq ▸ hcriteria, hf.sort_eq ▸ hsort, hsub, ?_⟩
  rw [hcounted.2, hm'.2]
  exact ((PlatRepository.nodup_findFiltered col db _).subperm hsub).length_le

end Walk

/-- Sorting by carbohydrates, then by fat: the keyword is all that is left of these criteria. -/
theorem walkPlats_criteria_carte :
    let srv : PlatServer .codePoint carte := QueryServer.sorting (PlatProperty.isOrder _ _)
    let req : PlatsRequest :=
      { motCle := "a", minCalories := some 200, maxGlucides := some 30, maxLipides := some 5 }
    ∃ m m', listePlats .codePoint carte srv req = .ok m ∧
      walkPlats m [(srv, .entete .glucides), (srv, .entete .lipides)] = .ok m' ∧
      m'.toPlatCriteria = { motCle := "a" } ∧ m'.sort = "lipidesAsc" := by
  intro srv req
  obtain ⟨m, hm, -⟩ := listePlats_ok srv req (by decide) (by decide)
  obtain ⟨m', hwalk, hcriteria, hsort, -⟩ := walkPlats_criteria .codePoint carte srv req (by decide)
    (by decide) m hm [(srv, .entete .glucides), (srv, .entete .lipides)]
    (by simp [PlatControle.Offered])
  exact ⟨m, m', hm, hwalk, hcriteria, hsort⟩

/-! ## Where the links lead -/

/-- Where a link leads. -/
inductive Url where
  | accueil
  | menus (req : MenusRequest)
  | plats (req : PlatsRequest)
  | edit (req : EditRequest)
  | platEdit (req : EditPlatRequest)
  | menuDetail (req : MenuDetailRequest)
  | platDetail (req : PlatDetailRequest)
  | menuDelete (req : DeleteMenuRequest)
  | platDelete (req : DeletePlatRequest)

/-- What a link is called on its page. -/
inductive Libelle where
  | accueil
  | plats
  | menus
  | nouveau
  | reinitialiser
  | entete
  | editer
  | details
  | precedent
  | numero
  | suivant
  | filAriane
  | retour
  | modifier
  | supprimer
  | annuler
  deriving DecidableEq, Repr

/-- A link on a page. -/
structure Link where
  libelle : Libelle
  url : Url
  disabled : Bool := false

/-- `_layout.html :: menu`; the first of the links is the brand. -/
def navbar : List Link :=
  [⟨.accueil, .accueil, false⟩, ⟨.accueil, .accueil, false⟩, ⟨.plats, .plats {}, false⟩,
    ⟨.menus, .menus {}, false⟩]

/-- The links of `home.html`. -/
def homeLinks : List Link :=
  [⟨.menus, .menus {}, false⟩, ⟨.plats, .plats {}, false⟩, ⟨.menus, .menus {}, false⟩,
    ⟨.plats, .plats {}, false⟩]

/-- The pagination of a listing, when there is more than one page. -/
def pagination {α : Type} (page : Page α) (link : ℤ → Url) : List Link :=
  if page.totalPages > 1 then
    [⟨.precedent, link (page.number - 1), page.first⟩] ++
      (List.range page.totalPages).map (fun i : ℕ => ⟨.numero, link i, false⟩) ++
      [⟨.suivant, link (page.number + 1), page.last⟩]
  else []

/-- The pagination of `menus.html`. -/
def MenusModel.pagination (m : MenusModel) : List Link :=
  GestionMenus.pagination m.page fun i => .menus { m.pageLink 0 with page := i }

/-- The links of a row of `menus.html`. -/
def MenusModel.rowLinks (m : MenusModel) (x : Menu) : List Link :=
  [⟨.editer,
      .edit { id := x.id, page := m.page.number, size := m.page.size, filtre := m.filtre }, false⟩,
    ⟨.details,
      .menuDetail { id := x.id, page := m.page.number, size := m.page.size, filtre := m.filtre },
      false⟩]

/-- The links of `menus.html`. -/
def MenusModel.links (m : MenusModel) : List Link :=
  [⟨.nouveau, .edit { page := m.page.number, size := m.page.size, filtre := m.filtre }, false⟩,
    ⟨.reinitialiser, .menus {}, false⟩] ++
    [.nom, .prix, .calories].map (fun k => ⟨.entete, .menus (m.entete k), false⟩) ++
    m.menus.flatMap m.rowLinks ++ m.pagination

/-- The pagination of `plats.html`. -/
def PlatsModel.pagination (m : PlatsModel) : List Link :=
  GestionMenus.pagination m.page fun i => .plats { m.pageLink 0 with page := i }

/-- The links of a row of `plats.html`. -/
def PlatsModel.rowLinks (m : PlatsModel) (x : Plat) : List Link :=
  [⟨.editer,
      .platEdit { id := x.id, page := m.page.number, size := m.page.size, motCle := m.motCle },
      false⟩,
    ⟨.details,
      .platDetail { id := x.id, page := m.page.number, size := m.page.size, motCle := m.motCle },
      false⟩]

/-- The links of `plats.html`. -/
def PlatsModel.links (m : PlatsModel) : List Link :=
  [⟨.nouveau, .platEdit { page := m.page.number, size := m.page.size, motCle := m.motCle }, false⟩,
    ⟨.reinitialiser, .plats {}, false⟩] ++
    [.nom, .categorie, .calories, .glucides, .lipides, .proteines].map
      (fun k => ⟨.entete, .plats (m.entete k), false⟩) ++
    m.plats.flatMap m.rowLinks ++ m.pagination

/-- The links of `menuForm.html`.  Resetting the filter of the plats resets `filtre` too, which is
the keyword of the listing. -/
def MenuForm.links (f : MenuForm) : List Link :=
  [⟨.reinitialiser,
      .edit { id := f.menu.id.getD 0, page := f.page, size := f.size, filtre := "" }, false⟩,
    ⟨.annuler, .menus { page := f.page, size := f.size, filtre := f.filtre }, false⟩] ++
    match f.menu.id with
    | some id =>
      if 0 < id then
        [⟨.supprimer,
          .menuDelete { id := id, page := f.page, size := f.size, filtre := f.filtre }, false⟩]
      else []
    | none => []

/-- The links of `platForm.html`. -/
def PlatForm.links (f : PlatForm) : List Link :=
  ⟨.annuler, .plats { page := f.page, size := f.size, motCle := f.motCle }, false⟩ ::
    match f.plat.id with
    | some id =>
      if 0 < id then
        [⟨.supprimer,
          .platDelete { id := id, page := f.page, size := f.size, motCle := f.motCle }, false⟩]
      else []
    | none => []

/-- The links of `menuDetail.html`. -/
def MenuDetail.links (d : MenuDetail) : List Link :=
  [⟨.filAriane, .menus {}, false⟩,
    ⟨.retour, .menus { page := d.page, size := d.size, filtre := d.filtre }, false⟩,
    ⟨.modifier,
      .edit { id := d.menu.id, page := d.page, size := d.size, filtre := d.filtre }, false⟩,
    ⟨.supprimer,
      .menuDelete { id := d.menu.id, page := d.page, size := d.size, filtre := d.filtre }, false⟩]

/-- The links of `platDetail.html`.  The criteria of the last one are attributes the page does not
have. -/
def PlatDetail.links (d : PlatDetail) : List Link :=
  [⟨.filAriane, .plats {}, false⟩,
    ⟨.retour, .plats { page := d.page, size := d.size, motCle := d.motCle }, false⟩,
    ⟨.modifier,
      .platEdit { id := d.plat.id, page := d.page, size := d.size, motCle := d.motCle }, false⟩,
    ⟨.supprimer,
      .platDelete { id := d.plat.id, page := d.page, size := d.size, motCle := d.motCle }, false⟩]

/-- The page in the browser. -/
inductive View where
  | home
  | menus (m : MenusModel) (alert : Option Alert)
  | plats (m : PlatsModel) (alert : Option Alert)
  | menuForm (f : MenuForm)
  | platForm (f : PlatForm)
  | menuDetail (d : MenuDetail)
  | platDetail (d : PlatDetail)

/-- The links of a page. -/
def View.links : View → List Link
  | .home => navbar ++ homeLinks
  | .menus m _ => navbar ++ m.links
  | .plats m _ => navbar ++ m.links
  | .menuForm f => navbar ++ f.links
  | .platForm f => navbar ++ f.links
  | .menuDetail d => navbar ++ d.links
  | .platDetail d => navbar ++ d.links

end GestionMenus
