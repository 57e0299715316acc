import GestionMenus.Web.Site

/-!
# A visit to the site

One browser that goes from page to page: it follows the links of the page it shows, fills in its
forms, and goes back to it when a request fails.

* `Act` is what the user does on a page, or what somebody else does to the store meanwhile.
  `View.request?` is the request an act sends; a disabled link sends none.
* `Visit` is the store and the page, and `Visit.step` what happens.

`rows_reached` says that without others every stored row is a few links away from every page.
`links_open_iff` says which links lead to the page they name, whatever others do to the store;
`links_open` says that without others all of them do, but for the deletion of a plat in use.
`tour_returns` says what is left of a listing after a tour through the other pages.
-/

set_option autoImplicit false

namespace GestionMenus

open Runs

/-! ## The browser -/

/-- What happens next. -/
inductive Act where
  /-- The user follows a link, by its place on the page. -/
  | suivre (i : ℕ)
  /-- The filter form of `menus.html`. -/
  | filtrerMenus (c : MenuCriteria)
  /-- The filter form of `plats.html`. -/
  | filtrerPlats (c : PlatCriteria)
  /-- The page-size form of a listing. -/
  | taille (size : ℕ)
  /-- The filter form of `menuForm.html`. -/
  | filtrer (c : SelectionCriteria)
  /-- A click on the button of an item of `menuForm.html`. -/
  | cliquer (side : MenuForm.Side) (i : ℕ)
  | enregistrerMenu (nom description : String) (prix : ℚ)
  | enregistrerPlat (nom : String) (categorie nbCalories nbGlucides nbLipides nbProteines : ℤ)
  /-- Somebody else has changed the store. -/
  | autre (db : Db)

/-- The request an act sends from a page.  Other pages do not have the form; a disabled link cannot
be followed, a select has only its options, and `validateMenuSelection` may stop a submission. -/
def View.request? (v : View) : Act → Option Requete
  | .suivre i => v.links[i]?.bind fun l => if l.disabled then none else some (.get l.url)
  | .filtrerMenus c =>
    match v with
    | .menus m _ => some (.get (.menus (m.filterForm c)))
    | _ => none
  | .filtrerPlats c =>
    match v with
    | .plats m _ => some (.get (.plats (m.filterForm c)))
    | _ => none
  | .taille size =>
    match v with
    | .menus m _ => if size ∈ menuSizes then some (.get (.menus (m.sizeForm size))) else none
    | .plats m _ => if size ∈ platSizes then some (.get (.plats (m.sizeForm size))) else none
    | _ => none
  | .filtrer c =>
    match v with
    | .menuForm f => some (.get (.edit (f.filterRequest c)))
    | _ => none
  | .enregistrerMenu nom description prix =>
    match v with
    | .menuForm f =>
      if f.validateMenuSelection then some (.saveMenu (f.input nom description prix).request)
      else none
    | _ => none
  | .enregistrerPlat nom categorie nbCalories nbGlucides nbLipides nbProteines =>
    match v with
    | .platForm f =>
      some (.savePlat (f.input nom categorie nbCalories nbGlucides nbLipides nbProteines))
    | _ => none
  | .cliquer _ _ => none
  | .autre _ => none

/-- The store, and the page in the browser. -/
structure Visit where
  db : Db
  view : View

namespace Visit

/-- The site is entered by its first page. -/
def init (db : Db) : Visit := ⟨db, .home⟩

variable {fw : Framework} {col : Collation}

/-- What happens.  After a request that fails, the user goes back to the page it was sent from. -/
def step (s : Visit) (e : Servers fw col × Act) : Visit :=
  match e.2, s.view with
  | .autre db, _ => { s with db := db }
  | .cliquer side i, .menuForm f => { s with view := .menuForm (f.click side i) }
  | act, v =>
    match v.request? act with
    | some r => ⟨(answer e.1 s.db r).1, (answer e.1 s.db r).2.toOption.getD v⟩
    | none => s

/-- **What can happen**: others change the store, an item is clicked, nothing, or a request. -/
theorem step_cases (s : Visit) (e : Servers fw col × Act) :
    (∃ db, e.2 = .autre db ∧ s.step e = { s with db := db }) ∨
    (∃ f side i, s.view = .menuForm f ∧ s.step e = ⟨s.db, .menuForm (f.click side i)⟩) ∨
    s.step e = s ∨
    ∃ r, s.view.request? e.2 = some r ∧
      s.step e = ⟨(answer e.1 s.db r).1, (answer e.1 s.db r).2.toOption.getD s.view⟩ := by
  rw [step]
  split
  · rename_i db h
    exact Or.inl ⟨db, h, rfl⟩
  · rename_i side i f h hv
    exact Or.inr (Or.inl ⟨f, side, i, hv, rfl⟩)
  · split
    · rename_i r hr
      exact Or.inr (Or.inr (Or.inr ⟨r, hr, rfl⟩))
    · exact Or.inr (Or.inr (Or.inl rfl))

end Visit

/-! ## Visits -/

namespace View

/-- **What can be sent from a page**: an enabled link, or one of its forms. -/
inductive Sends : View → Act → Requete → Prop
  | suivre {v : View} {i : ℕ} {l : Link} (hl : v.links[i]? = some l)
      (henabled : l.disabled = false) : Sends v (.suivre i) (.get l.url)
  | filtrerMenus (m : MenusModel) (alert : Option Alert) (c : MenuCriteria) :
      Sends (.menus m alert) (.filtrerMenus c) (.get (.menus (m.filterForm c)))
  | filtrerPlats (m : PlatsModel) (alert : Option Alert) (c : PlatCriteria) :
      Sends (.plats m alert) (.filtrerPlats c) (.get (.plats (m.filterForm c)))
  | tailleMenus (m : MenusModel) (alert : Option Alert) {size : ℕ} (hsize : size ∈ menuSizes) :
      Sends (.menus m alert) (.taille size) (.get (.menus (m.sizeForm size)))
  | taillePlats (m : PlatsModel) (alert : Option Alert) {size : ℕ} (hsize : size ∈ platSizes) :
      Sends (.plats m alert) (.taille size) (.get (.plats (m.sizeForm size)))
  | filtrer (f : MenuForm) (c : SelectionCriteria) :
      Sends (.menuForm f) (.filtrer c) (.get (.edit (f.filterRequest c)))
  | enregistrerMenu (f : MenuForm) (nom description : String) (prix : ℚ)
      (hselection : f.validateMenuSelection = true) :
      Sends (.menuForm f) (.enregistrerMenu nom description prix)
        (.saveMenu (f.input nom description prix).request)
  | enregistrerPlat (f : PlatForm) (nom : String)
      (categorie nbCalories nbGlucides nbLipides nbProteines : ℤ) :
      Sends (.platForm f)
        (.enregistrerPlat nom categorie nbCalories nbGlucides nbLipides nbProteines)
        (.savePlat (f.input nom categorie nbCalories nbGlucides nbLipides nbProteines))

variable {v : View} {act : Act} {r : Requete}

theorem sends_of_request (h : v.request? act = some r) : v.Sends act r := by
  cases act with
  | suivre i =>
    obtain ⟨l, hl, h⟩ := Option.bind_eq_some_iff.1 h
    split_ifs at h with hdisabled
    cases h
    exact .suivre hl (by simpa using hdisabled)
  | filtrerMenus c =>
    cases v <;> cases h
    exact .filtrerMenus _ _ c
  | filtrerPlats c =>
    cases v <;> cases h
    exact .filtrerPlats _ _ c
  | taille size =>
    cases v with
    | menus m alert =>
      simp only [request?] at h
      split_ifs at h with hsize
      cases h
      exact .tailleMenus m alert hsize
    | plats m alert =>
      simp only [request?] at h
      split_ifs at h with hsize
      cases h
      exact .taillePlats m alert hsize
    | _ => cases h
  | filtrer c =>
    cases v <;> cases h
    exact .filtrer _ c
  | cliquer side i => cases h
  | enregistrerMenu nom description prix =>
    cases v with
    | menuForm f =>
      simp only [request?] at h
      split_ifs at h with hselection
      cases h
      exact .enregistrerMenu f nom description prix hselection
    | _ => cases h
  | enregistrerPlat nom categorie nbCalories nbGlucides nbLipides nbProteines =>
    cases v <;> cases h
    exact .enregistrerPlat _ _ _ _ _ _ _
  | autre db => cases h

/-- What is sent from a page asks for a listing that can be asked for. -/
theorem Sends.inRange (h : v.Sends act r) (hv : ∀ c ∈ v.context, c.InRange) :
    ∀ c ∈ r.context, c.InRange := by
  have hmenus : ∀ s ∈ menuSizes, 1 ≤ (s : ℤ) := by decide
  have hplats : ∀ s ∈ platSizes, 1 ≤ (s : ℤ) := by decide
  cases h with
  | suivre hl henabled => exact (links_on (List.mem_of_getElem? hl)).inRange hv henabled
  | filtrerMenus m alert c =>
    rintro _ ⟨⟩
    exact hv (.menus m.page.number m.page.size m.filtre) rfl
  | filtrerPlats m alert c =>
    rintro _ ⟨⟩
    exact hv (.plats m.page.number m.page.size m.motCle) rfl
  | tailleMenus m alert hsize =>
    rintro _ ⟨⟩
    exact ⟨Int.natCast_nonneg _, hmenus _ hsize⟩
  | taillePlats m alert hsize =>
    rintro _ ⟨⟩
    exact ⟨Int.natCast_nonneg _, hplats _ hsize⟩
  | filtrer f c => exact hv
  | enregistrerMenu f nom description prix => exact hv
  | enregistrerPlat f => exact hv

/-- What is sent from a page whose links name stored rows names a stored row. -/
theorem Sends.stored {db : Db} (h : v.Sends act r) (hv : v.Fresh db) : r.Stored db := by
  cases h with
  | suivre hl henabled => exact hv _ (List.mem_of_getElem? hl)
  | filtrer f c =>
    -- the filter is for the menu the reset link is for
    exact hv ⟨.reinitialiser,
      .edit { id := f.menu.id.getD 0, page := f.page, size := f.size, filtre := "" }, false⟩
      (by simp [links, MenuForm.links])
  | _ => trivial

/-- An act of a tour: a link that hands the listing on, or a form of one of the other pages. -/
def Keeps (v : View) : Act → Prop
  | .suivre i => ∀ l ∈ v.links[i]?, l.libelle.keeps = true
  | .filtrer _ | .cliquer _ _ | .enregistrerMenu _ _ _ | .enregistrerPlat _ _ _ _ _ _ => True
  | .filtrerMenus _ | .filtrerPlats _ | .taille _ | .autre _ => False

/-- What is sent on a tour hands the listing on, and nothing else of it. -/
theorem Sends.keeps (h : v.Sends act r) (hkeeps : v.Keeps act) :
    r.context = v.context ∧ r.Bare := by
  cases h with
  | suivre hl henabled => exact (links_on (List.mem_of_getElem? hl)).context (hkeeps _ hl)
  | filtrerMenus => exact hkeeps.elim
  | filtrerPlats => exact hkeeps.elim
  | tailleMenus => exact hkeeps.elim
  | taillePlats => exact hkeeps.elim
  | _ => exact ⟨rfl, trivial⟩

/-- Clicking on items changes neither the links of the form nor where it returns to. -/
theorem click_eq (f : MenuForm) (side : MenuForm.Side) (i : ℕ) :
    (View.menuForm (f.click side i)).links = (View.menuForm f).links ∧
      (View.menuForm (f.click side i)).context = (View.menuForm f).context := by
  have hclick : (f.click side i).menu = f.menu ∧ (f.click side i).page = f.page ∧
      (f.click side i).size = f.size ∧ (f.click side i).filtre = f.filtre := by
    rw [MenuForm.click]
    split
    · exact ⟨rfl, rfl, rfl, rfl⟩
    · split <;> cases side <;> exact ⟨rfl, rfl, rfl, rfl⟩
  obtain ⟨hmenu, hpage, hsize, hfiltre⟩ := hclick
  simp only [links, MenuForm.links, context, hmenu, hpage, hsize, hfiltre, and_self]

end View

namespace Visit

variable {fw : Framework} {col : Collation}

/-- The listing the page is about can be asked for. -/
def InRange (s : Visit) : Prop := ∀ c ∈ s.view.context, c.InRange

/-- **Every page of a visit returns to a listing that can be asked for**, whatever others do. -/
theorem inRange_step (s : Visit) (e : Servers fw col × Act) (hs : s.InRange) :
    (s.step e).InRange := by
  obtain ⟨db, -, h⟩ | ⟨f, side, i, hv, h⟩ | h | ⟨r, hr, h⟩ := s.step_cases e
  · rw [h]
    exact hs
  · rw [h, InRange, (View.click_eq f side i).2, ← hv]
    exact hs
  · rw [h]
    exact hs
  · rw [h]
    cases hanswer : (answer e.1 s.db r).2 with
    | ok v => exact answer_inRange ((View.sends_of_request hr).inRange hs) hanswer
    | error err => exact hs

theorem inRange_run (db : Db) (acts : List (Servers fw col × Act)) :
    (run step (init db) acts).InRange :=
  run_invariant (fun c hc => absurd hc (by simp [init, View.context])) inRange_step acts

/-- A page of the site, in range, with links that name rows that are stored. -/
structure Sound (s : Visit) : Prop where
  navbar : navbar <+: s.view.links
  inRange : s.InRange
  fresh : s.view.Fresh s.db

/-- **With nobody else, every page is one of the site, and its links name stored rows.** -/
theorem Sound.step {s : Visit} (hs : s.Sound) {e : Servers fw col × Act}
    (halone : ∀ db, e.2 ≠ .autre db) : (s.step e).Sound := by
  have hrange := inRange_step s e hs.inRange
  obtain ⟨db, hdb, -⟩ | ⟨f, side, i, hv, h⟩ | h | ⟨r, hr, h⟩ := s.step_cases e
  · exact absurd hdb (halone db)
  · have hlinks : (s.step e).view.links = s.view.links := by
      rw [h, (View.click_eq f side i).1, ← hv]
    refine ⟨hlinks ▸ hs.navbar, hrange, ?_⟩
    rw [View.Fresh, hlinks, h]
    exact hs.fresh
  · rw [h]
    exact hs
  · have hsends := View.sends_of_request hr
    rw [h] at hrange ⊢
    cases hanswer : (answer e.1 s.db r).2 with
    | ok v =>
      rw [hanswer] at hrange
      have hv := answer_ok (hsends.stored hs.fresh) hanswer
      exact ⟨hv.navbar, hrange, hv.fresh⟩
    | error err =>
      -- the user is back on the page, and the store is as it was
      rw [answer_error (hsends.inRange hs.inRange) hanswer]
      exact hs

theorem sound_init (db : Db) : (init db).Sound := by
  have h := View.answers_home db
  exact ⟨h.navbar, fun c hc => absurd hc (by simp [init, View.context]), h.fresh⟩

/-- Nobody else changes the store. -/
def Alone (acts : List (Servers fw col × Act)) : Prop := ∀ e ∈ acts, ∀ db, e.2 ≠ .autre db

theorem sound_run (db : Db) {acts : List (Servers fw col × Act)} (halone : Alone acts) :
    (run step (init db) acts).Sound := by
  induction acts using List.reverseRecOn with
  | nil => exact sound_init db
  | append_singleton acts e ih =>
    rw [run_concat]
    refine (ih fun x hx => halone x (List.mem_append_left _ hx)).step ?_
    exact halone e (List.mem_append_right _ (List.mem_singleton_self e))

/-- A server that sorts stably. -/
def stableServers (fw : Framework) (col : Collation) : Servers fw col :=
  ⟨fun _ => .sorting (MenuProperty.isOrder col), fun db => .sorting (PlatProperty.isOrder col db)⟩

/-! ## Rows that are reached -/

/-- One link after the other; each of the requests may be answered in an order of its own. -/
def clicks (srvs : ℕ → Servers fw col) (s : Visit) : List ℕ → Visit
  | [] => s
  | i :: is => clicks (fun k => srvs (k + 1)) (s.step (srvs 0, .suivre i)) is

variable {srvs : ℕ → Servers fw col} {s : Visit}

/-- A link of the page, as a click. -/
theorem exists_suivre (srv : Servers fw col) {l : Link} (hl : l ∈ s.view.links)
    (henabled : l.disabled = false) :
    ∃ i, s.step (srv, .suivre i) =
      ⟨(answer srv s.db (.get l.url)).1,
        (answer srv s.db (.get l.url)).2.toOption.getD s.view⟩ := by
  obtain ⟨i, hi⟩ := List.getElem?_of_mem hl
  have hrequest : s.view.request? (.suivre i) = some (.get l.url) := by
    rw [View.request?, hi, Option.bind_some, henabled]
    rfl
  exact ⟨i, by simp only [step, hrequest]⟩

/-- A link whose page is known. -/
theorem exists_click {l : Link} (hl : l ∈ s.view.links) (henabled : l.disabled = false) {v : View}
    (h : answer (srvs 0) s.db (.get l.url) = (s.db, .ok v)) :
    ∃ i, s.clicks srvs [i] = ⟨s.db, v⟩ := by
  obtain ⟨i, hi⟩ := exists_suivre (srvs 0) hl henabled
  refine ⟨i, ?_⟩
  rw [clicks, clicks, hi, h]
  rfl

theorem clicks_append (srvs : ℕ → Servers fw col) (s : Visit) (is js : List ℕ) :
    s.clicks srvs (is ++ js) =
      (s.clicks srvs is).clicks (fun k => srvs (k + is.length)) js := by
  induction is generalizing s srvs with
  | nil => rfl
  | cons i is ih => exact ih (fun k => srvs (k + 1)) (s.step (srvs 0, .suivre i))

/-- Clicks that are all answered in the same order. -/
theorem clicks_eq_run (srv : Servers fw col) (s : Visit) (is : List ℕ) :
    s.clicks (fun _ => srv) is = run step s (is.map fun i => (srv, .suivre i)) := by
  induction is generalizing s with
  | nil => rfl
  | cons i is ih => exact ih (s.step (srv, .suivre i))

/-- Whatever order a query is answered in, a row is on one of the pages there are links to, or on
the only one. -/
theorem exists_page {κ π α : Type} {matching : κ → List α} {leBy : π → α → α → Bool} {c : κ}
    (srv : QueryServer matching leBy) (s : SortOrder π) {page : Page α} {x : α}
    (hsize : 0 < page.size) (htotal : page.totalElements = (matching c).length)
    (hx : x ∈ matching c) :
    ∃ n < page.totalPages, x ∈ Paging.slice page.size n (srv.answer c s) := by
  have hlegal := srv.legal c s
  rw [← hlegal.mem_iff, ← Paging.flatMap_slice hsize (srv.answer c s)] at hx
  obtain ⟨n, hn, hx⟩ := List.mem_flatMap.1 hx
  refine ⟨n, ?_, hx⟩
  rw [Page.totalPages, htotal, ← hlegal.length_eq]
  exact List.mem_range.1 hn

theorem mem_pagination {α : Type} {page : Page α} {link : ℤ → Url} {n : ℕ}
    (hn : n < page.totalPages) (hpages : 1 < page.totalPages) :
    ⟨.numero, link n, false⟩ ∈ pagination page link := by
  rw [pagination, if_pos hpages]
  refine List.mem_append_left _ (List.mem_append_right _ ?_)
  exact List.mem_map.2 ⟨n, List.mem_range.2 hn, rfl⟩

/-- The list of the menus is one link away from every page. -/
theorem exists_menus (hnavbar : navbar <+: s.view.links) (srvs : ℕ → Servers fw col) :
    ∃ i m alert, s.clicks srvs [i] = ⟨s.db, .menus m alert⟩ ∧ m.For ((srvs 0).menus s.db) {} := by
  obtain ⟨v, hv⟩ : ∃ v, showMenus (srvs 0) s.db {} = .ok v :=
    exists_showMenus ⟨by decide, by decide⟩ fun h => absurd h (by decide)
  obtain ⟨m, alert, rfl, -, hf, -⟩ := showMenus_ok hv
  have hlink : ⟨.menus, .menus {}, false⟩ ∈ s.view.links := hnavbar.subset (by simp [navbar])
  obtain ⟨i, hi⟩ : ∃ i, s.clicks srvs [i] = ⟨s.db, .menus m alert⟩ :=
    exists_click hlink rfl (by rw [answer, hv])
  exact ⟨i, m, alert, hi, hf⟩

theorem exists_plats (hnavbar : navbar <+: s.view.links) (srvs : ℕ → Servers fw col) :
    ∃ i m alert, s.clicks srvs [i] = ⟨s.db, .plats m alert⟩ ∧ m.For ((srvs 0).plats s.db) {} := by
  obtain ⟨v, hv⟩ : ∃ v, showPlats (srvs 0) s.db {} = .ok v :=
    exists_showPlats ⟨by decide, by decide⟩ fun h => absurd h (by decide)
  obtain ⟨m, alert, rfl, -, hf, -⟩ := showPlats_ok hv
  have hlink : ⟨.plats, .plats {}, false⟩ ∈ s.view.links := hnavbar.subset (by simp [navbar])
  obtain ⟨i, hi⟩ : ∃ i, s.clicks srvs [i] = ⟨s.db, .plats m alert⟩ :=
    exists_click hlink rfl (by rw [answer, hv])
  exact ⟨i, m, alert, hi, hf⟩

/-- **Every menu is listed**, two links away from every page. -/
theorem menus_reached (hnavbar : navbar <+: s.view.links) (srvs : ℕ → Servers fw col) {x : Menu}
    (hx : x ∈ s.db.tables.menu) :
    ∃ is m alert, is.length ≤ 2 ∧ s.clicks srvs is = ⟨s.db, .menus m alert⟩ ∧ x ∈ m.menus := by
  obtain ⟨i, m, alert, hi, hf⟩ := exists_menus hnavbar srvs
  have hall : x ∈ MenuRepository.findFiltered col s.db {} :=
    MenuRepository.mem_findFiltered.2 ⟨hx, Or.inl onlySpaces_empty, by constructor <;> simp⟩
  have hsize : m.page.size = 10 := hf.size_eq
  have hpage : ∀ srv : Servers fw col, ∃ n < m.page.totalPages,
      x ∈ Paging.slice 10 n ((srv.menus s.db).answer {} (menuSortOrder "")) := fun srv =>
    hsize ▸ exists_page (srv.menus s.db) _ (hsize ▸ Nat.zero_lt_succ 9) hf.total_eq hall
  by_cases hpages : 1 < m.page.totalPages
  · obtain ⟨n, hn, hslice⟩ := hpage (srvs 1)
    -- the page link asks the query of the first page again
    have hreq : { m.pageLink 0 with page := n } = ({ page := n } : MenusRequest) := by
      have hfiltre : m.filtre = "" := congrArg MenuCriteria.filtre hf.criteria_eq
      simp [MenusModel.pageLink, hfiltre, hf.sort_eq, hsize]
    obtain ⟨v, hv₁⟩ : ∃ v, showMenus (srvs 1) s.db { page := n } = .ok v :=
      exists_showMenus ⟨Int.natCast_nonneg n, (by decide : (1 : ℤ) ≤ 10)⟩
        fun h => absurd h (by simp)
    obtain ⟨m₁, alert₁, rfl, -, hf₁, -⟩ := showMenus_ok hv₁
    have hlink₁ : ⟨.numero, .menus { m.pageLink 0 with page := n }, false⟩ ∈
        (View.menus m alert).links :=
      List.mem_append_right _ (List.mem_append_right _ (mem_pagination hn hpages))
    obtain ⟨j, hj⟩ : ∃ j, (s.clicks srvs [i]).clicks (fun k => srvs (k + 1)) [j] =
        ⟨s.db, .menus m₁ alert₁⟩ := by
      rw [hi]
      exact exists_click hlink₁ rfl (by rw [hreq, answer, hv₁])
    refine ⟨[i] ++ [j], m₁, alert₁, by simp, (clicks_append srvs s [i] [j]).trans hj, ?_⟩
    exact hf₁.perm.mem_iff.2 hslice
  · obtain ⟨n, hn, hslice⟩ := hpage (srvs 0)
    obtain rfl : n = 0 := by omega
    exact ⟨[i], m, alert, by simp, hi, hf.perm.mem_iff.2 hslice⟩

/-- **Every plat is listed**, two links away from every page. -/
theorem plats_reached (hnavbar : navbar <+: s.view.links) (srvs : ℕ → Servers fw col) {x : Plat}
    (hx : x ∈ s.db.tables.plat) :
    ∃ is m alert, is.length ≤ 2 ∧ s.clicks srvs is = ⟨s.db, .plats m alert⟩ ∧ x ∈ m.plats := by
  obtain ⟨i, m, alert, hi, hf⟩ := exists_plats hnavbar srvs
  have hall : x ∈ PlatRepository.findFiltered col s.db {} := by
    refine PlatRepository.mem_findFiltered.2 ⟨hx, ?_⟩
    constructor
    case motCle => exact Or.inl onlySpaces_empty
    all_goals simp
  have hsize : m.page.size = 10 := hf.size_eq
  have hpage : ∀ srv : Servers fw col, ∃ n < m.page.totalPages,
      x ∈ Paging.slice 10 n ((srv.plats s.db).answer {} (platSortOrder "")) := fun srv =>
    hsize ▸ exists_page (srv.plats s.db) _ (hsize ▸ Nat.zero_lt_succ 9) hf.total_eq hall
  by_cases hpages : 1 < m.page.totalPages
  · obtain ⟨n, hn, hslice⟩ := hpage (srvs 1)
    have hreq : { m.pageLink 0 with page := n } = ({ page := n } : PlatsRequest) := by
      simp [PlatsModel.pageLink, PlatCriteria.linked, hf.criteria_eq, hf.sort_eq, hsize]
    obtain ⟨v, hv₁⟩ : ∃ v, showPlats (srvs 1) s.db { page := n } = .ok v :=
      exists_showPlats ⟨Int.natCast_nonneg n, (by decide : (1 : ℤ) ≤ 10)⟩
        fun h => absurd h (by simp)
    obtain ⟨m₁, alert₁, rfl, -, hf₁, -⟩ := showPlats_ok hv₁
    have hlink₁ : ⟨.numero, .plats { m.pageLink 0 with page := n }, false⟩ ∈
        (View.plats m alert).links :=
      List.mem_append_right _ (List.mem_append_right _ (mem_pagination hn hpages))
    obtain ⟨j, hj⟩ : ∃ j, (s.clicks srvs [i]).clicks (fun k => srvs (k + 1)) [j] =
        ⟨s.db, .plats m₁ alert₁⟩ := by
      rw [hi]
      exact exists_click hlink₁ rfl (by rw [hreq, answer, hv₁])
    refine ⟨[i] ++ [j], m₁, alert₁, by simp, (clicks_append srvs s [i] [j]).trans hj, ?_⟩
    rw [hf₁.plats_eq]
    exact hslice
  · obtain ⟨n, hn, hslice⟩ := hpage (srvs 0)
    obtain rfl : n = 0 := by omega
    refine ⟨[i], m, alert, by simp, hi, ?_⟩
    rw [hf.plats_eq]
    exact hslice

/-- From a listing on to what a link of a row leads to. -/
theorem exists_row_click {is : List ℕ} {v : View} (hlength : is.length ≤ 2)
    (his : s.clicks srvs is = ⟨s.db, v⟩) {l : Link} (hl : l ∈ v.links)
    (henabled : l.disabled = false) {w : View}
    (h : ∀ srv : Servers fw col, answer srv s.db (.get l.url) = (s.db, .ok w)) :
    ∃ js, js.length ≤ 3 ∧ s.clicks srvs js = ⟨s.db, w⟩ := by
  obtain ⟨i, hi⟩ : ∃ i, (s.clicks srvs is).clicks (fun k => srvs (k + is.length)) [i] =
      ⟨s.db, w⟩ := by
    rw [his]
    exact exists_click hl henabled (h _)
  refine ⟨is ++ [i], ?_, (clicks_append srvs s is [i]).trans hi⟩
  rw [List.length_append, List.length_singleton]
  omega

/-- **Every menu is reached**: its page, and the form to edit it. -/
theorem menu_reached (hnavbar : navbar <+: s.view.links) (srvs : ℕ → Servers fw col) {x : Menu}
    (hx : x ∈ s.db.tables.menu) :
    (∃ is d, is.length ≤ 3 ∧ s.clicks srvs is = ⟨s.db, .menuDetail d⟩ ∧ d.menu = x ∧
      d.plats = s.db.platsOf x.id) ∧
    ∃ is req f, is.length ≤ 3 ∧ s.clicks srvs is = ⟨s.db, .menuForm f⟩ ∧
      editMenu col s.db req = .menuForm f ∧ req.id = x.id ∧ req.toSelectionCriteria = {} ∧
      f.menu = ⟨some x.id, x.nom, x.description, x.prix⟩ ∧
      f.hiddenPlatInputs = s.db.platIdsOf x.id := by
  obtain ⟨is, m, alert, hlength, his, hmem⟩ := menus_reached hnavbar srvs hx
  have hrow : ∀ l ∈ m.rowLinks x, l ∈ (View.menus m alert).links := fun l hl =>
    List.mem_append_right _ (List.mem_append_left _ (List.mem_append_right _
      (List.mem_flatMap.2 ⟨x, hmem, hl⟩)))
  constructor
  · obtain ⟨js, hjs, h⟩ := exists_row_click hlength his (hrow _ (.tail _ (.head _))) rfl
      (fun _ => by rw [answer, showMenuDetail_stored hx rfl])
    exact ⟨js, _, hjs, h, rfl, rfl⟩
  · let req : EditRequest :=
      { id := x.id, page := m.page.number, size := m.page.size, filtre := m.filtre }
    obtain ⟨f, hf, hmenu, hplats⟩ := editMenu_stored col hx (rfl : req.id = x.id)
    obtain ⟨js, hjs, h⟩ := exists_row_click hlength his (hrow _ (.head _)) rfl
      (fun _ => by rw [answer, hf])
    exact ⟨js, req, f, hjs, h, hf, rfl, rfl, hmenu, hplats⟩

/-- **Every plat is reached**: its page, and the form to edit it. -/
theorem plat_reached (hnavbar : navbar <+: s.view.links) (srvs : ℕ → Servers fw col) {x : Plat}
    (hx : x ∈ s.db.tables.plat) :
    (∃ is d, is.length ≤ 3 ∧ s.clicks srvs is = ⟨s.db, .platDetail d⟩ ∧ d.plat = x ∧
      d.categorieNom = s.db.categorieNom x) ∧
    ∃ is f, is.length ≤ 3 ∧ s.clicks srvs is = ⟨s.db, .platForm f⟩ ∧ f.plat = x.bean s.db := by
  obtain ⟨is, m, alert, hlength, his, hmem⟩ := plats_reached hnavbar srvs hx
  have hrow : ∀ l ∈ m.rowLinks x, l ∈ (View.plats m alert).links := fun l hl =>
    List.mem_append_right _ (List.mem_append_left _ (List.mem_append_right _
      (List.mem_flatMap.2 ⟨x, hmem, hl⟩)))
  constructor
  · obtain ⟨js, hjs, h⟩ := exists_row_click hlength his (hrow _ (.tail _ (.head _))) rfl
      (fun _ => by rw [answer, showPlatDetail_stored hx rfl])
    exact ⟨js, _, hjs, h, rfl, rfl⟩
  · let req : EditPlatRequest :=
      { id := x.id, page := m.page.number, size := m.page.size, motCle := m.motCle }
    obtain ⟨f, hf, hplat, -⟩ := editPlat_stored hx (rfl : req.id = x.id)
    obtain ⟨js, hjs, h⟩ := exists_row_click hlength his (hrow _ (.head _)) rfl
      (fun _ => by rw [answer, hf])
    exact ⟨js, f, hjs, h, hplat⟩

/-- **Every row is reached.**  After any visit of one user alone, every menu and every plat that is
stored is at most three links away from the page: its own page is, with what is stored of it, and so
is the form to edit it.  Each of the links may be answered in an order of its own. -/
theorem rows_reached (db : Db) (acts : List (Servers fw col × Act)) (halone : Alone acts)
    (srvs : ℕ → Servers fw col) :
    let s := run step (init db) acts
    (∀ x ∈ s.db.tables.menu,
      (∃ is d, is.length ≤ 3 ∧ s.clicks srvs is = ⟨s.db, .menuDetail d⟩ ∧ d.menu = x ∧
        d.plats = s.db.platsOf x.id) ∧
      ∃ is f, is.length ≤ 3 ∧ s.clicks srvs is = ⟨s.db, .menuForm f⟩ ∧
        f.menu = ⟨some x.id, x.nom, x.description, x.prix⟩ ∧
        f.hiddenPlatInputs = s.db.platIdsOf x.id) ∧
    ∀ x ∈ s.db.tables.plat,
      (∃ is d, is.length ≤ 3 ∧ s.clicks srvs is = ⟨s.db, .platDetail d⟩ ∧ d.plat = x ∧
        d.categorieNom = s.db.categorieNom x) ∧
      ∃ is f, is.length ≤ 3 ∧ s.clicks srvs is = ⟨s.db, .platForm f⟩ ∧ f.plat = x.bean s.db := by
  intro s
  have hnavbar := (sound_run db halone).navbar
  refine ⟨?_, fun x hx => plat_reached hnavbar srvs hx⟩
  intro x hx
  obtain ⟨hdetail, is, -, f, hlength, his, -, -, -, hf⟩ := menu_reached hnavbar srvs hx
  exact ⟨hdetail, is, f, hlength, his, hf⟩

/-- The first menu of the carte, from the page the carte is listed on. -/
theorem rows_reached_carte :
    let srv := stableServers .byName .codePoint
    let acts := [(srv, Act.suivre 3)]
    let s := run step (init carte) acts
    Alone acts ∧ ∃ is d, is.length ≤ 3 ∧ s.clicks (fun _ => srv) is = ⟨carte, .menuDetail d⟩ ∧
      d.menu.nom = some "Midi" := by
  intro srv acts s
  have halone : Alone acts := by simp [acts, Alone]
  obtain ⟨⟨is, d, hlength, h, hmenu, -⟩, -⟩ :=
    (rows_reached carte acts halone fun _ => srv).1 ⟨1, some "", some "Midi", 10⟩ (by decide)
  exact ⟨halone, is, d, hlength, h, by rw [hmenu]⟩

/-! ## The links of a visit -/

/-- **Which links of a visit lead to the page they name.**  After any visit, whatever others do to
the store in it, an enabled link of the page leads to what it names if and only if the row it names
is still stored, and no menu contains the plat it is to delete.  A link that does not leaves every
table as it is. -/
theorem links_open_iff (db : Db) (acts : List (Servers fw col × Act)) (srv : Servers fw col)
    (l : Link) (hl : l ∈ (run step (init db) acts).view.links) (henabled : l.disabled = false) :
    let s := run step (init db) acts
    (Opens srv s.db l.url ↔ l.url.Stored s.db ∧ l.url.Allowed s.db) ∧
      (¬ Opens srv s.db l.url → (answer srv s.db (.get l.url)).1.tables = s.db.tables) := by
  intro s
  have hon := View.links_on hl
  have hopens : Opens srv s.db l.url ↔ l.url.Stored s.db ∧ l.url.Allowed s.db :=
    opens_iff hon.plain (hon.inRange (inRange_run db acts) henabled)
  exact ⟨hopens, fun h => answer_tables (mt hopens.2 h)⟩

/-- On the list of the menus, while somebody else deletes the first of them: the link to its form
leads nowhere and changes nothing, and the link to the form of a new menu leads there. -/
theorem links_open_iff_carte :
    let srv := stableServers .byName .codePoint
    ∃ (is : List ℕ) (db' : Db), deleteMenu carte { id := 1 } = .ok (db', { action := "del" }) ∧
      let s := run step (init carte)
        (is.map (fun i => (srv, .suivre i)) ++ [(srv, .autre db')])
      (∃ l ∈ s.view.links, l.libelle = .editer ∧ ¬ Opens srv s.db l.url ∧
        (answer srv s.db (.get l.url)).1.tables = s.db.tables) ∧
      ∃ l ∈ s.view.links, l.libelle = .nouveau ∧ Opens srv s.db l.url := by
  intro srv
  obtain ⟨db', hdel, ht, -⟩ := deleteMenu_ok carte { id := 1 }
  have hgone : ¬ db'.HasMenu 1 := by
    rw [Db.HasMenu, ht]
    decide
  obtain ⟨is, m, alert, -, his, hmem⟩ := menus_reached (s := init carte) (sound_init carte).navbar
    (fun _ => srv) (x := ⟨1, some "", some "Midi", 10⟩) (by decide)
  refine ⟨is, db', hdel, ?_⟩
  intro s
  have hs : s = ⟨db', .menus m alert⟩ := by
    show run step _ (_ ++ _) = _
    rw [run_append, ← clicks_eq_run, his]
    rfl
  have hrow : ⟨.editer,
      .edit { id := 1, page := m.page.number, size := m.page.size, filtre := m.filtre }, false⟩ ∈
        s.view.links := by
    rw [hs]
    exact List.mem_append_right _ (List.mem_append_left _ (List.mem_append_right _
      (List.mem_flatMap.2 ⟨_, hmem, .head _⟩)))
  have hnew : ⟨.nouveau,
      .edit { page := m.page.number, size := m.page.size, filtre := m.filtre }, false⟩ ∈
        s.view.links := by
    rw [hs]
    exact List.mem_append_right _ (List.mem_append_left _ (List.mem_append_left _
      (List.mem_append_left _ (.head _))))
  have hdb : s.db = db' := by rw [hs]
  obtain ⟨hopens, htables⟩ := links_open_iff carte _ srv _ hrow rfl
  have hno := fun h => hgone (hdb ▸ (hopens.1 h).1 (by decide : (1 : ℤ) ≠ 0))
  refine ⟨⟨_, hrow, rfl, hno, htables hno⟩, _, hnew, rfl, ?_⟩
  exact (links_open_iff carte _ srv _ hnew rfl).1.2 ⟨fun h => absurd rfl h, trivial⟩

/-- **No dead links.**  After any visit of one user alone, every enabled link of the page leads to
what it names; all but the deletion of a plat that a menu contains, which is refused and leaves the
store as it was. -/
theorem links_open (db : Db) (acts : List (Servers fw col × Act)) (halone : Alone acts)
    (srv : Servers fw col) (l : Link) (hl : l ∈ (run step (init db) acts).view.links)
    (henabled : l.disabled = false) :
    let s := run step (init db) acts
    (l.url.Allowed s.db → Opens srv s.db l.url) ∧
      (¬ l.url.Allowed s.db →
        answer srv s.db (.get l.url) = (s.db, .error (.store (.foreignKey .menuPlat)))) := by
  intro s
  have hon := View.links_on hl
  refine ⟨fun h => ?_, fun h => ?_⟩
  · refine (opens_iff hon.plain (hon.inRange (inRange_run db acts) henabled)).2 ⟨?_, h⟩
    exact (sound_run db halone).fresh l hl
  · cases hurl : l.url with
    | platDelete req =>
      cases hdel : deletePlat s.db req with
      | ok x => exact absurd (hurl ▸ (deletePlat_ok hdel).1) h
      | error e => rw [answer, hdel, thenPlats, (deletePlat_error hdel).1]
    | _ => exact absurd (by rw [hurl]; trivial) h

theorem links_open_carte :
    let srv := stableServers .byName .codePoint
    let acts := [(srv, Act.suivre 3), (srv, .suivre 4)]
    Alone acts ∧ ∃ l ∈ (run step (init carte) acts).view.links, l.libelle = .annuler ∧
      Opens srv (run step (init carte) acts).db l.url := by
  intro srv acts
  have halone : Alone acts := by simp [acts, Alone]
  have hl : ⟨.annuler, .menus {}, false⟩ ∈ (run step (init carte) acts).view.links :=
    List.mem_of_getElem? (i := 5) rfl
  refine ⟨halone, _, hl, rfl, ?_⟩
  exact (links_open carte acts halone srv _ hl rfl).1 trivial

/-! ## Tours -/

/-- **An act of a tour**: the page returns to the same listing, and if it is another listing it has
nothing but the keyword. -/
theorem Sound.tour_step {s : Visit} (hs : s.Sound) {e : Servers fw col × Act}
    (hkeeps : s.view.Keeps e.2) :
    (s.step e).view.context = s.view.context ∧
      ((s.step e).view = s.view ∨ (s.step e).view.Bare) := by
  obtain ⟨db, hdb, -⟩ | ⟨f, side, i, hv, h⟩ | h | ⟨r, hr, h⟩ := s.step_cases e
  · rw [hdb] at hkeeps
    exact hkeeps.elim
  · rw [h, hv]
    exact ⟨(View.click_eq f side i).2, Or.inr trivial⟩
  · rw [h]
    exact ⟨rfl, Or.inl rfl⟩
  · have hsends := View.sends_of_request hr
    obtain ⟨hcontext, hbare⟩ := hsends.keeps hkeeps
    rw [h]
    cases hanswer : (answer e.1 s.db r).2 with
    | ok v =>
      have hv := answer_ok (hsends.stored hs.fresh) hanswer
      exact ⟨hv.context.trans hcontext, Or.inr (hv.bare hbare)⟩
    | error err => exact ⟨rfl, Or.inl rfl⟩

/-- What holds along a tour. -/
theorem Sound.tour_run {s : Visit} (hs : s.Sound) {tour : List (Servers fw col × Act)}
    (htour : ∀ a e b, tour = a ++ e :: b → (run Visit.step s a).view.Keeps e.2) :
    (run Visit.step s tour).Sound ∧ (run Visit.step s tour).view.context = s.view.context ∧
      ((run Visit.step s tour).view = s.view ∨ (run Visit.step s tour).view.Bare) := by
  induction tour using List.reverseRecOn with
  | nil => exact ⟨hs, rfl, Or.inl rfl⟩
  | append_singleton tour e ih =>
    obtain ⟨ht, hcontext, hbare⟩ := ih fun a e' b hab => htour a e' (b ++ [e]) (by rw [hab]; simp)
    have hkeeps := htour tour e [] rfl
    have halone : ∀ db, e.2 ≠ .autre db := by
      intro db he
      rw [he] at hkeeps
      exact hkeeps
    obtain ⟨hcontext', hsame | hbare'⟩ := ht.tour_step hkeeps
    · rw [run_concat, hcontext', hsame]
      exact ⟨ht.step halone, hcontext, hbare⟩
    · rw [run_concat, hcontext']
      exact ⟨ht.step halone, hcontext, Or.inr hbare'⟩

/-- **A tour returns to its listing.**  A user alone on the site leaves a page on a tour through
forms and details: new rows, edits, details, saves, deletions, with requests that fail among them.
Wherever the tour ends, the page returns to the listing the tour started from, the same page of it,
of the same size and with the same keyword; if it is a listing and not the page the tour started
from, then the keyword is all that is left of the criteria, and the listing is in no order. -/
theorem tour_returns (db : Db) (acts tour : List (Servers fw col × Act)) (halone : Alone acts)
    (htour : ∀ a e b, tour = a ++ e :: b →
      (run step (run step (init db) acts) a).view.Keeps e.2) :
    let s := run step (init db) acts
    let t := run step s tour
    t.view.context = s.view.context ∧ (t.view = s.view ∨ t.view.Bare) :=
  ((sound_run db halone).tour_run htour).2

/-- From a listing with a keyword and a price to the form of a new menu and back. -/
theorem tour_returns_carte :
    let srv := stableServers .byName .codePoint
    let acts := [(srv, Act.suivre 3), (srv, .filtrerMenus { filtre := "i", prixMin := some 5 })]
    let tour := [(srv, Act.suivre 4), (srv, .suivre 5)]
    let t := run step (run step (init carte) acts) tour
    t.view.context = some (.menus 0 10 "i") ∧ ∃ m alert, t.view = .menus m alert ∧
      m.toMenuCriteria = { filtre := "i" } := by
  intro srv acts tour t
  have halone : Alone acts := by simp [acts, Alone]
  have htour : ∀ a e b, tour = a ++ e :: b →
      (run step (run step (init carte) acts) a).view.Keeps e.2 := by
    intro a e b hab
    match a, hab with
    | [], hab =>
      rw [← (List.cons.inj hab).1]
      rintro l ⟨⟩
      rfl
    | [x], hab =>
      obtain ⟨hx, hab⟩ := List.cons.inj hab
      rw [← (List.cons.inj hab).1, ← hx]
      rintro l ⟨⟩
      rfl
    | _ :: _ :: a, hab => simp [tour] at hab
  obtain ⟨hcontext, -⟩ := tour_returns carte acts tour halone htour
  exact ⟨hcontext, _, _, rfl, rfl⟩

end Visit

end GestionMenus
