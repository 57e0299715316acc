import GestionMenus.Web.Links
import GestionMenus.Web.Redirect
import GestionMenus.Web.Saving

/-!
# The answers of the site

What a request of the browser leads to, redirects included, and what the page it leads to has to do
with the request.

* `answer` is the store a request leaves, and the page or the error.
* `Context` is where a page returns to: the page of a listing, its size, and the keyword.  All pages
  but the first one hand it on.
* `Link.On` says what is known of every link of a page, and `View.Answers` what is known of the page
  a request is answered with; both are proved once for every template.

`opens_iff` says which links lead to the page they name: those whose row is stored, and that do not
delete a plat in use.  `answer_tables` says that the others change nothing.  The form of a menu that
is gone is the one request that ends in the redirect of `Redirect`, which the browser follows like
any other; `answer_edit_gone` says where it gets to.
-/

set_option autoImplicit false

namespace GestionMenus

/-! ## The answers -/

/-- How the server of a site with this framework and this collation answers the queries of a
request, whatever is stored. -/
structure Servers (fw : Framework) (col : Collation) where
  menus : ∀ db, MenuServer col db
  plats : ∀ db, PlatServer col db

/-- What the browser sends. -/
inductive Requete where
  | get (url : Url)
  | saveMenu (req : SaveMenuRequest)
  | savePlat (i : PlatInput)

section Answer

variable {fw : Framework} {col : Collation} (srv : Servers fw col) (db : Db)

/-- `GET /menus` in the browser. -/
def showMenus (req : MenusRequest) : Except WebError View := do
  let (m, alert) ← getMenus col db (srv.menus db) req
  return .menus m alert

/-- `GET /plats` in the browser. -/
def showPlats (req : PlatsRequest) : Except WebError View := do
  let (m, alert) ← getPlats col db (srv.plats db) req
  return .plats m alert

/-- The store a request leaves, and the list of the menus it redirects to. -/
def thenMenus : Except WebError (Db × MenusRequest) → Db × Except WebError View
  | .ok (db', req) => (db', showMenus srv db' req)
  | .error e => (db, .error e)

/-- The store a request leaves, and the list of the plats it redirects to. -/
def thenPlats : Except WebError (Db × PlatsRequest) → Db × Except WebError View
  | .ok (db', req) => (db', showPlats srv db' req)
  | .error e => (db, .error e)

/-- The list of the menus at the end of the redirect `editMenu` has put together by hand, or the
error of a URL that cannot be read. -/
def followRedirect (viewName : String) : Except WebError View :=
  match followed fw.malformed (.redirect viewName) with
  | some t => do showMenus srv db (← fw.arguments t)
  | none => .error (.rendering viewName)

/-- What a request leads to: the store, and the page or the error. -/
def answer : Requete → Db × Except WebError View
  | .get .accueil => (db, .ok .home)
  | .get (.menus req) => (db, showMenus srv db req)
  | .get (.plats req) => (db, showPlats srv db req)
  | .get (.edit req) =>
    (db,
      match editMenu col db req with
      | .menuForm f => .ok (.menuForm f)
      | .redirect viewName => followRedirect srv db viewName)
  | .get (.platEdit req) =>
    (db,
      match editPlat db req with
      | .platForm f => .ok (.platForm f)
      | .redirect req => showPlats srv db req)
  | .get (.menuDetail req) =>
    (db,
      match showMenuDetail db req with
      | .menuDetail d => .ok (.menuDetail d)
      | .redirect req => showMenus srv db req)
  | .get (.platDetail req) =>
    (db,
      match showPlatDetail db req with
      | .platDetail d => .ok (.platDetail d)
      | .redirect req => showPlats srv db req)
  | .get (.menuDelete req) => thenMenus srv db (deleteMenu db req)
  | .get (.platDelete req) => thenPlats srv db (deletePlat db req)
  | .saveMenu req => thenMenus srv db (saveMenu db req)
  | .savePlat i => thenPlats srv db (i.save db)

end Answer

/-! ## Where a page returns to -/

/-- The page of a listing, its size, and its keyword. -/
inductive Context where
  | menus (page size : ℤ) (filtre : String)
  | plats (page size : ℤ) (motCle : String)
  deriving DecidableEq

/-- The listing can be asked for. -/
def Context.InRange : Context → Prop
  | .menus page size _ => 0 ≤ page ∧ 1 ≤ size
  | .plats page size _ => 0 ≤ page ∧ 1 ≤ size

/-- The listing a page is about or returns to. -/
def View.context : View → Option Context
  | .home => none
  | .menus m _ => some (.menus m.page.number m.page.size m.filtre)
  | .plats m _ => some (.plats m.page.number m.page.size m.motCle)
  | .menuForm f => some (.menus f.page f.size f.filtre)
  | .platForm f => some (.plats f.page f.size f.motCle)
  | .menuDetail d => some (.menus d.page d.size d.filtre)
  | .platDetail d => some (.plats d.page d.size d.motCle)

/-- The listing a link carries on. -/
def Url.context : Url → Option Context
  | .accueil => none
  | .menus req => some (.menus req.page req.size req.filtre)
  | .plats req => some (.plats req.page req.size req.motCle)
  | .edit req => some (.menus req.page req.size req.filtre)
  | .platEdit req => some (.plats req.page req.size req.motCle)
  | .menuDetail req => some (.menus req.page req.size req.filtre)
  | .platDetail req => some (.plats req.page req.size req.motCle)
  | .menuDelete req => some (.menus req.page req.size req.filtre)
  | .platDelete req => some (.plats req.page req.size req.motCle)

def Requete.context : Requete → Option Context
  | .get url => url.context
  | .saveMenu req => some (.menus req.page req.size req.filtre)
  | .savePlat i => some (.plats i.page i.size i.motCle)

/-- The row a link names is stored. -/
def Url.Stored (db : Db) : Url → Prop
  | .edit req => req.id ≠ 0 → db.HasMenu req.id
  | .platEdit req => req.id ≠ 0 → db.HasPlat req.id
  | .menuDetail req => db.HasMenu req.id
  | .platDetail req => db.HasPlat req.id
  | .menuDelete req => db.HasMenu req.id
  | .platDelete req => db.HasPlat req.id
  | .accueil | .menus _ | .plats _ => True

/-- A link that deletes a plat names one no menu contains. -/
def Url.Allowed (db : Db) : Url → Prop
  | .platDelete req => ∀ row ∈ db.tables.menuPlat, row.platId ≠ req.id
  | _ => True

/-- A link to a listing that confirms nothing. -/
def Url.Plain : Url → Prop
  | .menus req => req.action = ""
  | .plats req => req.action = ""
  | _ => True

/-- A link to a listing without criteria other than the keyword, and in no order. -/
def Url.Bare : Url → Prop
  | .menus req => req.toMenuCriteria = { filtre := req.filtre } ∧ req.sort = ""
  | .plats req => req.toPlatCriteria = { motCle := req.motCle } ∧ req.sort = ""
  | _ => True

/-- The links that hand the listing on as it is. -/
def Libelle.keeps : Libelle → Bool
  | .nouveau | .editer | .details | .retour | .modifier | .supprimer | .annuler => true
  | _ => false

/-- **What is known of a link of a page.** -/
structure Link.On (l : Link) (v : View) : Prop where
  plain : l.url.Plain
  inRange : (∀ c ∈ v.context, c.InRange) → l.disabled = false → ∀ c ∈ l.url.context, c.InRange
  context : l.libelle.keeps = true → l.url.context = v.context ∧ l.url.Bare

namespace Link.On

variable {l : Link} {v : View}

/-- A link that hands the listing on. -/
theorem of_context (hplain : l.url.Plain) (hcontext : l.url.context = v.context)
    (hbare : l.url.Bare) : l.On v :=
  ⟨hplain, fun hv _ c hc => hv c (hcontext ▸ hc), fun _ => ⟨hcontext, hbare⟩⟩

/-- A link that leads elsewhere. -/
theorem of_not_keeps (hplain : l.url.Plain) (hkeeps : l.libelle.keeps = false)
    (hrange : (∀ c ∈ v.context, c.InRange) → l.disabled = false → ∀ c ∈ l.url.context, c.InRange) :
    l.On v :=
  ⟨hplain, hrange, fun h => absurd (hkeeps.symm.trans h) (by simp)⟩

/-- The navigation bar, and the first page. -/
theorem of_start (hl : l ∈ navbar ++ homeLinks) : l.On v := by
  have hmenus : (Context.menus 0 10 "").InRange := ⟨by decide, by decide⟩
  have hplats : (Context.plats 0 10 "").InRange := ⟨by decide, by decide⟩
  simp only [navbar, homeLinks, List.cons_append, List.nil_append, List.mem_cons, List.not_mem_nil,
    or_false] at hl
  rcases hl with rfl | rfl | rfl | rfl | rfl | rfl | rfl | rfl <;>
    refine of_not_keeps (by simp [Url.Plain]) rfl ?_ <;>
    simp [Url.context, hmenus, hplats]

/-- The pagination: its links can be followed from a listing of some size. -/
theorem of_pagination {α : Type} {page : Page α} {link : ℤ → Url} (hl : l ∈ pagination page link)
    (hplain : ∀ i, (link i).Plain)
    (hrange : (∀ c ∈ v.context, c.InRange) → ∀ i, 0 ≤ i → ∀ c ∈ (link i).context, c.InRange) :
    l.On v := by
  rw [pagination] at hl
  split_ifs at hl
  · simp only [List.mem_append, List.mem_singleton, List.mem_map] at hl
    rcases hl with (rfl | ⟨i, -, rfl⟩) | rfl
    · refine of_not_keeps (hplain _) rfl ?_
      intro hv hfirst
      -- the link is enabled, so that there is a page before this one
      have hnumber : page.number ≠ 0 := by simpa [Page.first] using hfirst
      exact hrange hv _ (by omega)
    · exact of_not_keeps (hplain _) rfl fun hv _ => hrange hv _ (Int.natCast_nonneg _)
    · exact of_not_keeps (hplain _) rfl fun hv _ => hrange hv _ (by omega)
  · exact absurd hl List.not_mem_nil

end Link.On

theorem MenusModel.links_on {m : MenusModel} {alert : Option Alert} {l : Link}
    (hl : l ∈ m.links) : l.On (.menus m alert) := by
  simp only [links, List.mem_append, List.mem_cons, List.not_mem_nil, or_false, List.mem_map,
    List.mem_flatMap] at hl
  rcases hl with (((rfl | rfl) | ⟨k, -, rfl⟩) | ⟨x, -, hx⟩) | hl
  · exact .of_context trivial rfl trivial
  · refine .of_not_keeps rfl rfl fun _ _ c hc => ?_
    cases hc
    exact ⟨by decide, by decide⟩
  · exact .of_not_keeps rfl rfl fun hv _ c hc => hv c hc
  · simp only [rowLinks, List.mem_cons, List.not_mem_nil, or_false] at hx
    rcases hx with rfl | rfl <;> exact .of_context trivial rfl trivial
  · refine .of_pagination hl (fun _ => rfl) ?_
    intro hv i hi c hc
    cases hc
    exact ⟨hi, (hv _ rfl).2⟩

theorem PlatsModel.links_on {m : PlatsModel} {alert : Option Alert} {l : Link}
    (hl : l ∈ m.links) : l.On (.plats m alert) := by
  simp only [links, List.mem_append, List.mem_cons, List.not_mem_nil, or_false, List.mem_map,
    List.mem_flatMap] at hl
  rcases hl with (((rfl | rfl) | ⟨k, -, rfl⟩) | ⟨x, -, hx⟩) | hl
  · exact .of_context trivial rfl trivial
  · refine .of_not_keeps rfl rfl fun _ _ c hc => ?_
    cases hc
    exact ⟨by decide, by decide⟩
  · refine .of_not_keeps rfl rfl fun hv _ c hc => ?_
    cases hc
    exact hv (.plats m.page.number m.page.size m.motCle) rfl
  · simp only [rowLinks, List.mem_cons, List.not_mem_nil, or_false] at hx
    rcases hx with rfl | rfl <;> exact .of_context trivial rfl trivial
  · refine .of_pagination hl (fun _ => rfl) ?_
    intro hv i hi c hc
    cases hc
    exact ⟨hi, (hv _ rfl).2⟩

/-- **The links of every page.** -/
theorem View.links_on {v : View} {l : Link} (hl : l ∈ v.links) : l.On v := by
  have hstart : ∀ {ls : List Link}, l ∈ navbar ++ ls → l ∈ ls ∨ l.On v := by
    intro ls h
    rcases List.mem_append.1 h with h | h
    · exact Or.inr (.of_start (List.mem_append_left _ h))
    · exact Or.inl h
  have hfirst : ∀ c : Context, c = .menus 0 10 "" ∨ c = .plats 0 10 "" → c.InRange := by
    rintro c (rfl | rfl) <;> exact ⟨by decide, by decide⟩
  cases v with
  | home => exact .of_start hl
  | menus m alert => exact (hstart hl).elim MenusModel.links_on fun h => h
  | plats m alert => exact (hstart hl).elim PlatsModel.links_on fun h => h
  | menuForm f =>
    refine (hstart hl).elim (fun h => ?_) fun h => h
    simp only [MenuForm.links, List.mem_append, List.mem_cons, List.not_mem_nil, or_false] at h
    rcases h with (rfl | rfl) | h
    · refine .of_not_keeps trivial rfl fun hv _ c hc => ?_
      cases hc
      exact hv (.menus f.page f.size f.filtre) rfl
    · exact .of_context rfl rfl ⟨rfl, rfl⟩
    · split at h
      · split_ifs at h
        · rw [List.mem_singleton.1 h]
          exact .of_context trivial rfl trivial
        · exact absurd h List.not_mem_nil
      · exact absurd h List.not_mem_nil
  | platForm f =>
    refine (hstart hl).elim (fun h => ?_) fun h => h
    rcases List.mem_cons.1 h with rfl | h
    · exact .of_context rfl rfl ⟨rfl, rfl⟩
    · split at h
      · split_ifs at h
        · rw [List.mem_singleton.1 h]
          exact .of_context trivial rfl trivial
        · exact absurd h List.not_mem_nil
      · exact absurd h List.not_mem_nil
  | menuDetail d =>
    refine (hstart hl).elim (fun h => ?_) fun h => h
    simp only [MenuDetail.links, List.mem_cons, List.not_mem_nil, or_false] at h
    rcases h with rfl | rfl | rfl | rfl
    · exact .of_not_keeps rfl rfl fun _ _ c hc => hfirst c (Or.inl (by cases hc; rfl))
    · exact .of_context rfl rfl ⟨rfl, rfl⟩
    · exact .of_context trivial rfl trivial
    · exact .of_context trivial rfl trivial
  | platDetail d =>
    refine (hstart hl).elim (fun h => ?_) fun h => h
    simp only [PlatDetail.links, List.mem_cons, List.not_mem_nil, or_false] at h
    rcases h with rfl | rfl | rfl | rfl
    · exact .of_not_keeps rfl rfl fun _ _ c hc => hfirst c (Or.inr (by cases hc; rfl))
    · exact .of_context rfl rfl ⟨rfl, rfl⟩
    · exact .of_context trivial rfl trivial
    · exact .of_context trivial rfl trivial

/-! ## What the pages show -/

/-- The links of a page name rows that are stored. -/
def View.Fresh (db : Db) (v : View) : Prop := ∀ l ∈ v.links, l.url.Stored db

/-- A listing without criteria other than the keyword, and in no order. -/
def View.Bare : View → Prop
  | .menus m _ => m.toMenuCriteria = { filtre := m.filtre } ∧ m.sort = ""
  | .plats m _ => m.toPlatCriteria = { motCle := m.motCle } ∧ m.sort = ""
  | _ => True

def Requete.Stored (db : Db) : Requete → Prop
  | .get url => url.Stored db
  | _ => True

def Requete.Bare : Requete → Prop
  | .get url => url.Bare
  | _ => True

/-- **What is known of the page a request is answered with**, for the store it leaves. -/
structure View.Answers (db : Db) (r : Requete) (v : View) : Prop where
  /-- It is a page of the site. -/
  navbar : navbar <+: v.links
  fresh : v.Fresh db
  context : v.context = r.context
  bare : r.Bare → v.Bare

section Pages

variable {fw : Framework} {col : Collation} {srv : Servers fw col} {db : Db}

theorem PageRequest.of_inRange {page size : ℤ} {p : PageRequest}
    (h : PageRequest.of page size = .ok p) : 0 ≤ page ∧ 1 ≤ size := by
  rw [PageRequest.of] at h
  split_ifs at h
  omega

theorem stored_navbar {l : Link} (hl : l ∈ navbar) : l.url.Stored db := by
  simp only [navbar, List.mem_cons, List.not_mem_nil, or_false] at hl
  rcases hl with rfl | rfl | rfl | rfl <;> trivial

theorem stored_pagination {α : Type} {page : Page α} {link : ℤ → Url}
    (h : ∀ i, (link i).Stored db) {l : Link} (hl : l ∈ pagination page link) :
    l.url.Stored db := by
  rw [pagination] at hl
  split_ifs at hl
  · simp only [List.mem_append, List.mem_singleton, List.mem_map] at hl
    rcases hl with (rfl | ⟨i, -, rfl⟩) | rfl <;> exact h _
  · exact absurd hl List.not_mem_nil

theorem View.fresh_menus {m : MenusModel} {alert : Option Alert}
    (h : ∀ x ∈ m.menus, db.HasMenu x.id) : (View.menus m alert).Fresh db := by
  intro l hl
  rcases List.mem_append.1 hl with hl | hl
  · exact stored_navbar hl
  · simp only [MenusModel.links, List.mem_append, List.mem_cons, List.not_mem_nil, or_false,
      List.mem_map, List.mem_flatMap] at hl
    rcases hl with (((rfl | rfl) | ⟨k, -, rfl⟩) | ⟨x, hx, hl⟩) | hl
    · exact fun h => absurd rfl h
    · trivial
    · trivial
    · simp only [MenusModel.rowLinks, List.mem_cons, List.not_mem_nil, or_false] at hl
      rcases hl with rfl | rfl
      · exact fun _ => h x hx
      · exact h x hx
    · refine stored_pagination ?_ hl
      exact fun _ => trivial

theorem View.fresh_plats {m : PlatsModel} {alert : Option Alert}
    (h : ∀ x ∈ m.plats, db.HasPlat x.id) : (View.plats m alert).Fresh db := by
  intro l hl
  rcases List.mem_append.1 hl with hl | hl
  · exact stored_navbar hl
  · simp only [PlatsModel.links, List.mem_append, List.mem_cons, List.not_mem_nil, or_false,
      List.mem_map, List.mem_flatMap] at hl
    rcases hl with (((rfl | rfl) | ⟨k, -, rfl⟩) | ⟨x, hx, hl⟩) | hl
    · exact fun h => absurd rfl h
    · trivial
    · trivial
    · simp only [PlatsModel.rowLinks, List.mem_cons, List.not_mem_nil, or_false] at hl
      rcases hl with rfl | rfl
      · exact fun _ => h x hx
      · exact h x hx
    · refine stored_pagination ?_ hl
      exact fun _ => trivial

/-- **What `GET /menus` shows.** -/
theorem showMenus_ok {req : MenusRequest} {v : View} (h : showMenus srv db req = .ok v) :
    ∃ m alert, v = .menus m alert ∧ (0 ≤ req.page ∧ 1 ≤ req.size) ∧ m.For (srv.menus db) req ∧
      renderMenus db m = .ok alert := by
  rw [showMenus] at h
  obtain ⟨⟨m, alert⟩, hget, h⟩ := bind_ok h
  cases h
  have hlist := getMenus_ok hget
  have hrange : 0 ≤ req.page ∧ 1 ≤ req.size := by
    rw [listMenus] at hlist
    obtain ⟨p, hp, -⟩ := bind_ok hlist
    exact PageRequest.of_inRange hp
  refine ⟨m, alert, rfl, hrange, listMenus_for hrange.1 hrange.2 hlist, ?_⟩
  rw [getMenus, hlist, ok_bind] at hget
  obtain ⟨alert', halert, hget⟩ := bind_ok hget
  cases hget
  exact halert

/-- **What `GET /plats` shows.** -/
theorem showPlats_ok {req : PlatsRequest} {v : View} (h : showPlats srv db req = .ok v) :
    ∃ m alert, v = .plats m alert ∧ (0 ≤ req.page ∧ 1 ≤ req.size) ∧ m.For (srv.plats db) req ∧
      renderPlats m = .ok alert := by
  rw [showPlats] at h
  obtain ⟨⟨m, alert⟩, hget, h⟩ := bind_ok h
  cases h
  have hlist := getPlats_ok hget
  have hrange : 0 ≤ req.page ∧ 1 ≤ req.size := by
    rw [listePlats] at hlist
    obtain ⟨p, hp, -⟩ := bind_ok hlist
    exact PageRequest.of_inRange hp
  refine ⟨m, alert, rfl, hrange, listePlats_for hrange.1 hrange.2 hlist, ?_⟩
  rw [getPlats, hlist, ok_bind] at hget
  obtain ⟨alert', halert, hget⟩ := bind_ok hget
  cases hget
  exact halert

theorem View.answers_menus {req : MenusRequest} {v : View} (h : showMenus srv db req = .ok v) :
    v.Answers db (.get (.menus req)) := by
  obtain ⟨m, alert, rfl, ⟨hp, hs⟩, hf, -⟩ := showMenus_ok h
  refine ⟨⟨_, rfl⟩, fresh_menus ?_, ?_, ?_⟩
  · intro x hx
    have hmem := ((srv.menus db).legal _ _).mem_iff.1
      (Paging.mem_of_mem_slice (hf.perm.mem_iff.1 hx))
    exact ⟨x, (MenuRepository.mem_findFiltered.1 hmem).1, rfl⟩
  · simp only [View.context, Requete.context, Url.context, hf.number_eq, hf.size_eq, hf.criteria_eq,
      Int.toNat_of_nonneg hp, Int.toNat_of_nonneg (show 0 ≤ req.size by omega)]
  · rintro ⟨hcriteria, hsort⟩
    refine ⟨?_, hf.sort_eq.trans hsort⟩
    rw [hf.criteria_eq]
    exact hcriteria

theorem View.answers_plats {req : PlatsRequest} {v : View} (h : showPlats srv db req = .ok v) :
    v.Answers db (.get (.plats req)) := by
  obtain ⟨m, alert, rfl, ⟨hp, hs⟩, hf, -⟩ := showPlats_ok h
  refine ⟨⟨_, rfl⟩, fresh_plats ?_, ?_, ?_⟩
  · intro x hx
    rw [hf.plats_eq] at hx
    have hmem := ((srv.plats db).legal _ _).mem_iff.1 (Paging.mem_of_mem_slice hx)
    exact ⟨x, (PlatRepository.mem_findFiltered.1 hmem).1, rfl⟩
  · simp only [View.context, Requete.context, Url.context, hf.number_eq, hf.size_eq, hf.criteria_eq,
      Int.toNat_of_nonneg hp, Int.toNat_of_nonneg (show 0 ≤ req.size by omega)]
  · rintro ⟨hcriteria, hsort⟩
    refine ⟨?_, hf.sort_eq.trans hsort⟩
    rw [hf.criteria_eq]
    exact hcriteria

theorem View.answers_edit {req : EditRequest} {f : MenuForm}
    (h : editMenu col db req = .menuForm f) : (View.menuForm f).Answers db (.get (.edit req)) := by
  obtain ⟨menu, own, rfl, -, -, hid, hmenu⟩ := editMenu_menuForm h
  refine ⟨⟨_, rfl⟩, ?_, rfl, fun _ => trivial⟩
  intro l hl
  rcases List.mem_append.1 hl with hl | hl
  · exact stored_navbar hl
  · simp only [MenuForm.links, List.mem_append, List.mem_cons, List.not_mem_nil, or_false] at hl
    rcases hl with (rfl | rfl) | hl
    · show menu.id.getD 0 ≠ 0 → db.HasMenu (menu.id.getD 0)
      rw [hid]
      split_ifs with hzero
      · exact fun _ => hmenu hzero
      · exact fun h => absurd rfl h
    · trivial
    · split at hl
      · rename_i id hsome
        split_ifs at hl
        · rw [List.mem_singleton.1 hl]
          show db.HasMenu id
          rw [show menu.id = some id from hsome] at hid
          split_ifs at hid with hzero
          exact Option.some_inj.1 hid ▸ hmenu hzero
        · exact absurd hl List.not_mem_nil
      · exact absurd hl List.not_mem_nil

/-- What `GET /platEdit` renders. -/
theorem editPlat_platForm {req : EditPlatRequest} {f : PlatForm}
    (h : editPlat db req = .platForm f) :
    f.plat.id = (if req.id ≠ 0 then some req.id else none) ∧ (req.id ≠ 0 → db.HasPlat req.id) ∧
      f.page = req.page ∧ f.size = req.size ∧ f.motCle = req.motCle := by
  rw [editPlat] at h
  split_ifs at h with hid
  · split at h
    · rename_i p hp
      obtain ⟨hmem, hkey⟩ := (Sql.lookup_eq_some_iff db.valid.plat_pk).1 hp
      cases h
      exact ⟨by rw [if_pos hid, ← hkey]; rfl, fun _ => ⟨p, hmem, hkey⟩, rfl, rfl, rfl⟩
    · exact absurd h (by simp)
  · cases h
    exact ⟨by rw [if_neg hid]; rfl, fun h => absurd h hid, rfl, rfl, rfl⟩

theorem exists_editPlat {req : EditPlatRequest} (h : req.id ≠ 0 → db.HasPlat req.id) :
    ∃ f, editPlat db req = .platForm f := by
  rw [editPlat]
  split_ifs with hid
  · obtain ⟨p, hp⟩ := h hid
    rw [(Sql.lookup_eq_some_iff db.valid.plat_pk).2 hp]
    exact ⟨_, rfl⟩
  · exact ⟨_, rfl⟩

theorem View.answers_platEdit {req : EditPlatRequest} {f : PlatForm}
    (h : editPlat db req = .platForm f) :
    (View.platForm f).Answers db (.get (.platEdit req)) := by
  obtain ⟨hid, hplat, hpage, hsize, hmotCle⟩ := editPlat_platForm h
  refine ⟨⟨_, rfl⟩, ?_, ?_, fun _ => trivial⟩
  · intro l hl
    rcases List.mem_append.1 hl with hl | hl
    · exact stored_navbar hl
    · rcases List.mem_cons.1 hl with rfl | hl
      · trivial
      · split at hl
        · rename_i id hsome
          split_ifs at hl
          · rw [List.mem_singleton.1 hl]
            show db.HasPlat id
            rw [hsome] at hid
            split_ifs at hid with hzero
            exact Option.some_inj.1 hid ▸ hplat hzero
          · exact absurd hl List.not_mem_nil
        · exact absurd hl List.not_mem_nil
  · rw [View.context, hpage, hsize, hmotCle]
    rfl

theorem View.answers_menuDetail {req : MenuDetailRequest} {d : MenuDetail}
    (h : showMenuDetail db req = .menuDetail d) :
    (View.menuDetail d).Answers db (.get (.menuDetail req)) ∧ d.menu ∈ db.tables.menu ∧
      d.menu.id = req.id := by
  rw [showMenuDetail] at h
  split at h
  · rename_i m hm
    obtain ⟨hmem, hkey⟩ := (Sql.lookup_eq_some_iff db.valid.menu_pk).1 hm
    cases h
    refine ⟨⟨⟨_, rfl⟩, ?_, rfl, fun _ => trivial⟩, hmem, hkey⟩
    intro l hl
    rcases List.mem_append.1 hl with hl | hl
    · exact stored_navbar hl
    · simp only [MenuDetail.links, List.mem_cons, List.not_mem_nil, or_false] at hl
      rcases hl with rfl | rfl | rfl | rfl
      · trivial
      · trivial
      · exact fun _ => ⟨m, hmem, rfl⟩
      · exact ⟨m, hmem, rfl⟩
  · exact absurd h (by simp)

theorem View.answers_platDetail {req : PlatDetailRequest} {d : PlatDetail}
    (h : showPlatDetail db req = .platDetail d) :
    (View.platDetail d).Answers db (.get (.platDetail req)) ∧ d.plat ∈ db.tables.plat ∧
      d.plat.id = req.id := by
  rw [showPlatDetail] at h
  split at h
  · rename_i p hp
    obtain ⟨hmem, hkey⟩ := (Sql.lookup_eq_some_iff db.valid.plat_pk).1 hp
    cases h
    refine ⟨⟨⟨_, rfl⟩, ?_, rfl, fun _ => trivial⟩, hmem, hkey⟩
    intro l hl
    rcases List.mem_append.1 hl with hl | hl
    · exact stored_navbar hl
    · simp only [PlatDetail.links, List.mem_cons, List.not_mem_nil, or_false] at hl
      rcases hl with rfl | rfl | rfl | rfl
      · trivial
      · trivial
      · exact fun _ => ⟨p, hmem, rfl⟩
      · exact ⟨p, hmem, rfl⟩
  · exact absurd h (by simp)

/-! ## Redirects -/

/-- The redirect of a `saveMenu`. -/
theorem saveMenu_redirect {db' : Db} {req : SaveMenuRequest} {r : MenusRequest}
    (h : saveMenu db req = .ok (db', r)) :
    r = { page := req.page, size := req.size, filtre := req.filtre, action := r.action,
          id := r.id } := by
  have hreq := request_loop db (PendingSave.start req) (req.platIds.getD [])
  rw [saveMenu, PendingSave.finish, hreq] at h
  split at h
  · exact absurd h (by simp)
  · cases h
    rfl

/-- The redirect of a `savePlat`. -/
theorem PlatInput.save_redirect {db' : Db} {i : PlatInput} {r : PlatsRequest}
    (h : i.save db = .ok (db', r)) :
    r = { page := i.page, size := i.size, motCle := i.motCle, action := r.action, id := r.id } ∧
      db'.HasPlat r.id := by
  rw [PlatInput.save] at h
  obtain ⟨plat, -, h⟩ := bind_ok h
  refine ⟨?_, ((savePlat_ok h).1.hasPlat_iff r.id).2 (Or.inr rfl)⟩
  rw [savePlat] at h
  split at h
  · exact absurd h (by simp)
  · cases h
    rfl

theorem thenMenus_ok {r : Except WebError (Db × MenusRequest)} {v : View}
    (h : (thenMenus srv db r).2 = .ok v) :
    ∃ db' req, r = .ok (db', req) ∧ (thenMenus srv db r).1 = db' ∧
      showMenus srv db' req = .ok v := by
  cases r with
  | ok x => exact ⟨x.1, x.2, rfl, rfl, h⟩
  | error e => exact absurd h (by simp [thenMenus])

theorem thenPlats_ok {r : Except WebError (Db × PlatsRequest)} {v : View}
    (h : (thenPlats srv db r).2 = .ok v) :
    ∃ db' req, r = .ok (db', req) ∧ (thenPlats srv db r).1 = db' ∧
      showPlats srv db' req = .ok v := by
  cases r with
  | ok x => exact ⟨x.1, x.2, rfl, rfl, h⟩
  | error e => exact absurd h (by simp [thenPlats])

/-- A request answered through a redirect that carries its listing on. -/
theorem View.Answers.of_redirect {r : Requete} {url : Url} {v : View}
    (h : v.Answers db (.get url)) (hcontext : url.context = r.context) (hbare : url.Bare) :
    v.Answers db r :=
  ⟨h.navbar, h.fresh, h.context.trans hcontext, fun _ => h.bare hbare⟩

theorem View.answers_home (db : Db) : View.home.Answers db (.get .accueil) := by
  refine ⟨⟨_, rfl⟩, ?_, rfl, fun _ => trivial⟩
  intro l hl
  simp only [links, navbar, homeLinks, List.cons_append, List.nil_append, List.mem_cons,
    List.not_mem_nil, or_false] at hl
  rcases hl with rfl | rfl | rfl | rfl | rfl | rfl | rfl | rfl <;> trivial

theorem View.answers_menuDelete {req : DeleteMenuRequest} {v : View}
    (h : (thenMenus srv db (deleteMenu db req)).2 = .ok v) :
    v.Answers (thenMenus srv db (deleteMenu db req)).1 (.get (.menuDelete req)) := by
  obtain ⟨db', hdel, -⟩ := deleteMenu_ok db req
  obtain ⟨db₁, red, hred, hdb, hshow⟩ := thenMenus_ok h
  rw [hdel] at hred
  cases hred
  rw [hdb]
  exact (answers_menus hshow).of_redirect rfl ⟨rfl, rfl⟩

theorem View.answers_platDelete {req : DeletePlatRequest} {v : View}
    (h : (thenPlats srv db (deletePlat db req)).2 = .ok v) :
    v.Answers (thenPlats srv db (deletePlat db req)).1 (.get (.platDelete req)) := by
  obtain ⟨db₁, red, hred, hdb, hshow⟩ := thenPlats_ok h
  obtain ⟨-, -, -, -, rfl⟩ := deletePlat_ok hred
  rw [hdb]
  exact (answers_plats hshow).of_redirect rfl ⟨rfl, rfl⟩

/-- **What a request is answered with**, when the row it names is stored. -/
theorem answer_ok {r : Requete} (hr : r.Stored db) {v : View}
    (h : (answer srv db r).2 = .ok v) : v.Answers (answer srv db r).1 r := by
  match r with
  | .get .accueil =>
    cases h
    exact View.answers_home db
  | .get (.menus req) => exact View.answers_menus h
  | .get (.plats req) => exact View.answers_plats h
  | .get (.edit req) =>
    obtain ⟨f, hf⟩ := exists_editMenu col req hr
    simp only [answer, hf] at h
    cases h
    exact View.answers_edit hf
  | .get (.platEdit req) =>
    obtain ⟨f, hf⟩ := exists_editPlat hr
    simp only [answer, hf] at h
    cases h
    exact View.answers_platEdit hf
  | .get (.menuDetail req) =>
    obtain ⟨m, hm, hid⟩ := hr
    have hd := showMenuDetail_stored hm hid.symm
    simp only [answer, hd] at h
    cases h
    exact (View.answers_menuDetail hd).1
  | .get (.platDetail req) =>
    obtain ⟨p, hp, hid⟩ := hr
    have hd := showPlatDetail_stored hp hid.symm
    simp only [answer, hd] at h
    cases h
    exact (View.answers_platDetail hd).1
  | .get (.menuDelete req) => exact View.answers_menuDelete h
  | .get (.platDelete req) => exact View.answers_platDelete h
  | .saveMenu req =>
    obtain ⟨db₁, red, hred, hdb, hshow⟩ := thenMenus_ok h
    show v.Answers (thenMenus srv db (saveMenu db req)).1 _
    rw [hdb]
    rw [saveMenu_redirect hred] at hshow
    exact (View.answers_menus hshow).of_redirect rfl ⟨rfl, rfl⟩
  | .savePlat i =>
    obtain ⟨db₁, red, hred, hdb, hshow⟩ := thenPlats_ok h
    show v.Answers (thenPlats srv db (i.save db)).1 _
    rw [hdb]
    rw [(PlatInput.save_redirect hred).1] at hshow
    exact (View.answers_plats hshow).of_redirect rfl ⟨rfl, rfl⟩

/-- A page at the end of the redirect by hand is a list of the menus. -/
theorem followRedirect_ok {viewName : String} {v : View}
    (h : followRedirect srv db viewName = .ok v) : ∃ req, showMenus srv db req = .ok v := by
  rw [followRedirect] at h
  split at h
  · obtain ⟨req, -, hshow⟩ := bind_ok h
    exact ⟨req, hshow⟩
  · exact absurd h (by simp)

/-- A list that is shown could be asked for. -/
theorem showMenus_inRange {req : MenusRequest} {v : View} (h : showMenus srv db req = .ok v) :
    ∀ c ∈ v.context, c.InRange := by
  obtain ⟨-, -, -, hrange, -⟩ := showMenus_ok h
  rw [(View.answers_menus h).context]
  rintro c ⟨⟩
  exact hrange

theorem showPlats_inRange {req : PlatsRequest} {v : View} (h : showPlats srv db req = .ok v) :
    ∀ c ∈ v.context, c.InRange := by
  obtain ⟨-, -, -, hrange, -⟩ := showPlats_ok h
  rw [(View.answers_plats h).context]
  rintro c ⟨⟩
  exact hrange

/-! ## When a request is answered -/

theorem exists_showMenus {req : MenusRequest} (hrange : 0 ≤ req.page ∧ 1 ≤ req.size)
    (h : req.action = "new" ∨ req.action = "mod" → db.HasMenu req.id) :
    ∃ v, showMenus srv db req = .ok v := by
  obtain ⟨x, hx⟩ := (exists_getMenus_iff (srv.menus db) req hrange.1 hrange.2).2 fun _ => h
  rw [showMenus, hx]
  exact ⟨_, rfl⟩

theorem exists_showPlats {req : PlatsRequest} (hrange : 0 ≤ req.page ∧ 1 ≤ req.size)
    (h : req.action = "new" ∨ req.action = "mod" → db.HasPlat req.id) :
    ∃ v, showPlats srv db req = .ok v := by
  obtain ⟨x, hx⟩ := (exists_getPlats_iff (srv.plats db) req hrange.1 hrange.2).2 fun _ => h
  rw [showPlats, hx]
  exact ⟨_, rfl⟩

/-- A redirect is followed by its page as soon as there is one. -/
theorem exists_thenMenus {r : Except WebError (Db × MenusRequest)} {db' : Db} {req : MenusRequest}
    (hr : r = .ok (db', req)) (hrange : 0 ≤ req.page ∧ 1 ≤ req.size)
    (h : req.action = "new" ∨ req.action = "mod" → db'.HasMenu req.id) :
    ∃ v, (thenMenus srv db r).2 = .ok v := by
  rw [hr]
  exact exists_showMenus hrange h

theorem exists_thenPlats {r : Except WebError (Db × PlatsRequest)} {db' : Db} {req : PlatsRequest}
    (hr : r = .ok (db', req)) (hrange : 0 ≤ req.page ∧ 1 ≤ req.size)
    (h : req.action = "new" ∨ req.action = "mod" → db'.HasPlat req.id) :
    ∃ v, (thenPlats srv db r).2 = .ok v := by
  rw [hr]
  exact exists_showPlats hrange h

/-- **A request that fails leaves the store alone**, when its listing can be asked for. -/
theorem answer_error {r : Requete} (hr : ∀ c ∈ r.context, c.InRange) {e : WebError}
    (h : (answer srv db r).2 = .error e) : (answer srv db r).1 = db := by
  have hno : ∀ {v : View}, (answer srv db r).2 ≠ .ok v := fun hv => by simp [h] at hv
  match r with
  | .get .accueil | .get (.menus _) | .get (.plats _) | .get (.edit _) | .get (.platEdit _)
  | .get (.menuDetail _) | .get (.platDetail _) => rfl
  | .get (.menuDelete req) =>
    obtain ⟨db', hdel, -⟩ := deleteMenu_ok db req
    obtain ⟨v, hv⟩ := exists_thenMenus hdel (hr _ rfl) fun h => absurd h (by simp)
    exact absurd hv hno
  | .get (.platDelete req) =>
    cases hdel : deletePlat db req with
    | error e => simp only [answer, hdel, thenPlats]
    | ok x =>
      obtain ⟨-, -, -, -, hx⟩ := deletePlat_ok hdel
      obtain ⟨v, hv⟩ := exists_thenPlats hdel (hx ▸ hr _ rfl) fun h => absurd h (by simp [hx])
      exact absurd hv hno
  | .saveMenu req =>
    cases hsave : saveMenu db req with
    | error e => simp only [answer, hsave, thenMenus]
    | ok x =>
      obtain ⟨⟨ids, -, hsaved⟩, -⟩ := saveMenu_ok hsave
      have hx := saveMenu_redirect hsave
      obtain ⟨v, hv⟩ := exists_thenMenus hsave (by rw [hx]; exact hr _ rfl) fun _ =>
        (hsaved.hasMenu_iff _).2 (Or.inr rfl)
      exact absurd hv hno
  | .savePlat i =>
    cases hsave : i.save db with
    | error e => simp only [answer, hsave, thenPlats]
    | ok x =>
      obtain ⟨hx, hplat⟩ := PlatInput.save_redirect hsave
      obtain ⟨v, hv⟩ := exists_thenPlats hsave (by rw [hx]; exact hr _ rfl) fun _ => hplat
      exact absurd hv hno

/-- Whatever is stored, a request leads to pages whose listing can be asked for. -/
theorem answer_inRange {r : Requete} (hr : ∀ c ∈ r.context, c.InRange) {v : View}
    (h : (answer srv db r).2 = .ok v) : ∀ c ∈ v.context, c.InRange := by
  by_cases hstored : r.Stored db
  · rw [(answer_ok hstored h).context]
    exact hr
  · match r with
    | .get .accueil | .get (.menus _) | .get (.plats _) | .saveMenu _ | .savePlat _ =>
      exact absurd trivial hstored
    | .get (.edit req) =>
      cases hedit : editMenu col db req with
      | menuForm f =>
        obtain ⟨-, -, -, -, -, -, hmenu⟩ := editMenu_menuForm hedit
        exact absurd hmenu hstored
      | redirect viewName =>
        simp only [answer, hedit] at h
        obtain ⟨req', hshow⟩ := followRedirect_ok h
        exact showMenus_inRange hshow
    | .get (.platEdit req) =>
      cases hedit : editPlat db req with
      | platForm f => exact absurd (editPlat_platForm hedit).2.1 hstored
      | redirect req' =>
        simp only [answer, hedit] at h
        exact showPlats_inRange h
    | .get (.menuDetail req) =>
      cases hdetail : showMenuDetail db req with
      | menuDetail d => exact absurd ⟨d.menu, (View.answers_menuDetail hdetail).2⟩ hstored
      | redirect req' =>
        simp only [answer, hdetail] at h
        exact showMenus_inRange h
    | .get (.platDetail req) =>
      cases hdetail : showPlatDetail db req with
      | platDetail d => exact absurd ⟨d.plat, (View.answers_platDetail hdetail).2⟩ hstored
      | redirect req' =>
        simp only [answer, hdetail] at h
        exact showPlats_inRange h
    | .get (.menuDelete req) =>
      rw [(View.answers_menuDelete h).context]
      exact hr
    | .get (.platDelete req) =>
      rw [(View.answers_platDelete h).context]
      exact hr

end Pages

/-! ## Links that lead to their page -/

/-- The page is the one a link names, for the stores before and after it. -/
def View.Shows (db db' : Db) : View → Url → Prop
  | .home, .accueil => True
  | .menus m _, .menus req =>
    m.toMenuCriteria = req.toMenuCriteria ∧ m.sort = req.sort ∧ m.page.number = req.page ∧
      m.page.size = req.size
  | .plats m _, .plats req =>
    m.toPlatCriteria = req.toPlatCriteria ∧ m.sort = req.sort ∧ m.page.number = req.page ∧
      m.page.size = req.size
  | .menuForm f, .edit req => f.menu.id = if req.id ≠ 0 then some req.id else none
  | .platForm f, .platEdit req => f.plat.id = if req.id ≠ 0 then some req.id else none
  | .menuDetail d, .menuDetail req => d.menu.id = req.id
  | .platDetail d, .platDetail req => d.plat.id = req.id
  | .menus _ alert, .menuDelete req =>
    alert = some .deleted ∧ db.HasMenu req.id ∧ ¬ db'.HasMenu req.id
  | .plats _ alert, .platDelete req =>
    alert = some .deleted ∧ db.HasPlat req.id ∧ ¬ db'.HasPlat req.id
  | _, _ => False

/-- A link leads to the page it names. -/
def Opens {fw : Framework} {col : Collation} (srv : Servers fw col) (db : Db) (url : Url) : Prop :=
  ∃ v, (answer srv db (.get url)).2 = .ok v ∧ v.Shows db (answer srv db (.get url)).1 url

section Opens

variable {fw : Framework} {col : Collation} {srv : Servers fw col} {db : Db}

theorem opens_menus {req : MenusRequest} (hrange : 0 ≤ req.page ∧ 1 ≤ req.size)
    (hplain : req.action = "") : Opens srv db (.menus req) := by
  obtain ⟨v, hv⟩ := exists_showMenus hrange fun h => by simp [hplain] at h
  obtain ⟨m, alert, rfl, -, hf, -⟩ := showMenus_ok hv
  refine ⟨_, hv, hf.criteria_eq, hf.sort_eq, ?_, ?_⟩
  · rw [hf.number_eq]
    omega
  · rw [hf.size_eq]
    omega

theorem opens_plats {req : PlatsRequest} (hrange : 0 ≤ req.page ∧ 1 ≤ req.size)
    (hplain : req.action = "") : Opens srv db (.plats req) := by
  obtain ⟨v, hv⟩ := exists_showPlats hrange fun h => by simp [hplain] at h
  obtain ⟨m, alert, rfl, -, hf, -⟩ := showPlats_ok hv
  refine ⟨_, hv, hf.criteria_eq, hf.sort_eq, ?_, ?_⟩
  · rw [hf.number_eq]
    omega
  · rw [hf.size_eq]
    omega

theorem opens_menuDelete {req : DeleteMenuRequest} (hrange : 0 ≤ req.page ∧ 1 ≤ req.size)
    (hstored : db.HasMenu req.id) : Opens srv db (.menuDelete req) := by
  obtain ⟨db', hdel, ht, -⟩ := deleteMenu_ok db req
  obtain ⟨v, hv⟩ : ∃ v, showMenus srv db'
      { page := req.page, size := req.size, filtre := req.filtre, action := "del" } = .ok v :=
    exists_showMenus hrange fun h => absurd h (by simp)
  obtain ⟨m, alert, rfl, -, hf, hrender⟩ := showMenus_ok hv
  have hanswer : answer srv db (.get (.menuDelete req)) = (db', .ok (.menus m alert)) := by
    rw [answer, hdel, thenMenus, hv]
  refine ⟨_, by rw [hanswer], ?_⟩
  rw [hanswer]
  refine ⟨?_, hstored, ?_⟩
  · obtain ⟨-, haction⟩ := Prod.mk.inj hf.alert_eq
    have hdeleted : m.action = "del" := haction
    rw [renderMenus, hdeleted] at hrender
    cases hrender
    rfl
  · rw [Db.HasMenu, ht]
    rintro ⟨x, hx, hid⟩
    exact (Sql.mem_deleteRow.1 hx).2 hid

theorem opens_platDelete {req : DeletePlatRequest} (hrange : 0 ≤ req.page ∧ 1 ≤ req.size)
    (hstored : db.HasPlat req.id)
    (hallowed : ∀ row ∈ db.tables.menuPlat, row.platId ≠ req.id) :
    Opens srv db (.platDelete req) := by
  cases hdel : deletePlat db req with
  | error e =>
    obtain ⟨-, row, hrow, hid⟩ := deletePlat_error hdel
    exact absurd hid (hallowed row hrow)
  | ok x =>
    obtain ⟨db', red⟩ := x
    obtain ⟨-, ht, -, -, rfl⟩ := deletePlat_ok hdel
    obtain ⟨v, hv⟩ : ∃ v, showPlats srv db'
        { page := req.page, size := req.size, motCle := req.motCle, action := "del" } = .ok v :=
      exists_showPlats hrange fun h => absurd h (by simp)
    obtain ⟨m, alert, rfl, -, hf, hrender⟩ := showPlats_ok hv
    have hanswer : answer srv db (.get (.platDelete req)) = (db', .ok (.plats m alert)) := by
      rw [answer, hdel, thenPlats, hv]
    refine ⟨_, by rw [hanswer], ?_⟩
    rw [hanswer]
    refine ⟨?_, hstored, ?_⟩
    · obtain ⟨-, haction⟩ := Prod.mk.inj hf.alert_eq
      have hdeleted : m.action = "del" := haction
      rw [renderPlats, hdeleted] at hrender
      cases hrender
      rfl
    · rw [Db.HasPlat, ht]
      rintro ⟨x, hx, hid⟩
      exact (Sql.mem_deleteRow.1 hx).2 hid

/-- **Which links lead to the page they name**: those whose row is stored, and whose plat is in no
menu if they are to delete it. -/
theorem opens_iff {url : Url} (hplain : url.Plain) (hrange : ∀ c ∈ url.context, c.InRange) :
    Opens srv db url ↔ url.Stored db ∧ url.Allowed db := by
  cases url with
  | accueil => exact iff_of_true ⟨.home, rfl, trivial⟩ ⟨trivial, trivial⟩
  | menus req => exact iff_of_true (opens_menus (hrange _ rfl) hplain) ⟨trivial, trivial⟩
  | plats req => exact iff_of_true (opens_plats (hrange _ rfl) hplain) ⟨trivial, trivial⟩
  | edit req =>
    rw [Opens, answer]
    cases hedit : editMenu col db req with
    | menuForm f =>
      obtain ⟨menu, own, hf, -, -, hid, hmenu⟩ := editMenu_menuForm hedit
      refine iff_of_true ⟨_, rfl, ?_⟩ ⟨hmenu, trivial⟩
      rw [hf]
      exact hid
    | redirect viewName =>
      refine iff_of_false ?_ fun h => ?_
      · rintro ⟨v, hv, hshows⟩
        obtain ⟨req', hshow⟩ := followRedirect_ok hv
        obtain ⟨m, alert, rfl, -⟩ := showMenus_ok hshow
        exact hshows
      · obtain ⟨f, hf⟩ := exists_editMenu col req h.1
        exact absurd (hedit.symm.trans hf) (by simp)
  | platEdit req =>
    rw [Opens, answer]
    cases hedit : editPlat db req with
    | platForm f =>
      obtain ⟨hid, hplat, -⟩ := editPlat_platForm hedit
      exact iff_of_true ⟨_, rfl, hid⟩ ⟨hplat, trivial⟩
    | redirect req' =>
      refine iff_of_false ?_ fun h => ?_
      · rintro ⟨v, hv, hshows⟩
        obtain ⟨m, alert, rfl, -⟩ := showPlats_ok hv
        exact hshows
      · obtain ⟨f, hf⟩ := exists_editPlat h.1
        exact absurd (hedit.symm.trans hf) (by simp)
  | menuDetail req =>
    rw [Opens, answer]
    cases hdetail : showMenuDetail db req with
    | menuDetail d =>
      obtain ⟨-, hmem, hid⟩ := View.answers_menuDetail hdetail
      exact iff_of_true ⟨_, rfl, hid⟩ ⟨⟨d.menu, hmem, hid⟩, trivial⟩
    | redirect req' =>
      refine iff_of_false ?_ fun h => ?_
      · rintro ⟨v, hv, hshows⟩
        obtain ⟨m, alert, rfl, -⟩ := showMenus_ok hv
        exact hshows
      · obtain ⟨m, hm, hid⟩ := h.1
        exact absurd (hdetail.symm.trans (showMenuDetail_stored hm hid.symm)) (by simp)
  | platDetail req =>
    rw [Opens, answer]
    cases hdetail : showPlatDetail db req with
    | platDetail d =>
      obtain ⟨-, hmem, hid⟩ := View.answers_platDetail hdetail
      exact iff_of_true ⟨_, rfl, hid⟩ ⟨⟨d.plat, hmem, hid⟩, trivial⟩
    | redirect req' =>
      refine iff_of_false ?_ fun h => ?_
      · rintro ⟨v, hv, hshows⟩
        obtain ⟨m, alert, rfl, -⟩ := showPlats_ok hv
        exact hshows
      · obtain ⟨p, hp, hid⟩ := h.1
        exact absurd (hdetail.symm.trans (showPlatDetail_stored hp hid.symm)) (by simp)
  | menuDelete req =>
    refine ⟨?_, fun h => opens_menuDelete (hrange _ rfl) h.1⟩
    rintro ⟨v, hv, hshows⟩
    obtain ⟨db', red, -, -, hshow⟩ := thenMenus_ok hv
    obtain ⟨m, alert, rfl, -⟩ := showMenus_ok hshow
    exact ⟨hshows.2.1, trivial⟩
  | platDelete req =>
    refine ⟨?_, fun h => opens_platDelete (hrange _ rfl) h.1 h.2⟩
    rintro ⟨v, hv, hshows⟩
    obtain ⟨db', red, hdel, -, hshow⟩ := thenPlats_ok hv
    obtain ⟨m, alert, rfl, -⟩ := showPlats_ok hshow
    exact ⟨hshows.2.1, (deletePlat_ok hdel).1⟩

/-! ## Links that do not -/

/-- **A link whose row is gone changes nothing**, nor does one that is refused. -/
theorem answer_tables {url : Url} (h : ¬ (url.Stored db ∧ url.Allowed db)) :
    (answer srv db (.get url)).1.tables = db.tables := by
  cases url with
  | menuDelete req =>
    have hgone : ¬ db.HasMenu req.id := fun hstored => h ⟨hstored, trivial⟩
    obtain ⟨db', hdel, ht, -⟩ := deleteMenu_ok db req
    have hmenu : Sql.deleteRow Menu.id req.id db.tables.menu = db.tables.menu :=
      Sql.deleteRow_eq_self fun m hm hid => hgone ⟨m, hm, hid⟩
    have hrows : db.tables.menuPlat.filter (fun r => !decide (r.menuId = req.id)) =
        db.tables.menuPlat := by
      refine List.filter_eq_self.2 fun row hrow => ?_
      have hne : row.menuId ≠ req.id := fun hid => hgone (hid ▸ db.valid.menuPlat_menu row hrow)
      simpa using hne
    rw [answer, hdel, thenMenus, ht, hmenu, hrows]
  | platDelete req =>
    rw [answer]
    cases hdel : deletePlat db req with
    | error e => rfl
    | ok x =>
      obtain ⟨hfree, ht, -⟩ := deletePlat_ok hdel
      have hgone : ¬ db.HasPlat req.id := fun hstored => h ⟨hstored, hfree⟩
      rw [thenPlats, ht, Sql.deleteRow_eq_self fun p hp hid => hgone ⟨p, hp, hid⟩]
  | _ => rfl

/-- **The form of a menu that is gone.**  The redirect of `editMenu` leads back to the listing the
client came from, if its keyword can stand in a URL as it is. -/
theorem answer_edit_gone {req : EditRequest} (hid : req.id ≠ 0) (hgone : ¬ db.HasMenu req.id)
    {page size : Int32} (hpage : page.toInt = req.page) (hsize : size.toInt = req.size)
    (hsafe : QueryString.Safe fw.malformed req.filtre.toList)
    (hvariable : ¬ RedirectView.Variable req.filtre.toList) :
    answer srv db (.get (.edit req)) =
      (db, showMenus srv db { page := req.page, size := req.size, filtre := req.filtre }) := by
  have hnone : Sql.lookup Menu.id req.id db.tables.menu = none := by
    refine Option.eq_none_iff_forall_ne_some.2 fun m hm => hgone ⟨m, ?_⟩
    exact (Sql.lookup_eq_some_iff db.valid.menu_pk).1 hm
  have hfollowed := (followed_redirect_iff fw.malformed req.page req.size req.filtre).2
    ⟨hsafe, hvariable⟩
  have hedit : editMenu col db req = .redirect ("redirect:/menus?page=" ++ toString req.page ++
      "&size=" ++ toString req.size ++ "&filtre=" ++ req.filtre) := by
    rw [editMenu, if_pos hid, hnone]
  have harguments := fw.arguments_menusTarget page size req.filtre
  rw [hpage, hsize] at harguments
  simp only [answer, hedit, followRedirect, hfollowed, harguments]
  rfl

end Opens

end GestionMenus
