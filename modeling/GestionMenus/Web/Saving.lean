import GestionMenus.Web.Server

/-!
# What the requests that write leave behind

The requests of `Handlers`, each against the sentence one would write about it.

* `saveMenu_postcondition`: a `saveMenu` nothing interferes with stores the menu as submitted, with
  the submitted plats that exist, and touches nothing else.  What order the identifiers come in, how
  often, and which of them are unknown makes no difference.
* `deletePlat_iff_not_used`: a plat can be deleted exactly as long as no menu contains it.
  `Menu` owns the association, so that `deleteMenu` clears the rows of `menu_plat` first; a plat is
  deleted without that, and the foreign key of the join table refuses.
* `deleteMenu_undoes_saveMenu`: whatever is done to a new menu between its creation and its
  deletion, the tables end up as they were before.
-/

set_option autoImplicit false

namespace GestionMenus

open Runs

/-! ## `saveMenu` -/

/-- What a save is for: the menu is stored as submitted, each submitted plat that exists is in the
association once, and everything that is not about this menu is as it was. -/
structure SaveMenuPost (db : Db) (req : SaveMenuRequest) (db' : Db) (id : ℤ) : Prop where
  menu : req.menu.row id ∈ db'.tables.menu
  plats : ∀ k, db'.tables.menuPlat.count ⟨id, k⟩ =
    if k ∈ req.platIds.getD [] ∧ db.HasPlat k then 1 else 0
  others : MenuRepository.SameApart id db db'

/-- One content, up to the order of the rows of the join table. -/
structure SameStore (db db' : Db) : Prop where
  menu : db'.tables.menu = db.tables.menu
  menuPlat : db'.tables.menuPlat.Perm db.tables.menuPlat
  plat : db'.tables.plat = db.tables.plat
  categorie : db'.tables.categorie = db.tables.categorie
  menuSeq : db'.menuSeq = db.menuSeq
  platSeq : db'.platSeq = db.platSeq

/-- The whole loop selects the submitted plats that exist. -/
theorem mem_selectedIds_start (db : Db) (req : SaveMenuRequest) (k : ℤ) :
    k ∈ ((req.platIds.getD []).foldl (fun p _ => p.findPlat db)
        (PendingSave.start req)).selectedIds ↔
      k ∈ req.platIds.getD [] ∧ db.HasPlat k := by
  have hloop := @mem_selectedIds_loop db (PendingSave.start req) _ rfl k
  simpa [PendingSave.start, PendingSave.selectedIds] using hloop

/-- **What a `saveMenu` that succeeds has done**, in terms of the submitted identifiers. -/
theorem saveMenu_ok {db db' : Db} {req : SaveMenuRequest} {r : MenusRequest}
    (h : saveMenu db req = .ok (db', r)) :
    (∃ ids, (∀ k, k ∈ ids ↔ k ∈ req.platIds.getD [] ∧ db.HasPlat k) ∧
      MenuRepository.Saved db req.menu ids db' r.id) ∧
    MenuRepository.SameApart r.id db db' ∧
    db'.menuSeq = if req.menu.id = none then db.menuSeq + 1 else db.menuSeq := by
  have hreq := request_loop db (PendingSave.start req) (req.platIds.getD [])
  have hsaved := (PendingSave.finish_ok h).1
  rw [hreq] at hsaved
  rw [saveMenu, PendingSave.finish] at h
  split at h
  · exact absurd h (by simp)
  · rename_i hsave
    cases h
    rw [hreq] at hsave
    exact ⟨⟨_, mem_selectedIds_start db req, hsaved⟩, MenuRepository.save_sameApart hsave,
      MenuRepository.save_menuSeq hsave⟩

/-- A menu with an identifier that is new or in use, and with columns the table accepts, is
saved. -/
theorem exists_saveMenu {db : Db} {req : SaveMenuRequest}
    (hid : ∀ id, req.menu.id = some id → db.HasMenu id)
    (hcheck : checkMenu (req.menu.row (req.menu.id.getD db.menuSeq)) = .ok ()) :
    ∃ db' r, saveMenu db req = .ok (db', r) := by
  have hreq := request_loop db (PendingSave.start req) (req.platIds.getD [])
  rw [saveMenu]
  generalize hloop : (req.platIds.getD []).foldl (fun p _ => p.findPlat db)
    (PendingSave.start req) = p at hreq ⊢
  have hplat : ∀ o ∈ p.selectedPlats, db.HasPlat o.row.id := by
    intro o ho
    have hmem : o.row.id ∈ p.selectedIds := List.mem_map.2 ⟨o, ho, rfl⟩
    rw [← hloop, mem_selectedIds_start] at hmem
    exact hmem.2
  obtain ⟨db', id, hsave⟩ : ∃ db' id, MenuRepository.save db req.menu p.selectedPlats =
      .ok (db', id) := MenuRepository.exists_save hid hcheck p.selected_nodup hplat
  rw [PendingSave.finish, hreq, show (PendingSave.start req).request = req from rfl, hsave]
  exact ⟨_, _, rfl⟩

theorem SaveMenuPost.of_ok {db db' : Db} {req : SaveMenuRequest} {r : MenusRequest}
    (h : saveMenu db req = .ok (db', r)) : SaveMenuPost db req db' r.id := by
  obtain ⟨⟨ids, hids, hsaved⟩, hothers, -⟩ := saveMenu_ok h
  refine ⟨hsaved.row_mem, ?_, hothers⟩
  intro k
  have hrow : ⟨r.id, k⟩ ∈ db'.tables.menuPlat ↔ k ∈ req.platIds.getD [] ∧ db.HasPlat k := by
    rw [hsaved.mem_menuPlat, ← hids]
    simp
  split
  · rename_i hk
    exact List.count_eq_one_of_mem db'.valid.menuPlat_pk (hrow.2 hk)
  · rename_i hk
    exact List.count_eq_zero.2 (hrow.not.2 hk)

/-- Two saves of one menu with the same plats leave the same content. -/
theorem SameStore.of_saved {db db₁ db₂ : Db} {req₁ req₂ : SaveMenuRequest} {r₁ r₂ : MenusRequest}
    (h₁ : saveMenu db req₁ = .ok (db₁, r₁)) (h₂ : saveMenu db req₂ = .ok (db₂, r₂))
    (hmenu : req₂.menu = req₁.menu)
    (hids : ∀ k, db.HasPlat k → (k ∈ req₂.platIds.getD [] ↔ k ∈ req₁.platIds.getD [])) :
    SameStore db₁ db₂ := by
  obtain ⟨⟨ids₁, hids₁, hs₁⟩, -, hseq₁⟩ := saveMenu_ok h₁
  obtain ⟨⟨ids₂, hids₂, hs₂⟩, -, hseq₂⟩ := saveMenu_ok h₂
  rw [hmenu] at hs₂ hseq₂
  have hid : r₂.id = r₁.id := hs₂.id_eq.trans hs₁.id_eq.symm
  have hmem : ∀ k, k ∈ ids₂ ↔ k ∈ ids₁ := by
    intro k
    rw [hids₁, hids₂]
    exact and_congr_left fun hk => hids k hk
  refine
    { menu := by rw [hs₂.menu_eq, hs₁.menu_eq, hid]
      menuPlat := ?_
      plat := hs₂.plat_eq.trans hs₁.plat_eq.symm
      categorie := hs₂.categorie_eq.trans hs₁.categorie_eq.symm
      menuSeq := hseq₂.trans hseq₁.symm
      platSeq := hs₂.platSeq_eq.trans hs₁.platSeq_eq.symm }
  refine (List.perm_ext_iff_of_nodup db₂.valid.menuPlat_pk db₁.valid.menuPlat_pk).2 ?_
  intro row
  rw [hs₁.mem_menuPlat, hs₂.mem_menuPlat, hid, hmem]

/-- **The postcondition and the frame of `saveMenu`.**  A menu whose identifier is absent or stored
and whose fields the columns accept is saved, whatever the list of identifiers; the menu and its
plats are those submitted, the rest is as it was, and only the set of existing plats in the list
matters. -/
theorem saveMenu_postcondition (db : Db) (req : SaveMenuRequest)
    (hid : ∀ id, req.menu.id = some id → db.HasMenu id)
    (hcheck : checkMenu (req.menu.row (req.menu.id.getD db.menuSeq)) = .ok ()) :
    ∃ db' r, saveMenu db req = .ok (db', r) ∧ r.id = req.menu.id.getD db.menuSeq ∧
      SaveMenuPost db req db' r.id ∧
      ∀ platIds', (∀ k, db.HasPlat k → (k ∈ platIds'.getD [] ↔ k ∈ req.platIds.getD [])) →
        ∃ db'' r', saveMenu db { req with platIds := platIds' } = .ok (db'', r') ∧
          SameStore db' db'' := by
  obtain ⟨db', r, h⟩ := exists_saveMenu hid hcheck
  obtain ⟨⟨ids, -, hsaved⟩, -⟩ := saveMenu_ok h
  refine ⟨db', r, h, hsaved.id_eq, SaveMenuPost.of_ok h, ?_⟩
  intro platIds' hsame
  obtain ⟨db'', r', h'⟩ : ∃ db'' r', saveMenu db { req with platIds := platIds' } =
      .ok (db'', r') := exists_saveMenu hid hcheck
  exact ⟨db'', r', h', SameStore.of_saved h h' rfl hsame⟩

/-- Menu 2 of the card, with the plats 3 and 1 submitted twice and a plat that does not exist. -/
theorem saveMenu_postcondition_carte :
    let req : SaveMenuRequest :=
      { menu := ⟨some 2, some "Soir", some "", 20⟩, platIds := some [3, 9, 1, 3, 1] }
    ∃ db' r, saveMenu carte req = .ok (db', r) ∧ r.id = 2 ∧ SaveMenuPost carte req db' r.id := by
  intro req
  obtain ⟨db', r, h, hr, hpost, -⟩ := saveMenu_postcondition carte req
    (by intro id hid; rw [← Option.some_inj.1 hid]; decide) (by decide)
  exact ⟨db', r, h, hr, hpost⟩

/-! ## `deletePlat` -/

/-- What deleting a plat is for: it is in no table any more, and the rest is as it was. -/
structure DeletePlatPost (db db' : Db) (id : ℤ) : Prop where
  gone : ¬ db'.HasPlat id
  unused : ∀ row ∈ db'.tables.menuPlat, row.platId ≠ id
  plat : ∀ p : Plat, p.id ≠ id → (p ∈ db'.tables.plat ↔ p ∈ db.tables.plat)
  menu : db'.tables.menu = db.tables.menu
  menuPlat : ∀ row : MenuPlat, row.platId ≠ id →
    (row ∈ db'.tables.menuPlat ↔ row ∈ db.tables.menuPlat)
  categorie : db'.tables.categorie = db.tables.categorie

/-- As long as no menu contains the plat, its deletion goes through. -/
theorem exists_deletePlat {db : Db} {req : DeletePlatRequest}
    (hfree : ∀ row ∈ db.tables.menuPlat, row.platId ≠ req.id) :
    ∃ db' r, deletePlat db req = .ok (db', r) ∧ DeletePlatPost db db' req.id := by
  cases h : deletePlat db req with
  | error e =>
    obtain ⟨-, row, hrow, he⟩ := deletePlat_error h
    exact absurd he (hfree row hrow)
  | ok v =>
    obtain ⟨-, ht, -⟩ := deletePlat_ok (show deletePlat db req = .ok (v.1, v.2) from h)
    refine ⟨v.1, v.2, rfl, ?_⟩
    constructor
    · rw [Db.HasPlat, ht]
      rintro ⟨p, hp, hid⟩
      exact (Sql.mem_deleteRow.1 hp).2 hid
    · rw [ht]
      exact hfree
    · intro p hp
      rw [ht, Sql.mem_deleteRow]
      simp [hp]
    · rw [ht]
    · intro row _
      rw [ht]
    · rw [ht]

/-- **A plat can be deleted exactly as long as no menu contains it.**  In every state the server
reaches, a `deletePlat` is answered by a redirect and has done what it is for if and only if no row
of the join table names the plat. -/
theorem deletePlat_iff_not_used (db₀ : Db) (es : List Event) (req : DeletePlatRequest) :
    let s := run Sys.step (Sys.init db₀) es
    (∃ r, (s.handle (.deletePlat req)).2 = .redirectPlats r ∧
      DeletePlatPost s.db (s.step (.deletePlat req)).db req.id) ↔
        ∀ row ∈ s.db.tables.menuPlat, row.platId ≠ req.id := by
  intro s
  rw [Sys.step, Sys.handle]
  refine ⟨?_, ?_⟩
  · rintro ⟨r, hr, -⟩
    cases h : deletePlat s.db req with
    | error e =>
      rw [h] at hr
      exact absurd hr (by simp [Sys.answer])
    | ok v => exact (deletePlat_ok (show deletePlat s.db req = .ok (v.1, v.2) from h)).1
  · intro hfree
    obtain ⟨db', r, h, hpost⟩ := exists_deletePlat hfree
    rw [h]
    exact ⟨r, rfl, hpost⟩

/-- A menu with plat 3 of the card is created; then plat 3, still stored, cannot be deleted. -/
theorem deletePlat_refused :
    ¬ ∀ (db₀ : Db) (es : List Event) (req : DeletePlatRequest),
      let s := run Sys.step (Sys.init db₀) es
      s.db.HasPlat req.id → ∃ r, (s.handle (.deletePlat req)).2 = .redirectPlats r ∧
        DeletePlatPost s.db (s.step (.deletePlat req)).db req.id := by
  intro h
  obtain ⟨r, hr, -⟩ := h carte
    [.startSaveMenu { menu := ⟨none, some "Brunch", some "", 15⟩, platIds := some [3] },
      .findPlat 0, .finishSaveMenu 0] { id := 3 } (by decide)
  exact absurd (hr.symm.trans (show _ = Response.failed (.store (.foreignKey .menuPlat)) by decide))
    (by simp)

/-! ## `deleteMenu` after `saveMenu` -/

/-- The events of `saveMenu` requests that save the menu again. -/
def Resaves (id : ℤ) : Event → Prop
  | .startSaveMenu req => req.menu.id = some id
  | .findPlat _ | .finishSaveMenu _ => True
  | .deleteMenu _ | .savePlat _ | .deletePlat _ => False

/-- What holds while a menu is saved again and again: every request under way is about it, and the
database differs from what it was in nothing else. -/
structure Resaving (id : ℤ) (db : Db) (s : Sys) : Prop where
  pending : ∀ k p, s.pending k = some p → p.request.menu.id = some id
  sameApart : MenuRepository.SameApart id db s.db

theorem PendingSave.finish_sameApart {db db' : Db} {p : PendingSave} {r : MenusRequest}
    (h : p.finish db = .ok (db', r)) : MenuRepository.SameApart r.id db db' := by
  rw [PendingSave.finish] at h
  split at h
  · exact absurd h (by simp)
  · rename_i hsave
    cases h
    exact MenuRepository.save_sameApart hsave

theorem Resaving.step {id : ℤ} {db : Db} {s : Sys} {e : Event} (h : Resaving id db s)
    (he : Resaves id e) : Resaving id db (s.step e) := by
  refine ⟨?_, ?_⟩
  · intro k p hp
    rcases Sys.pending_step hp with ⟨hp, -⟩ | ⟨req, rfl, -, rfl⟩ | ⟨q, -, hq, rfl⟩
    · exact h.pending k p hp
    · exact he
    · rw [q.findPlat_request]
      exact h.pending k q hq
  · obtain ⟨_, ho⟩ := s.exists_outcome e
    generalize (s.step e).db = db' at ho
    cases ho with
    | ongoing | saveMenuFails => exact h.sameApart
    | @saveMenu r p _ red hp _ hf =>
      have hid : red.id = id := by
        rw [(PendingSave.finish_ok hf).1.id_eq, h.pending r p hp]
        rfl
      exact h.sameApart.trans (hid ▸ PendingSave.finish_sameApart hf)
    | deleteMenu | savePlat | savePlatFails | deletePlat | deletePlatFails => exact he.elim

theorem Resaving.run {id : ℤ} {db : Db} {s : Sys} (h : Resaving id db s) (es : List Event)
    (hes : ∀ e ∈ es, Resaves id e) : Resaving id db (run Sys.step s es) := by
  induction es generalizing s with
  | nil => exact h
  | cons e es ih =>
    exact ih (h.step (hes e List.mem_cons_self)) fun e' h' => hes e' (List.mem_cons_of_mem _ h')

/-- **Deleting a menu undoes creating it.**  A new menu is saved, then saved again by any number of
requests in any order of their calls; deleting it succeeds and leaves the four tables as they were
before it was created, and deleting it again changes nothing. -/
theorem deleteMenu_undoes_saveMenu (db db₁ : Db) (req : SaveMenuRequest) (r : MenusRequest)
    (hnew : req.menu.id = none) (hsave : saveMenu db req = .ok (db₁, r)) (es : List Event)
    (hes : ∀ e ∈ es, Resaves r.id e) (del : DeleteMenuRequest) (hdel : del.id = r.id) :
    ∃ db₂ red, deleteMenu (run Sys.step (Sys.init db₁) es).db del = .ok (db₂, red) ∧
      db₂.tables = db.tables ∧ ∃ red', deleteMenu db₂ del = .ok (db₂, red') := by
  obtain ⟨⟨ids, -, hsaved⟩, hapart, -⟩ := saveMenu_ok hsave
  have hres : Resaving r.id db (run Sys.step (Sys.init db₁) es) :=
    Resaving.run ⟨by simp [Sys.init], hapart⟩ es hes
  obtain ⟨db₂, h₂, ht₂, -⟩ := deleteMenu_ok (run Sys.step (Sys.init db₁) es).db del
  -- the identifier was new, so that nothing of the first database is about it
  have hmissing : ¬ db.HasMenu r.id := by
    rintro ⟨m, hm, hid⟩
    have hlt := (db.menu_lt m hm).2
    rw [hsaved.id_eq, hnew, Option.getD_none] at hid
    omega
  have htables : db₂.tables = db.tables := by
    obtain ⟨hmenu, hmenuPlat⟩ := MenuRepository.delete_missing hmissing
    simp only [ht₂, hdel, hres.sameApart.menu, hres.sameApart.menuPlat, hmenu, hmenuPlat,
      hres.sameApart.plat, hres.sameApart.categorie]
  have hgone : ¬ db₂.HasMenu del.id := by
    rw [Db.HasMenu, htables, hdel]
    exact hmissing
  refine ⟨db₂, _, h₂, htables, ?_⟩
  rw [deleteMenu, MenuRepository.deleteById, if_neg hgone]
  exact ⟨_, rfl⟩

/-- A menu of the plats 1 and 2 is created, saved again with the plats 2 and 3 under another name,
and deleted. -/
theorem deleteMenu_undoes_saveMenu_carte :
    ∃ db₁ r db₂ red,
      saveMenu carte { menu := ⟨none, some "Brunch", some "", 15⟩, platIds := some [1, 2] } =
        .ok (db₁, r) ∧
      deleteMenu (run Sys.step (Sys.init db₁)
        [.startSaveMenu { menu := ⟨some r.id, some "Lunch", none, 12⟩, platIds := some [3, 2] },
          .findPlat 0, .findPlat 0, .finishSaveMenu 0]).db { id := r.id } = .ok (db₂, red) ∧
      db₂.tables = carte.tables := by
  obtain ⟨db₁, r, hsave⟩ : ∃ db₁ r,
      saveMenu carte { menu := ⟨none, some "Brunch", some "", 15⟩, platIds := some [1, 2] } =
        .ok (db₁, r) := exists_saveMenu (by simp) (by decide)
  obtain ⟨db₂, red, hdel, htables, -⟩ := deleteMenu_undoes_saveMenu carte db₁ _ r rfl hsave
    [.startSaveMenu { menu := ⟨some r.id, some "Lunch", none, 12⟩, platIds := some [3, 2] },
      .findPlat 0, .findPlat 0, .finishSaveMenu 0] (by simp [Resaves]) { id := r.id } rfl
  exact ⟨db₁, r, db₂, red, hsave, hdel, htables⟩

end GestionMenus
