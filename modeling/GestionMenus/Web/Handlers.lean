import GestionMenus.Web.Listing

/-!
# The requests that write

`MenuController.saveMenu`, `MenuController.deleteMenu`, `PlatController.savePlat` and
`PlatController.deletePlat`, each down to the redirect it answers with.

`saveMenu` is not one transaction: it looks the submitted plats up one by one and only then saves.
Other requests may run between any two of these calls, so it is a small state machine:

* `PendingSave` is a `saveMenu` under way.  Its fields say that what it has selected is what its
  persistence context holds, and that no plat is in it twice: the set has no `equals` to rely on,
  but one persistence context hands out one object for an identifier.
* `PendingSave.start`, `PendingSave.findPlat` and `PendingSave.finish` are its calls, and
  `PendingSave.finish` is where the keys of `menu_plat` are at stake.
* `saveMenu` runs them all on one database, for a request nothing interferes with.

The other three requests make one repository call each.
-/

set_option autoImplicit false

namespace GestionMenus

open IdentityMap

/-! ## `POST /menus/save` -/

/-- The parameters of `POST /menus/save`. -/
structure SaveMenuRequest where
  menu : MenuBean
  platIds : Option (List ℤ)
  page : ℤ := 0
  size : ℤ := 10
  filtre : String := ""

/-- A `saveMenu` between two of its repository calls. -/
structure PendingSave where
  request : SaveMenuRequest
  /-- The identifiers the loop has not reached yet. -/
  todo : List ℤ
  session : PlatSession
  selectedPlats : List (Obj Plat)
  /-- What was found was selected, and nothing else. -/
  selected_iff : ∀ o, o ∈ selectedPlats ↔ o ∈ session.objs
  selected_nodup : (selectedPlats.map fun o => o.row.id).Nodup

namespace PendingSave

/-- The identifiers of the plats selected so far. -/
def selectedIds (p : PendingSave) : List ℤ := p.selectedPlats.map fun o => o.row.id

/-- The request as it arrives.  Without `platIds` the loop has nothing to do. -/
def start (req : SaveMenuRequest) : PendingSave where
  request := req
  todo := req.platIds.getD []
  session := Session.empty _
  selectedPlats := []
  selected_iff := by simp [Session.empty]
  selected_nodup := by simp

/-- `selectedPlats::add`, for a plat that was found. -/
def select (p : PendingSave) (db : Db) (id : ℤ) (o : Obj Plat)
    (ho : (PlatRepository.findById db p.session id).1 = some o) : PendingSave :=
  have hsel : ∀ x ∈ p.selectedPlats, x ∈ (PlatRepository.findById db p.session id).2.objs :=
    fun x hx => (PlatRepository.mem_findById_iff id).2 (Or.inl ((p.selected_iff x).1 hx))
  have hmem := (PlatRepository.findById_some ho).2
  { p with
    session := (PlatRepository.findById db p.session id).2
    selectedPlats := addRef p.selectedPlats o
    selected_iff := fun x => by
      rw [Session.mem_addRef_iff _ hsel hmem, PlatRepository.mem_findById_iff, p.selected_iff, ho,
        Option.some_inj, eq_comm (a := o)]
    selected_nodup := Session.nodup_addRef _ hsel hmem p.selected_nodup }

/-- One turn of the loop: `platRepository.findById(platId).ifPresent(selectedPlats::add)`. -/
def findPlat (db : Db) (p : PendingSave) : PendingSave :=
  match p.todo with
  | [] => p
  | id :: todo =>
    match h : (PlatRepository.findById db p.session id).1 with
    | some o => { p.select db id o h with todo := todo }
    | none => { p with todo := todo }

/-- The end of the request: the save, and the redirect. -/
def finish (db : Db) (p : PendingSave) : Except WebError (Db × MenusRequest) :=
  let action := if p.request.menu.id.isSome then "mod" else "new"
  match MenuRepository.save db p.request.menu p.selectedPlats with
  | .error e => .error (.store e)
  | .ok (db, id) =>
    .ok (db,
      { page := p.request.page
        size := p.request.size
        filtre := p.request.filtre
        action := action
        id := id })

/-! ### One turn of the loop -/

theorem findPlat_nil (db : Db) {p : PendingSave} (h : p.todo = []) : p.findPlat db = p := by
  rw [findPlat]
  split
  · rfl
  · rename_i h'
    rw [h] at h'
    exact absurd h' (by simp)

theorem findPlat_request (db : Db) (p : PendingSave) : (p.findPlat db).request = p.request := by
  rw [findPlat]
  split
  · rfl
  · split <;> rfl

theorem findPlat_todo (db : Db) (p : PendingSave) : (p.findPlat db).todo = p.todo.tail := by
  rw [findPlat]
  split
  · rename_i h
    rw [h]
    rfl
  · rename_i h
    rw [h]
    split <;> rfl

/-- **What a turn of the loop selects**: the next plat, when it is found. -/
theorem mem_findPlat_iff (db : Db) (p : PendingSave) (o : Obj Plat) :
    o ∈ (p.findPlat db).selectedPlats ↔ o ∈ p.selectedPlats ∨
      ∃ id todo, p.todo = id :: todo ∧ (PlatRepository.findById db p.session id).1 = some o := by
  rw [findPlat]
  split
  · rename_i h
    simp [h]
  · rename_i id todo h
    split
    · rename_i o' ho'
      rw [selected_iff, p.selected_iff, h]
      simp [select, PlatRepository.mem_findById_iff, ho']
    · rename_i ho'
      simp [h, ho']

/-- A plat is selected by a turn of the loop only while it is stored. -/
theorem hasPlat_of_mem_findPlat {db : Db} {p : PendingSave} {o : Obj Plat}
    (h : o ∈ (p.findPlat db).selectedPlats) (hnew : o ∉ p.selectedPlats) :
    (∃ todo, p.todo = o.row.id :: todo) ∧ db.HasPlat o.row.id := by
  rcases (mem_findPlat_iff db p o).1 h with h | ⟨id, todo, htodo, ho⟩
  · exact absurd h hnew
  · obtain ⟨rfl, -⟩ := PlatRepository.findById_some ho
    exact ⟨⟨todo, htodo⟩, PlatRepository.hasPlat_of_findById ho ((p.selected_iff o).not.1 hnew)⟩

/-- A turn of the loop adds its plat, by identifier, when it is stored. -/
theorem mem_selectedIds_findPlat {db : Db} {p : PendingSave} {id : ℤ} {todo : List ℤ}
    (htodo : p.todo = id :: todo) (k : ℤ) :
    k ∈ (p.findPlat db).selectedIds ↔ k ∈ p.selectedIds ∨ k = id ∧ db.HasPlat id := by
  simp only [selectedIds, List.mem_map]
  refine ⟨?_, ?_⟩
  · rintro ⟨x, hx, rfl⟩
    by_cases hold : x ∈ p.selectedPlats
    · exact Or.inl ⟨x, hold, rfl⟩
    · obtain ⟨⟨todo', htodo'⟩, hplat⟩ := hasPlat_of_mem_findPlat hx hold
      rw [htodo, List.cons.injEq] at htodo'
      exact Or.inr ⟨htodo'.1.symm, htodo'.1 ▸ hplat⟩
  · rintro (⟨x, hx, rfl⟩ | ⟨rfl, hplat⟩)
    · exact ⟨x, (mem_findPlat_iff db p x).2 (Or.inl hx), rfl⟩
    · obtain ⟨o, ho⟩ := PlatRepository.exists_findById p.session hplat
      exact ⟨o, (mem_findPlat_iff db p o).2 (Or.inr ⟨k, todo, htodo, ho⟩),
        (PlatRepository.findById_some ho).1⟩

/-- The set a turn of the loop leaves. -/
theorem selectedPlats_findPlat (db : Db) {p : PendingSave} {id : ℤ} {todo : List ℤ}
    (htodo : p.todo = id :: todo) :
    (p.findPlat db).selectedPlats = match (PlatRepository.findById db p.session id).1 with
      | some o => addRef p.selectedPlats o
      | none => p.selectedPlats := by
  rw [findPlat]
  split
  · rename_i h
    exact absurd (htodo.symm.trans h) (by simp)
  · rename_i h
    rw [htodo, List.cons.injEq] at h
    obtain ⟨rfl, -⟩ := h
    split
    · rename_i o ho
      show addRef p.selectedPlats o = _
      rw [ho]
    · rename_i ho
      rw [ho]

/-- Where a turn of the loop puts its plat: at the end, when it is stored and not there yet. -/
theorem selectedIds_findPlat (db : Db) {p : PendingSave} {id : ℤ} {todo : List ℤ}
    (htodo : p.todo = id :: todo) :
    (p.findPlat db).selectedIds =
      if db.HasPlat id ∧ id ∉ p.selectedIds then p.selectedIds ++ [id] else p.selectedIds := by
  rw [selectedIds, selectedPlats_findPlat db htodo]
  cases ho : (PlatRepository.findById db p.session id).1 with
  | none =>
    have hno : ¬ db.HasPlat id := by
      intro hplat
      obtain ⟨o, ho'⟩ := PlatRepository.exists_findById p.session hplat
      exact absurd (ho.symm.trans ho') (by simp)
    rw [if_neg fun h => hno h.1]
    rfl
  | some o =>
    obtain ⟨rfl, hmem⟩ := PlatRepository.findById_some ho
    have hsel : ∀ x ∈ p.selectedPlats, x ∈ (PlatRepository.findById db p.session o.row.id).2.objs :=
      fun x hx => (PlatRepository.mem_findById_iff _).2 (Or.inl ((p.selected_iff x).1 hx))
    have hiff := Session.containsRef_iff _ hsel hmem
    simp only [addRef]
    rw [containsRef] at hiff
    by_cases hin : o.row.id ∈ p.selectedIds
    · rw [if_pos (hiff.2 hin), if_neg fun h => h.2 hin]
      rfl
    · have hnew : o ∉ p.session.objs := fun h =>
        hin (List.mem_map_of_mem ((p.selected_iff o).2 h))
      rw [if_neg (hiff.not.2 hin),
        if_pos ⟨PlatRepository.hasPlat_of_findById ho hnew, hin⟩, List.map_append]
      rfl

/-! ### The save -/

/-- A `saveMenu` that succeeds is a `save` that does. -/
theorem finish_save {db db' : Db} {p : PendingSave} {r : MenusRequest}
    (h : p.finish db = .ok (db', r)) :
    MenuRepository.save db p.request.menu p.selectedPlats = .ok (db', r.id) := by
  rw [finish] at h
  split at h
  · exact absurd h (by simp)
  · rename_i hsave
    cases h
    exact hsave

/-- **What a `saveMenu` that succeeds has done.** -/
theorem finish_ok {db db' : Db} {p : PendingSave} {r : MenusRequest}
    (h : p.finish db = .ok (db', r)) :
    MenuRepository.Saved db p.request.menu p.selectedIds db' r.id ∧
      r.action = (if p.request.menu.id.isSome then "mod" else "new") := by
  rw [finish] at h
  split at h
  · exact absurd h (by simp)
  · rename_i hsave
    cases h
    exact ⟨MenuRepository.save_ok hsave, rfl⟩

theorem finish_error {db : Db} {p : PendingSave} {e : WebError} (h : p.finish db = .error e) :
    ∃ e', e = .store e' ∧ MenuRepository.save db p.request.menu p.selectedPlats = .error e' := by
  rw [finish] at h
  split at h
  · rename_i e' hsave
    cases h
    exact ⟨e', rfl, hsave⟩
  · exact absurd h (by simp)

end PendingSave

/-- `MenuController.saveMenu`, when no other request runs in between. -/
def saveMenu (db : Db) (req : SaveMenuRequest) : Except WebError (Db × MenusRequest) :=
  PendingSave.finish db
    ((req.platIds.getD []).foldl (fun p _ => p.findPlat db) (PendingSave.start req))

/-- The loop on one database selects the submitted plats that exist. -/
theorem mem_selectedIds_loop {db : Db} {p : PendingSave} {todo : List ℤ} (htodo : p.todo = todo)
    (k : ℤ) :
    k ∈ (todo.foldl (fun p _ => p.findPlat db) p).selectedIds ↔
      k ∈ p.selectedIds ∨ k ∈ todo ∧ db.HasPlat k := by
  induction todo generalizing p with
  | nil => simp
  | cons id todo ih =>
    have htail : (p.findPlat db).todo = todo := by rw [p.findPlat_todo, htodo]; rfl
    rw [List.foldl_cons, ih htail, PendingSave.mem_selectedIds_findPlat htodo, List.mem_cons]
    refine ⟨?_, ?_⟩
    · rintro ((h | ⟨rfl, hplat⟩) | ⟨h, hplat⟩)
      · exact Or.inl h
      · exact Or.inr ⟨Or.inl rfl, hplat⟩
      · exact Or.inr ⟨Or.inr h, hplat⟩
    · rintro (h | ⟨rfl | h, hplat⟩)
      · exact Or.inl (Or.inl h)
      · exact Or.inl (Or.inr ⟨rfl, hplat⟩)
      · exact Or.inr ⟨h, hplat⟩

theorem request_loop (db : Db) (p : PendingSave) (l : List ℤ) :
    (l.foldl (fun p _ => p.findPlat db) p).request = p.request := by
  induction l generalizing p with
  | nil => rfl
  | cons id l ih => rw [List.foldl_cons, ih, p.findPlat_request]

/-! ## The other requests -/

/-- The parameters of `GET /menuDelete`. -/
structure DeleteMenuRequest where
  id : ℤ
  page : ℤ := 0
  size : ℤ := 10
  filtre : String := ""

/-- `MenuController.deleteMenu`. -/
def deleteMenu (db : Db) (req : DeleteMenuRequest) : Except WebError (Db × MenusRequest) :=
  match MenuRepository.deleteById db req.id with
  | .error e => .error (.store e)
  | .ok db =>
    .ok (db, { page := req.page, size := req.size, filtre := req.filtre, action := "del" })

/-- The parameters of `POST /plats/save`. -/
structure SavePlatRequest where
  plat : PlatBean
  page : ℤ
  size : ℤ
  motCle : String := ""

/-- `PlatController.savePlat`. -/
def savePlat (db : Db) (req : SavePlatRequest) : Except WebError (Db × PlatsRequest) :=
  let action := if req.plat.id.isSome then "mod" else "new"
  match PlatRepository.save db req.plat with
  | .error e => .error (.store e)
  | .ok (db, id) =>
    .ok (db,
      { page := req.page, size := req.size, motCle := req.motCle, action := action, id := id })

/-- The parameters of `GET /platDelete`. -/
structure DeletePlatRequest where
  id : ℤ
  page : ℤ := 0
  size : ℤ := 5
  motCle : String := ""
  categorieId : Option ℤ := none
  minCalories : Option Int32 := none
  maxCalories : Option Int32 := none

/-- `PlatController.deletePlat`.  The redirect has the keyword and none of the other criteria. -/
def deletePlat (db : Db) (req : DeletePlatRequest) : Except WebError (Db × PlatsRequest) :=
  match PlatRepository.deleteById db req.id with
  | .error e => .error (.store e)
  | .ok db =>
    .ok (db, { page := req.page, size := req.size, motCle := req.motCle, action := "del" })

/-- **What `deleteMenu` does**: it always succeeds. -/
theorem deleteMenu_ok (db : Db) (req : DeleteMenuRequest) :
    ∃ db', deleteMenu db req = .ok (db',
        { page := req.page, size := req.size, filtre := req.filtre, action := "del" }) ∧
      db'.tables = { db.tables with
        menu := Sql.deleteRow Menu.id req.id db.tables.menu
        menuPlat := db.tables.menuPlat.filter fun r => !decide (r.menuId = req.id) } ∧
      db'.menuSeq = db.menuSeq ∧ db'.platSeq = db.platSeq := by
  obtain ⟨db', h, ht, hm, hp⟩ := MenuRepository.exists_deleteById db req.id
  refine ⟨db', ?_, ht, hm, hp⟩
  rw [deleteMenu, h]

/-- A `savePlat` that succeeds is a `save` that does. -/
theorem savePlat_save {db db' : Db} {req : SavePlatRequest} {r : PlatsRequest}
    (h : savePlat db req = .ok (db', r)) :
    PlatRepository.save db req.plat = .ok (db', r.id) ∧
      r.action = (if req.plat.id.isSome then "mod" else "new") := by
  rw [savePlat] at h
  split at h
  · exact absurd h (by simp)
  · rename_i hsave
    cases h
    exact ⟨hsave, rfl⟩

/-- **What a `savePlat` that succeeds has done.** -/
theorem savePlat_ok {db db' : Db} {req : SavePlatRequest} {r : PlatsRequest}
    (h : savePlat db req = .ok (db', r)) :
    PlatRepository.Saved db req.plat db' r.id ∧
      r.action = (if req.plat.id.isSome then "mod" else "new") :=
  ⟨PlatRepository.save_ok (savePlat_save h).1, (savePlat_save h).2⟩

theorem savePlat_error {db : Db} {req : SavePlatRequest} {e : WebError}
    (h : savePlat db req = .error e) :
    ∃ e', e = .store e' ∧ PlatRepository.save db req.plat = .error e' := by
  rw [savePlat] at h
  split at h
  · rename_i e' hsave
    cases h
    exact ⟨e', rfl, hsave⟩
  · exact absurd h (by simp)

/-- **What a `deletePlat` that succeeds has done.** -/
theorem deletePlat_ok {db db' : Db} {req : DeletePlatRequest} {r : PlatsRequest}
    (h : deletePlat db req = .ok (db', r)) :
    (∀ row ∈ db.tables.menuPlat, row.platId ≠ req.id) ∧
      db'.tables = { db.tables with plat := Sql.deleteRow Plat.id req.id db.tables.plat } ∧
      db'.menuSeq = db.menuSeq ∧ db'.platSeq = db.platSeq ∧
      r = { page := req.page, size := req.size, motCle := req.motCle, action := "del" } := by
  rw [deletePlat] at h
  split at h
  · exact absurd h (by simp)
  · rename_i hdel
    cases h
    obtain ⟨hfree, ht, hm, hp⟩ := PlatRepository.deleteById_ok hdel
    exact ⟨hfree, ht, hm, hp, rfl⟩

/-- `deletePlat` fails exactly when a menu contains the plat. -/
theorem deletePlat_error {db : Db} {req : DeletePlatRequest} {e : WebError}
    (h : deletePlat db req = .error e) :
    e = .store (.foreignKey .menuPlat) ∧ ∃ row ∈ db.tables.menuPlat, row.platId = req.id := by
  rw [deletePlat] at h
  split at h
  · rename_i e' hdel
    cases h
    obtain ⟨rfl, hrow⟩ := PlatRepository.deleteById_error hdel
    exact ⟨rfl, hrow⟩
  · exact absurd h (by simp)

end GestionMenus
