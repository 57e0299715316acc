import Mathlib.Data.Finset.Dedup
import GestionMenus.Base.Overwrite
import GestionMenus.Web.Editing

/-!
# Two forms open on one menu

Two users open the form of the same menu, change something, and save, each at their own pace.  A
save writes the whole form: all the fields, and the association as a set.  It keeps no version and
compares nothing with what the form was rendered from.

* `Phase` is one session — not begun, a form that is open, a `saveMenu` under way, the end — and
  `Phase.step` one step of it.  `Sessions` is two of them on one database, in any interleaving.
* `MenuContent` is what a form shows and what a store holds of a menu, and `Aspect` one of its
  parts: a field, or whether one plat belongs to the menu.
* `Sessions.register` forgets everything else.  What is left is a value that is read and overwritten
  (`Overwrite.Register`), and `Sessions.register_step` says that every step of the sessions is one
  of its actions or none.

`change_kept_iff` is what follows for the session that saves first: the store ends up as the other
session submitted it, and a change the other left alone survives exactly when the other form was
rendered after it.
-/

set_option autoImplicit false

namespace GestionMenus

open Runs Double

/-! ## What a menu consists of -/

/-- The content of a menu, with the empty text for `NULL`. -/
structure MenuContent where
  nom : String
  description : String
  prix : ℚ
  plats : Finset ℤ
  deriving DecidableEq

/-- A field of a menu, or the membership of one plat. -/
inductive Aspect where
  | nom
  | description
  | prix
  | plat (id : ℤ)

/-- Two contents have the same value in one respect. -/
def MenuContent.Agree (c c' : MenuContent) : Aspect → Prop
  | .nom => c.nom = c'.nom
  | .description => c.description = c'.description
  | .prix => c.prix = c'.prix
  | .plat id => id ∈ c.plats ↔ id ∈ c'.plats

theorem MenuContent.Agree.symm {c c' : MenuContent} {x : Aspect} (h : c.Agree c' x) :
    c'.Agree c x := by
  cases x with
  | nom | description | prix => exact Eq.symm h
  | plat id => exact Iff.symm h

theorem MenuContent.Agree.trans {c₁ c₂ c₃ : MenuContent} {x : Aspect} (h : c₁.Agree c₂ x)
    (h' : c₂.Agree c₃ x) : c₁.Agree c₃ x := by
  cases x with
  | nom | description | prix => exact Eq.trans h h'
  | plat id => exact Iff.trans h h'

/-- What the store holds of a menu. -/
def Db.content (db : Db) (id : ℤ) : Option MenuContent :=
  (Sql.lookup Menu.id id db.tables.menu).map fun m =>
    ⟨m.nom.getD "", m.description.getD "", m.prix, (db.platIdsOf id).toFinset⟩

/-- What a form shows. -/
def MenuForm.content (f : MenuForm) : MenuContent :=
  ⟨f.menu.nom.getD "", f.menu.description.getD "", f.menu.prix, f.selectedIds.toFinset⟩

/-- What a user does to a form: clicks on the buttons of its items, and what the fields are in the
end. -/
structure Edit where
  clicks : List (MenuForm.Side × ℕ)
  nom : String
  description : String
  prix : ℚ

/-- The form after the clicks. -/
def Edit.apply (e : Edit) (f : MenuForm) : MenuForm :=
  run (fun f c => f.click c.1 c.2) f e.clicks

/-- The submission. -/
def Edit.request (e : Edit) (f : MenuForm) : SaveMenuRequest :=
  ((e.apply f).input e.nom e.description e.prix).request

/-- What is submitted. -/
def Edit.content (e : Edit) (f : MenuForm) : MenuContent :=
  ⟨e.nom, submittedText e.description, toDouble e.prix, (e.apply f).selectedIds.toFinset⟩

/-! ## A session -/

/-- How far an editing session is. -/
inductive Phase where
  | waiting
  /-- `GET /edit` was answered with this form. -/
  | editing (f : MenuForm)
  /-- The form was submitted, and its `saveMenu` is under way. -/
  | saving (f : MenuForm) (e : Edit) (p : PendingSave)
  | saved (f : MenuForm) (e : Edit)
  | failed

/-- What a session does next. -/
inductive Move where
  /-- `GET /edit`, with any criteria. -/
  | get (req : EditRequest)
  /-- `POST /menus/save` of the form, changed. -/
  | post (e : Edit)
  /-- The next `findById` of its `saveMenu`. -/
  | findPlat
  /-- The `save`. -/
  | save

/-- One step of a session on the menu `id`, and what it does to the database. -/
def Phase.step (col : Collation) (id : ℤ) (db : Db) : Phase → Move → Db × Phase
  | .waiting, .get req =>
    match editMenu col db { req with id := id } with
    | .menuForm f => (db, .editing f)
    | .redirect _ => (db, .failed)
  | .editing f, .post e =>
    if (e.apply f).validateMenuSelection then (db, .saving f e (.start (e.request f)))
    else (db, .editing f)
  | .saving f e p, .findPlat => (db, .saving f e (p.findPlat db))
  | .saving f e p, .save =>
    if p.todo = [] then
      match p.finish db with
      | .ok (db', _) => (db', .saved f e)
      | .error _ => (db, .failed)
    else (db, .saving f e p)
  | ph, _ => (db, ph)

/-- The two sessions. -/
inductive Tab where
  | left
  | right
  deriving DecidableEq

/-- The other session. -/
def Tab.other : Tab → Tab
  | .left => .right
  | .right => .left

theorem Tab.other_ne (w : Tab) : w.other ≠ w := by
  cases w <;> decide

theorem Tab.eq_or_eq_other (w k : Tab) : k = w ∨ k = w.other := by
  cases w <;> cases k <;> decide

/-- The database and the two sessions. -/
structure Sessions where
  db : Db
  phase : Tab → Phase

namespace Sessions

/-- Nothing has been asked yet. -/
def init (db : Db) : Sessions := ⟨db, fun _ => .waiting⟩

/-- One step of one of the sessions. -/
def step (col : Collation) (id : ℤ) (s : Sessions) (e : Tab × Move) : Sessions :=
  let (db, ph) := (s.phase e.1).step col id s.db e.2
  ⟨db, fun k => if k = e.1 then ph else s.phase k⟩

end Sessions

/-- Has the session saved? -/
def Phase.IsSaved : Phase → Prop
  | .saved _ _ => True
  | .waiting | .editing _ | .saving _ _ _ | .failed => False

instance : DecidablePred Phase.IsSaved
  | .saved _ _ => .isTrue trivial
  | .waiting | .editing _ | .saving _ _ _ | .failed => .isFalse id

/-- The name on the form of a session that has saved, and the name it has submitted. -/
def Phase.noms : Phase → Option (String × String)
  | .saved f e => some (f.menu.nom.getD "", e.nom)
  | .waiting | .editing _ | .saving _ _ _ | .failed => none

/-- What a step of a session does: the database it leaves, and the phase. -/
inductive Phase.Outcome (col : Collation) (id : ℤ) (db : Db) : Phase → Db → Phase → Prop
  | nothing {ph : Phase} : Outcome col id db ph db ph
  | rendered {req : EditRequest} {f : MenuForm} (hid : req.id = id)
      (h : editMenu col db req = .menuForm f) : Outcome col id db .waiting db (.editing f)
  | submitted {f : MenuForm} {e : Edit} (hv : (e.apply f).validateMenuSelection = true) :
      Outcome col id db (.editing f) db (.saving f e (.start (e.request f)))
  | lookup {f : MenuForm} {e : Edit} {p : PendingSave} :
      Outcome col id db (.saving f e p) db (.saving f e (p.findPlat db))
  | saved {f : MenuForm} {e : Edit} {p : PendingSave} {db' : Db} {r : MenusRequest}
      (htodo : p.todo = []) (h : p.finish db = .ok (db', r)) :
      Outcome col id db (.saving f e p) db' (.saved f e)
  | failed {ph : Phase} (h : ¬ ph.IsSaved) : Outcome col id db ph db .failed

/-- **What one step of a session can do.** -/
theorem Phase.outcome (col : Collation) (id : ℤ) (db : Db) (ph : Phase) (mv : Move) :
    Outcome col id db ph (ph.step col id db mv).1 (ph.step col id db mv).2 := by
  cases ph with
  | waiting =>
    cases mv with
    | get req =>
      rw [Phase.step]
      split
      · rename_i f hf
        exact .rendered rfl hf
      · exact .failed fun h => h
    | post e | findPlat | save => exact .nothing
  | editing f =>
    cases mv with
    | post e =>
      rw [Phase.step]
      split_ifs with hv
      · exact .submitted hv
      · exact .nothing
    | get req | findPlat | save => exact .nothing
  | saving f e p =>
    cases mv with
    | findPlat => exact .lookup
    | save =>
      rw [Phase.step]
      split_ifs with htodo
      · split
        · rename_i db' r hf
          exact .saved htodo hf
        · exact .failed fun h => h
      · exact .nothing
    | get req | post e => exact .nothing
  | saved f e => cases mv <;> exact .nothing
  | failed => cases mv <;> exact .nothing

/-! ## What a session carries along -/

/-- A form of the menu `id` that is open: whatever is on it is stored. -/
structure MenuForm.Opened (id : ℤ) (db : Db) (f : MenuForm) : Prop where
  menu_id : f.menu.id = some id
  page : ∃ data, f.Inv data ∧ (data.map ItemData.id).Nodup ∧
    ∀ k ∈ data.map ItemData.id, db.HasPlat k

/-- The invariant of a session. -/
def Phase.Ok (id : ℤ) (db : Db) : Phase → Prop
  | .editing f => f.Opened id db
  | .saving f e p => f.Opened id db ∧ p.request = e.request f ∧ Follows (e.apply f) p True
  | .waiting | .saved _ _ | .failed => True

theorem MenuForm.Opened.congr {id : ℤ} {db db' : Db} {f : MenuForm} (h : f.Opened id db)
    (hplat : db'.tables.plat = db.tables.plat) : f.Opened id db' := by
  refine ⟨h.menu_id, ?_⟩
  rw [show db'.HasPlat = db.HasPlat by funext k; rw [Db.HasPlat, hplat]; rfl]
  exact h.page

theorem Phase.Ok.congr {id : ℤ} {db db' : Db} {ph : Phase} (h : ph.Ok id db)
    (hplat : db'.tables.plat = db.tables.plat) : ph.Ok id db' := by
  cases ph with
  | waiting | saved f e | failed => trivial
  | editing f => exact MenuForm.Opened.congr h hplat
  | saving f e p => exact ⟨h.1.congr hplat, h.2⟩

/-- **A form shows what is stored when it is rendered.** -/
theorem content_of_editMenu {col : Collation} {db : Db} {id : ℤ} (hid : db.HasMenu id)
    {req : EditRequest} (hreq : req.id = id) {f : MenuForm}
    (h : editMenu col db req = .menuForm f) :
    f.Opened id db ∧ db.content id = some f.content := by
  obtain ⟨m, hm, rfl⟩ := hid
  obtain ⟨f', hf', hmenu, -⟩ := editMenu_stored col hm hreq
  rw [h] at hf'
  cases hf'
  obtain ⟨data, hinv, hnd, hids, hdata, hsel⟩ := ids_editMenu h
  have hown : ownIds db req.id = db.platIdsOf m.id := by
    have hpos := (db.menu_lt m hm).1
    rw [ownIds, if_pos (show req.id ≠ 0 by omega), hreq]
  refine ⟨⟨by rw [hmenu], data, hinv, hnd, ?_⟩, ?_⟩
  · intro k hk
    obtain ⟨d, hd, rfl⟩ := List.mem_map.1 hk
    obtain ⟨p, hp, rfl⟩ := hdata d hd
    exact ⟨p, hp, rfl⟩
  · rw [Db.content, (Sql.lookup_eq_some_iff db.valid.menu_pk).2 ⟨hm, rfl⟩, Option.map_some,
      MenuForm.content, hmenu, hsel, hown]

theorem Edit.apply_menu (e : Edit) (f : MenuForm) : (e.apply f).menu = f.menu :=
  run_invariant (P := fun g : MenuForm => g.menu = f.menu) rfl
    (fun g c h => (g.menu_click c.1 c.2).trans h) e.clicks

theorem Edit.request_menu (e : Edit) (f : MenuForm) :
    (e.request f).menu =
      ⟨f.menu.id, some e.nom, some (submittedText e.description), toDouble e.prix⟩ := by
  rw [Edit.request, MenuInput.request, MenuForm.input, e.apply_menu]

/-- At the end of its loop, a `saveMenu` that found every plat has selected those of its form. -/
theorem Follows.mem_selectedIds_iff {f : MenuForm} {p : PendingSave} (h : Follows f p True)
    (htodo : p.todo = []) (k : ℤ) : k ∈ p.selectedIds ↔ k ∈ f.selectedIds := by
  obtain ⟨done, hids, hsub, hfound⟩ := h.looked
  rw [hids, htodo, List.append_nil]
  exact ⟨hsub k, hfound.2 trivial k⟩

/-- **A save stores what is submitted.** -/
theorem content_of_finish {db db' : Db} {id : ℤ} {f : MenuForm} {e : Edit} {p : PendingSave}
    {r : MenusRequest} (hok : Phase.Ok id db (.saving f e p)) (htodo : p.todo = [])
    (h : p.finish db = .ok (db', r)) :
    db'.content id = some (e.content f) ∧ db'.tables.plat = db.tables.plat ∧ db'.HasMenu id := by
  obtain ⟨hopened, hreq, hfollows⟩ := hok
  have hsaved := (PendingSave.finish_ok h).1
  rw [hreq, e.request_menu] at hsaved
  have hid : r.id = id := by rw [hsaved.id_eq, hopened.menu_id]; rfl
  rw [hid] at hsaved
  have hlook := (Sql.lookup_eq_some_iff db'.valid.menu_pk).2 ⟨hsaved.row_mem, rfl⟩
  refine ⟨?_, hsaved.plat_eq, ⟨_, hsaved.row_mem, rfl⟩⟩
  have hplats : (db'.platIdsOf id).toFinset = (e.apply f).selectedIds.toFinset := by
    ext k
    rw [List.mem_toFinset, List.mem_toFinset, db'.mem_platIdsOf, hsaved.mem_menuPlat,
      hfollows.mem_selectedIds_iff htodo]
    simp
  rw [Db.content, show Sql.lookup Menu.id id db'.tables.menu = _ from hlook, Option.map_some,
    hplats]
  rfl

/-- **A step keeps the invariant of its session.** -/
theorem Phase.Outcome.ok {col : Collation} {id : ℤ} {db db' : Db} {ph ph' : Phase}
    (h : Outcome col id db ph db' ph') (hid : db.HasMenu id) (hok : ph.Ok id db) :
    ph'.Ok id db' ∧ db'.tables.plat = db.tables.plat ∧ db'.HasMenu id := by
  cases h with
  | nothing => exact ⟨hok, rfl, hid⟩
  | rendered hreq h => exact ⟨(content_of_editMenu hid hreq h).1, rfl, hid⟩
  | @submitted f e hv =>
    obtain ⟨data, hinv, hnd, -⟩ := hok.page
    exact ⟨⟨hok, rfl, .start (hinv.clicks e.clicks) hnd hv e.nom e.description e.prix⟩, rfl, hid⟩
  | @lookup f e p =>
    obtain ⟨hopened, hreq, hfollows⟩ := hok
    refine ⟨⟨hopened, (p.findPlat_request db).trans hreq, ?_⟩, rfl, hid⟩
    -- no plat is ever deleted here, so that every lookup finds its plat
    have hfound : ∀ k ∈ p.todo.head?, db.HasPlat k := by
      intro k hk
      obtain ⟨data, hinv, -, hplat⟩ := hopened.page
      obtain ⟨done, hids, -⟩ := hfollows.looked
      refine hplat k ((hinv.clicks e.clicks).ids_perm.mem_iff.1 (List.mem_append_right _ ?_))
      rw [show (run (fun f c => f.click c.1 c.2) f e.clicks).selectedIds = done ++ p.todo from hids]
      exact List.mem_append_right _ (List.mem_of_mem_head? hk)
    have hnext := hfollows.findPlat db
    rwa [true_and, eq_true hfound] at hnext
  | saved htodo h =>
    obtain ⟨-, hplat, hmenu⟩ := content_of_finish hok htodo h
    exact ⟨trivial, hplat, hmenu⟩
  | failed => exact ⟨trivial, rfl, hid⟩

/-! ## The two sessions as a register -/

/-- A session, seen from the content of the menu. -/
def Phase.client : Phase → Overwrite.Client (Option MenuContent)
  | .waiting => .idle
  | .editing f => .holds (some f.content)
  | .saving f _ _ => .holds (some f.content)
  | .saved f e => .wrote (some f.content) (some (e.content f))
  | .failed => .gone

theorem Phase.client_eq_idle_iff (ph : Phase) : ph.client = .idle ↔ ph = .waiting := by
  cases ph <;> simp [Phase.client]

/-- **A step of a session is an action of a client, or none.** -/
theorem Phase.Outcome.client {col : Collation} {id : ℤ} {db db' : Db} {ph ph' : Phase}
    (h : Outcome col id db ph db' ph') (hid : db.HasMenu id) (hok : ph.Ok id db) :
    (db' = db ∧ ph'.client = ph.client ∧ (ph'.IsSaved → ph.IsSaved)) ∨
    (db' = db ∧ ph = .waiting ∧ ph'.client = .holds (db.content id) ∧ ¬ ph'.IsSaved) ∨
    (db' = db ∧ ph'.client = .gone ∧ ¬ ph'.IsSaved) ∨
    (∃ f e p, ph = .saving f e p ∧ ph' = .saved f e ∧ db'.content id = some (e.content f)) := by
  cases h with
  | nothing => exact Or.inl ⟨rfl, rfl, fun h => h⟩
  | rendered hreq h =>
    refine Or.inr (Or.inl ⟨rfl, rfl, ?_, fun h => h⟩)
    rw [(content_of_editMenu hid hreq h).2]
    rfl
  | submitted hv => exact Or.inl ⟨rfl, rfl, fun h => h⟩
  | lookup => exact Or.inl ⟨rfl, rfl, fun h => h⟩
  | saved htodo h =>
    exact Or.inr (Or.inr (Or.inr ⟨_, _, _, rfl, rfl, (content_of_finish hok htodo h).1⟩))
  | failed => exact Or.inr (Or.inr (Or.inl ⟨rfl, rfl, fun h => h⟩))

namespace Sessions

/-- The sessions, seen from the content of the menu. -/
def register (id : ℤ) (s : Sessions) : Overwrite.Register Tab (Option MenuContent) :=
  ⟨s.db.content id, fun k => (s.phase k).client⟩

/-- The invariant of the sessions. -/
structure Inv (id : ℤ) (s : Sessions) : Prop where
  hasMenu : s.db.HasMenu id
  ok : ∀ k, (s.phase k).Ok id s.db

/-- The save of this session is the next step, and it succeeds. -/
def Saves (col : Collation) (id : ℤ) (s : Sessions) (w : Tab) : Prop :=
  ∃ f e p, s.phase w = .saving f e p ∧ (s.step col id (w, .save)).phase w = .saved f e

variable {col : Collation} {id : ℤ}

@[simp] theorem step_db (s : Sessions) (w : Tab) (mv : Move) :
    (s.step col id (w, mv)).db = ((s.phase w).step col id s.db mv).1 := rfl

@[simp] theorem step_phase_self (s : Sessions) (w : Tab) (mv : Move) :
    (s.step col id (w, mv)).phase w = ((s.phase w).step col id s.db mv).2 := if_pos rfl

theorem step_phase_of_ne (s : Sessions) {w k : Tab} (hk : k ≠ w) (mv : Move) :
    (s.step col id (w, mv)).phase k = s.phase k := if_neg hk

theorem Inv.step {s : Sessions} (h : s.Inv id) (e : Tab × Move) : (s.step col id e).Inv id := by
  obtain ⟨w, mv⟩ := e
  obtain ⟨hok, hplat, hmenu⟩ :=
    ((s.phase w).outcome col id s.db mv).ok h.hasMenu (h.ok w)
  refine ⟨hmenu, ?_⟩
  intro k
  by_cases hk : k = w
  · subst hk
    rw [step_phase_self]
    exact hok
  · rw [step_phase_of_ne s hk]
    exact (h.ok k).congr hplat

theorem Inv.run {s : Sessions} (h : s.Inv id) (l : List (Tab × Move)) :
    (run (Sessions.step col id) s l).Inv id :=
  run_invariant h (fun _ e hs => hs.step e) l

@[simp] theorem register_client (s : Sessions) (k : Tab) :
    (s.register id).client k = (s.phase k).client := rfl

/-- The register after a step of one session. -/
theorem register_set {s s' : Sessions} {w : Tab} (hne : ∀ k, k ≠ w → s'.phase k = s.phase k) :
    s'.register id =
      { (s.register id).set w (s'.phase w).client with value := s'.db.content id } := by
  rw [register, Overwrite.Register.mk.injEq]
  refine ⟨rfl, ?_⟩
  funext k
  by_cases hk : k = w
  · subst hk
    exact (if_pos rfl).symm
  · rw [hne k hk]
    exact (if_neg hk).symm

/-- **A step of the sessions is an action of the register, or none**, and it is a write exactly when
a save succeeds. -/
theorem register_step {s : Sessions} (h : s.Inv id) (w : Tab) (mv : Move) :
    (((s.step col id (w, mv)).register id = s.register id ∨
        ∃ a, ¬ a.IsWrite ∧ (s.step col id (w, mv)).register id = (s.register id).step a) ∧
      ∀ k, ((s.step col id (w, mv)).phase k).IsSaved → (s.phase k).IsSaved) ∨
    (∃ f e p, s.phase w = .saving f e p ∧ (s.step col id (w, mv)).phase w = .saved f e ∧
      (s.step col id (w, mv)).register id =
        (s.register id).step (.write w (some (e.content f)))) := by
  have hne : ∀ k, k ≠ w → (s.step col id (w, mv)).phase k = s.phase k :=
    fun k hk => s.step_phase_of_ne hk mv
  have hmono : (((s.phase w).step col id s.db mv).2.IsSaved → (s.phase w).IsSaved) →
      ∀ k, ((s.step col id (w, mv)).phase k).IsSaved → (s.phase k).IsSaved := by
    intro hw k
    by_cases hk : k = w
    · subst hk
      rw [step_phase_self]
      exact hw
    · rw [hne k hk]
      exact fun hs => hs
  obtain ⟨hdb, hcl, hs⟩ | ⟨hdb, hw, hcl, hs⟩ | ⟨hdb, hcl, hs⟩ | ⟨f, e, p, hw, hph, hcontent⟩ :=
    ((s.phase w).outcome col id s.db mv).client h.hasMenu (h.ok w)
  · refine Or.inl ⟨Or.inl ?_, hmono hs⟩
    rw [register_set hne, step_phase_self, hcl, step_db, hdb]
    exact (s.register id).set_client w
  · refine Or.inl ⟨Or.inr ⟨.read w, fun h => h, ?_⟩, hmono fun h => absurd h hs⟩
    rw [register_set hne, step_phase_self, hcl, step_db, hdb, Overwrite.Register.step_read
      ((s.register_client w).trans (congrArg Phase.client hw))]
    rfl
  · refine Or.inl ⟨Or.inr ⟨.leave w, fun h => h, ?_⟩, hmono fun h => absurd h hs⟩
    rw [register_set hne, step_phase_self, hcl, step_db, hdb]
    rfl
  · refine Or.inr ⟨f, e, p, hw, (s.step_phase_self w mv).trans hph, ?_⟩
    rw [register_set hne, step_phase_self, hph, step_db, hcontent, Overwrite.Register.step_write
      ((s.register_client w).trans (congrArg Phase.client hw))]
    rfl

/-- A session that has saved does nothing more. -/
theorem phase_saved_run {s : Sessions} {w : Tab} {f : MenuForm} {e : Edit}
    (h : s.phase w = .saved f e) (l : List (Tab × Move)) :
    (run (step col id) s l).phase w = .saved f e := by
  refine run_invariant (P := fun t : Sessions => t.phase w = .saved f e) h ?_ l
  rintro t ⟨k, mv⟩ ht
  by_cases hk : w = k
  · subst hk
    rw [step_phase_self, ht]
    cases mv <;> rfl
  · rw [t.step_phase_of_ne hk, ht]

theorem isSaved_run {s : Sessions} {w : Tab} (h : (s.phase w).IsSaved) (l : List (Tab × Move)) :
    ((run (step col id) s l).phase w).IsSaved := by
  cases hph : s.phase w with
  | saved f e =>
    rw [phase_saved_run hph]
    trivial
  | waiting | editing f | saving f e p | failed =>
    rw [hph] at h
    exact h.elim

/-- **As long as no save succeeds, the register is quiet.** -/
theorem quiet_run {s : Sessions} (h : s.Inv id) (l : List (Tab × Move))
    (hs : ∀ k, ((run (step col id) s l).phase k).IsSaved → (s.phase k).IsSaved) :
    Overwrite.Quiet (s.register id) ((run (step col id) s l).register id) := by
  induction l using List.reverseRecOn with
  | nil => exact .refl _
  | append_singleton l e ih =>
    obtain ⟨w, mv⟩ := e
    have hbefore : ∀ k, ((run (step col id) s l).phase k).IsSaved → (s.phase k).IsSaved := by
      intro k hk
      refine hs k ?_
      rw [run_append]
      exact isSaved_run hk _
    refine (ih hbefore).trans ?_
    rw [run_concat] at hs ⊢
    obtain ⟨hstep, -⟩ | ⟨f, e, p, hw, hsaved, -⟩ := register_step (h.run l) w mv
    · rcases hstep with heq | ⟨a, ha, heq⟩
      · rw [heq]
        exact .refl _
      · rw [heq]
        exact .step _ ha
    · -- the session would have been saving and saved at once
      have hbad : ((run (step col id) s l).phase w).IsSaved :=
        isSaved_run (hs w (by rw [hsaved]; trivial)) l
      rw [hw] at hbad
      exact hbad.elim

/-- A session that is still to save has not saved before. -/
theorem not_isSaved_of_saving {s : Sessions} {w : Tab} {f : MenuForm} {e : Edit} {p : PendingSave}
    (l : List (Tab × Move)) (h : (run (step col id) s l).phase w = .saving f e p) :
    ¬ (s.phase w).IsSaved := by
  intro hs
  have hsaved : ((run (step col id) s l).phase w).IsSaved := isSaved_run hs l
  rw [h] at hsaved
  exact hsaved

/-- The register is quiet if neither of the two sessions saves. -/
theorem quiet_run_of_tabs {s : Sessions} (h : s.Inv id) (w : Tab) (l : List (Tab × Move))
    (hw : ((run (step col id) s l).phase w).IsSaved → (s.phase w).IsSaved)
    (ho : ((run (step col id) s l).phase w.other).IsSaved → (s.phase w.other).IsSaved) :
    Overwrite.Quiet (s.register id) ((run (step col id) s l).register id) := by
  refine quiet_run h l ?_
  intro k
  rcases w.eq_or_eq_other k with rfl | rfl
  · exact hw
  · exact ho

/-- A session saves when it has saved after and not before. -/
theorem saves_of_isSaved {s : Sessions} {w : Tab} (hbefore : ¬ (s.phase w).IsSaved)
    (hafter : ((s.step col id (w, .save)).phase w).IsSaved) : s.Saves col id w := by
  have ho := (s.phase w).outcome col id s.db .save
  rw [Saves, step_phase_self]
  rw [step_phase_self] at hafter
  generalize ((s.phase w).step col id s.db .save).1 = db' at ho
  generalize ((s.phase w).step col id s.db .save).2 = ph' at ho hafter ⊢
  generalize s.phase w = ph at ho hbefore ⊢
  cases ho with
  | nothing => exact absurd hafter hbefore
  | @saved f e p => exact ⟨f, e, p, rfl, rfl⟩
  | rendered | submitted | lookup | failed => exact hafter.elim

/-- A save that succeeds is a write of what was submitted. -/
theorem Saves.register_eq {s : Sessions} (h : s.Inv id) {w : Tab} (hs : s.Saves col id w) :
    ∃ f e p, s.phase w = .saving f e p ∧ (s.step col id (w, .save)).phase w = .saved f e ∧
      (s.step col id (w, .save)).register id =
        (s.register id).step (.write w (some (e.content f))) := by
  obtain ⟨f, e, p, hw, hsaved⟩ := hs
  rcases register_step h w .save with ⟨-, hmono⟩ | hwrite
  · have hbad := hmono w (by rw [hsaved]; trivial)
    rw [hw] at hbad
    exact hbad.elim
  · exact hwrite

/-- **The second save is the last word**: whatever follows it, the store keeps what it wrote. -/
theorem Saves.last {s : Sessions} (h : s.Inv id) {w : Tab} {f : MenuForm} {e : Edit}
    (hw : s.phase w = .saved f e) (hs : s.Saves col id w.other) (c : List (Tab × Move)) :
    let t := run (step col id) (s.step col id (w.other, .save)) c
    ∃ f' e' p', s.phase w.other = .saving f' e' p' ∧ t.phase w = .saved f e ∧
      t.phase w.other = .saved f' e' ∧ t.db.content id = some (e'.content f') := by
  intro t
  obtain ⟨f', e', p', hsaving, hsaved, hr⟩ := hs.register_eq h
  have hw' : (s.step col id (w.other, .save)).phase w = .saved f e :=
    (s.step_phase_of_ne w.other_ne.symm _).trans hw
  have hq : Overwrite.Quiet ((s.step col id (w.other, .save)).register id) (t.register id) := by
    refine quiet_run_of_tabs (h.step _) w c (fun _ => ?_) (fun _ => ?_)
    · rw [hw']
      trivial
    · rw [hsaved]
      trivial
  refine ⟨f', e', p', hsaving, phase_saved_run hw' c, phase_saved_run hsaved c, ?_⟩
  rw [Overwrite.Register.step_write
    ((s.register_client w.other).trans (congrArg Phase.client hsaving))] at hr
  exact hq.value_eq.trans (congrArg Overwrite.Register.value hr)

/-- **What the second form was rendered from**: what the first session wrote, if nothing had been
rendered for the second one by then, and otherwise what the first form was rendered from too. -/
theorem Saves.second_rendered {db : Db} (hid : db.HasMenu id) {w : Tab} {a b : List (Tab × Move)}
    (hfirst : (run (step col id) (init db) a).Saves col id w) {f f' : MenuForm} {e e' : Edit}
    {p' : PendingSave}
    (hsaved : (step col id (run (step col id) (init db) a) (w, .save)).phase w = .saved f e)
    (hsecond : (run (step col id) (step col id (run (step col id) (init db) a) (w, .save)) b).phase
      w.other = .saving f' e' p') :
    ((run (step col id) (init db) a).phase w.other = .waiting → f'.content = e.content f) ∧
      ((run (step col id) (init db) a).phase w.other ≠ .waiting → f'.content = f.content) := by
  have h₀ : (init db).Inv id := ⟨hid, fun _ => trivial⟩
  have h₁ : (run (step col id) (init db) a).Inv id := h₀.run a
  obtain ⟨f₁, e₁, p, hsaving, hsaved₁, hr⟩ := hfirst.register_eq h₁
  obtain ⟨rfl, rfl⟩ : f₁ = f ∧ e₁ = e := by
    rw [hsaved] at hsaved₁
    cases hsaved₁
    exact ⟨rfl, rfl⟩
  -- nobody saves before the first save, and nobody between the two
  have hq₁ := quiet_run_of_tabs h₀ w a (fun h => by rw [hsaving] at h; exact h.elim)
    (fun h => absurd h (not_isSaved_of_saving ((w, .save) :: b) hsecond))
  have hq₂ := quiet_run_of_tabs (h₁.step (w, .save)) w b (fun _ => by rw [hsaved]; trivial)
    (fun h => by rw [hsecond] at h; exact h.elim)
  rw [hr] at hq₂
  obtain ⟨hseen, hwait, hread⟩ := Overwrite.snapshot_of_second (fun _ => rfl) w.other_ne hq₁
    ((register_client _ w).trans (congrArg Phase.client hsaving)) hq₂
    ((register_client _ w.other).trans (congrArg Phase.client hsecond))
  rw [register_client, Phase.client_eq_idle_iff] at hwait
  refine ⟨fun h => Option.some_inj.1 (hwait h), fun h => Option.some_inj.1 ?_⟩
  rw [hseen]
  refine hread ?_
  rw [register_client, ne_eq, Phase.client_eq_idle_iff]
  exact h

/-- **Two saves, one after the other**: what was rendered and what was submitted, the content the
store ends up with, and what the second form was rendered from. -/
theorem two_saves {db : Db} (hid : db.HasMenu id) {w : Tab} {a b : List (Tab × Move)}
    (hfirst : (run (step col id) (init db) a).Saves col id w)
    (hsecond : (run (step col id) (init db) (a ++ (w, .save) :: b)).Saves col id w.other)
    (c : List (Tab × Move)) :
    let s := run (step col id) (init db) (a ++ (w, .save) :: (b ++ (w.other, .save) :: c))
    ∃ f e f' e', s.phase w = .saved f e ∧ s.phase w.other = .saved f' e' ∧
      s.db.content id = some (e'.content f') ∧
      ((run (step col id) (init db) a).phase w.other = .waiting → f'.content = e.content f) ∧
      ((run (step col id) (init db) a).phase w.other ≠ .waiting → f'.content = f.content) := by
  have h₀ : (init db).Inv id := ⟨hid, fun _ => trivial⟩
  rw [run_append_cons] at hsecond
  rw [run_append_cons, run_append_cons]
  obtain ⟨f, e, p, hsaving₁, hsaved⟩ := hfirst
  obtain ⟨f', e', p', hsaving, hw, ho, hcontent⟩ :=
    Saves.last (((h₀.run a).step _).run b) (phase_saved_run hsaved b) hsecond c
  exact ⟨f, e, f', e', hw, ho, hcontent,
    Saves.second_rendered hid ⟨f, e, p, hsaving₁, hsaved⟩ hsaved hsaving⟩

/-- **What becomes of the changes of the session that saves first.**  In any interleaving of two
editing sessions on one menu in which both saves succeed, the store ends up with what the second
session to save submitted.  A change of the first session, to a field or to the membership of a plat
that the second one left as it was rendered, is still there if and only if the form of the second
session was not rendered yet when the first one saved; otherwise the value of before is back. -/
theorem change_kept_iff (col : Collation) (db : Db) (id : ℤ) (hid : db.HasMenu id) (w : Tab)
    (a b c : List (Tab × Move)) (hfirst : (run (step col id) (init db) a).Saves col id w)
    (hsecond : (run (step col id) (init db) (a ++ (w, .save) :: b)).Saves col id w.other) :
    let s := run (step col id) (init db) (a ++ (w, .save) :: (b ++ (w.other, .save) :: c))
    ∃ f e f' e', s.phase w = .saved f e ∧ s.phase w.other = .saved f' e' ∧
      s.db.content id = some (e'.content f') ∧
      ∀ x, ¬ f.content.Agree (e.content f) x → f'.content.Agree (e'.content f') x →
        ((e'.content f').Agree (e.content f) x ↔
          (run (step col id) (init db) a).phase w.other = .waiting) ∧
        ((run (step col id) (init db) a).phase w.other ≠ .waiting →
          (e'.content f').Agree f.content x) := by
  intro s
  obtain ⟨f, e, f', e', hw, ho, hcontent, hwait, hread⟩ := two_saves hid hfirst hsecond c
  refine ⟨f, e, f', e', hw, ho, hcontent, ?_⟩
  intro x hchanged huntouched
  have hback : (run (step col id) (init db) a).phase w.other ≠ .waiting →
      (e'.content f').Agree f.content x := fun h => hread h ▸ huntouched.symm
  refine ⟨⟨?_, fun h => hwait h ▸ huntouched.symm⟩, hback⟩
  intro hkept
  by_contra h
  exact hchanged ((hback h).symm.trans hkept)

/-- Both forms of menu 1 of the card are opened, and the left one is submitted with another
name. -/
def openBothRenameLeft : List (Tab × Move) :=
  [(.left, .get {}), (.right, .get {}), (.left, .post ⟨[], "Brunch", "", 10⟩), (.left, .findPlat)]

/-- Then the right one is submitted with another price. -/
def repriceRight : List (Tab × Move) := [(.right, .post ⟨[], "Midi", "", 12⟩), (.right, .findPlat)]

theorem change_kept_iff_carte :
    let s := run (step .codePoint 1) (init carte)
      (openBothRenameLeft ++ (.left, .save) :: (repriceRight ++ (.right, .save) :: []))
    ∃ f e f' e', s.phase .left = .saved f e ∧ s.phase .right = .saved f' e' ∧
      s.db.content 1 = some (e'.content f') ∧
      ∀ x, ¬ f.content.Agree (e.content f) x → f'.content.Agree (e'.content f') x →
        ((e'.content f').Agree (e.content f) x ↔
          (run (step .codePoint 1) (init carte) openBothRenameLeft).phase .right = .waiting) ∧
        ((run (step .codePoint 1) (init carte) openBothRenameLeft).phase .right ≠ .waiting →
          (e'.content f').Agree f.content x) :=
  change_kept_iff .codePoint carte 1 (by decide) .left openBothRenameLeft repriceRight []
    (saves_of_isSaved (by decide) (by decide +kernel))
    (saves_of_isSaved (by decide +kernel) (by decide +kernel))

/-- The name the left session has saved is gone, although the right one never touched it. -/
theorem not_change_kept :
    ¬ ∀ (col : Collation) (db : Db) (id : ℤ), db.HasMenu id →
      ∀ (w : Tab) (a b c : List (Tab × Move)),
      (run (step col id) (init db) a).Saves col id w →
      (run (step col id) (init db) (a ++ (w, .save) :: b)).Saves col id w.other →
      let s := run (step col id) (init db) (a ++ (w, .save) :: (b ++ (w.other, .save) :: c))
      ∀ f e f' e', s.phase w = .saved f e → s.phase w.other = .saved f' e' →
        ∀ x, ¬ f.content.Agree (e.content f) x → f'.content.Agree (e'.content f') x →
          ∀ final, s.db.content id = some final → final.Agree (e.content f) x := by
  intro h
  have hfirst :
      (run (step .codePoint 1) (init carte) openBothRenameLeft).Saves .codePoint 1 .left :=
    saves_of_isSaved (by decide) (by decide +kernel)
  have hsecond : (run (step .codePoint 1) (init carte)
      (openBothRenameLeft ++ (.left, .save) :: repriceRight)).Saves .codePoint 1 .right :=
    saves_of_isSaved (by decide +kernel) (by decide +kernel)
  obtain ⟨f, e, f', e', hw, ho, hcontent, -⟩ := two_saves (by decide) hfirst hsecond []
  -- the left form says `Midi` and becomes `Brunch`, the right one says `Midi` and stays so
  have hleft : (Phase.saved f e).noms = some ("Midi", "Brunch") := by
    rw [← hw]
    decide +kernel
  have hright : (Phase.saved f' e').noms = some ("Midi", "Midi") := by
    rw [← ho]
    decide +kernel
  obtain ⟨hnom, hnew⟩ := Prod.mk.inj (Option.some_inj.1 hleft)
  obtain ⟨hnom', hsame⟩ := Prod.mk.inj (Option.some_inj.1 hright)
  have hchanged : ¬ f.content.Agree (e.content f) .nom := by
    intro heq
    have heq : f.menu.nom.getD "" = e.nom := heq
    exact absurd (hnom.symm.trans (heq.trans hnew)) (by decide)
  have hkept : e'.nom = e.nom := h .codePoint carte 1 (by decide) .left openBothRenameLeft
    repriceRight [] hfirst hsecond f e f' e' hw ho .nom hchanged (hnom'.trans hsame.symm) _ hcontent
  exact absurd (hsame.symm.trans (hkept.trans hnew)) (by decide)

end Sessions

end GestionMenus
