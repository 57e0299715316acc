import GestionMenus.Base.Runs
import GestionMenus.Web.Handlers

/-!
# The server, and any number of clients

The requests that write, cut into their repository calls and put in any order.

* `Sys` is the database and the `saveMenu` requests under way; `Event` is one call of one request;
  `handle` does it and answers.
* `outcome` says what an event can do to the database, and `pending_step` what it can do to a
  request under way.  Everything about runs is derived from these two.
* `hasPlat_lost` and `hasMenu_lost` name the one event that makes a row disappear, and
  `hasPlat_gone` and `hasMenu_gone` say that it never comes back, `AUTO_INCREMENT` being what it is.

Two results are about whole runs:

* `menuPlat_integrity` — the keys of `menu_plat` are violated by nobody but a `deletePlat` of a plat
  in use and a `saveMenu` that lost a plat between its lookup and its save;
* `confirmation_renders_iff` — the page a redirect leads to renders as long as what it confirms has
  not been deleted meanwhile.
-/

set_option autoImplicit false

namespace GestionMenus

open Runs

/-- The state of the server: the database, and the `saveMenu` requests between two of their calls,
by number. -/
structure Sys where
  db : Db
  pending : ℕ → Option PendingSave
  next : ℕ

/-- A server nothing has been asked of yet. -/
def Sys.init (db : Db) : Sys := ⟨db, fun _ => none, 0⟩

/-- One repository call of one request. -/
inductive Event where
  /-- A `saveMenu` arrives, and gets the next number. -/
  | startSaveMenu (req : SaveMenuRequest)
  /-- The next `findById` of the `saveMenu` with this number. -/
  | findPlat (r : ℕ)
  /-- Its `save`, once the loop is over. -/
  | finishSaveMenu (r : ℕ)
  | deleteMenu (req : DeleteMenuRequest)
  | savePlat (req : SavePlatRequest)
  | deletePlat (req : DeletePlatRequest)

/-- What a client gets back. -/
inductive Response where
  /-- Nothing yet. -/
  | ongoing
  | redirectMenus (r : MenusRequest)
  | redirectPlats (r : PlatsRequest)
  | failed (e : WebError)
  deriving DecidableEq

namespace Sys

/-- A request that is one call: the next database and a redirect, or an error and the same
database. -/
def answer {ρ : Type} (s : Sys) (redirect : ρ → Response) (x : Except WebError (Db × ρ)) :
    Sys × Response :=
  match x with
  | .ok (db, r) => ({ s with db := db }, redirect r)
  | .error e => (s, .failed e)

/-- Set the state of a `saveMenu`. -/
def setPending (s : Sys) (r : ℕ) (p : Option PendingSave) : Sys :=
  { s with pending := fun k => if k = r then p else s.pending k }

/-- One event. -/
def handle (s : Sys) : Event → Sys × Response
  | .startSaveMenu req =>
    ({ s.setPending s.next (some (.start req)) with next := s.next + 1 }, .ongoing)
  | .findPlat r =>
    match s.pending r with
    | some p => (s.setPending r (some (p.findPlat s.db)), .ongoing)
    | none => (s, .ongoing)
  | .finishSaveMenu r =>
    match s.pending r with
    | some p =>
      if p.todo = [] then (s.setPending r none).answer .redirectMenus (p.finish s.db)
      else (s, .ongoing)
    | none => (s, .ongoing)
  | .deleteMenu req => s.answer .redirectMenus (GestionMenus.deleteMenu s.db req)
  | .savePlat req => s.answer .redirectPlats (GestionMenus.savePlat s.db req)
  | .deletePlat req => s.answer .redirectPlats (GestionMenus.deletePlat s.db req)

/-- The state after an event. -/
def step (s : Sys) (e : Event) : Sys := (s.handle e).1

/-! ## What one event can do -/

/-- What an event does: the database it leaves, and the answer. -/
inductive Outcome (s : Sys) : Event → Db → Response → Prop
  | ongoing {e : Event} : Outcome s e s.db .ongoing
  | saveMenu {r : ℕ} {p : PendingSave} {db : Db} {red : MenusRequest} (hp : s.pending r = some p)
      (htodo : p.todo = []) (h : p.finish s.db = .ok (db, red)) :
      Outcome s (.finishSaveMenu r) db (.redirectMenus red)
  | saveMenuFails {r : ℕ} {p : PendingSave} {err : WebError} (hp : s.pending r = some p)
      (h : p.finish s.db = .error err) : Outcome s (.finishSaveMenu r) s.db (.failed err)
  | deleteMenu {req : DeleteMenuRequest} {db : Db} {red : MenusRequest}
      (h : GestionMenus.deleteMenu s.db req = .ok (db, red)) :
      Outcome s (.deleteMenu req) db (.redirectMenus red)
  | savePlat {req : SavePlatRequest} {db : Db} {red : PlatsRequest}
      (h : GestionMenus.savePlat s.db req = .ok (db, red)) :
      Outcome s (.savePlat req) db (.redirectPlats red)
  | savePlatFails {req : SavePlatRequest} {err : WebError}
      (h : GestionMenus.savePlat s.db req = .error err) :
      Outcome s (.savePlat req) s.db (.failed err)
  | deletePlat {req : DeletePlatRequest} {db : Db} {red : PlatsRequest}
      (h : GestionMenus.deletePlat s.db req = .ok (db, red)) :
      Outcome s (.deletePlat req) db (.redirectPlats red)
  | deletePlatFails {req : DeletePlatRequest} {err : WebError}
      (h : GestionMenus.deletePlat s.db req = .error err) :
      Outcome s (.deletePlat req) s.db (.failed err)

/-- **What an event can do**: nothing, or the one thing its request is for, or fail. -/
theorem outcome (s : Sys) (e : Event) : Outcome s e (s.step e).db (s.handle e).2 := by
  cases e with
  | startSaveMenu req => exact .ongoing
  | findPlat r =>
    rw [step, handle]
    split
    · exact .ongoing
    · exact .ongoing
  | finishSaveMenu r =>
    rw [step, handle]
    split
    · rename_i p hp
      split_ifs with htodo
      · cases hf : p.finish s.db with
        | ok v => exact .saveMenu hp htodo hf
        | error err => exact .saveMenuFails hp hf
      · exact .ongoing
    · exact .ongoing
  | deleteMenu req =>
    obtain ⟨db', h, -⟩ := deleteMenu_ok s.db req
    rw [step, handle, h]
    exact .deleteMenu h
  | savePlat req =>
    rw [step, handle]
    cases h : GestionMenus.savePlat s.db req with
    | ok v => exact .savePlat h
    | error err => exact .savePlatFails h
  | deletePlat req =>
    rw [step, handle]
    cases h : GestionMenus.deletePlat s.db req with
    | ok v => exact .deletePlat h
    | error err => exact .deletePlatFails h

theorem exists_outcome (s : Sys) (e : Event) : ∃ a, Outcome s e (s.step e).db a :=
  ⟨_, s.outcome e⟩

@[simp] theorem answer_pending {ρ : Type} (s : Sys) (redirect : ρ → Response)
    (x : Except WebError (Db × ρ)) : (s.answer redirect x).1.pending = s.pending := by
  cases x <;> rfl

@[simp] theorem answer_next {ρ : Type} (s : Sys) (redirect : ρ → Response)
    (x : Except WebError (Db × ρ)) : (s.answer redirect x).1.next = s.next := by
  cases x <;> rfl

/-- The end of a request does not touch the others. -/
theorem pending_of_finishSaveMenu {s : Sys} {k r : ℕ} {p : PendingSave}
    (h : (s.step (.finishSaveMenu k)).pending r = some p) : s.pending r = some p := by
  cases hk : s.pending k with
  | none =>
    simp only [step, handle, hk] at h
    exact h
  | some q =>
    simp only [step, handle, hk] at h
    split at h
    · rw [answer_pending, setPending] at h
      simp only at h
      split at h
      · exact absurd h (by simp)
      · exact h
    · exact h

/-- **What an event can do to a request under way**: it arrives, or it makes its next lookup. -/
theorem pending_step {s : Sys} {e : Event} {r : ℕ} {p : PendingSave}
    (h : (s.step e).pending r = some p) :
    s.pending r = some p ∧ e ≠ .findPlat r ∨
      (∃ req, e = .startSaveMenu req ∧ r = s.next ∧ p = .start req) ∨
      (∃ q, e = .findPlat r ∧ s.pending r = some q ∧ p = q.findPlat s.db) := by
  cases e with
  | startSaveMenu req =>
    simp only [step, handle, setPending] at h
    split at h
    · rename_i hr
      exact Or.inr (Or.inl ⟨req, rfl, hr, (Option.some_inj.1 h).symm⟩)
    · exact Or.inl ⟨h, by simp⟩
  | findPlat k =>
    cases hk : s.pending k with
    | none =>
      simp only [step, handle, hk] at h
      refine Or.inl ⟨h, ?_⟩
      intro he
      cases he
      exact absurd (hk.symm.trans h) (by simp)
    | some q =>
      simp only [step, handle, hk, setPending] at h
      split at h
      · rename_i hr
        subst hr
        exact Or.inr (Or.inr ⟨q, rfl, hk, (Option.some_inj.1 h).symm⟩)
      · rename_i hr
        exact Or.inl ⟨h, fun he => hr (Event.findPlat.inj he).symm⟩
  | finishSaveMenu k => exact Or.inl ⟨pending_of_finishSaveMenu h, by simp⟩
  | deleteMenu req =>
    rw [step, handle, answer_pending] at h
    exact Or.inl ⟨h, by simp⟩
  | savePlat req =>
    rw [step, handle, answer_pending] at h
    exact Or.inl ⟨h, by simp⟩
  | deletePlat req =>
    rw [step, handle, answer_pending] at h
    exact Or.inl ⟨h, by simp⟩

/-- The numbers handed out only grow. -/
theorem next_le (s : Sys) (e : Event) : s.next ≤ (s.step e).next := by
  cases e with
  | startSaveMenu req => exact Nat.le_succ _
  | findPlat r =>
    rw [step, handle]
    split <;> exact le_refl _
  | finishSaveMenu r =>
    rw [step, handle]
    split
    · split_ifs
      · rw [answer_next]
        exact le_refl _
      · exact le_refl _
    · exact le_refl _
  | deleteMenu req | savePlat req | deletePlat req =>
    rw [step, handle, answer_next]

/-! ## Rows that disappear -/

theorem deleteMenu_tables {db db' : Db} {req : DeleteMenuRequest} {red : MenusRequest}
    (h : GestionMenus.deleteMenu db req = .ok (db', red)) :
    db'.tables = { db.tables with
        menu := Sql.deleteRow Menu.id req.id db.tables.menu
        menuPlat := db.tables.menuPlat.filter fun r => !decide (r.menuId = req.id) } ∧
      db'.menuSeq = db.menuSeq ∧ db'.platSeq = db.platSeq ∧ red.action = "del" := by
  obtain ⟨db₁, h₁, ht, hm, hp⟩ := deleteMenu_ok db req
  rw [h, Except.ok.injEq, Prod.mk.injEq] at h₁
  obtain ⟨rfl, rfl⟩ := h₁
  exact ⟨ht, hm, hp, rfl⟩

/-- **A menu disappears only when it is deleted.** -/
theorem hasMenu_lost {s : Sys} {e : Event} {k : ℤ} (h : s.db.HasMenu k)
    (hlost : ¬ (s.step e).db.HasMenu k) : ∃ req, e = .deleteMenu req ∧ req.id = k := by
  obtain ⟨_, ho⟩ := s.exists_outcome e
  generalize (s.step e).db = db' at ho hlost
  cases ho with
  | ongoing | saveMenuFails | savePlatFails | deletePlatFails => exact absurd h hlost
  | saveMenu _ _ hf =>
    exact absurd (((PendingSave.finish_ok hf).1.hasMenu_iff k).2 (Or.inl h)) hlost
  | @deleteMenu req _ _ hd =>
    obtain ⟨ht, -⟩ := deleteMenu_tables hd
    obtain ⟨m, hm, rfl⟩ := h
    refine ⟨req, rfl, ?_⟩
    by_contra hne
    refine hlost ⟨m, ?_, rfl⟩
    rw [ht]
    exact Sql.mem_deleteRow.2 ⟨hm, fun he => hne he.symm⟩
  | savePlat hs =>
    rw [Db.HasMenu, (savePlat_ok hs).1.menu_eq] at hlost
    exact absurd h hlost
  | deletePlat hd =>
    obtain ⟨-, ht, -⟩ := deletePlat_ok hd
    rw [Db.HasMenu, ht] at hlost
    exact absurd h hlost

/-- **A plat disappears only when it is deleted.** -/
theorem hasPlat_lost {s : Sys} {e : Event} {k : ℤ} (h : s.db.HasPlat k)
    (hlost : ¬ (s.step e).db.HasPlat k) :
    ∃ req, e = .deletePlat req ∧ req.id = k ∧ ∀ row ∈ s.db.tables.menuPlat, row.platId ≠ k := by
  obtain ⟨_, ho⟩ := s.exists_outcome e
  generalize (s.step e).db = db' at ho hlost
  cases ho with
  | ongoing | saveMenuFails | savePlatFails | deletePlatFails => exact absurd h hlost
  | saveMenu _ _ hf =>
    rw [Db.HasPlat, (PendingSave.finish_ok hf).1.plat_eq] at hlost
    exact absurd h hlost
  | deleteMenu hd =>
    obtain ⟨ht, -⟩ := deleteMenu_tables hd
    rw [Db.HasPlat, ht] at hlost
    exact absurd h hlost
  | savePlat hs => exact absurd (((savePlat_ok hs).1.hasPlat_iff k).2 (Or.inl h)) hlost
  | @deletePlat req _ _ hd =>
    obtain ⟨hfree, ht, -⟩ := deletePlat_ok hd
    have hid : req.id = k := by
      obtain ⟨p, hp, rfl⟩ := h
      by_contra hne
      refine hlost ⟨p, ?_, rfl⟩
      rw [ht]
      exact Sql.mem_deleteRow.2 ⟨hp, fun he => hne he.symm⟩
    exact ⟨req, rfl, hid, hid ▸ hfree⟩

/-- The identifiers handed out only grow. -/
theorem seq_le (s : Sys) (e : Event) :
    s.db.menuSeq ≤ (s.step e).db.menuSeq ∧ s.db.platSeq ≤ (s.step e).db.platSeq := by
  obtain ⟨_, ho⟩ := s.exists_outcome e
  generalize (s.step e).db = db' at ho
  cases ho with
  | ongoing | saveMenuFails | savePlatFails | deletePlatFails => exact ⟨le_refl _, le_refl _⟩
  | saveMenu _ _ hf =>
    have hs := (PendingSave.finish_ok hf).1
    exact ⟨hs.menuSeq_le, hs.platSeq_eq.ge⟩
  | deleteMenu hd =>
    obtain ⟨-, hm, hp, -⟩ := deleteMenu_tables hd
    exact ⟨hm.ge, hp.ge⟩
  | savePlat hs => exact ⟨(savePlat_ok hs).1.menuSeq_eq.ge, (savePlat_ok hs).1.platSeq_le⟩
  | deletePlat hd =>
    obtain ⟨-, -, hm, hp, -⟩ := deletePlat_ok hd
    exact ⟨hm.ge, hp.ge⟩

/-- A menu appears only under an identifier that was not handed out yet. -/
theorem hasMenu_gained {s : Sys} {e : Event} {k : ℤ} (h : (s.step e).db.HasMenu k)
    (hnew : ¬ s.db.HasMenu k) : s.db.menuSeq ≤ k := by
  obtain ⟨_, ho⟩ := s.exists_outcome e
  generalize (s.step e).db = db' at ho h
  cases ho with
  | ongoing | saveMenuFails | savePlatFails | deletePlatFails => exact absurd h hnew
  | saveMenu _ _ hf =>
    have hs := (PendingSave.finish_ok hf).1
    rcases (hs.hasMenu_iff k).1 h with hk | rfl
    · exact absurd hk hnew
    · rcases hs.hasMenu with hnone | hk
      · rw [hs.id_eq, hnone]
        exact le_refl _
      · exact absurd hk hnew
  | deleteMenu hd =>
    obtain ⟨ht, -⟩ := deleteMenu_tables hd
    rw [Db.HasMenu, ht] at h
    exact absurd (h.imp fun m hm => ⟨(Sql.mem_deleteRow.1 hm.1).1, hm.2⟩) hnew
  | savePlat hs =>
    rw [Db.HasMenu, (savePlat_ok hs).1.menu_eq] at h
    exact absurd h hnew
  | deletePlat hd =>
    obtain ⟨-, ht, -⟩ := deletePlat_ok hd
    rw [Db.HasMenu, ht] at h
    exact absurd h hnew

/-- A plat appears only under an identifier that was not handed out yet. -/
theorem hasPlat_gained {s : Sys} {e : Event} {k : ℤ} (h : (s.step e).db.HasPlat k)
    (hnew : ¬ s.db.HasPlat k) : s.db.platSeq ≤ k := by
  obtain ⟨_, ho⟩ := s.exists_outcome e
  generalize (s.step e).db = db' at ho h
  cases ho with
  | ongoing | saveMenuFails | savePlatFails | deletePlatFails => exact absurd h hnew
  | saveMenu _ _ hf =>
    rw [Db.HasPlat, (PendingSave.finish_ok hf).1.plat_eq] at h
    exact absurd h hnew
  | deleteMenu hd =>
    obtain ⟨ht, -⟩ := deleteMenu_tables hd
    rw [Db.HasPlat, ht] at h
    exact absurd h hnew
  | savePlat hs =>
    have hs := (savePlat_ok hs).1
    rcases (hs.hasPlat_iff k).1 h with hk | rfl
    · exact absurd hk hnew
    · rcases hs.hasPlat with hnone | hk
      · rw [hs.id_eq, hnone]
        exact le_refl _
      · exact absurd hk hnew
  | deletePlat hd =>
    obtain ⟨-, ht, -⟩ := deletePlat_ok hd
    rw [Db.HasPlat, ht] at h
    exact absurd (h.imp fun p hp => ⟨(Sql.mem_deleteRow.1 hp.1).1, hp.2⟩) hnew

/-! ## Whole runs -/

theorem seq_le_run (s : Sys) (evs : List Event) :
    s.db.menuSeq ≤ (run step s evs).db.menuSeq ∧ s.db.platSeq ≤ (run step s evs).db.platSeq :=
  run_invariant (P := fun t => s.db.menuSeq ≤ t.db.menuSeq ∧ s.db.platSeq ≤ t.db.platSeq)
    ⟨le_refl _, le_refl _⟩
    (fun t e h => ⟨h.1.trans (seq_le t e).1, h.2.trans (seq_le t e).2⟩) evs

/-- A menu that is gone stays gone. -/
theorem hasMenu_gone {s : Sys} {k : ℤ} (hlt : k < s.db.menuSeq) (hgone : ¬ s.db.HasMenu k)
    (evs : List Event) : ¬ (run step s evs).db.HasMenu k := by
  intro hk
  obtain ⟨a, e, b, -, hno, hyes⟩ := exists_step_of_lost (P := fun s : Sys => ¬ s.db.HasMenu k)
    hgone (not_not.2 hk)
  have hseq := hasMenu_gained (not_not.1 hyes) hno
  have hle := (seq_le_run s a).1
  omega

/-- A plat that is gone stays gone. -/
theorem hasPlat_gone {s : Sys} {k : ℤ} (hlt : k < s.db.platSeq) (hgone : ¬ s.db.HasPlat k)
    (evs : List Event) : ¬ (run step s evs).db.HasPlat k := by
  intro hk
  obtain ⟨a, e, b, -, hno, hyes⟩ := exists_step_of_lost (P := fun s : Sys => ¬ s.db.HasPlat k)
    hgone (not_not.2 hk)
  have hseq := hasPlat_gained (not_not.1 hyes) hno
  have hle := (seq_le_run s a).2
  omega

theorem not_hasMenu_deleteMenu (s : Sys) (req : DeleteMenuRequest) :
    ¬ (s.step (.deleteMenu req)).db.HasMenu req.id := by
  obtain ⟨db', h, ht, -⟩ := deleteMenu_ok s.db req
  have hdb : (s.step (.deleteMenu req)).db = db' := by rw [step, handle, h]; rfl
  rw [hdb, Db.HasMenu, ht]
  rintro ⟨m, hm, hid⟩
  exact (Sql.mem_deleteRow.1 hm).2 hid

/-- Deleting a plat no menu contains deletes it. -/
theorem not_hasPlat_deletePlat {s : Sys} {req : DeletePlatRequest}
    (hfree : ∀ row ∈ s.db.tables.menuPlat, row.platId ≠ req.id) :
    ¬ (s.step (.deletePlat req)).db.HasPlat req.id := by
  cases h : GestionMenus.deletePlat s.db req with
  | error err =>
    obtain ⟨-, row, hrow, hid⟩ := deletePlat_error h
    exact absurd hid (hfree row hrow)
  | ok v =>
    obtain ⟨-, ht, -⟩ := deletePlat_ok h
    have hdb : (s.step (.deletePlat req)).db = v.1 := by rw [step, handle, h]; rfl
    rw [hdb, Db.HasPlat, ht]
    rintro ⟨p, hp, hid⟩
    exact (Sql.mem_deleteRow.1 hp).2 hid

/-- **A plat leaves a stored menu only when the menu is saved.** -/
theorem menuPlat_lost {s : Sys} {e : Event} {row : MenuPlat} (h : row ∈ s.db.tables.menuPlat)
    (hmenu : (s.step e).db.HasMenu row.menuId)
    (hlost : row ∉ (s.step e).db.tables.menuPlat) :
    ∃ r red, e = .finishSaveMenu r ∧ (s.handle e).2 = .redirectMenus red ∧
      red.id = row.menuId := by
  have ho := s.outcome e
  generalize (s.handle e).2 = resp at ho
  generalize (s.step e).db = db' at ho hmenu hlost
  cases ho with
  | ongoing | saveMenuFails | savePlatFails | deletePlatFails => exact absurd h hlost
  | @saveMenu r p _ red _ _ hf =>
    refine ⟨r, red, rfl, rfl, ?_⟩
    by_contra hne
    exact hlost (((PendingSave.finish_ok hf).1.mem_menuPlat row).2 (Or.inl ⟨h, Ne.symm hne⟩))
  | @deleteMenu req _ _ hd =>
    obtain ⟨ht, -⟩ := deleteMenu_tables hd
    rw [Db.HasMenu, ht] at hmenu
    obtain ⟨m, hm, hid⟩ := hmenu
    have hne := (Sql.mem_deleteRow.1 hm).2
    rw [hid] at hne
    rw [ht] at hlost
    exact absurd (List.mem_filter.2 ⟨h, by simpa using hne⟩) hlost
  | savePlat hs =>
    rw [(savePlat_ok hs).1.menuPlat_eq] at hlost
    exact absurd h hlost
  | deletePlat hd =>
    rw [(deletePlat_ok hd).2.1] at hlost
    exact absurd h hlost

/-- **A stored menu is there until it is deleted.** -/
theorem hasMenu_run_iff {s : Sys} {k : ℤ} (h : s.db.HasMenu k) (evs : List Event) :
    (run step s evs).db.HasMenu k ↔ ∀ req, .deleteMenu req ∈ evs → req.id ≠ k := by
  refine ⟨?_, ?_⟩
  · intro hk req hmem hid
    obtain ⟨a, b, rfl⟩ := List.append_of_mem hmem
    rw [run_append_cons] at hk
    refine hasMenu_gone ?_ (hid ▸ not_hasMenu_deleteMenu (run step s a) req) b hk
    obtain ⟨m, hm, rfl⟩ := h
    exact (s.db.menu_lt m hm).2.trans_le ((seq_le_run s a).1.trans (seq_le _ _).1)
  · intro hno
    by_contra hlost
    obtain ⟨a, e, b, rfl, hyes, hgone⟩ := exists_step_of_lost (P := fun s : Sys => s.db.HasMenu k)
      h hlost
    obtain ⟨req, rfl, hid⟩ := hasMenu_lost hyes hgone
    exact hno req (by simp) hid

/-- **A stored plat is there until it is deleted while no menu contains it.** -/
theorem hasPlat_run_iff {s : Sys} {k : ℤ} (h : s.db.HasPlat k) (evs : List Event) :
    (run step s evs).db.HasPlat k ↔ ∀ a req b, evs = a ++ .deletePlat req :: b → req.id = k →
      ∃ row ∈ (run step s a).db.tables.menuPlat, row.platId = k := by
  refine ⟨?_, ?_⟩
  · intro hk a req b hevs hid
    by_contra hfree
    subst hevs hid
    rw [run_append_cons] at hk
    refine hasPlat_gone ?_ (not_hasPlat_deletePlat fun row hrow he => hfree ⟨row, hrow, he⟩) b hk
    obtain ⟨p, hp, hpk⟩ := h
    rw [← hpk]
    exact (s.db.plat_lt p hp).2.trans_le ((seq_le_run s a).2.trans (seq_le _ _).2)
  · intro hno
    by_contra hlost
    obtain ⟨a, e, b, rfl, hyes, hgone⟩ := exists_step_of_lost (P := fun s : Sys => s.db.HasPlat k)
      h hlost
    obtain ⟨req, rfl, hid, hfree⟩ := hasPlat_lost hyes hgone
    obtain ⟨row, hrow, he⟩ := hno a req b rfl hid
    exact hfree row hrow he

/-! ## The keys of `menu_plat` -/

/-- In this state the next lookup of the `saveMenu` number `r` is that of the plat `k`, which is
stored. -/
def LooksUp (s : Sys) (r : ℕ) (k : ℤ) : Prop :=
  (∃ p todo, s.pending r = some p ∧ p.todo = k :: todo) ∧ s.db.HasPlat k

/-- **What a `saveMenu` has selected it has looked up.** -/
theorem exists_looksUp (db : Db) (evs : List Event) :
    ∀ r p o, (run step (init db) evs).pending r = some p → o ∈ p.selectedPlats →
      ∃ a b, evs = a ++ .findPlat r :: b ∧ (run step (init db) a).LooksUp r o.row.id := by
  refine run_induction (s := init db) (P := fun evs s =>
    ∀ r p o, s.pending r = some p → o ∈ p.selectedPlats →
      ∃ a b, evs = a ++ .findPlat r :: b ∧ (run step (init db) a).LooksUp r o.row.id)
    (fun r p o hp => absurd hp (by simp [init])) (fun evs e ih r p o hp ho => ?_) evs
  have hold : ∀ q, (run step (init db) evs).pending r = some q → o ∈ q.selectedPlats →
      ∃ a b, evs ++ [e] = a ++ .findPlat r :: b ∧
        (run step (init db) a).LooksUp r o.row.id := by
    intro q hq hoq
    obtain ⟨a, b, rfl, hlook⟩ := ih r q o hq hoq
    exact ⟨a, b ++ [e], by simp, hlook⟩
  obtain ⟨hsame, -⟩ | ⟨req, rfl, -, rfl⟩ | ⟨q, rfl, hq, rfl⟩ := pending_step hp
  · exact hold p hsame ho
  · exact absurd ho (by simp [PendingSave.start])
  · by_cases hoq : o ∈ q.selectedPlats
    · exact hold q hq hoq
    · obtain ⟨⟨todo, htodo⟩, hplat⟩ := PendingSave.hasPlat_of_mem_findPlat ho hoq
      exact ⟨evs, [], rfl, ⟨q, todo, hq, htodo⟩, hplat⟩

/-- The plat `k` was looked up by the `saveMenu` number `r` while it was stored, and deleted by a
`deletePlat` after that. -/
def DeletedAfterLookup (db : Db) (evs : List Event) (r : ℕ) (k : ℤ) : Prop :=
  ∃ a b req c, evs = (a ++ .findPlat r :: b) ++ .deletePlat req :: c ∧ req.id = k ∧
    (run step (init db) a).LooksUp r k ∧
    (run step (init db) (a ++ .findPlat r :: b)).db.HasPlat k ∧
    ¬ (run step (init db) (a ++ .findPlat r :: b ++ [.deletePlat req])).db.HasPlat k

theorem findPlat_db (s : Sys) (r : ℕ) : (s.step (.findPlat r)).db = s.db := by
  rw [step, handle]
  split <;> rfl

/-- A plat that was selected and is gone was deleted after its lookup. -/
theorem deletedAfterLookup {db : Db} {evs : List Event} {r : ℕ} {p : PendingSave}
    {o : IdentityMap.Obj Plat} (hp : (run step (init db) evs).pending r = some p)
    (ho : o ∈ p.selectedPlats) (hgone : ¬ (run step (init db) evs).db.HasPlat o.row.id) :
    DeletedAfterLookup db evs r o.row.id := by
  obtain ⟨a, b, rfl, hlook⟩ := exists_looksUp db evs r p o hp ho
  rw [run_append_cons] at hgone
  have hstored : ((run step (init db) a).step (.findPlat r)).db.HasPlat o.row.id := by
    rw [findPlat_db]
    exact hlook.2
  obtain ⟨b₁, e, b₂, rfl, hyes, hlost⟩ :=
    exists_step_of_lost (P := fun s : Sys => s.db.HasPlat o.row.id) hstored hgone
  obtain ⟨req, rfl, hid, -⟩ := hasPlat_lost hyes hlost
  refine ⟨a, b₁, req, b₂, by simp, hid, hlook, ?_, ?_⟩
  · rw [run_append_cons]
    exact hyes
  · rw [run_concat, run_append_cons]
    exact hlost

/-- **Integrity of the association over whole runs.**  Whatever calls the clients' requests make
and in whatever order, every row of `menu_plat` names a stored menu and a stored plat and no row
occurs twice; and a key of `menu_plat` is violated only by a `deletePlat` of a plat some menu
contains, or by a `saveMenu` one of whose plats was deleted between its lookup and the save.  Then
the four tables are left as they were. -/
theorem menuPlat_integrity (db : Db) (evs : List Event) :
    let s := run step (init db) evs
    ((∀ row ∈ s.db.tables.menuPlat, s.db.HasMenu row.menuId ∧ s.db.HasPlat row.platId) ∧
      s.db.tables.menuPlat.Nodup) ∧
    ∀ e err, (s.handle e).2 = .failed (.store err) → err.onMenuPlatKeys = true →
      (s.step e).db.tables = s.db.tables ∧
      ((∃ req, e = .deletePlat req ∧ ∃ row ∈ s.db.tables.menuPlat, row.platId = req.id) ∨
        ∃ r k, e = .finishSaveMenu r ∧ DeletedAfterLookup db evs r k) := by
  intro s
  refine ⟨⟨fun row hrow => ⟨s.db.valid.menuPlat_menu row hrow, s.db.valid.menuPlat_plat row hrow⟩,
    s.db.valid.menuPlat_pk⟩, fun e err herr hkey => ?_⟩
  have ho := s.outcome e
  rw [herr] at ho
  generalize (s.step e).db = db' at ho
  cases ho with
  | saveMenuFails hp hf =>
    obtain ⟨err', he, hsave⟩ := PendingSave.finish_error hf
    cases he
    obtain ⟨o, ho, hgone⟩ := MenuRepository.save_violation hsave
      (PendingSave.selected_nodup _) hkey
    exact ⟨rfl, Or.inr ⟨_, _, rfl, deletedAfterLookup hp ho hgone⟩⟩
  | savePlatFails h =>
    obtain ⟨err', he, hsave⟩ := savePlat_error h
    cases he
    rw [PlatRepository.save_no_violation hsave] at hkey
    exact absurd hkey (by simp)
  | deletePlatFails h => exact ⟨rfl, Or.inl ⟨_, rfl, (deletePlat_error h).2⟩⟩

/-- The card, while a new menu of the plat nobody uses is saved and that plat is deleted. -/
def carteRace : List Event :=
  [.startSaveMenu { menu := ⟨none, some "Duo", some "", 5⟩, platIds := some [3] }, .findPlat 0,
    .deletePlat { id := 3 }]

theorem menuPlat_integrity_carte :
    ((run step (init carte) carteRace).handle (.finishSaveMenu 0)).2 =
        .failed (.store (.foreignKey .menuPlat)) ∧
      ((run step (init carte) carteRace).step (.finishSaveMenu 0)).db.tables =
        (run step (init carte) carteRace).db.tables := by
  have herr : ((run step (init carte) carteRace).handle (.finishSaveMenu 0)).2 =
      .failed (.store (.foreignKey .menuPlat)) := by decide
  exact ⟨herr, ((menuPlat_integrity carte carteRace).2 _ _ herr rfl).1⟩

/-! ## The pages redirects lead to -/

/-- A redirect to the menus confirms a menu that is stored, or a deletion. -/
theorem redirectMenus_cases {s : Sys} {e : Event} {red : MenusRequest}
    (h : (s.handle e).2 = .redirectMenus red) :
    red.action = "del" ∨
      (red.action = "new" ∨ red.action = "mod") ∧ (s.step e).db.HasMenu red.id := by
  have ho := s.outcome e
  rw [h] at ho
  generalize (s.step e).db = db' at ho
  cases ho with
  | @saveMenu r p _ _ hp htodo hf =>
    obtain ⟨hs, haction⟩ := PendingSave.finish_ok hf
    refine Or.inr ⟨?_, (hs.hasMenu_iff _).2 (Or.inr rfl)⟩
    rw [haction]
    cases p.request.menu.id.isSome <;> simp
  | deleteMenu hd => exact Or.inl (deleteMenu_tables hd).2.2.2

/-- A redirect to the plats confirms a plat that is stored, or a deletion. -/
theorem redirectPlats_cases {s : Sys} {e : Event} {red : PlatsRequest}
    (h : (s.handle e).2 = .redirectPlats red) :
    red.action = "del" ∨
      (red.action = "new" ∨ red.action = "mod") ∧ (s.step e).db.HasPlat red.id := by
  have ho := s.outcome e
  rw [h] at ho
  generalize (s.step e).db = db' at ho
  cases ho with
  | @savePlat req _ _ hs =>
    obtain ⟨hs, haction⟩ := savePlat_ok hs
    refine Or.inr ⟨?_, (hs.hasPlat_iff _).2 (Or.inr rfl)⟩
    rw [haction]
    cases req.plat.id.isSome <;> simp
  | deletePlat hd =>
    obtain ⟨-, -, -, -, rfl⟩ := deletePlat_ok hd
    exact Or.inl rfl

/-- What a listing has to confirm is stored under a positive identifier. -/
theorem pos_of_hasMenu {db : Db} {k : ℤ} (h : db.HasMenu k) : 0 < k := by
  obtain ⟨m, hm, rfl⟩ := h
  exact (db.menu_lt m hm).1

theorem pos_of_hasPlat {db : Db} {k : ℤ} (h : db.HasPlat k) : 0 < k := by
  obtain ⟨p, hp, rfl⟩ := h
  exact (db.plat_lt p hp).1

/-- **Confirmation pages.**  After any run, a `GET` with the action and the identifier of a redirect
issued in it renders if and only if the redirect confirmed a deletion, or the menu it confirmed has
not been deleted since — the plat, at a moment when no menu contained it. -/
theorem confirmation_renders_iff (db : Db) (a : List Event) (e : Event) (b : List Event)
    (col : Collation) :
    (∀ red, ((run step (init db) a).handle e).2 = .redirectMenus red →
      ∀ (srv : MenuServer col (run step (init db) (a ++ e :: b)).db) (req : MenusRequest),
        req.action = red.action → req.id = red.id → 0 ≤ req.page → 1 ≤ req.size →
        ((∃ v, getMenus col (run step (init db) (a ++ e :: b)).db srv req = .ok v) ↔
          red.action = "del" ∨ ∀ del, .deleteMenu del ∈ b → del.id ≠ red.id)) ∧
    (∀ red, ((run step (init db) a).handle e).2 = .redirectPlats red →
      ∀ (srv : PlatServer col (run step (init db) (a ++ e :: b)).db) (req : PlatsRequest),
        req.action = red.action → req.id = red.id → 0 ≤ req.page → 1 ≤ req.size →
        ((∃ v, getPlats col (run step (init db) (a ++ e :: b)).db srv req = .ok v) ↔
          red.action = "del" ∨ ∀ b₁ del b₂, b = b₁ ++ .deletePlat del :: b₂ → del.id = red.id →
            ∃ row ∈ (run step (init db) (a ++ e :: b₁)).db.tables.menuPlat,
              row.platId = red.id)) := by
  refine ⟨?_, ?_⟩
  · intro red h srv req hact hid hp hs
    rw [exists_getMenus_iff srv req hp hs, hact, hid]
    rcases redirectMenus_cases h with hdel | ⟨hnew, hmenu⟩
    · simp [hdel]
    · have hno : red.action ≠ "del" := by rcases hnew with h | h <;> simp [h]
      rw [run_append_cons, hasMenu_run_iff hmenu, or_iff_right hno]
      exact ⟨fun h => h (pos_of_hasMenu hmenu) hnew, fun h _ _ => h⟩
  · intro red h srv req hact hid hp hs
    rw [exists_getPlats_iff srv req hp hs, hact, hid]
    rcases redirectPlats_cases h with hdel | ⟨hnew, hplat⟩
    · simp [hdel]
    · have hno : red.action ≠ "del" := by rcases hnew with h | h <;> simp [h]
      simp only [run_append_cons]
      rw [hasPlat_run_iff hplat, or_iff_right hno]
      exact ⟨fun h => h (pos_of_hasPlat hplat) hnew, fun h _ _ => h⟩

/-- The menu `Midi` is renamed. -/
def carteRename : List Event :=
  [.startSaveMenu { menu := ⟨some 1, some "Matin", some "", 10⟩, platIds := some [1] },
    .findPlat 0]

theorem confirmation_renders_iff_carte :
    ∃ red, ((run step (init carte) carteRename).handle (.finishSaveMenu 0)).2 =
        .redirectMenus red ∧
      ∃ srv v, getMenus .codePoint (run step (init carte)
        (carteRename ++ .finishSaveMenu 0 :: [.deletePlat { id := 3 }])).db srv red = .ok v := by
  have hred : ((run step (init carte) carteRename).handle (.finishSaveMenu 0)).2 =
      .redirectMenus { action := "mod", id := 1 } := by decide
  refine ⟨_, hred, QueryServer.sorting (MenuProperty.isOrder _), ?_⟩
  exact ((confirmation_renders_iff carte carteRename (.finishSaveMenu 0) [.deletePlat { id := 3 }]
    .codePoint).1 _ hred _ _ rfl rfl (by decide) (by decide)).2 (Or.inr (by simp))

/-- Another client deletes the menu, and then the plat, before the confirmation is read. -/
theorem not_confirmation_renders_carte :
    (∃ red, ((run step (init carte) carteRename).handle (.finishSaveMenu 0)).2 =
        .redirectMenus red ∧ 0 ≤ red.page ∧ 1 ≤ red.size ∧
      ∀ srv v, getMenus .codePoint (run step (init carte)
        (carteRename ++ .finishSaveMenu 0 :: [.deleteMenu { id := 1 }])).db srv red ≠ .ok v) ∧
    ∃ (edit : SavePlatRequest) (red : PlatsRequest),
      ((init carte).handle (.savePlat edit)).2 = .redirectPlats red ∧ 0 ≤ red.page ∧
      1 ≤ red.size ∧
      ∀ srv v, getPlats .codePoint (run step (init carte)
        [.savePlat edit, .deletePlat { id := 3 }]).db srv red ≠ .ok v := by
  refine ⟨⟨{ action := "mod", id := 1 }, by decide, by decide, by decide, fun srv v hv => ?_⟩,
    { plat := ⟨some 3, some "Salade verte", 90, 2, 1, 4,
        some ⟨⟨1, some "Entree"⟩, ⟨1, some "Entree"⟩⟩⟩
      page := 0
      size := 10 },
    { page := 0, size := 10, action := "mod", id := 3 }, by decide, by decide, by decide,
    fun srv v hv => ?_⟩
  · have hmenu := (exists_getMenus_iff srv _ (by decide) (by decide)).1 ⟨v, hv⟩ (by decide)
      (Or.inr rfl)
    exact absurd hmenu (by decide)
  · have hplat := (exists_getPlats_iff srv _ (by decide) (by decide)).1 ⟨v, hv⟩ (by decide)
      (Or.inr rfl)
    exact absurd hplat (by decide)

end Sys

end GestionMenus
