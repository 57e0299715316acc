import GestionMenus.Store.Card
import GestionMenus.Web.Server

/-!
# What an interleaving amounts to

`saveMenu` is a sequence of calls, and other requests run between them.  This file compares the
server of `Web/Server.lean` with two simpler ones.

* On the card (`Store/Card.lean`) every event is one write or none: `menuWrite`, `platWrite` and
  `categorieWrite` say which, and only an event that is answered with a redirect has one.
  `card_run` is the refinement: whatever the order of the calls, the card follows the writes, in the
  order the requests were answered.  `card_last_write` draws the conclusion for one menu or plat.
* `serve` handles every request at once.  `serializable` says that an interleaving is as good as
  serving the requests one after the other, in the order they were answered, as long as no plat
  appears or disappears between the lookup of a `saveMenu` and its save.  Without that, other
  requests may be needed, but `stores_reached_iff` says that there are some: interleaving makes no
  store that cannot be made without it.
-/

set_option autoImplicit false

namespace GestionMenus

open Runs Memory

namespace Sys

/-! ## Events as writes -/

/-- What an event does to the menus of the card. -/
def menuWrite (s : Sys) (e : Event) : Option (Write ℤ StoredMenu) :=
  match e, (s.handle e).2 with
  | .finishSaveMenu r, .redirectMenus red =>
    (s.pending r).map fun p =>
      ⟨red.id, some ⟨p.request.menu.row red.id, p.selectedIds.toFinset⟩⟩
  | .deleteMenu req, .redirectMenus _ => some ⟨req.id, none⟩
  | _, _ => none

/-- What an event does to the plats of the card. -/
def platWrite (s : Sys) (e : Event) : Option (Write ℤ Plat) :=
  match e, (s.handle e).2 with
  | .savePlat req, .redirectPlats red =>
    req.plat.categorie.map fun c => ⟨red.id, some (req.plat.row red.id c.loaded.id)⟩
  | .deletePlat req, .redirectPlats _ => some ⟨req.id, none⟩
  | _, _ => none

/-- What an event does to the categories of the card. -/
def categorieWrite (s : Sys) (e : Event) : Option (Write ℤ Categorie) :=
  match e, (s.handle e).2 with
  | .savePlat req, .redirectPlats _ => req.plat.categorie.bind ManagedCategorie.write?
  | _, _ => none

/-- The card after an event is the card before it and what the event writes. -/
structure CardStep (s : Sys) (db : Db) (menu : Option (Write ℤ StoredMenu))
    (plat : Option (Write ℤ Plat)) (categorie : Option (Write ℤ Categorie)) : Prop where
  menus : db.card.menus = run write s.db.card.menus menu.toList
  plats : db.card.plats = run write s.db.card.plats plat.toList
  categories : db.card.categories = run write s.db.card.categories categorie.toList

/-- **An event writes what it is answered for**, and an event that fails or is not answered yet
writes nothing. -/
theorem card_step (s : Sys) (e : Event) :
    s.CardStep (s.step e).db (s.menuWrite e) (s.platWrite e) (s.categorieWrite e) := by
  have ho := s.outcome e
  unfold menuWrite platWrite categorieWrite
  generalize (s.handle e).2 = resp at ho ⊢
  generalize (s.step e).db = db' at ho ⊢
  cases ho with
  | ongoing => cases e <;> exact ⟨rfl, rfl, rfl⟩
  | saveMenuFails | savePlatFails | deletePlatFails => exact ⟨rfl, rfl, rfl⟩
  | @saveMenu r p _ red hp _ hf =>
    have hothers := MenuRepository.save_sameApart (PendingSave.finish_save hf)
    obtain ⟨hm, hpl, hc⟩ := card_saveMenu (PendingSave.finish_ok hf).1 hothers
    simp only [hp]
    exact ⟨hm, hpl, hc⟩
  | deleteMenu hd =>
    obtain ⟨hm, hpl, hc⟩ := card_deleteMenu (deleteMenu_tables hd).1
    exact ⟨hm, hpl, hc⟩
  | @savePlat req _ red hs =>
    obtain ⟨hsave, -⟩ := savePlat_save hs
    obtain ⟨c, -, hcat, -⟩ := PlatRepository.save_cases hsave
    obtain ⟨hpl, hm, hc⟩ := card_savePlat hsave hcat
    simp only [hcat]
    exact ⟨hm, hpl, hc⟩
  | deletePlat hd =>
    obtain ⟨hpl, hm, hc⟩ := card_deletePlat (deletePlat_ok hd).2.1
    exact ⟨hm, hpl, hc⟩

/-- **The card follows the writes.**  Whatever the order of the calls of the requests, the card of
the final store is the card at the start and, in the order they were answered, the writes of the
requests that succeeded; the others leave no trace on it. -/
theorem card_run (s : Sys) (evs : List Event) :
    (run step s evs).db.card.menus = run write s.db.card.menus (trace step menuWrite s evs) ∧
    (run step s evs).db.card.plats = run write s.db.card.plats (trace step platWrite s evs) ∧
    (run step s evs).db.card.categories =
      run write s.db.card.categories (trace step categorieWrite s evs) := by
  refine ⟨?_, ?_, ?_⟩
  · exact abs_run (f := fun t : Sys => t.db.card.menus) fun a e _ _ => (card_step _ e).menus
  · exact abs_run (f := fun t : Sys => t.db.card.plats) fun a e _ _ => (card_step _ e).plats
  · exact abs_run (f := fun t : Sys => t.db.card.categories) fun a e _ _ =>
      (card_step _ e).categories

/-- **What is stored is what was last confirmed.**  For every menu, every plat and every categorie:
the last request about it that was answered with a redirect decides what is stored of it, down to
the set of its plats; if there was none, it is what it was at the start. -/
theorem card_last_write (s : Sys) (evs : List Event) (k : ℤ) :
    LastWriteDecides step menuWrite (fun t => t.db.card.menus) s evs k ∧
    LastWriteDecides step platWrite (fun t => t.db.card.plats) s evs k ∧
    LastWriteDecides step categorieWrite (fun t => t.db.card.categories) s evs k := by
  obtain ⟨hmenus, hplats, hcategories⟩ := card_run s evs
  exact ⟨lastWriteDecides hmenus k, lastWriteDecides hplats k, lastWriteDecides hcategories k⟩

end Sys

/-! ## Requests served one after the other -/

/-- A request that writes. -/
inductive Request where
  | saveMenu (req : SaveMenuRequest)
  | deleteMenu (req : DeleteMenuRequest)
  | savePlat (req : SavePlatRequest)
  | deletePlat (req : DeletePlatRequest)

/-- The next database and a redirect, or an error and the same database. -/
def Db.answer {ρ : Type} (db : Db) (redirect : ρ → Response) (x : Except WebError (Db × ρ)) :
    Db × Response :=
  match x with
  | .ok (db, r) => (db, redirect r)
  | .error e => (db, .failed e)

/-- A request served at once. -/
def serve (db : Db) : Request → Db × Response
  | .saveMenu req => db.answer .redirectMenus (saveMenu db req)
  | .deleteMenu req => db.answer .redirectMenus (deleteMenu db req)
  | .savePlat req => db.answer .redirectPlats (savePlat db req)
  | .deletePlat req => db.answer .redirectPlats (deletePlat db req)

/-! ### What a loop selects -/

/-- One lookup: the plat is selected when it is found and not selected yet. -/
def pickNext (selected : List ℤ) (x : ℤ × Bool) : List ℤ :=
  if x.2 = true ∧ x.1 ∉ selected then selected ++ [x.1] else selected

/-- What a series of lookups selects, each of them with what it found. -/
def pick (lookups : List (ℤ × Bool)) : List ℤ := lookups.foldl pickNext []

theorem PendingSave.selectedIds_findPlat_eq (db : Db) {p : PendingSave} {id : ℤ} {todo : List ℤ}
    (htodo : p.todo = id :: todo) :
    (p.findPlat db).selectedIds = pickNext p.selectedIds (id, decide (db.HasPlat id)) := by
  rw [selectedIds_findPlat db htodo, pickNext]
  simp only [decide_eq_true_eq]

theorem PendingSave.selectedIds_loop (db : Db) {p : PendingSave} {todo : List ℤ}
    (htodo : p.todo = todo) :
    (todo.foldl (fun p _ => p.findPlat db) p).selectedIds =
      (todo.map fun id => (id, decide (db.HasPlat id))).foldl pickNext p.selectedIds := by
  induction todo generalizing p with
  | nil => rfl
  | cons id todo ih =>
    have htail : (p.findPlat db).todo = todo := by rw [p.findPlat_todo, htodo]; rfl
    rw [List.foldl_cons, ih htail, List.map_cons, List.foldl_cons, selectedIds_findPlat_eq db htodo]

/-- Of the plats it has selected, a save sees the identifiers. -/
theorem PendingSave.finish_congr (db : Db) {p q : PendingSave} (hreq : p.request = q.request)
    (hids : p.selectedIds = q.selectedIds) : p.finish db = q.finish db := by
  have hsave : MenuRepository.save db p.request.menu p.selectedPlats =
      MenuRepository.save db q.request.menu q.selectedPlats := by
    rw [MenuRepository.save, MenuRepository.save, hreq, show p.selectedPlats.map _ = _ from hids]
    rfl
  rw [finish, finish, hsave, hreq]

/-- A loop that finds what there is now is the loop of a request served at once. -/
theorem PendingSave.finish_eq_saveMenu (db : Db) {p : PendingSave}
    (hids : p.selectedIds =
      pick ((p.request.platIds.getD []).map fun id => (id, decide (db.HasPlat id)))) :
    p.finish db = saveMenu db p.request := by
  refine finish_congr db (request_loop db (.start p.request) _).symm ?_
  rw [hids]
  exact (selectedIds_loop db (p := .start p.request) rfl).symm

namespace Sys

/-- The request an event completes. -/
def completed (s : Sys) : Event → Option Request
  | .finishSaveMenu r =>
    (s.pending r).bind fun p => if p.todo = [] then some (.saveMenu p.request) else none
  | .deleteMenu req => some (.deleteMenu req)
  | .savePlat req => some (.savePlat req)
  | .deletePlat req => some (.deletePlat req)
  | .startSaveMenu _ | .findPlat _ => none

/-- A lookup of the `saveMenu` number `r`: the plat, and whether it is stored. -/
def lookup (r : ℕ) (s : Sys) : Event → Option (ℤ × Bool)
  | .findPlat k =>
    if k = r then
      (s.pending r).bind fun p => p.todo.head?.map fun id => (id, decide (s.db.HasPlat id))
    else none
  | .startSaveMenu _ | .finishSaveMenu _ | .deleteMenu _ | .savePlat _ | .deletePlat _ => none

/-- The lookups the `saveMenu` number `r` has made. -/
def lookups (db : Db) (r : ℕ) (evs : List Event) : List (ℤ × Bool) :=
  trace step (lookup r) (init db) evs

/-- **No plat a `saveMenu` looks up appears or disappears before it saves.** -/
def Undisturbed (db : Db) (evs : List Event) : Prop :=
  ∀ a r b, evs = a ++ .finishSaveMenu r :: b →
    ∀ x ∈ lookups db r a, x.2 = decide ((run step (init db) a).db.HasPlat x.1)

theorem lookup_eq_none {r : ℕ} {s : Sys} {e : Event}
    (h : e ≠ .findPlat r ∨ s.pending r = none) : lookup r s e = none := by
  cases e with
  | findPlat k =>
    rw [lookup]
    split_ifs with hk
    · rcases h with h | h
      · exact absurd (by rw [hk]) h
      · rw [h]
        rfl
    · rfl
  | startSaveMenu | finishSaveMenu | deleteMenu | savePlat | deletePlat => rfl

theorem lookups_concat (db : Db) (r : ℕ) (evs : List Event) (e : Event) :
    lookups db r (evs ++ [e]) =
      lookups db r evs ++ (lookup r (run step (init db) evs) e).toList :=
  trace_concat _ _ _

/-- What the lookups of a run say about the requests under way. -/
structure Looked (db : Db) (evs : List Event) : Prop where
  fresh : ∀ r, (run step (init db) evs).next ≤ r →
    (run step (init db) evs).pending r = none ∧ lookups db r evs = []
  request : ∀ r p, (run step (init db) evs).pending r = some p →
    p.request.platIds.getD [] = (lookups db r evs).map Prod.fst ++ p.todo
  selected : ∀ r p, (run step (init db) evs).pending r = some p →
    p.selectedIds = pick (lookups db r evs)

theorem Looked.step {db : Db} {evs : List Event} (h : Looked db evs) (e : Event) :
    Looked db (evs ++ [e]) := by
  have hsame : ∀ r, e ≠ .findPlat r ∨ (run Sys.step (init db) evs).pending r = none →
      lookups db r (evs ++ [e]) = lookups db r evs := by
    intro r hr
    rw [lookups_concat, lookup_eq_none hr, Option.toList_none, List.append_nil]
  have hpending : ∀ r p, (run Sys.step (init db) (evs ++ [e])).pending r = some p →
      p.request.platIds.getD [] = (lookups db r (evs ++ [e])).map Prod.fst ++ p.todo ∧
        p.selectedIds = pick (lookups db r (evs ++ [e])) := by
    intro r p hp
    rw [run_concat] at hp
    obtain ⟨hold, hne⟩ | ⟨req, rfl, rfl, rfl⟩ | ⟨q, rfl, hq, rfl⟩ := pending_step hp
    · rw [hsame r (Or.inl hne)]
      exact ⟨h.request r p hold, h.selected r p hold⟩
    · obtain ⟨hnone, hempty⟩ := h.fresh _ (le_refl _)
      rw [hsame _ (Or.inr hnone), hempty]
      exact ⟨rfl, rfl⟩
    · have hlooked := h.request r q hq
      rw [lookups_concat, lookup, if_pos rfl, hq, Option.bind_some, q.findPlat_request,
        q.findPlat_todo, hlooked]
      cases htodo : q.todo with
      | nil =>
        rw [q.findPlat_nil _ htodo]
        simpa using h.selected r q hq
      | cons id todo =>
        rw [PendingSave.selectedIds_findPlat_eq _ htodo, h.selected r q hq]
        simp [pick]
  refine ⟨?_, fun r p hp => (hpending r p hp).1, fun r p hp => (hpending r p hp).2⟩
  intro r hr
  rw [run_concat] at hr ⊢
  obtain ⟨hnone, hempty⟩ := h.fresh r ((next_le _ e).trans hr)
  refine ⟨?_, by rw [hsame r (Or.inr hnone), hempty]⟩
  by_contra hsome
  obtain ⟨p, hp⟩ := Option.ne_none_iff_exists'.1 hsome
  obtain ⟨hold, -⟩ | ⟨req, rfl, rfl, -⟩ | ⟨q, -, hq, -⟩ := pending_step hp
  · exact absurd (hnone.symm.trans hold) (by simp)
  · exact absurd hr (Nat.not_succ_le_self _)
  · exact absurd (hnone.symm.trans hq) (by simp)

/-- **A `saveMenu` under way has selected what its lookups found.** -/
theorem looked_run (db : Db) (evs : List Event) : Looked db evs := by
  induction evs using List.reverseRecOn with
  | nil => exact ⟨fun r _ => ⟨rfl, rfl⟩, fun r p h => absurd h (by simp [run, init]),
      fun r p h => absurd h (by simp [run, init])⟩
  | append_singleton evs e ih => exact ih.step e

/-- An event that completes no request leaves the database alone, and is not answered. -/
theorem handle_of_not_completed {s : Sys} {e : Event} (h : s.completed e = none) :
    (s.step e).db = s.db ∧ (s.handle e).2 = .ongoing := by
  cases e with
  | startSaveMenu req => exact ⟨rfl, rfl⟩
  | findPlat r =>
    rw [step, handle]
    split <;> exact ⟨rfl, rfl⟩
  | finishSaveMenu r =>
    rw [step, handle]
    split
    · rename_i p hp
      rw [completed, hp, Option.bind_some] at h
      split_ifs at h ⊢
      exact ⟨rfl, rfl⟩
    · exact ⟨rfl, rfl⟩
  | deleteMenu | savePlat | deletePlat => exact absurd h (by simp [completed])

theorem answer_eq {ρ : Type} (s : Sys) (redirect : ρ → Response)
    (x : Except WebError (Db × ρ)) :
    ((s.answer redirect x).1.db, (s.answer redirect x).2) = s.db.answer redirect x := by
  cases x <;> rfl

/-- An event that completes a request does what the request does when it is served at once, provided
the plats it looked up are those there are. -/
theorem handle_of_completed {s : Sys} {e : Event} {q : Request} (h : s.completed e = some q)
    (hfinish : ∀ r p, e = .finishSaveMenu r → s.pending r = some p → p.todo = [] →
      p.finish s.db = saveMenu s.db p.request) :
    ((s.step e).db, (s.handle e).2) = serve s.db q := by
  cases e with
  | startSaveMenu | findPlat => exact absurd h (by simp [completed])
  | finishSaveMenu r =>
    obtain ⟨p, hp, h⟩ := Option.bind_eq_some_iff.1 h
    split_ifs at h with htodo
    cases h
    rw [step, handle, hp]
    simp only [htodo, if_true]
    rw [hfinish r p rfl hp htodo]
    exact answer_eq _ _ _
  | deleteMenu req | savePlat req | deletePlat req =>
    cases h
    exact answer_eq _ _ _

/-- **An undisturbed interleaving is a serial run.**  Any number of requests, cut into their
repository calls and put in any order, leave the database that serving them one after the other
leaves, in the order in which they are answered; and every answer is the one given there. -/
theorem serializable (db : Db) (evs : List Event) (h : Undisturbed db evs) :
    (run step (init db) evs).db =
      run (fun d q => (serve d q).1) db (trace step completed (init db) evs) ∧
    ∀ a e b q, evs = a ++ e :: b → (run step (init db) a).completed e = some q →
      ((run step (init db) a).handle e).2 = (serve (run step (init db) a).db q).2 := by
  have hserve : ∀ a e b q, evs = a ++ e :: b → (run step (init db) a).completed e = some q →
      (((run step (init db) a).step e).db, ((run step (init db) a).handle e).2) =
        serve (run step (init db) a).db q := by
    intro a e b q hevs hq
    refine handle_of_completed hq ?_
    rintro r p rfl hp htodo
    have hlooked := looked_run db a
    have hids := hlooked.request r p hp
    rw [htodo, List.append_nil] at hids
    refine PendingSave.finish_eq_saveMenu _ ?_
    rw [hids, hlooked.selected r p hp, List.map_map]
    -- what each lookup found is what there is at the end
    congr 1
    refine (List.map_id _).symm.trans (List.map_congr_left ?_)
    rintro ⟨k, found⟩ hx
    exact congrArg (Prod.mk k) (h a r b hevs (k, found) hx)
  refine ⟨?_, fun a e b q hevs hq => congrArg Prod.snd (hserve a e b q hevs hq)⟩
  refine abs_run (f := fun s : Sys => s.db) ?_
  intro a e b hevs
  cases hq : (run step (init db) a).completed e with
  | none => exact (handle_of_not_completed hq).1
  | some q => exact congrArg Prod.fst (hserve a e b q hevs hq)

/-- The tart replaces the soup in the first menu of the card, and the salad is deleted between the
arrival of the form and its lookup: as if the salad had been deleted first. -/
theorem serializable_carte :
    let req : SaveMenuRequest :=
      { menu := ⟨some 1, some "Midi", some "", 10⟩, platIds := some [2] }
    (run step (init carte)
        [.startSaveMenu req, .deletePlat { id := 3 }, .findPlat 0, .finishSaveMenu 0]).db =
      (serve (serve carte (.deletePlat { id := 3 })).1 (.saveMenu req)).1 := by
  intro req
  refine (serializable carte _ ?_).1
  rintro a r b h ⟨k, found⟩ hx
  obtain ⟨rfl, rfl⟩ : a = [.startSaveMenu req, .deletePlat { id := 3 }, .findPlat 0] ∧ r = 0 := by
    rcases a with _ | ⟨e₁, _ | ⟨e₂, _ | ⟨e₃, _ | ⟨e₄, a⟩⟩⟩⟩
    · cases h
    · cases h
    · cases h
    · cases h
      exact ⟨rfl, rfl⟩
    · cases a <;> cases h
  have hlooked : lookups carte 0 [.startSaveMenu req, .deletePlat { id := 3 }, .findPlat 0] =
      [(2, true)] := rfl
  rw [hlooked, List.mem_singleton] at hx
  cases hx
  rfl

end Sys

/-! ### Whatever the interleaving -/

theorem pick_of_stored {db : Db} {ids : List ℤ} (hnd : ids.Nodup)
    (h : ∀ k ∈ ids, db.HasPlat k) :
    pick (ids.map fun id => (id, decide (db.HasPlat id))) = ids := by
  induction ids using List.reverseRecOn with
  | nil => rfl
  | append_singleton ids k ih =>
    obtain ⟨hids, -, hk⟩ := List.nodup_append'.1 hnd
    have hpick := ih hids fun j hj => h j (List.mem_append_left _ hj)
    rw [pick] at hpick
    rw [List.map_append, pick, List.foldl_append, hpick]
    have hplat := h k (List.mem_append_right _ (List.mem_singleton_self k))
    have hnew : k ∉ ids := fun hmem => hk hmem (List.mem_singleton_self k)
    simp [pickNext, hplat, hnew]

/-- A save that succeeds is that of a request for the plats it has selected. -/
theorem PendingSave.saveMenu_of_finish {db db' : Db} {p : PendingSave} {r : MenusRequest}
    (h : p.finish db = .ok (db', r)) :
    saveMenu db { p.request with platIds := some p.selectedIds } = .ok (db', r) := by
  have hstored := (finish_ok h).1.hasPlat
  rw [← h]
  exact (finish_eq_saveMenu db
    (p := { p with request := { p.request with platIds := some p.selectedIds } })
    (pick_of_stored p.selected_nodup hstored).symm).symm

namespace Sys

/-- A request served at once leads from one store to the other. -/
def Serves (db db' : Db) : Prop := ∃ q, (serve db q).1 = db'

/-- An event leaves the store, or does what some request does. -/
theorem step_serves (s : Sys) (e : Event) :
    (s.step e).db = s.db ∨ Serves s.db (s.step e).db := by
  obtain ⟨a, h⟩ := s.exists_outcome e
  generalize (s.step e).db = db at h
  cases h with
  | ongoing | saveMenuFails | savePlatFails | deletePlatFails => exact Or.inl rfl
  | @saveMenu r p _ red hp htodo h =>
    refine Or.inr ⟨.saveMenu { p.request with platIds := some p.selectedIds }, ?_⟩
    rw [serve, PendingSave.saveMenu_of_finish h]
    rfl
  | @deleteMenu req _ red h =>
    refine Or.inr ⟨.deleteMenu req, ?_⟩
    rw [serve, h]
    rfl
  | @savePlat req _ red h =>
    refine Or.inr ⟨.savePlat req, ?_⟩
    rw [serve, h]
    rfl
  | @deletePlat req _ red h =>
    refine Or.inr ⟨.deletePlat req, ?_⟩
    rw [serve, h]
    rfl

/-- A `saveMenu` nobody interferes with, up to its save. -/
theorem run_lookups {s : Sys} {r : ℕ} {p : PendingSave} (hp : s.pending r = some p)
    (ids : List ℤ) :
    (run step s (ids.map fun _ => .findPlat r)).db = s.db ∧
      (run step s (ids.map fun _ => .findPlat r)).pending r =
        some (ids.foldl (fun p _ => p.findPlat s.db) p) := by
  induction ids using List.reverseRecOn with
  | nil => exact ⟨rfl, hp⟩
  | append_singleton ids id ih =>
    obtain ⟨hdb, hpending⟩ := ih
    rw [List.map_append, List.map_singleton, run_concat, List.foldl_append]
    simp only [step, handle, hpending, setPending, if_true]
    exact ⟨hdb, by rw [hdb]; rfl⟩

theorem todo_loop (db : Db) (p : PendingSave) (ids : List ℤ) :
    (ids.foldl (fun p _ => p.findPlat db) p).todo = p.todo.drop ids.length := by
  induction ids generalizing p with
  | nil => rfl
  | cons id ids ih => rw [List.foldl_cons, ih, p.findPlat_todo, List.length_cons, List.drop_tail]

/-- The calls of a request, one after the other. -/
theorem exists_serve_run (s : Sys) (q : Request) :
    ∃ evs, (run step s evs).db = (serve s.db q).1 := by
  cases q with
  | deleteMenu req => exact ⟨[.deleteMenu req], congrArg Prod.fst (answer_eq s _ _)⟩
  | savePlat req => exact ⟨[.savePlat req], congrArg Prod.fst (answer_eq s _ _)⟩
  | deletePlat req => exact ⟨[.deletePlat req], congrArg Prod.fst (answer_eq s _ _)⟩
  | saveMenu req =>
    let ids := req.platIds.getD []
    let s₁ := s.step (.startSaveMenu req)
    have hp : s₁.pending s.next = some (.start req) := by simp [s₁, step, handle, setPending]
    obtain ⟨hdb, hpending⟩ := run_lookups hp ids
    have htodo : (ids.foldl (fun p _ => p.findPlat s₁.db) (PendingSave.start req)).todo = [] := by
      rw [todo_loop]
      exact List.drop_length
    refine ⟨.startSaveMenu req :: (ids.map fun _ => .findPlat s.next) ++
      [.finishSaveMenu s.next], ?_⟩
    rw [run_concat]
    show ((run step s₁ _).step _).db = _
    rw [step, handle, hpending]
    simp only [htodo, if_true]
    refine (congrArg Prod.fst (answer_eq _ _ _)).trans ?_
    simp only [setPending, hdb]
    rfl

/-- **Interleaving makes no new stores.**  From any state of the server, whatever requests are under
way and however their calls are interleaved, the stores that can be reached are those that requests
served one after the other lead to. -/
theorem stores_reached_iff (s : Sys) (db : Db) :
    (∃ evs, (run step s evs).db = db) ↔ Relation.ReflTransGen Serves s.db db := by
  have hmade : ∀ (t : Sys) y, True → Serves t.db y →
      ∃ evs, (∀ e ∈ evs, True) ∧ (run step t evs).db = y := by
    rintro t _ - ⟨q, rfl⟩
    obtain ⟨evs, h⟩ := t.exists_serve_run q
    exact ⟨evs, fun _ _ => trivial, h⟩
  have h := exists_run_iff (fun _ _ _ _ => trivial) (fun t e _ _ => t.step_serves e) hmade
    (s := s) trivial db
  simpa using h

end Sys

end GestionMenus
