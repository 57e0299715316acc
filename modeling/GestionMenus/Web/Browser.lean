import GestionMenus.Web.MenuForm
import GestionMenus.Web.Server
import GestionMenus.Web.Forms

/-!
# Browsers and the server

The menu form of `Web/MenuForm.lean` and the server of `Web/Server.lean`, put together: any number
of clients open forms, click, filter and submit, while the requests they have sent make their
repository calls in any order.

* `World` is the server, the forms that are open, and the form each `saveMenu` was submitted from.
* `Action` is what can happen next.  A menu form is submitted only when `validateMenuSelection`
  lets it through; the other requests of the pages are those of the server.
* `World.Inv` relates every `saveMenu` under way to its form: the plats it has looked up and those
  it has still to look up are the plats that were selected.

The rule that a menu has a plat is checked in the browser, when the form is submitted, and the plats
are looked up on the server, later and with `ifPresent`.  `saved_selection` says what is left of the
rule: a menu is saved with the plats of its form exactly when every one of them is still there at
its own lookup.
-/

set_option autoImplicit false

namespace GestionMenus

open Runs

/-- The server, the menu forms open in the browsers, by number, and the form every `saveMenu` was
submitted from. -/
structure World where
  sys : Sys
  tabs : ℕ → Option MenuForm
  nextTab : ℕ
  submitted : ℕ → Option MenuForm

/-- No page is open. -/
def World.init (db : Db) : World := ⟨.init db, fun _ => none, 0, fun _ => none⟩

/-- What the server does next, for a request other than a menu form that arrives. -/
inductive Call where
  | findPlat (r : ℕ)
  | finishSaveMenu (r : ℕ)
  | deleteMenu (req : DeleteMenuRequest)
  | savePlat (req : SavePlatRequest)
  | deletePlat (req : DeletePlatRequest)

/-- A call as the server sees it. -/
def Call.event : Call → Event
  | .findPlat r => .findPlat r
  | .finishSaveMenu r => .finishSaveMenu r
  | .deleteMenu req => .deleteMenu req
  | .savePlat req => .savePlat req
  | .deletePlat req => .deletePlat req

/-- What happens next, in some browser or on the server. -/
inductive Action where
  /-- `GET /edit` in a new tab. -/
  | edit (req : EditRequest)
  /-- A click on the button of an item. -/
  | click (t : ℕ) (side : MenuForm.Side) (i : ℕ)
  /-- The filter of the form. -/
  | filtrer (t : ℕ) (c : SelectionCriteria)
  /-- The form is submitted, with what is typed into it. -/
  | submit (t : ℕ) (nom description : String) (prix : ℚ)
  | call (c : Call)

/-- The fields of the form as they are submitted: what is typed, and the hidden inputs. -/
def MenuForm.input (f : MenuForm) (nom description : String) (prix : ℚ) : MenuInput where
  id := f.menu.id
  nom := nom
  description := description
  prix := prix
  platIds := f.hiddenPlatInputs
  page := f.page
  size := f.size
  filtre := f.filtre

namespace World

/-- What a tab shows. -/
def setTab (w : World) (t : ℕ) (f : Option MenuForm) : World :=
  { w with tabs := fun k => if k = t then f else w.tabs k }

/-- `GET /edit` in a tab.  A redirect takes the tab to the list of the menus. -/
def load (col : Collation) (w : World) (t : ℕ) (req : EditRequest) : World :=
  match editMenu col w.sys.db req with
  | .menuForm f => w.setTab t (some f)
  | .redirect _ => w.setTab t none

/-- What happens.  A form that was submitted stays where it is: the user may go back to it. -/
def step (col : Collation) (w : World) : Action → World
  | .edit req => { w.load col w.nextTab req with nextTab := w.nextTab + 1 }
  | .click t side i => w.setTab t ((w.tabs t).map fun f => f.click side i)
  | .filtrer t c =>
    match w.tabs t with
    | some f => w.load col t (f.filterRequest c)
    | none => w
  | .submit t nom description prix =>
    match w.tabs t with
    | some f =>
      if f.validateMenuSelection then
        { w with
          sys := w.sys.step (.startSaveMenu (f.input nom description prix).request)
          submitted := fun r => if r = w.sys.next then some f else w.submitted r }
      else w
    | none => w
  | .call c => { w with sys := w.sys.step c.event }

/-- The plat the `saveMenu` number `r` looks up next. -/
def nextLookup (w : World) (r : ℕ) : Option ℤ :=
  (w.sys.pending r).bind fun p => p.todo.head?

/-- If this is a lookup of the `saveMenu` number `r`, then the plat is stored. -/
def FindsItsPlat (w : World) (r : ℕ) : Prop := ∀ k ∈ w.nextLookup r, w.sys.db.HasPlat k

instance (w : World) (r : ℕ) : Decidable (w.FindsItsPlat r) :=
  inferInstanceAs (Decidable (∀ k ∈ w.nextLookup r, w.sys.db.HasPlat k))

/-- **Every lookup of the `saveMenu` number `r` in the run finds its plat.** -/
def LookupsFind (col : Collation) (db : Db) (acts : List Action) (r : ℕ) : Prop :=
  ∀ a b, acts = a ++ .call (.findPlat r) :: b → (run (step col) (init db) a).FindsItsPlat r

/-! ## What one action can do -/

theorem tabs_setTab {w : World} {t u : ℕ} {g : Option MenuForm} {f : MenuForm}
    (h : (w.setTab t g).tabs u = some f) : g = some f ∧ u = t ∨ w.tabs u = some f := by
  simp only [setTab] at h
  split at h
  · rename_i hu
    exact Or.inl ⟨h, hu⟩
  · exact Or.inr h

theorem tabs_load {col : Collation} {w : World} {t u : ℕ} {req : EditRequest} {f : MenuForm}
    (h : (w.load col t req).tabs u = some f) :
    editMenu col w.sys.db req = .menuForm f ∨ w.tabs u = some f := by
  rw [load] at h
  split at h
  · rename_i g hg
    rcases tabs_setTab h with ⟨hf, -⟩ | hold
    · rw [← Option.some_inj.1 hf]
      exact Or.inl hg
    · exact Or.inr hold
  · rcases tabs_setTab h with ⟨hf, -⟩ | hold
    · exact absurd hf (by simp)
    · exact Or.inr hold

@[simp] theorem load_sys (col : Collation) (w : World) (t : ℕ) (req : EditRequest) :
    (w.load col t req).sys = w.sys := by
  rw [load]
  split <;> rfl

@[simp] theorem load_submitted (col : Collation) (w : World) (t : ℕ) (req : EditRequest) :
    (w.load col t req).submitted = w.submitted := by
  rw [load]
  split <;> rfl

/-- **Where an open form comes from**: it was there, or it was just rendered, or just clicked. -/
theorem tabs_step {col : Collation} {w : World} {a : Action} {t : ℕ} {f : MenuForm}
    (h : (w.step col a).tabs t = some f) :
    w.tabs t = some f ∨ (∃ req, editMenu col w.sys.db req = .menuForm f) ∨
      ∃ g side i, w.tabs t = some g ∧ f = g.click side i := by
  cases a with
  | edit req =>
    rcases tabs_load h with hnew | hold
    · exact Or.inr (Or.inl ⟨req, hnew⟩)
    · exact Or.inl hold
  | click u side i =>
    rcases tabs_setTab h with ⟨hf, rfl⟩ | hold
    · obtain ⟨g, hg, rfl⟩ := Option.map_eq_some_iff.1 hf
      exact Or.inr (Or.inr ⟨g, side, i, hg, rfl⟩)
    · exact Or.inl hold
  | filtrer u c =>
    rw [step] at h
    split at h
    · rcases tabs_load h with hnew | hold
      · exact Or.inr (Or.inl ⟨_, hnew⟩)
      · exact Or.inl hold
    · exact Or.inl h
  | submit u nom description prix =>
    rw [step] at h
    split at h
    · split at h <;> exact Or.inl h
    · exact Or.inl h
  | call c => exact Or.inl h

/-- **What an action is for the server**: nothing, or the arrival of a valid form, or a call. -/
theorem sys_step (col : Collation) (w : World) (a : Action) :
    ((w.step col a).sys = w.sys ∧ (w.step col a).submitted = w.submitted ∧ ∀ c, a ≠ .call c) ∨
    (∃ t f nom description prix, a = .submit t nom description prix ∧ w.tabs t = some f ∧
      f.validateMenuSelection = true ∧
      (w.step col a).sys = w.sys.step (.startSaveMenu (f.input nom description prix).request) ∧
      (w.step col a).submitted = fun r => if r = w.sys.next then some f else w.submitted r) ∨
    (∃ c, a = .call c ∧ (w.step col a).sys = w.sys.step c.event ∧
      (w.step col a).submitted = w.submitted) := by
  cases a with
  | edit req =>
    exact Or.inl ⟨w.load_sys col w.nextTab req, w.load_submitted col w.nextTab req, by simp⟩
  | click u side i => exact Or.inl ⟨rfl, rfl, by simp⟩
  | filtrer u c =>
    refine Or.inl ?_
    rw [step]
    split <;> simp
  | submit u nom description prix =>
    rw [step]
    split
    · rename_i f hf
      split_ifs with hv
      · exact Or.inr (Or.inl ⟨u, f, nom, description, prix, rfl, hf, hv, rfl, rfl⟩)
      · exact Or.inl ⟨rfl, rfl, by simp⟩
    · exact Or.inl ⟨rfl, rfl, by simp⟩
  | call c => exact Or.inr (Or.inr ⟨c, rfl, rfl, rfl⟩)

/-- An action is an event of the server, or none. -/
theorem sys_step_eq (col : Collation) (w : World) (a : Action) :
    (w.step col a).sys = w.sys ∨ ∃ e, (w.step col a).sys = w.sys.step e := by
  obtain ⟨hs, -⟩ | ⟨t, f, nom, description, prix, -, -, -, hs, -⟩ | ⟨c, -, hs, -⟩ :=
    w.sys_step col a
  · exact Or.inl hs
  · exact Or.inr ⟨_, hs⟩
  · exact Or.inr ⟨_, hs⟩

theorem next_le_step (col : Collation) (w : World) (a : Action) :
    w.sys.next ≤ (w.step col a).sys.next := by
  rcases w.sys_step_eq col a with hs | ⟨e, hs⟩
  · rw [hs]
  · rw [hs]
    exact Sys.next_le _ _

/-- **Where a `saveMenu` under way comes from**: it was there, or its form has just been submitted,
or it has just made a lookup. -/
theorem pending_step {col : Collation} {w : World} {a : Action} {r : ℕ} {p : PendingSave}
    (hfresh : w.sys.pending w.sys.next = none) (h : (w.step col a).sys.pending r = some p) :
    (w.sys.pending r = some p ∧ a ≠ .call (.findPlat r) ∧
      (w.step col a).submitted r = w.submitted r) ∨
    (∃ t f nom description prix, a = .submit t nom description prix ∧ w.tabs t = some f ∧
      f.validateMenuSelection = true ∧ r = w.sys.next ∧ (w.step col a).sys.next = r + 1 ∧
      p = .start (f.input nom description prix).request ∧
      (w.step col a).submitted r = some f) ∨
    (∃ q, a = .call (.findPlat r) ∧ w.sys.pending r = some q ∧ p = q.findPlat w.sys.db ∧
      (w.step col a).submitted r = w.submitted r) := by
  obtain ⟨hs, hsub, hno⟩ | ⟨t, f, nom, description, prix, rfl, ht, hv, hs, hsub⟩ |
    ⟨c, rfl, hs, hsub⟩ := w.sys_step col a
  · rw [hs] at h
    exact Or.inl ⟨h, hno _, congrFun hsub r⟩
  · rw [hs] at h
    obtain ⟨hold, -⟩ | ⟨req, he, rfl, rfl⟩ | ⟨q, he, -⟩ := Sys.pending_step h
    · have hne : r ≠ w.sys.next := fun he => by simp [he, hfresh] at hold
      exact Or.inl ⟨hold, by simp, by rw [hsub]; exact if_neg hne⟩
    · cases he
      exact Or.inr (Or.inl ⟨t, f, nom, description, prix, rfl, ht, hv, rfl, by rw [hs]; rfl, rfl,
        by rw [hsub]; exact if_pos rfl⟩)
    · exact absurd he (by simp)
  · rw [hs] at h
    obtain ⟨hold, hne⟩ | ⟨req, he, -⟩ | ⟨q, he, hq, rfl⟩ := Sys.pending_step h
    · exact Or.inl ⟨hold, fun he => hne (by cases he; rfl), congrFun hsub r⟩
    · cases c <;> exact absurd he (by simp [Call.event])
    · cases c <;> cases he
      exact Or.inr (Or.inr ⟨q, rfl, hq, rfl, congrFun hsub r⟩)

end World

/-! ## A `saveMenu` and the form it comes from -/

/-- **A `saveMenu` under way follows its form**: it has looked up some of the plats selected there
and has still to look up the others, and what it has selected are the plats it has found.  `found`
says that it has found them all so far. -/
structure Follows (f : MenuForm) (p : PendingSave) (found : Prop) : Prop where
  valid : f.validateMenuSelection = true
  nodup : f.selectedIds.Nodup
  looked : ∃ done, f.selectedIds = done ++ p.todo ∧ (∀ k ∈ p.selectedIds, k ∈ done) ∧
    ((∀ k ∈ done, k ∈ p.selectedIds) ↔ found)

/-- A form that arrives. -/
theorem Follows.start {data : List ItemData} {f : MenuForm} (hf : f.Inv data)
    (hnd : (data.map ItemData.id).Nodup) (hv : f.validateMenuSelection = true)
    (nom description : String) (prix : ℚ) :
    Follows f (.start (f.input nom description prix).request) True := by
  have htodo : (PendingSave.start (f.input nom description prix).request).todo = f.selectedIds := by
    rw [← hf.totals.1]
    by_cases hnil : f.hiddenPlatInputs = [] <;>
      simp [PendingSave.start, MenuInput.request, MenuForm.input, hnil]
  refine ⟨hv, (List.nodup_append'.1 (hf.ids_perm.nodup_iff.2 hnd)).2.1, [], htodo.symm, ?_, by simp⟩
  simp [PendingSave.selectedIds, PendingSave.start]

/-- **A lookup follows the form**, and finds its plat exactly when it is stored. -/
theorem Follows.findPlat {f : MenuForm} {p : PendingSave} {found : Prop} (h : Follows f p found)
    (db : Db) : Follows f (p.findPlat db) (found ∧ ∀ k ∈ p.todo.head?, db.HasPlat k) := by
  cases htodo : p.todo with
  | nil =>
    rw [PendingSave.findPlat_nil db htodo]
    exact ⟨h.valid, h.nodup, by simpa using h.looked⟩
  | cons id todo =>
    obtain ⟨done, hids, hsub, hfound⟩ := h.looked
    have hmem : ∀ k, k ∈ (p.findPlat db).selectedIds ↔ k ∈ p.selectedIds ∨ k = id ∧ db.HasPlat id :=
      PendingSave.mem_selectedIds_findPlat htodo
    -- the plat was not looked up before, so it is selected now or never
    have hnew : id ∉ p.selectedIds := fun hid =>
      (List.nodup_append'.1 (hids ▸ h.nodup)).2.2 (hsub id hid) (by simp [htodo])
    refine ⟨h.valid, h.nodup, done ++ [id], ?_, ?_, ?_⟩
    · rw [p.findPlat_todo, hids, htodo, List.append_assoc]
      rfl
    · intro k hk
      rcases (hmem k).1 hk with hk | ⟨rfl, -⟩
      · exact List.mem_append_left _ (hsub k hk)
      · exact List.mem_append_right _ (List.mem_singleton.2 rfl)
    · rw [← hfound]
      simp only [hmem, List.mem_append, List.mem_singleton, List.head?_cons, Option.mem_some_iff,
        forall_eq']
      refine ⟨fun hall => ⟨fun k hk => ?_, ?_⟩, ?_⟩
      · rcases hall k (Or.inl hk) with hsel | ⟨rfl, -⟩
        · exact hsel
        · refine absurd ?_ ((List.nodup_append'.1 (hids ▸ h.nodup)).2.2 hk)
          simp [htodo]
      · exact ((hall id (Or.inr rfl)).resolve_left hnew).2
      · rintro ⟨hdone, hplat⟩ k (hk | rfl)
        · exact Or.inl (hdone k hk)
        · exact Or.inr ⟨rfl, hplat⟩

namespace World

/-- **The invariant of the whole.** -/
structure Inv (col : Collation) (db : Db) (acts : List Action) (w : World) : Prop where
  tabs : ∀ t f, w.tabs t = some f → ∃ data, f.Inv data ∧ (data.map ItemData.id).Nodup
  fresh : ∀ r, w.sys.next ≤ r → w.sys.pending r = none ∧ LookupsFind col db acts r
  pending : ∀ r p, w.sys.pending r = some p →
    ∃ f, w.submitted r = some f ∧ Follows f p (LookupsFind col db acts r)

theorem lookupsFind_concat_iff (col : Collation) (db : Db) (acts : List Action) (a : Action)
    (r : ℕ) :
    LookupsFind col db (acts ++ [a]) r ↔ LookupsFind col db acts r ∧
      (a = .call (.findPlat r) → (run (step col) (init db) acts).FindsItsPlat r) :=
  forall_split_concat_iff acts a

/-- An action that is not a lookup of the request changes nothing about its lookups. -/
theorem lookupsFind_concat_of_ne {col : Collation} {db : Db} {acts : List Action} {a : Action}
    {r : ℕ} (h : a ≠ .call (.findPlat r)) :
    LookupsFind col db (acts ++ [a]) r ↔ LookupsFind col db acts r := by
  rw [lookupsFind_concat_iff]
  exact and_iff_left fun he => absurd he h

theorem findsItsPlat_of_none {w : World} {r : ℕ} (h : w.sys.pending r = none) :
    w.FindsItsPlat r := by
  simp [FindsItsPlat, nextLookup, h]

theorem Inv.tabs_step {col : Collation} {db : Db} {acts : List Action} {w : World}
    (hw : w.Inv col db acts) {a : Action} {t : ℕ} {f : MenuForm}
    (h : (w.step col a).tabs t = some f) : ∃ data, f.Inv data ∧ (data.map ItemData.id).Nodup := by
  obtain hold | ⟨req, hnew⟩ | ⟨g, side, i, hg, rfl⟩ := World.tabs_step h
  · exact hw.tabs t f hold
  · obtain ⟨data, hinv, hnd, -⟩ := ids_editMenu hnew
    exact ⟨data, hinv, hnd⟩
  · obtain ⟨data, hinv, hnd⟩ := hw.tabs t g hg
    exact ⟨data, hinv.click side i, hnd⟩

/-- **An action keeps the invariant.** -/
theorem Inv.step {col : Collation} {db : Db} {acts : List Action}
    (hw : (run (step col) (init db) acts).Inv col db acts) (a : Action) :
    ((run (World.step col) (init db) acts).step col a).Inv col db (acts ++ [a]) := by
  generalize hW : run (World.step col) (init db) acts = w at hw
  have hfresh := (hw.fresh _ (le_refl _)).1
  refine ⟨fun t f h => hw.tabs_step h, ?_, ?_⟩
  · intro r hr
    obtain ⟨hnone, hfind⟩ := hw.fresh r ((w.next_le_step col a).trans hr)
    refine ⟨Option.eq_none_iff_forall_ne_some.2 fun p hp => ?_,
      (lookupsFind_concat_iff col db acts a r).2 ⟨hfind, fun _ => hW ▸ findsItsPlat_of_none hnone⟩⟩
    obtain ⟨hold, -⟩ | ⟨t, f, nom, description, prix, -, -, -, -, hnext, -⟩ | ⟨q, -, hq, -⟩ :=
      World.pending_step hfresh hp
    · exact absurd (hnone.symm.trans hold) (by simp)
    · omega
    · exact absurd (hnone.symm.trans hq) (by simp)
  · intro r p hp
    obtain ⟨hold, hne, hsub⟩ | ⟨t, f, nom, description, prix, rfl, ht, hv, hr, -, rfl, hsub⟩ |
      ⟨q, rfl, hq, rfl, hsub⟩ := World.pending_step hfresh hp
    · rw [hsub, lookupsFind_concat_of_ne hne]
      exact hw.pending r p hold
    · obtain ⟨data, hinv, hnd⟩ := hw.tabs t f ht
      have hfind := (hw.fresh r hr.ge).2
      refine ⟨f, hsub, ?_⟩
      rw [lookupsFind_concat_of_ne (by simp), eq_true hfind]
      exact .start hinv hnd hv nom description prix
    · obtain ⟨f, hf, hfollows⟩ := hw.pending r q hq
      have hfound : w.FindsItsPlat r ↔ ∀ k ∈ q.todo.head?, w.sys.db.HasPlat k := by
        rw [FindsItsPlat, nextLookup, hq]
        rfl
      refine ⟨f, hsub.trans hf, ?_⟩
      rw [lookupsFind_concat_iff, forall_prop_of_true rfl, hW, hfound]
      exact hfollows.findPlat w.sys.db

/-- **The invariant holds in every state reached.** -/
theorem inv_run (col : Collation) (db : Db) (acts : List Action) :
    (run (World.step col) (init db) acts).Inv col db acts := by
  refine run_induction (P := fun acts (w : World) => w.Inv col db acts) ?_
    (fun acts a h => h.step a) acts
  refine ⟨fun t f h => absurd h (by simp [init]), fun r _ => ⟨rfl, fun a b h => ?_⟩,
    fun r p h => absurd h (by simp [init, Sys.init])⟩
  exact absurd h (by simp)

/-! ## What is saved -/

/-- **What a `saveMenu` that completes has stored**: what it found, out of what was selected. -/
theorem Inv.saved {col : Collation} {db : Db} {acts : List Action} {w : World}
    (hw : w.Inv col db acts) {r : ℕ} {red : MenusRequest}
    (h : (w.sys.handle (.finishSaveMenu r)).2 = .redirectMenus red) :
    ∃ f, w.submitted r = some f ∧ f.validateMenuSelection = true ∧
      (∀ k, k ∈ (w.sys.step (.finishSaveMenu r)).db.platIdsOf red.id → k ∈ f.selectedIds) ∧
      ((∀ k ∈ f.selectedIds, k ∈ (w.sys.step (.finishSaveMenu r)).db.platIdsOf red.id) ↔
        LookupsFind col db acts r) := by
  have ho := w.sys.outcome (.finishSaveMenu r)
  rw [h] at ho
  generalize (w.sys.step (.finishSaveMenu r)).db = db' at ho
  cases ho with
  | @saveMenu _ p _ _ hp htodo hf =>
    obtain ⟨f, hsub, hfollows⟩ := hw.pending r p hp
    obtain ⟨done, hids, hfrom, hfound⟩ := hfollows.looked
    rw [htodo, List.append_nil] at hids
    have hstored : ∀ k, k ∈ db'.platIdsOf red.id ↔ k ∈ p.selectedIds := by
      intro k
      rw [Db.mem_platIdsOf, (PendingSave.finish_ok hf).1.mem_menuPlat]
      simp
    rw [← hids] at hfrom hfound
    simp only [hstored]
    exact ⟨f, hsub, hfollows.valid, hfrom, hfound⟩

/-- A menu that is saved while every lookup finds its plat has a plat. -/
theorem Inv.platIdsOf_saved_ne_nil {col : Collation} {db : Db} {acts : List Action} {w : World}
    (hw : w.Inv col db acts) (hfind : ∀ r, LookupsFind col db acts r) {r : ℕ} {red : MenusRequest}
    (h : (w.sys.handle (.finishSaveMenu r)).2 = .redirectMenus red) :
    (w.sys.step (.finishSaveMenu r)).db.platIdsOf red.id ≠ [] := by
  obtain ⟨f, -, hv, -, hiff⟩ := hw.saved h
  have hne : f.selectedIds ≠ [] := by
    simpa [MenuForm.validateMenuSelection, MenuForm.selectedIds] using hv
  obtain ⟨k, hk⟩ := List.exists_mem_of_ne_nil _ hne
  exact List.ne_nil_of_mem (hiff.2 (hfind r) k hk)

/-- The identifier was handed out, and the menu has a plat as long as it is there. -/
def Filled (k : ℤ) (w : World) : Prop :=
  k < w.sys.db.menuSeq ∧ (w.sys.db.HasMenu k → w.sys.db.platIdsOf k ≠ [])

/-- **A menu with a plat keeps one**, while every lookup finds its plat. -/
theorem Inv.filled_step {col : Collation} {db : Db} {acts : List Action} {w : World}
    (hw : w.Inv col db acts) (hfind : ∀ r, LookupsFind col db acts r) {k : ℤ} (hk : w.Filled k)
    (a : Action) : (w.step col a).Filled k := by
  rcases w.sys_step_eq col a with hs | ⟨e, hs⟩
  · rw [Filled, hs]
    exact hk
  · rw [Filled, hs]
    refine ⟨hk.1.trans_le (w.sys.seq_le e).1, ?_⟩
    intro hmenu hnil
    have hold : w.sys.db.HasMenu k := by
      by_contra hno
      exact absurd (Sys.hasMenu_gained hmenu hno) (not_le.2 hk.1)
    obtain ⟨p, hp⟩ := List.exists_mem_of_ne_nil _ (hk.2 hold)
    -- only a `saveMenu` takes a plat out of a menu that stays, and it puts another one in
    obtain ⟨r, red, rfl, hred, rfl⟩ := Sys.menuPlat_lost ((Db.mem_platIdsOf _).1 hp) hmenu
      fun hrow => List.not_mem_nil (hnil ▸ (Db.mem_platIdsOf _).2 hrow)
    exact hw.platIdsOf_saved_ne_nil hfind hred hnil

theorem LookupsFind.of_append {col : Collation} {db : Db} {acts acts' : List Action} {r : ℕ}
    (h : LookupsFind col db (acts ++ acts') r) : LookupsFind col db acts r := by
  rintro a b rfl
  exact h a (b ++ acts') (by simp)

/-- **A menu saved in a run has a plat at its end**, if it is still there and every lookup of the
run finds its plat. -/
theorem filled_run {col : Collation} {db : Db} {a : List Action} {r : ℕ} {red : MenusRequest}
    (h : ((run (step col) (init db) a).sys.handle (.finishSaveMenu r)).2 = .redirectMenus red)
    (b : List Action)
    (hfind : ∀ r', LookupsFind col db (a ++ .call (.finishSaveMenu r) :: b) r') :
    (run (step col) (init db) (a ++ .call (.finishSaveMenu r) :: b)).Filled red.id := by
  induction b using List.reverseRecOn with
  | nil =>
    have hne := (inv_run col db a).platIdsOf_saved_ne_nil (fun r' => (hfind r').of_append) h
    rw [run_concat]
    refine ⟨?_, fun _ => hne⟩
    obtain ⟨p, hp⟩ := List.exists_mem_of_ne_nil _ hne
    obtain ⟨m, hm, hid⟩ := (Db.valid _).menuPlat_menu _ ((Db.mem_platIdsOf _).1 hp)
    exact lt_of_eq_of_lt (Eq.symm hid) (Db.menu_lt _ m hm).2
  | append_singleton b e ih =>
    rw [← List.cons_append, ← List.append_assoc] at hfind ⊢
    rw [run_concat]
    exact (inv_run col db _).filled_step (fun r' => (hfind r').of_append)
      (ih fun r' => (hfind r').of_append) e

/-- **What the forms select and what is saved.**  Let any number of clients open menu forms, click,
filter and submit, and edit or delete menus and plats, in any order.  A `saveMenu` that completes
comes from a form `validateMenuSelection` let through, and the menu it stores has exactly the plats
selected there if and only if every lookup of this `saveMenu` found its plat.  In a run in which
every lookup does, every menu that was saved and not deleted has a plat. -/
theorem saved_selection (col : Collation) (db : Db) (acts : List Action) :
    (∀ r red, ((run (step col) (init db) acts).sys.handle (.finishSaveMenu r)).2 =
        .redirectMenus red →
      ∃ f, (run (step col) (init db) acts).submitted r = some f ∧ f.validateMenuSelection = true ∧
        ((∀ k, k ∈ (run (step col) (init db)
              (acts ++ [.call (.finishSaveMenu r)])).sys.db.platIdsOf red.id ↔
            k ∈ f.selectedIds) ↔
          LookupsFind col db acts r)) ∧
    ((∀ r, LookupsFind col db acts r) →
      ∀ a r b red, acts = a ++ .call (.finishSaveMenu r) :: b →
        ((run (step col) (init db) a).sys.handle (.finishSaveMenu r)).2 = .redirectMenus red →
        (run (step col) (init db) acts).sys.db.HasMenu red.id →
        (run (step col) (init db) acts).sys.db.platIdsOf red.id ≠ []) := by
  refine ⟨?_, ?_⟩
  · intro r red h
    obtain ⟨f, hsub, hv, hfrom, hiff⟩ := (inv_run col db acts).saved h
    rw [run_concat]
    refine ⟨f, hsub, hv, ?_⟩
    rw [← hiff]
    exact ⟨fun hk k => (hk k).2, fun hk k => ⟨hfrom k, hk k⟩⟩
  · rintro hfind a r b red rfl h
    exact (filled_run h b hfind).2

/-- A new menu of the plat nobody uses, up to the submission. -/
def carteDuo : List Action :=
  [.edit {}, .click 0 .available 2, .submit 0 "Duo" "" 5]

theorem saved_selection_carte :
    ∃ f, (run (step .codePoint) (init carte) (carteDuo ++ [.call (.findPlat 0)])).submitted 0 =
        some f ∧ f.selectedIds = [3] ∧
      ∀ k, k ∈ (run (step .codePoint) (init carte)
        (carteDuo ++ [.call (.findPlat 0)] ++ [.call (.finishSaveMenu 0)])).sys.db.platIdsOf 4 ↔
          k ∈ f.selectedIds := by
  have hred : ((run (step .codePoint) (init carte) (carteDuo ++ [.call (.findPlat 0)])).sys.handle
      (.finishSaveMenu 0)).2 = .redirectMenus { action := "new", id := 4 } := by decide +kernel
  have hfind : LookupsFind .codePoint carte (carteDuo ++ [.call (.findPlat 0)]) 0 := by
    refine (lookupsFind_concat_iff _ _ _ _ _).2 ⟨?_, fun _ => by decide⟩
    intro a b hab
    have hmem : .call (.findPlat 0) ∈ carteDuo := by simp [hab]
    exact absurd hmem (by simp [carteDuo])
  obtain ⟨f, hsub, -, hiff⟩ := (saved_selection .codePoint carte _).1 0 _ hred
  refine ⟨f, hsub, ?_, hiff.2 hfind⟩
  have hsel : ((run (step .codePoint) (init carte)
      (carteDuo ++ [.call (.findPlat 0)])).submitted 0).map MenuForm.selectedIds = some [3] := by
    decide
  rw [hsub] at hsel
  exact Option.some_inj.1 hsel

/-- Another client deletes the plat before it is looked up: the menu is stored without any. -/
theorem not_saved_selection_carte :
    ((run (step .codePoint) (init carte)
        (carteDuo ++ [.call (.deletePlat { id := 3 }), .call (.findPlat 0)])).sys.handle
      (.finishSaveMenu 0)).2 = .redirectMenus { action := "new", id := 4 } ∧
    ((run (step .codePoint) (init carte)
        (carteDuo ++ [.call (.deletePlat { id := 3 }), .call (.findPlat 0)])).submitted 0).map
      MenuForm.selectedIds = some [3] ∧
    (run (step .codePoint) (init carte)
        (carteDuo ++ [.call (.deletePlat { id := 3 }), .call (.findPlat 0),
          .call (.finishSaveMenu 0)])).sys.db.HasMenu 4 ∧
    (run (step .codePoint) (init carte)
        (carteDuo ++ [.call (.deletePlat { id := 3 }), .call (.findPlat 0),
          .call (.finishSaveMenu 0)])).sys.db.platIdsOf 4 = [] := by
  decide +kernel

end World

end GestionMenus
