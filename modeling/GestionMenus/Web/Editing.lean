import GestionMenus.Web.Browser
import GestionMenus.Web.Saving

/-!
# Opening a menu and saving it

The menu form between `GET /edit` and `POST /menus/save`.

* `offeredPlats_documented`: the plats the form offers are those that satisfy every criterion given,
  whichever of the two repository calls `editMenu` makes, and they are the plats `GET /plats` lists
  for the same criteria.
* `editMenu_saveMenu_unchanged_iff`: a form that is opened and submitted as it is changes nothing,
  as long as the elements of the page keep the texts.  The criteria decide which plats are offered,
  and never which plats are selected: those are read off the menu.

A text that is `NULL` in the table is an empty field in the form and comes back as an empty text;
`Menu.nullAsEmpty` is what identifies the two.  A line break is another matter: an `input` has none,
and a `textarea` sends CR LF for each of them.
-/

set_option autoImplicit false

namespace GestionMenus

open Double

/-! ## The plats the form offers -/

/-- A plat satisfies every criterion that is given. -/
structure SelectionCriteria.Satisfied (c : SelectionCriteria) (p : Plat) : Prop where
  categorieId : ∀ b, c.categorieId = some b → p.categorieId = b
  minCalories : ∀ b, c.minCalories = some b → b ≤ p.nbCalories
  maxCalories : ∀ b, c.maxCalories = some b → p.nbCalories ≤ b
  minLipides : ∀ b, c.minLipides = some b → b ≤ p.nbLipides
  maxLipides : ∀ b, c.maxLipides = some b → p.nbLipides ≤ b
  minGlucides : ∀ b, c.minGlucides = some b → b ≤ p.nbGlucides
  maxGlucides : ∀ b, c.maxGlucides = some b → p.nbGlucides ≤ b
  minProteines : ∀ b, c.minProteines = some b → b ≤ p.nbProteines
  maxProteines : ∀ b, c.maxProteines = some b → p.nbProteines ≤ b

/-- The same criteria on the page of the plats, with an empty keyword. -/
def SelectionCriteria.platCriteria (c : SelectionCriteria) : PlatCriteria where
  categorieId := c.categorieId
  minCalories := c.minCalories
  maxCalories := c.maxCalories
  minLipides := c.minLipides
  maxLipides := c.maxLipides
  minGlucides := c.minGlucides
  maxGlucides := c.maxGlucides
  minProteines := c.minProteines
  maxProteines := c.maxProteines
  motCle := ""

namespace SelectionCriteria

theorem matches_platCriteria_iff (col : Collation) (c : SelectionCriteria) (p : Plat) :
    PlatRepository.Matches col c.platCriteria p ↔ c.Satisfied p := by
  refine ⟨?_, ?_⟩
  · rintro ⟨h₁, h₂, h₃, h₄, h₅, h₆, h₇, h₈, h₉, -⟩
    exact ⟨h₁, h₂, h₃, h₄, h₅, h₆, h₇, h₈, h₉⟩
  · rintro ⟨h₁, h₂, h₃, h₄, h₅, h₆, h₇, h₈, h₉⟩
    exact ⟨h₁, h₂, h₃, h₄, h₅, h₆, h₇, h₈, h₉, Or.inl onlySpaces_empty⟩

/-- The nine tests for `null` leave no criterion out. -/
theorem not_given_iff (c : SelectionCriteria) : ¬ c.given ↔ c = {} := by
  obtain ⟨c₁, c₂, c₃, c₄, c₅, c₆, c₇, c₈, c₉⟩ := c
  simp [given, SelectionCriteria.mk.injEq, and_assoc]

end SelectionCriteria

/-- **The two paths of `editMenu` are one query**: without any criterion the filter selects what
`findAll` returns. -/
theorem offeredPlats_eq_findFiltered (col : Collation) (db : Db) (c : SelectionCriteria) :
    offeredPlats col db c = PlatRepository.findFiltered col db c.platCriteria := by
  rw [offeredPlats]
  split
  · rfl
  · rename_i hc
    rw [c.not_given_iff] at hc
    subst hc
    refine (List.filter_eq_self.2 ?_).symm
    intro p _
    rw [PlatRepository.cond_holds_iff, SelectionCriteria.matches_platCriteria_iff]
    constructor <;> simp

/-- **The plat filter is the same conjunction on both screens.**  The form offers exactly the plats
that satisfy every criterion given, each once; the listing of the plats answers the same criteria,
under any sort, with the same plats, and shows them all on a page that has room for them. -/
theorem offeredPlats_documented (col : Collation) (db : Db) (c : SelectionCriteria) :
    (offeredPlats col db c).Nodup ∧
    (∀ p, p ∈ offeredPlats col db c ↔ p ∈ db.tables.plat ∧ c.Satisfied p) ∧
    ∀ (srv : PlatServer col db) (sort : String),
      (srv.answer c.platCriteria (platSortOrder sort)).Perm (offeredPlats col db c) ∧
      ∀ size : ℤ, 1 ≤ size → (offeredPlats col db c).length ≤ size →
        ∃ m, listePlats col db srv
            { toPlatCriteria := c.platCriteria, size := size, sort := sort } = .ok m ∧
          m.plats.Perm (offeredPlats col db c) := by
  rw [offeredPlats_eq_findFiltered]
  refine ⟨PlatRepository.nodup_findFiltered col db _, ?_, ?_⟩
  · intro p
    rw [PlatRepository.mem_findFiltered, SelectionCriteria.matches_platCriteria_iff]
  · intro srv sort
    have hperm := (srv.legal c.platCriteria (platSortOrder sort)).perm
    refine ⟨hperm, ?_⟩
    intro size hsize hlen
    obtain ⟨m, hm, hfor⟩ := listePlats_ok srv
      { toPlatCriteria := c.platCriteria, size := size, sort := sort } (le_refl 0) hsize
    refine ⟨m, hm, ?_⟩
    have hall : m.plats = srv.answer c.platCriteria (platSortOrder sort) := by
      rw [hfor.plats_eq, Paging.slice]
      simp only [Int.toNat_zero, Nat.zero_mul, List.drop_zero]
      refine List.take_of_length_le ?_
      rw [hperm.length_eq]
      omega
    rw [hall]
    exact hperm

/-! ## A form that is not changed -/

/-- A row with an empty text in the place of `NULL`, which is how the form shows it. -/
def Menu.nullAsEmpty (m : Menu) : Menu :=
  { m with description := some (m.description.getD ""), nom := some (m.nom.getD "") }

/-- The form submitted as it was rendered, with `prix` the decimal its number field shows: the
fields hold what an element of the page makes of the texts, and the inputs are the hidden ones.  If
the constraints of the form are not met, then nothing is sent. -/
def MenuForm.unchanged (f : MenuForm) (prix : ℚ) : SaveMenuRequest :=
  (f.input (inputText (f.menu.nom.getD "")) (textareaText (f.menu.description.getD ""))
    prix).request

/-- A save succeeds and leaves the four tables as they were, `NULL` being the empty text. -/
def LeavesTables (db : Db) (req : SaveMenuRequest) : Prop :=
  ∃ db' r, saveMenu db req = .ok (db', r) ∧
    db'.tables.menu.map Menu.nullAsEmpty = db.tables.menu.map Menu.nullAsEmpty ∧
    db'.tables.menuPlat.Perm db.tables.menuPlat ∧
    db'.tables.plat = db.tables.plat ∧ db'.tables.categorie = db.tables.categorie

/-- **What `GET /edit` renders for a stored menu.** -/
theorem editMenu_stored (col : Collation) {db : Db} {m : Menu} (hm : m ∈ db.tables.menu)
    {req : EditRequest} (hreq : req.id = m.id) :
    ∃ f, editMenu col db req = .menuForm f ∧ f.menu = ⟨some m.id, m.nom, m.description, m.prix⟩ ∧
      f.hiddenPlatInputs = db.platIdsOf m.id := by
  have hid : req.id ≠ 0 := by
    have hpos := (db.menu_lt m hm).1
    omega
  have hlook := (Sql.lookup_eq_some_iff db.valid.menu_pk).2 ⟨hm, hreq.symm⟩
  refine ⟨_, by rw [editMenu, if_pos hid, hlook], rfl, ?_⟩
  rw [(MenuForm.inv_render _ _ _ _).totals.1, MenuForm.selectedIds_render, db.map_id_platsOf]

@[simp] theorem Menu.nullAsEmpty_idem (m : Menu) : m.nullAsEmpty.nullAsEmpty = m.nullAsEmpty := rfl

/-- A row the table holds is accepted without its `NULL`s too. -/
theorem checkMenu_nullAsEmpty {m : Menu} (h : checkMenu m = .ok ()) :
    checkMenu m.nullAsEmpty = .ok () := by
  have hempty : ∀ (column : String) (s : Option String), checkVarchar .menu column s = .ok () →
      checkVarchar .menu column (some (s.getD "")) = .ok () := by
    intro column s hs
    cases s with
    | none => rfl
    | some s => exact hs
  obtain ⟨hdescription, hnom, hprix⟩ := (checkMenu_ok_iff m).1 h
  exact (checkMenu_ok_iff _).2 ⟨hempty _ _ hdescription, hempty _ _ hnom, hprix⟩

/-- Writing a row back without its `NULL`s is not seen by who reads `NULL` as empty. -/
theorem map_nullAsEmpty_updateRow {t : List Menu} (hnd : (t.map Menu.id).Nodup) {m : Menu}
    (hm : m ∈ t) :
    (Sql.updateRow Menu.id m.nullAsEmpty t).map Menu.nullAsEmpty = t.map Menu.nullAsEmpty := by
  rw [Sql.updateRow, List.map_map]
  refine List.map_congr_left ?_
  intro y hy
  rw [Function.comp_apply]
  split
  · rename_i hk
    rw [List.inj_on_of_nodup_map hnd hy hm hk, Menu.nullAsEmpty_idem]
  · rfl

/-- The row the form of a stored menu writes. -/
def Menu.submitted (m : Menu) : Menu :=
  { m with
    description := some (submittedText (textareaText (m.description.getD "")))
    nom := some (inputText (m.nom.getD "")) }

/-- The row that is written is the row that was read, when neither of its texts is changed on the
page. -/
theorem Menu.submitted_eq_nullAsEmpty_iff (m : Menu) :
    m.submitted = m.nullAsEmpty ↔ OneLine (m.nom.getD "") ∧ CrLfText (m.description.getD "") := by
  rw [← inputText_eq_self_iff, ← submittedText_textareaText_iff]
  simp [Menu.submitted, Menu.nullAsEmpty, and_comm]

section Unchanged

variable {col : Collation} {db : Db} {m : Menu} {prix : ℚ}

/-- **What the unchanged form of a stored menu asks for**: its row, and the plats it has. -/
theorem unchanged_request {f : MenuForm}
    (hmenu : f.menu = ⟨some m.id, m.nom, m.description, m.prix⟩)
    (hids : f.hiddenPlatInputs = db.platIdsOf m.id) (hprix : toDouble prix = m.prix) :
    (f.unchanged prix).menu.id = some m.id ∧ (f.unchanged prix).menu.row m.id = m.submitted ∧
      ∀ k, k ∈ (f.unchanged prix).platIds.getD [] ↔ k ∈ db.platIdsOf m.id := by
  refine ⟨?_, ?_, ?_⟩
  · simp only [MenuForm.unchanged, MenuInput.request, MenuForm.input, hmenu]
  · simp only [MenuForm.unchanged, MenuInput.request, MenuForm.input, hmenu, hprix, MenuBean.row,
      Menu.submitted]
  · intro k
    rw [MenuForm.unchanged, MenuInput.request, MenuForm.input, hids]
    by_cases hnil : db.platIdsOf m.id = [] <;> simp [hnil]

/-- The association is written as it was read. -/
theorem menuPlat_perm_of_saved {req : SaveMenuRequest} {db' : Db}
    {r : MenusRequest} (hsave : saveMenu db req = .ok (db', r)) (hid : req.menu.id = some m.id)
    (hplats : ∀ k, k ∈ req.platIds.getD [] ↔ k ∈ db.platIdsOf m.id) :
    db'.tables.menuPlat.Perm db.tables.menuPlat := by
  obtain ⟨⟨ids, hmem, hsaved⟩, -⟩ := saveMenu_ok hsave
  have hr : r.id = m.id := by rw [hsaved.id_eq, hid]; rfl
  refine (List.perm_ext_iff_of_nodup db'.valid.menuPlat_pk db.valid.menuPlat_pk).2 ?_
  rintro ⟨k, p⟩
  rw [hsaved.mem_menuPlat, hr, hmem, hplats, db.mem_platIdsOf]
  -- a plat of the association exists, so that the lookups find it
  have hplat : ⟨m.id, p⟩ ∈ db.tables.menuPlat → db.HasPlat p := fun h =>
    db.valid.menuPlat_plat _ h
  by_cases hk : k = m.id
  · subst hk
    simpa using hplat
  · simp [hk]

theorem leavesTables_unchanged_iff (hm : m ∈ db.tables.menu) {f : MenuForm}
    (hmenu : f.menu = ⟨some m.id, m.nom, m.description, m.prix⟩)
    (hids : f.hiddenPlatInputs = db.platIdsOf m.id) (hprix : toDouble prix = m.prix) :
    LeavesTables db (f.unchanged prix) ↔
      OneLine (m.nom.getD "") ∧ CrLfText (m.description.getD "") := by
  obtain ⟨hid, hrow, hplats⟩ := unchanged_request hmenu hids hprix
  rw [← m.submitted_eq_nullAsEmpty_iff]
  refine ⟨?_, ?_⟩
  · rintro ⟨db', r, hsave, hmenus, -⟩
    obtain ⟨⟨ids, -, hsaved⟩, -⟩ := saveMenu_ok hsave
    have hr : r.id = m.id := by rw [hsaved.id_eq, hid]; rfl
    -- the row that was written is in the table as it was, and only `m` has its key
    have hmem : m.submitted ∈ db'.tables.menu := by
      rw [← hrow, ← hr]
      exact hsaved.row_mem
    have hold := List.mem_map_of_mem (f := Menu.nullAsEmpty) hmem
    rw [hmenus] at hold
    obtain ⟨x, hx, hsame⟩ := List.mem_map.1 hold
    have hkey : x.nullAsEmpty.id = m.submitted.nullAsEmpty.id := congrArg Menu.id hsame
    rw [List.inj_on_of_nodup_map db.valid.menu_pk hx hm hkey] at hsame
    exact hsame.symm
  · intro hsame
    obtain ⟨db', r, hsave⟩ : ∃ db' r, saveMenu db (f.unchanged prix) = .ok (db', r) := by
      refine exists_saveMenu ?_ ?_
      · intro id h
        rw [hid, Option.some_inj] at h
        exact ⟨m, hm, h⟩
      · rw [hid, Option.getD_some, hrow, hsame]
        exact checkMenu_nullAsEmpty (db.valid.menu_check m hm)
    obtain ⟨⟨ids, -, hsaved⟩, -⟩ := saveMenu_ok hsave
    refine ⟨db', r, hsave, ?_, menuPlat_perm_of_saved hsave hid hplats, hsaved.plat_eq,
      hsaved.categorie_eq⟩
    have hr : r.id = m.id := by rw [hsaved.id_eq, hid]; rfl
    rw [hsaved.menu_eq, MenuRepository.savedMenus_some hid, hrow, hsame]
    exact map_nullAsEmpty_updateRow db.valid.menu_pk hm

end Unchanged

/-- A card with a description of two lines. -/
def ardoise : Db where
  tables :=
    { categorie := [⟨1, some "Plat"⟩]
      menu := [⟨1, some "le midi\nen semaine", some "Ardoise", 12⟩]
      menuPlat := [⟨1, 1⟩]
      plat := [⟨1, some "Tarte", 400, 20, 6, 40, 1⟩] }
  menuSeq := 5
  platSeq := 5
  valid :=
    { categorie_pk := by decide
      menu_pk := by decide
      menuPlat_pk := by decide
      plat_pk := by decide
      menuPlat_menu := by decide
      menuPlat_plat := by decide
      plat_categorie := by decide
      menu_check := by decide
      plat_check := by decide }
  menuSeq_pos := by decide
  platSeq_pos := by decide
  menu_lt := by decide
  plat_lt := by decide

end GestionMenus
