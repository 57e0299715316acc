import GestionMenus.Web.Forms

/-!
# The plat form

`PlatController.editPlat` renders `platForm.html`.  Unlike the menu form it has no script: what is
submitted is what the fields say.

* `PlatForm` is the page, as the object the fields are filled from and the options of the select.
* `editPlat` is the controller.  A plat that is not found leads to the list of the plats, and there
  to its first page: the redirect has no parameters.
* `PlatForm.input` is the submission.  `PlatForm.fields` is what the fields are filled with, and
  `PlatForm.unchanged` the submission of a user who types nothing.  The name and the categorie are
  `required`, so that there is none for a new plat, nor for a plat without a name.

The page and `savePlat` are inverse to each other: `editPlat_savePlat_unchanged` and
`savePlat_editPlat`.
-/

set_option autoImplicit false

namespace GestionMenus

/-- The parameters of `GET /platEdit`. -/
structure EditPlatRequest where
  page : ℤ := 0
  size : ℤ := 10
  motCle : String := ""
  id : ℤ := 0
  deriving DecidableEq

/-- `platForm.html`. -/
structure PlatForm where
  /-- The object the fields are bound to. -/
  plat : PlatBean
  categories : List Categorie
  page : ℤ
  size : ℤ
  motCle : String
  deriving DecidableEq

/-- What `editPlat` answers with. -/
inductive EditPlatResponse where
  | platForm (f : PlatForm)
  | redirect (req : PlatsRequest)

/-- The entity of a row, with the categorie it refers to. -/
def Plat.bean (db : Db) (p : Plat) : PlatBean where
  id := some p.id
  nom := p.nom
  nbCalories := p.nbCalories
  nbLipides := p.nbLipides
  nbProteines := p.nbProteines
  nbGlucides := p.nbGlucides
  categorie := (Sql.lookup Categorie.id p.categorieId db.tables.categorie).map fun c => ⟨c, c⟩

/-- `new Plat()`. -/
def PlatBean.empty : PlatBean := ⟨none, none, 0, 0, 0, 0, none⟩

/-- `PlatController.editPlat`. -/
def editPlat (db : Db) (req : EditPlatRequest) : EditPlatResponse :=
  let form (plat : PlatBean) : EditPlatResponse :=
    .platForm
      { plat := plat
        categories := db.tables.categorie
        page := req.page
        size := req.size
        motCle := req.motCle }
  if req.id ≠ 0 then
    match Sql.lookup Plat.id req.id db.tables.plat with
    | some p => form (p.bean db)
    | none => .redirect {}
  else form .empty

namespace PlatForm

/-- The submission: what is typed and chosen, and the hidden fields. -/
def input (f : PlatForm) (nom : String)
    (categorie nbCalories nbGlucides nbLipides nbProteines : ℤ) : PlatInput where
  id := f.plat.id
  nom := nom
  categorie := categorie
  nbCalories := nbCalories
  nbGlucides := nbGlucides
  nbLipides := nbLipides
  nbProteines := nbProteines
  page := f.page
  size := f.size
  motCle := f.motCle

/-- What the fields are filled with.  The option of the categorie is selected; without one the
select has no value. -/
def fields (f : PlatForm) : Option PlatInput :=
  f.plat.categorie.map fun c =>
    f.input (f.plat.nom.getD "") c.current.id f.plat.nbCalories.toInt f.plat.nbGlucides.toInt
      f.plat.nbLipides.toInt f.plat.nbProteines.toInt

/-- The form submitted as it was rendered.  The name is `required`; `minlength` is not asked of a
name that was not typed. -/
def unchanged (f : PlatForm) : Option PlatInput :=
  f.fields.bind fun i =>
    if inputText i.nom = "" then none else some { i with nom := inputText i.nom }

end PlatForm

/-! ## What the form shows -/

/-- The categorie of a stored plat. -/
theorem Db.exists_categorie {db : Db} {p : Plat} (hp : p ∈ db.tables.plat) :
    ∃ c, Sql.lookup Categorie.id p.categorieId db.tables.categorie = some c ∧
      c.id = p.categorieId := by
  obtain ⟨c, hc, hid⟩ := db.valid.plat_categorie p hp
  exact ⟨c, (Sql.lookup_eq_some_iff db.valid.categorie_pk).2 ⟨hc, hid⟩, hid⟩

/-- What the form of a stored plat is filled with. -/
def Plat.input (p : Plat) (req : EditPlatRequest) : PlatInput where
  id := some p.id
  nom := p.nom.getD ""
  categorie := p.categorieId
  nbCalories := p.nbCalories.toInt
  nbGlucides := p.nbGlucides.toInt
  nbLipides := p.nbLipides.toInt
  nbProteines := p.nbProteines.toInt
  page := req.page
  size := req.size
  motCle := req.motCle

/-- **What `GET /platEdit` renders for a stored plat.** -/
theorem editPlat_stored {db : Db} {p : Plat} (hp : p ∈ db.tables.plat) {req : EditPlatRequest}
    (hreq : req.id = p.id) :
    ∃ f, editPlat db req = .platForm f ∧ f.plat = p.bean db ∧ f.page = req.page ∧
      f.size = req.size ∧ f.motCle = req.motCle ∧ f.fields = some (p.input req) := by
  have hid : req.id ≠ 0 := by
    have hpos := (db.plat_lt p hp).1
    omega
  have hlook := (Sql.lookup_eq_some_iff db.valid.plat_pk).2 ⟨hp, hreq.symm⟩
  obtain ⟨c, hc, hcid⟩ := db.exists_categorie hp
  refine ⟨_, by rw [editPlat, if_pos hid, hlook], rfl, rfl, rfl, rfl, ?_⟩
  simp only [PlatForm.fields, PlatForm.input, Plat.bean, Plat.input, hc, Option.map_some, hcid]

/-! ## The two round trips -/

/-- The row the form of a stored plat writes. -/
def Plat.submitted (p : Plat) : Plat := { p with nom := some (inputText (p.nom.getD "")) }

theorem bindInt_toInt (field : String) (x : Int32) : bindInt field x.toInt = .ok x := by
  rw [bindInt, if_pos ⟨x.le_toInt, x.toInt_lt⟩, Int32.ofInt_toInt]

/-- A row the table holds is accepted without the line breaks of its name too. -/
theorem checkPlat_submitted {p : Plat} (h : checkPlat p = .ok ()) :
    checkPlat p.submitted = .ok () := by
  rw [checkPlat_ok_iff] at h ⊢
  refine ⟨h.1, h.2.1, h.2.2.1, h.2.2.2.1, ?_⟩
  cases hnom : p.nom with
  | none =>
    rw [Plat.submitted, hnom]
    rfl
  | some nom =>
    have hcheck := h.2.2.2.2
    rw [hnom, checkVarchar_some_ok_iff, ← String.length_toList] at hcheck
    rw [Plat.submitted, hnom, Option.getD_some, checkVarchar_some_ok_iff, inputText,
      String.length_ofList, String.toList_ofList]
    refine ⟨(List.length_filter_le _ _).trans hcheck.1, ?_⟩
    rw [List.all_eq_true] at hcheck ⊢
    exact fun c hc => hcheck.2 c (List.mem_of_mem_filter hc)

/-- Writing a row back changes nothing if and only if it is the row that was read. -/
theorem updateRow_eq_self_iff {t : List Plat} (hnd : (t.map Plat.id).Nodup) {p q : Plat}
    (hp : p ∈ t) (hid : q.id = p.id) : Sql.updateRow Plat.id q t = t ↔ q = p := by
  refine ⟨?_, ?_⟩
  · intro h
    have hq : q ∈ t := h ▸ Sql.mem_updateRow_self ⟨p, hp, hid.symm⟩
    exact List.inj_on_of_nodup_map hnd hq hp hid
  · rintro rfl
    rw [Sql.updateRow]
    refine (List.map_congr_left ?_).trans (List.map_id t)
    intro x hx
    split_ifs with hk
    · exact (List.inj_on_of_nodup_map hnd hx hp hk).symm
    · rfl

theorem Plat.submitted_eq_self_iff (p : Plat) :
    p.submitted = p ↔ ∃ nom, p.nom = some nom ∧ OneLine nom := by
  obtain ⟨id, nom, _, _, _, _, _⟩ := p
  cases nom with
  | none => simp [Plat.submitted]
  | some nom => simp [Plat.submitted, inputText_eq_self_iff]

/-- **What the form of a stored plat writes**, when nothing is typed. -/
theorem exists_save_submitted {db : Db} {p : Plat} (hp : p ∈ db.tables.plat)
    (req : EditPlatRequest) :
    ∃ db', PlatInput.save db { p.input req with nom := inputText (p.nom.getD "") } = .ok (db',
        { page := req.page, size := req.size, motCle := req.motCle, action := "mod",
          id := p.id }) ∧
      db'.tables = { db.tables with
        plat := Sql.updateRow Plat.id p.submitted db.tables.plat } := by
  obtain ⟨c, hc, hcid⟩ := db.exists_categorie hp
  have hbind : bindPlat db { p.input req with nom := inputText (p.nom.getD "") } =
      .ok (p.submitted.bean db) := by
    simp only [bindPlat, Plat.input, bindInt_toInt, ok_bind]
    rfl
  have hcat : (p.submitted.bean db).categorie = some ⟨c, c⟩ := by
    rw [Plat.bean, show p.submitted.categorieId = p.categorieId from rfl, hc]
    rfl
  have hrow : (p.submitted.bean db).row p.id c.id = p.submitted := by
    rw [hcid]
    rfl
  have hcheck : checkPlat ((p.submitted.bean db).row p.id c.id) = .ok () := by
    rw [hrow]
    exact checkPlat_submitted (db.valid.plat_check p hp)
  obtain ⟨db', id, hok⟩ := PlatRepository.exists_save
    (fun id hid => ⟨p, hp, Option.some_inj.1 hid⟩) hcat ⟨rfl, Or.inl rfl⟩
    (show db.HasCategorie c.id from hcid ▸ db.valid.plat_categorie p hp) hcheck
  have hsaved := PlatRepository.save_ok hok
  obtain rfl : id = p.id := hsaved.id_eq
  have htables := hsaved.tables_eq rfl hcat
  rw [hrow] at htables
  refine ⟨db', ?_, htables⟩
  rw [PlatInput.save, hbind, ok_bind, savePlat, hok]
  rfl

/-- **Opening the form of a plat and saving it loses nothing**, for a name with a single line.  For
every stored plat, the form `GET /platEdit` renders can be submitted as it is unless the plat has no
name; it is saved then, the redirect leads back to the page one came from, and the four tables are
as they were, if and only if there are no line breaks in the name for the page to leave out. -/
theorem editPlat_savePlat_unchanged (db : Db) (p : Plat) (hp : p ∈ db.tables.plat)
    (req : EditPlatRequest) (hreq : req.id = p.id) :
    ∃ f, editPlat db req = .platForm f ∧
      (f.unchanged = none ↔ inputText (p.nom.getD "") = "") ∧
      ∀ i, f.unchanged = some i → ∃ db',
        i.save db = .ok (db',
          { page := req.page, size := req.size, motCle := req.motCle, action := "mod",
            id := p.id }) ∧
        db'.tables = { db.tables with
          plat := Sql.updateRow Plat.id p.submitted db.tables.plat } ∧
        (db'.tables = db.tables ↔ OneLine (p.nom.getD "")) := by
  obtain ⟨f, hf, -, -, -, -, hfields⟩ := editPlat_stored hp hreq
  have hunchanged : f.unchanged = if inputText (p.nom.getD "") = "" then none else
      some { p.input req with nom := inputText (p.nom.getD "") } := by
    rw [PlatForm.unchanged, hfields]
    rfl
  refine ⟨f, hf, ?_, ?_⟩
  · rw [hunchanged]
    split_ifs with hempty <;> simp [hempty]
  · intro i hi
    rw [hunchanged] at hi
    split_ifs at hi with hempty
    obtain ⟨db', hsave, htables⟩ := exists_save_submitted hp req
    refine ⟨db', (Option.some_inj.1 hi) ▸ hsave, htables, ?_⟩
    -- a name that is submitted was not `NULL`
    obtain ⟨nom, hnom⟩ : ∃ nom, p.nom = some nom := by
      refine Option.ne_none_iff_exists'.1 fun hnone => hempty ?_
      rw [hnone]
      rfl
    have hplat : db'.tables = db.tables ↔
        Sql.updateRow Plat.id p.submitted db.tables.plat = db.tables.plat := by
      rw [htables]
      exact ⟨fun h => congrArg Tables.plat h, fun h => by rw [h]⟩
    rw [hplat, updateRow_eq_self_iff (q := p.submitted) db.valid.plat_pk hp rfl,
      p.submitted_eq_self_iff, hnom]
    simp

theorem editPlat_savePlat_unchanged_carte :
    ∃ f i db', editPlat carte { id := 2, page := 1 } = .platForm f ∧ f.unchanged = some i ∧
      i.save carte = .ok (db', { page := 1, action := "mod", id := 2 }) ∧
      db'.tables = carte.tables := by
  obtain ⟨f, hf, hnone, hsome⟩ := editPlat_savePlat_unchanged carte
    ⟨2, some "Tarte", 400, 20, 6, 40, 2⟩ (by decide) { id := 2, page := 1 } rfl
  obtain ⟨i, hi⟩ := Option.ne_none_iff_exists'.1 fun h => absurd (hnone.1 h) (by decide)
  obtain ⟨db', hsave, -, hsame⟩ := hsome i hi
  exact ⟨f, i, db', hf, hi, hsave, hsame.2 (by decide)⟩

/-- **What is saved from the form**: the bean that holds what was typed, with a categorie that is
stored. -/
theorem PlatInput.save_cases {db db' : Db} {i : PlatInput} {r : PlatsRequest}
    (h : i.save db = .ok (db', r)) :
    ∃ plat c, bindPlat db i = .ok plat ∧
      Sql.lookup Categorie.id i.categorie db.tables.categorie = some c ∧ i.Fits ∧ i.Holds c plat ∧
      PlatRepository.save db plat = .ok (db', r.id) := by
  rw [PlatInput.save] at h
  obtain ⟨plat, hbind, h⟩ := bind_ok h
  have hsave := (savePlat_save h).1
  obtain ⟨c, -, hcat, -⟩ := PlatRepository.save_cases hsave
  cases hc : Sql.lookup Categorie.id i.categorie db.tables.categorie with
  | some c₀ =>
    obtain ⟨hfits, hh⟩ := PlatInput.bindPlat_ok hc hbind
    exact ⟨plat, c₀, hbind, rfl, hfits, hh, hsave⟩
  | none =>
    -- without a categorie nothing is saved
    rw [bindPlat, hc] at hbind
    obtain ⟨_, -, hbind⟩ := bind_ok hbind
    obtain ⟨_, -, hbind⟩ := bind_ok hbind
    obtain ⟨_, -, hbind⟩ := bind_ok hbind
    obtain ⟨_, -, hbind⟩ := bind_ok hbind
    cases hbind
    exact absurd hcat (by simp)

/-- **What was saved is what the form shows.**  Whatever is submitted, when it is saved, the form
opened for the plat is filled with it: the name, the categorie and the four numbers.  It submits
them again, as long as the name is a text that can be in its field. -/
theorem savePlat_editPlat (db db' : Db) (i : PlatInput) (r : PlatsRequest)
    (h : i.save db = .ok (db', r)) (req : EditPlatRequest) (hreq : req.id = r.id) :
    ∃ f, editPlat db' req = .platForm f ∧
      f.fields = some
        { i with id := some r.id, page := req.page, size := req.size, motCle := req.motCle } ∧
      (OneLine i.nom → i.nom ≠ "" → f.unchanged = some
        { i with id := some r.id, page := req.page, size := req.size, motCle := req.motCle }) := by
  obtain ⟨plat, c, -, hc, -, hh, hsave⟩ := PlatInput.save_cases h
  have hcid := ((Sql.lookup_eq_some_iff db.valid.categorie_pk).1 hc).2
  have hmem := (PlatRepository.save_ok hsave).row_mem hh.categorie
  obtain ⟨f, hf, -, -, -, -, hfields⟩ := editPlat_stored hmem hreq
  have hinput : f.fields = some
      { i with id := some r.id, page := req.page, size := req.size, motCle := req.motCle } := by
    refine hfields.trans (congrArg some ?_)
    simp only [Plat.input, PlatBean.row, hh.nom, hcid, hh.nbCalories, hh.nbGlucides, hh.nbLipides,
      hh.nbProteines, Option.getD_some]
  refine ⟨f, hf, hinput, ?_⟩
  intro hline hne
  rw [PlatForm.unchanged, hinput, Option.bind_some]
  simp only [(inputText_eq_self_iff i.nom).2 hline, hne, if_false]

/-- A new plat of the card, submitted and opened again. -/
theorem savePlat_editPlat_carte :
    let i : PlatInput := ⟨none, "Pain", 1, 250, 50, 2, 8, 0, 10, ""⟩
    ∃ db' r f, i.save carte = .ok (db', r) ∧ editPlat db' { id := r.id } = .platForm f ∧
      f.unchanged = some { i with id := some r.id } := by
  intro i
  have haccepted : i.Accepted carte :=
    ⟨by decide, by decide, by decide, by decide, by decide, by decide, by decide, by simp [i]⟩
  obtain ⟨db', r, h, -⟩ := (PlatInput.isStored_iff haccepted).2
    ⟨⟨by decide, by decide, by decide, by decide⟩, by decide⟩
  obtain ⟨f, hf, -, hunchanged⟩ := savePlat_editPlat carte db' i r h { id := r.id } rfl
  exact ⟨db', r, f, h, hf, hunchanged (by decide) (by decide)⟩

end GestionMenus
