import GestionMenus.Base.Runs
import GestionMenus.Store.Queries
import GestionMenus.Web.Forms

/-!
# What a request can bind

`savePlat` takes a `Plat` that the framework has filled from the parameters of the request, whatever
their names.  The form sends the fields of a plat and the identifier of a categorie; nothing keeps
a client from sending more.

* `Params` are the parameters of a request and `Conversions` what the framework makes of their
  values.  `Property` is a property path that getters and setters lead to from a `Plat`, the three
  that go through `getCategorie` included.
* `Params.bindPlat` applies the parameters in the order of their names.  A parameter `categorie` is
  turned into the row with that identifier, an object the persistence context of the request keeps
  track of; `categorie.id` and `categorie.nom` are written into whatever object is there by then.
* `Params.savePlat` is the request from the binder on.  The transaction of `save` writes back every
  object the context knows and finds changed, the categorie among them.

`categorie` comes before `categorie.nom`, so a request with both loads a categorie and renames it.
`Renames` describes these requests, and `categories_unchanged_iff` says that the table of the
categories stays as it is in all the states of a run exactly when there is none of them in it.  The
form is none of them (`categories_unchanged_of_forms`): on its parameters this binder is the one of
`Forms`, by `bindPlat_params`.
-/

set_option autoImplicit false

namespace GestionMenus

open Runs

/-! ## Parameters -/

/-- The parameters of a request: the values of each name. -/
abbrev Params := List (String × List String)

/-- How the framework converts the values of a parameter.  `none` is a type mismatch; the empty text
is a `Long` that is `null`. -/
structure Conversions where
  toLong : List String → Option (Option ℤ)
  toInt : List String → Option Int32
  toText : List String → String

/-- A parameter converted, if it is there; if it is not, the property keeps its value. -/
def Params.read {α : Type} (ps : Params) (name : String) (convert : List String → Option α)
    (current : α) : Except WebError α :=
  match ps.lookup name with
  | none => .ok current
  | some values =>
    match convert values with
    | some x => .ok x
    | none => .error (.binding name)

/-- A `@RequestParam` without a default. -/
def Params.required {α : Type} (ps : Params) (name : String) (convert : List String → Option α) :
    Except WebError α :=
  match (ps.lookup name).bind convert with
  | some x => .ok x
  | none => .error (.binding name)

/-- `null`, or the text of a parameter. -/
def Conversions.toNullable (conv : Conversions) (values : List String) : Option (Option String) :=
  some (some (conv.toText values))

namespace Params

variable {α : Type} {ps : Params} {name : String}

theorem read_ok_iff {convert : List String → Option α} {current x : α} :
    ps.read name convert current = .ok x ↔
      ps.lookup name = none ∧ current = x ∨
        ∃ values, ps.lookup name = some values ∧ convert values = some x := by
  rw [read]
  cases ps.lookup name with
  | none => simp
  | some values => cases hconv : convert values <;> simp [hconv]

end Params

/-! ## The data binder -/

/-- A `Categorie` object.  `loaded` is the row it was loaded from, if the persistence context keeps
track of it; an object the binder made itself has none. -/
structure CategorieObj where
  loaded : Option Categorie := none
  id : Option ℤ := none
  nom : Option String := none
  deriving DecidableEq

/-- A `Plat` object while it is filled.  The defaults are those of `new Plat()`. -/
structure PlatObj where
  id : Option ℤ := none
  nom : Option String := none
  nbCalories : Int32 := 0
  nbLipides : Int32 := 0
  nbProteines : Int32 := 0
  nbGlucides : Int32 := 0
  categorie : Option CategorieObj := none
  deriving DecidableEq

/-- The object a row of `categorie` is loaded into. -/
def CategorieObj.load (c : Categorie) : CategorieObj := ⟨some c, some c.id, c.nom⟩

/-- The values of `categorie`: the stored row with that identifier, or `null`. -/
def Conversions.toCategorie (conv : Conversions) (db : Db) (values : List String) :
    Option (Option CategorieObj) :=
  (conv.toLong values).map fun id? =>
    id?.bind fun id => (Sql.lookup Categorie.id id db.tables.categorie).map CategorieObj.load

/-- What getters and setters lead to from a `Plat`. -/
inductive Property where
  | categorie
  | categorieId
  | categorieNom
  | id
  | nbCalories
  | nbGlucides
  | nbLipides
  | nbProteines
  | nom
  deriving DecidableEq, Repr

namespace Property

/-- The path a parameter is named after. -/
def path : Property → String
  | .categorie => "categorie"
  | .categorieId => "categorie.id"
  | .categorieNom => "categorie.nom"
  | .id => "id"
  | .nbCalories => "nbCalories"
  | .nbGlucides => "nbGlucides"
  | .nbLipides => "nbLipides"
  | .nbProteines => "nbProteines"
  | .nom => "nom"

/-- All of them, in the order of their paths. -/
def all : List Property :=
  [.categorie, .categorieId, .categorieNom, .id, .nbCalories, .nbGlucides, .nbLipides, .nbProteines,
    .nom]

example : (all.map path).Pairwise (· < ·) := by decide

end Property

namespace Params

/-- Set one property.  A path through `categorie` makes a new `Categorie` where there is none. -/
def bindProperty (ps : Params) (conv : Conversions) (db : Db) (plat : PlatObj) (p : Property) :
    Except WebError PlatObj :=
  match p with
  | .categorie => do
    let c ← ps.read p.path (conv.toCategorie db) plat.categorie
    pure { plat with categorie := c }
  | .categorieId => do
    let c ← ps.read p.path
      (fun values => (conv.toLong values).map fun id =>
        some { plat.categorie.getD {} with id := id })
      plat.categorie
    pure { plat with categorie := c }
  | .categorieNom => do
    let c ← ps.read p.path
      (fun values => (conv.toNullable values).map fun nom =>
        some { plat.categorie.getD {} with nom := nom })
      plat.categorie
    pure { plat with categorie := c }
  | .id => do
    let id ← ps.read p.path conv.toLong plat.id
    pure { plat with id := id }
  | .nbCalories => do
    let n ← ps.read p.path conv.toInt plat.nbCalories
    pure { plat with nbCalories := n }
  | .nbGlucides => do
    let n ← ps.read p.path conv.toInt plat.nbGlucides
    pure { plat with nbGlucides := n }
  | .nbLipides => do
    let n ← ps.read p.path conv.toInt plat.nbLipides
    pure { plat with nbLipides := n }
  | .nbProteines => do
    let n ← ps.read p.path conv.toInt plat.nbProteines
    pure { plat with nbProteines := n }
  | .nom => do
    let nom ← ps.read p.path conv.toNullable plat.nom
    pure { plat with nom := nom }

/-- The data binder: every property whose path is the name of a parameter is set, in the order of
the names, and a parameter of any other name is ignored.  A value that does not convert fails the
request. -/
def bindPlat (ps : Params) (conv : Conversions) (db : Db) : Except WebError PlatObj :=
  Property.all.foldlM (ps.bindProperty conv db) {}

/-! ## What the binder makes of the categorie -/

/-- The three paths that lead to the categorie, one after the other. -/
def bindCategorie (ps : Params) (conv : Conversions) (db : Db) :
    Except WebError (Option CategorieObj) := do
  let c ← ps.read "categorie" (conv.toCategorie db) none
  let c ← ps.read "categorie.id"
    (fun values => (conv.toLong values).map fun id => some { c.getD {} with id := id }) c
  ps.read "categorie.nom"
    (fun values => (conv.toNullable values).map fun nom => some { c.getD {} with nom := nom }) c

/-- The fields of its own a plat is bound to, each to one parameter. -/
structure Own (ps : Params) (conv : Conversions) (plat : PlatObj) : Prop where
  id : ps.read "id" conv.toLong none = .ok plat.id
  nbCalories : ps.read "nbCalories" conv.toInt 0 = .ok plat.nbCalories
  nbGlucides : ps.read "nbGlucides" conv.toInt 0 = .ok plat.nbGlucides
  nbLipides : ps.read "nbLipides" conv.toInt 0 = .ok plat.nbLipides
  nbProteines : ps.read "nbProteines" conv.toInt 0 = .ok plat.nbProteines
  nom : ps.read "nom" conv.toNullable none = .ok plat.nom

variable {ps : Params} {conv : Conversions} {db : Db}

/-- The binder, property by property. -/
theorem bindPlat_eq (ps : Params) (conv : Conversions) (db : Db) :
    ps.bindPlat conv db = (do
      let categorie ← ps.bindCategorie conv db
      let id ← ps.read "id" conv.toLong none
      let nbCalories ← ps.read "nbCalories" conv.toInt 0
      let nbGlucides ← ps.read "nbGlucides" conv.toInt 0
      let nbLipides ← ps.read "nbLipides" conv.toInt 0
      let nbProteines ← ps.read "nbProteines" conv.toInt 0
      let nom ← ps.read "nom" conv.toNullable none
      pure ⟨id, nom, nbCalories, nbLipides, nbProteines, nbGlucides, categorie⟩) := by
  simp only [bindPlat, Property.all, List.foldlM_cons, List.foldlM_nil, bindProperty, bindCategorie,
    Property.path, bind_assoc, pure_bind]

theorem bindPlat_ok_iff {plat : PlatObj} :
    ps.bindPlat conv db = .ok plat ↔
      ps.bindCategorie conv db = .ok plat.categorie ∧ ps.Own conv plat := by
  rw [bindPlat_eq]
  refine ⟨?_, ?_⟩
  · intro h
    obtain ⟨categorie, h₀, h⟩ := bind_ok h
    obtain ⟨id, h₁, h⟩ := bind_ok h
    obtain ⟨nbCalories, h₂, h⟩ := bind_ok h
    obtain ⟨nbGlucides, h₃, h⟩ := bind_ok h
    obtain ⟨nbLipides, h₄, h⟩ := bind_ok h
    obtain ⟨nbProteines, h₅, h⟩ := bind_ok h
    obtain ⟨nom, h₆, h⟩ := bind_ok h
    cases h
    exact ⟨h₀, h₁, h₂, h₃, h₄, h₅, h₆⟩
  · rintro ⟨h₀, h₁, h₂, h₃, h₄, h₅, h₆⟩
    rw [h₀, h₁, h₂, h₃, h₄, h₅, h₆]
    rfl

/-- An object the persistence context does not know stays unknown to it. -/
theorem loaded_of_read {α : Type} {name : String} {convert : List String → Option α}
    {f : CategorieObj → α → CategorieObj} (hf : ∀ o x, (f o x).loaded = o.loaded)
    {c : Option CategorieObj} {o : CategorieObj}
    (h : ps.read name (fun values => (convert values).map fun x => some (f (c.getD {}) x)) c =
      .ok (some o)) : o.loaded = c.bind CategorieObj.loaded := by
  rcases read_ok_iff.1 h with ⟨-, rfl⟩ | ⟨values, -, hconv⟩
  · rfl
  · obtain ⟨x, -, hx⟩ := Option.map_eq_some_iff.1 hconv
    obtain rfl := Option.some_inj.1 hx
    rw [hf]
    cases c <;> rfl

/-- The parameter `categorie` names a stored categorie. -/
def NamesCategorie (ps : Params) (conv : Conversions) (db : Db) (c : Categorie) : Prop :=
  c ∈ db.tables.categorie ∧
    ∃ values, ps.lookup "categorie" = some values ∧ conv.toLong values = some (some c.id)

theorem read_categorie_iff {o : CategorieObj} :
    ps.read "categorie" (conv.toCategorie db) none = .ok (some o) ↔
      ∃ c, ps.NamesCategorie conv db c ∧ o = .load c := by
  rw [read_ok_iff]
  refine ⟨?_, ?_⟩
  · rintro (⟨-, h⟩ | ⟨values, hvalues, h⟩)
    · exact absurd h (by simp)
    · obtain ⟨id?, hlong, h⟩ := Option.map_eq_some_iff.1 h
      obtain ⟨id, rfl, h⟩ := Option.bind_eq_some_iff.1 h
      obtain ⟨c, hlook, rfl⟩ := Option.map_eq_some_iff.1 h
      obtain ⟨hc, rfl⟩ := (Sql.lookup_eq_some_iff db.valid.categorie_pk).1 hlook
      exact ⟨c, ⟨hc, values, hvalues, hlong⟩, rfl⟩
  · rintro ⟨c, ⟨hc, values, hvalues, hlong⟩, rfl⟩
    have hlook := (Sql.lookup_eq_some_iff db.valid.categorie_pk).2 ⟨hc, rfl⟩
    refine Or.inr ⟨values, hvalues, ?_⟩
    rw [Conversions.toCategorie, hlong, Option.map_some, Option.bind_some, hlook]
    rfl

/-- Once a categorie is loaded, its two fields are bound each on its own. -/
theorem bindCategorie_of_names {c : Categorie} (h : ps.NamesCategorie conv db c) :
    ps.bindCategorie conv db = (do
      let id ← ps.read "categorie.id" conv.toLong (some c.id)
      let nom ← ps.read "categorie.nom" conv.toNullable c.nom
      pure (some ⟨some c, id, nom⟩)) := by
  rw [bindCategorie, read_categorie_iff.2 ⟨c, h, rfl⟩, ok_bind]
  simp only [read]
  cases ps.lookup "categorie.id" with
  | none => cases ps.lookup "categorie.nom" <;> rfl
  | some values =>
    cases hconv : conv.toLong values with
    | none => simp only [hconv]; rfl
    | some id =>
      simp only [hconv, Option.map_some]
      cases ps.lookup "categorie.nom" <;> rfl

/-- **When the categorie of the plat is one the persistence context knows**: `categorie` has loaded
it, and its fields are what they were or what the other two parameters say. -/
theorem bindCategorie_managed_iff {c : Categorie} {id : Option ℤ} {nom : Option String} :
    ps.bindCategorie conv db = .ok (some ⟨some c, id, nom⟩) ↔
      ps.NamesCategorie conv db c ∧ ps.read "categorie.id" conv.toLong (some c.id) = .ok id ∧
        ps.read "categorie.nom" conv.toNullable c.nom = .ok nom := by
  refine ⟨?_, ?_⟩
  · intro h
    have hnames : ps.NamesCategorie conv db c := by
      obtain ⟨c₀, h₀, h'⟩ := bind_ok h
      obtain ⟨c₁, h₁, h₂⟩ := bind_ok h'
      have hloaded₁ := loaded_of_read (f := fun o nom => { o with nom := nom }) (fun _ _ => rfl) h₂
      obtain ⟨o₁, rfl, ho₁⟩ := Option.bind_eq_some_iff.1 hloaded₁.symm
      have hloaded₀ := loaded_of_read (f := fun o id => { o with id := id }) (fun _ _ => rfl) h₁
      obtain ⟨o₀, rfl, ho₀⟩ := Option.bind_eq_some_iff.1 (hloaded₀.symm.trans ho₁)
      obtain ⟨c', hc', rfl⟩ := read_categorie_iff.1 h₀
      obtain rfl := Option.some_inj.1 ho₀
      exact hc'
    rw [bindCategorie_of_names hnames] at h
    obtain ⟨id', h₁, h⟩ := bind_ok h
    obtain ⟨nom', h₂, h⟩ := bind_ok h
    cases h
    exact ⟨hnames, h₁, h₂⟩
  · rintro ⟨hnames, h₁, h₂⟩
    rw [bindCategorie_of_names hnames, h₁, h₂]
    rfl

end Params

/-! ## `savePlat` from the binder on -/

/-- What the categorie of a plat is to the persistence context.  An object it does not know is a
mere reference when it has an identifier, and counts as absent when it has none; one it knows must
not lose its identifier. -/
def CategorieObj.reference : CategorieObj → Except StoreError (Option ManagedCategorie)
  | ⟨some c, some id, nom⟩ => .ok (some ⟨c, ⟨id, nom⟩⟩)
  | ⟨some _, none, _⟩ => .error (.identifierAltered .categorie)
  | ⟨none, some id, nom⟩ => .ok (some ⟨⟨id, nom⟩, ⟨id, nom⟩⟩)
  | ⟨none, none, _⟩ => .ok none

/-- The bean that is saved. -/
def PlatObj.bean (plat : PlatObj) : Except WebError PlatBean :=
  match (plat.categorie.map CategorieObj.reference).getD (.ok none) with
  | .error e => .error (.store e)
  | .ok c =>
    .ok ⟨plat.id, plat.nom, plat.nbCalories, plat.nbLipides, plat.nbProteines, plat.nbGlucides, c⟩

/-- The row a plat is stored as. -/
def PlatObj.row (plat : PlatObj) (id categorieId : ℤ) : Plat :=
  ⟨id, plat.nom, plat.nbCalories, plat.nbLipides, plat.nbProteines, plat.nbGlucides, categorieId⟩

/-- `POST /plats/save` with any parameters. -/
def Params.savePlat (ps : Params) (conv : Conversions) (db : Db) :
    Except WebError (Db × PlatsRequest) := do
  let plat ← ps.bindPlat conv db
  let page ← ps.required "page" conv.toInt
  let size ← ps.required "size" conv.toInt
  let motCle ← ps.read "motCle" (fun values => some (conv.toText values)) ""
  let bean ← plat.bean
  GestionMenus.savePlat db
    { plat := bean, page := page.toInt, size := size.toInt, motCle := motCle }

/-- The database after the request: what it was, if the request fails. -/
def submit (conv : Conversions) (db : Db) (ps : Params) : Db :=
  match ps.savePlat conv db with
  | .ok (db', _) => db'
  | .error _ => db

theorem PlatObj.bean_ok {plat : PlatObj} {bean : PlatBean} (h : plat.bean = .ok bean) :
    bean.id = plat.id ∧ (∀ id k, bean.row id k = plat.row id k) ∧
      ∀ c, bean.categorie = some c → ∃ o, plat.categorie = some o ∧ o.reference = .ok (some c) := by
  rw [PlatObj.bean] at h
  split at h
  · exact absurd h (by simp)
  · rename_i c? href
    cases h
    refine ⟨rfl, fun _ _ => rfl, ?_⟩
    rintro c rfl
    cases hcat : plat.categorie with
    | none =>
      rw [hcat] at href
      exact absurd href (by simp)
    | some o =>
      rw [hcat] at href
      exact ⟨o, rfl, href⟩

/-- Only an object the persistence context knows can differ from what was loaded. -/
theorem CategorieObj.reference_changed {o : CategorieObj} {c : ManagedCategorie}
    (h : o.reference = .ok (some c)) (hne : c.current ≠ c.loaded) :
    o = ⟨some c.loaded, some c.current.id, c.current.nom⟩ := by
  obtain ⟨loaded, id, nom⟩ := o
  rw [reference.eq_def] at h
  split at h
  · rename_i heq
    cases h
    exact heq
  · exact absurd h (by simp)
  · cases h
    exact absurd rfl hne
  · exact absurd h (by simp)

theorem ManagedCategorie.current_eq_loaded (c : ManagedCategorie)
    (hid : c.current.id = c.loaded.id) (hnom : c.current.nom = c.loaded.nom) :
    c.current = c.loaded := by
  obtain ⟨⟨id, nom⟩, ⟨id', nom'⟩⟩ := c
  cases hid
  cases hnom
  rfl

/-! ## Requests that rename a categorie -/

namespace Params

/-- The parameters give a stored categorie another name. -/
structure Renaming (ps : Params) (conv : Conversions) (db : Db) (c : Categorie) (nom : String) :
    Prop where
  names : ps.NamesCategorie conv db c
  /-- `categorie.id` is not there, or is the identifier the categorie has. -/
  categorieId : ps.read "categorie.id" conv.toLong (some c.id) = .ok (some c.id)
  categorieNom : ∃ values, ps.lookup "categorie.nom" = some values ∧ conv.toText values = nom
  changed : c.nom ≠ some nom
  /-- The column accepts the new name. -/
  column : checkVarchar .categorie "nom" (some nom) = .ok ()

/-- What a request needs besides a categorie. -/
structure Accepted (ps : Params) (conv : Conversions) (db : Db) (categorieId : ℤ)
    (plat : PlatObj) : Prop where
  own : ps.Own conv plat
  page : ∃ n, ps.required "page" conv.toInt = .ok n
  size : ∃ n, ps.required "size" conv.toInt = .ok n
  /-- A plat with an identifier is there to be updated. -/
  hasPlat : ∀ id, plat.id = some id → db.HasPlat id
  /-- The columns accept the plat. -/
  columns : checkPlat (plat.row (plat.id.getD db.platSeq) categorieId) = .ok ()

/-- **A request that renames a categorie.** -/
def Renames (ps : Params) (conv : Conversions) (db : Db) : Prop :=
  ∃ c nom plat, ps.Renaming conv db c nom ∧ ps.Accepted conv db c.id plat

variable {ps : Params} {conv : Conversions} {db : Db}

/-- **What a request that succeeds has done**: its parameters were bound, and the bean was saved. -/
theorem savePlat_cases {db' : Db} {r : PlatsRequest} (h : ps.savePlat conv db = .ok (db', r)) :
    ∃ plat bean, ps.bindCategorie conv db = .ok plat.categorie ∧ ps.Own conv plat ∧
      (∃ n, ps.required "page" conv.toInt = .ok n) ∧ (∃ n, ps.required "size" conv.toInt = .ok n) ∧
      plat.bean = .ok bean ∧
      ∃ req : SavePlatRequest, req.plat = bean ∧ GestionMenus.savePlat db req = .ok (db', r) := by
  obtain ⟨plat, hplat, h⟩ := bind_ok h
  obtain ⟨page, hpage, h⟩ := bind_ok h
  obtain ⟨size, hsize, h⟩ := bind_ok h
  obtain ⟨motCle, -, h⟩ := bind_ok h
  obtain ⟨bean, hbean, h⟩ := bind_ok h
  obtain ⟨hcategorie, hown⟩ := bindPlat_ok_iff.1 hplat
  exact ⟨plat, bean, hcategorie, hown, ⟨page, hpage⟩, ⟨size, hsize⟩, hbean, _, rfl, h⟩

/-- What is saved had a plat to go to, and the columns accepted it. -/
theorem saved_accepted {plat : PlatObj} {bean : PlatBean} (hbean : plat.bean = .ok bean) {db' : Db}
    {id : ℤ} (h : PlatRepository.Saved db bean db' id) {c : ManagedCategorie}
    (hc : bean.categorie = some c) :
    (∀ k, plat.id = some k → db.HasPlat k) ∧
      checkPlat (plat.row (plat.id.getD db.platSeq) c.loaded.id) = .ok () := by
  obtain ⟨hid, hrow, -⟩ := PlatObj.bean_ok hbean
  refine ⟨?_, ?_⟩
  · intro k hk
    have hr := h.id_eq
    rw [hid, hk, Option.getD_some] at hr
    exact hr ▸ h.hasPlat.resolve_left (by rw [hid, hk]; simp)
  · obtain ⟨c', hc', hcheck, -⟩ := h.row
    rw [hc, Option.some_inj] at hc'
    rw [← hrow, ← hid, ← h.id_eq, hc']
    exact hcheck

/-- A request that changes the table of the categories renames one of them. -/
theorem renames_of_savePlat {db' : Db} {r : PlatsRequest}
    (h : ps.savePlat conv db = .ok (db', r)) :
    db'.tables.categorie = db.tables.categorie ∨ ps.Renames conv db := by
  obtain ⟨plat, bean, hcategorie, hown, hpage, hsize, hbean, req, rfl, h⟩ := savePlat_cases h
  have hsave := (savePlat_save h).1
  obtain ⟨c, hc, hflush, htable⟩ := PlatRepository.save_categorie hsave
  by_cases hclean : c.current = c.loaded
  · rw [if_pos hclean] at htable
    exact Or.inl htable
  obtain ⟨hplat, hcolumns⟩ := saved_accepted hbean (PlatRepository.save_ok hsave) hc
  obtain ⟨-, -, href⟩ := PlatObj.bean_ok hbean
  obtain ⟨o, ho, hreference⟩ := href c hc
  rw [ho, CategorieObj.reference_changed hreference hclean, bindCategorie_managed_iff] at hcategorie
  obtain ⟨hnames, hcid, hcnom⟩ := hcategorie
  rw [hflush.id_eq] at hcid
  rcases read_ok_iff.1 hcnom with ⟨-, hnom⟩ | ⟨values, hvalues, hnom⟩
  · -- without `categorie.nom` nothing has changed
    exact absurd (c.current_eq_loaded hflush.id_eq hnom.symm) hclean
  · have hnom' : c.current.nom = some (conv.toText values) := (Option.some_inj.1 hnom).symm
    refine Or.inr ⟨c.loaded, conv.toText values, plat,
      ⟨hnames, hcid, ⟨values, hvalues, rfl⟩, ?_, ?_⟩, ⟨hown, hpage, hsize, hplat, hcolumns⟩⟩
    · intro h
      exact hclean (c.current_eq_loaded hflush.id_eq (hnom'.trans h.symm))
    · rw [← hnom']
      exact hflush.nom.resolve_left hclean

/-- A request whose bean is saved is answered by a redirect. -/
theorem exists_savePlat {plat : PlatObj} {bean : PlatBean} {page size : Int32} {db' : Db} {id : ℤ}
    (hplat : ps.bindPlat conv db = .ok plat) (hpage : ps.required "page" conv.toInt = .ok page)
    (hsize : ps.required "size" conv.toInt = .ok size) (hbean : plat.bean = .ok bean)
    (hsave : PlatRepository.save db bean = .ok (db', id)) :
    ∃ r, ps.savePlat conv db = .ok (db', r) := by
  obtain ⟨motCle, hmotCle⟩ : ∃ t, ps.read "motCle" (fun values => some (conv.toText values)) "" =
      .ok t := by
    rw [read]
    cases ps.lookup "motCle" <;> exact ⟨_, rfl⟩
  rw [savePlat, hplat, ok_bind, hpage, ok_bind, hsize, ok_bind, hmotCle, ok_bind, hbean, ok_bind,
    GestionMenus.savePlat, hsave]
  exact ⟨_, rfl⟩

/-- A request that renames a categorie goes through, and the new name is stored. -/
theorem Renaming.savePlat_ok {c : Categorie} {nom : String} {plat : PlatObj}
    (h : ps.Renaming conv db c nom) (ha : ps.Accepted conv db c.id plat) :
    ∃ db' r, ps.savePlat conv db = .ok (db', r) ∧
      db'.tables.categorie = Sql.updateRow Categorie.id ⟨c.id, some nom⟩ db.tables.categorie := by
  obtain ⟨values, hvalues, rfl⟩ := h.categorieNom
  obtain ⟨page, hpage⟩ := ha.page
  obtain ⟨size, hsize⟩ := ha.size
  have hcategorie : ps.bindCategorie conv db =
      .ok (some ⟨some c, some c.id, some (conv.toText values)⟩) :=
    bindCategorie_managed_iff.2
      ⟨h.names, h.categorieId, read_ok_iff.2 (Or.inr ⟨values, hvalues, rfl⟩)⟩
  have hplat : ps.bindPlat conv db =
      .ok { plat with categorie := some ⟨some c, some c.id, some (conv.toText values)⟩ } :=
    bindPlat_ok_iff.2 ⟨hcategorie, ha.own.id, ha.own.nbCalories, ha.own.nbGlucides,
      ha.own.nbLipides, ha.own.nbProteines, ha.own.nom⟩
  obtain ⟨bean, hbean, hid, hrow, hc⟩ : ∃ bean : PlatBean,
      PlatObj.bean { plat with categorie := some ⟨some c, some c.id, some (conv.toText values)⟩ } =
        .ok bean ∧ bean.id = plat.id ∧ (∀ id k, bean.row id k = plat.row id k) ∧
        bean.categorie = some ⟨c, ⟨c.id, some (conv.toText values)⟩⟩ :=
    ⟨_, rfl, rfl, fun _ _ => rfl, rfl⟩
  obtain ⟨db', id, hsave⟩ := PlatRepository.exists_save (by rw [hid]; exact ha.hasPlat) hc
    ⟨rfl, Or.inr h.column⟩ ⟨c, h.names.1, rfl⟩ (by rw [hid, hrow]; exact ha.columns)
  obtain ⟨r, hr⟩ := exists_savePlat hplat hpage hsize hbean hsave
  refine ⟨db', r, hr, ?_⟩
  obtain ⟨c', hc', -, htable⟩ := PlatRepository.save_categorie hsave
  rw [hc, Option.some_inj] at hc'
  subst hc'
  rw [htable, if_neg]
  exact fun he => h.changed (congrArg Categorie.nom he).symm

end Params

/-- **When a request leaves the categories as they are.** -/
theorem categorie_submit_iff (conv : Conversions) (db : Db) (ps : Params) :
    (submit conv db ps).tables.categorie = db.tables.categorie ↔ ¬ ps.Renames conv db := by
  refine ⟨?_, ?_⟩
  · rintro hsame ⟨c, nom, plat, h, ha⟩
    obtain ⟨db', r, hok, htable⟩ := h.savePlat_ok ha
    rw [submit, hok] at hsame
    -- the row with the new name is in the table, next to the row with the old one
    have hnew : (⟨c.id, some nom⟩ : Categorie) ∈ db.tables.categorie := by
      rw [← hsame, htable]
      exact Sql.mem_updateRow_self ⟨c, h.names.1, rfl⟩
    have heq := List.inj_on_of_nodup_map db.valid.categorie_pk h.names.1 hnew rfl
    exact h.changed (congrArg Categorie.nom heq)
  · intro hno
    rw [submit]
    split
    · rename_i db' r hok
      exact (Params.renames_of_savePlat hok).resolve_right hno
    · rfl

/-- **Which runs leave the categories as they are.**  Over any run of requests to `savePlat`, with
any parameters, the table of the categories is in every state what it was at the beginning if and
only if no request of the run renames a categorie: none names a stored categorie in `categorie`,
gives it another name in `categorie.nom`, and is accepted otherwise. -/
theorem categories_unchanged_iff (conv : Conversions) (db : Db) (reqs : List Params) :
    (∀ a b, reqs = a ++ b →
      (run (submit conv) db a).tables.categorie = db.tables.categorie) ↔
    ∀ a ps b, reqs = a ++ ps :: b → ¬ ps.Renames conv (run (submit conv) db a) := by
  refine ⟨?_, ?_⟩
  · intro h a ps b hreqs
    have hbefore := h a (ps :: b) hreqs
    have hafter := h (a ++ [ps]) b (by rw [hreqs, List.append_assoc]; rfl)
    rw [run_concat] at hafter
    exact (categorie_submit_iff conv _ ps).1 (hafter.trans hbefore.symm)
  · intro h a b hreqs
    by_contra hchanged
    obtain ⟨a₁, ps, a₂, rfl, hbefore, hafter⟩ := exists_step_of_lost
      (P := fun t : Db => t.tables.categorie = db.tables.categorie) rfl hchanged
    have hstep := (categorie_submit_iff conv _ ps).2
      (h a₁ ps (a₂ ++ b) (by rw [hreqs, List.append_assoc]; rfl))
    exact hafter (hstep.trans hbefore)

/-! ## The requests of the form -/

/-- **A request without paths through `categorie`** is a `savePlat` of a bean whose categorie is
stored and untouched. -/
theorem Params.savePlat_of_own {conv : Conversions} {db db' : Db} {ps : Params} {r : PlatsRequest}
    (hid : ps.lookup "categorie.id" = none) (hnom : ps.lookup "categorie.nom" = none)
    (h : ps.savePlat conv db = .ok (db', r)) :
    ∃ req : SavePlatRequest, GestionMenus.savePlat db req = .ok (db', r) ∧
      ∃ c ∈ db.tables.categorie, req.plat.categorie = some ⟨c, c⟩ := by
  obtain ⟨plat, bean, hcategorie, -, -, -, hbean, req, rfl, h⟩ := savePlat_cases h
  refine ⟨req, h, ?_⟩
  obtain ⟨c, hc, -⟩ := PlatRepository.save_categorie (savePlat_save h).1
  obtain ⟨-, -, href⟩ := PlatObj.bean_ok hbean
  obtain ⟨o, ho, hreference⟩ := href c hc
  rw [ho, bindCategorie] at hcategorie
  obtain ⟨c₀, h₀, hcategorie⟩ := bind_ok hcategorie
  simp only [read, hid, hnom, ok_bind, Except.ok.injEq] at hcategorie
  subst hcategorie
  obtain ⟨row, hrow, rfl⟩ := read_categorie_iff.1 h₀
  obtain rfl := Option.some_inj.1 (Except.ok.inj hreference)
  exact ⟨row, hrow.1, hc⟩

/-- The parameters `platForm.html` submits.  The hidden field of a new plat is empty. -/
def PlatInput.params (i : PlatInput) : Params :=
  [("page", [toString i.page]), ("size", [toString i.size]), ("motCle", [i.motCle]),
    ("id", [(i.id.map toString).getD ""]), ("nom", [i.nom]), ("categorie", [toString i.categorie]),
    ("nbCalories", [toString i.nbCalories]), ("nbGlucides", [toString i.nbGlucides]),
    ("nbLipides", [toString i.nbLipides]), ("nbProteines", [toString i.nbProteines])]

/-- What the form relies on: a number is read back from its digits if it fits its type. -/
structure Conversions.ReadsForm (conv : Conversions) : Prop where
  toText : ∀ s, conv.toText [s] = s
  toLong_empty : conv.toLong [""] = some none
  toLong : ∀ n : ℤ, -2 ^ 63 ≤ n → n < 2 ^ 63 → conv.toLong [toString n] = some (some n)
  toInt : ∀ n : ℤ, conv.toInt [toString n] =
    if -2 ^ 31 ≤ n ∧ n < 2 ^ 31 then some (Int32.ofInt n) else none

/-- Reading one of the numbers of the form. -/
theorem Params.read_int {conv : Conversions} (hconv : conv.ReadsForm) {ps : Params} {name : String}
    {n : ℤ} (h : ps.lookup name = some [toString n]) (current : Int32) :
    ps.read name conv.toInt current = bindInt name n := by
  rw [read, h, bindInt]
  simp only [hconv.toInt]
  split_ifs <;> rfl

/-- **The binder on the parameters of the form** is the binder of the form. -/
theorem PlatInput.bindPlat_params {conv : Conversions} (hconv : conv.ReadsForm) (db : Db)
    {i : PlatInput} (hid : ∀ k, i.id = some k → -2 ^ 63 ≤ k ∧ k < 2 ^ 63)
    (hcategorie : -2 ^ 63 ≤ i.categorie ∧ i.categorie < 2 ^ 63) :
    (i.params.bindPlat conv db >>= PlatObj.bean) = GestionMenus.bindPlat db i := by
  have hc₀ : i.params.read "categorie" (conv.toCategorie db) none =
      .ok ((Sql.lookup Categorie.id i.categorie db.tables.categorie).map CategorieObj.load) := by
    refine Params.read_ok_iff.2 (Or.inr ⟨[toString i.categorie], rfl, ?_⟩)
    rw [Conversions.toCategorie, hconv.toLong _ hcategorie.1 hcategorie.2]
    rfl
  have hc : i.params.bindCategorie conv db =
      .ok ((Sql.lookup Categorie.id i.categorie db.tables.categorie).map CategorieObj.load) := by
    rw [Params.bindCategorie, hc₀]
    rfl
  have hid' : i.params.read "id" conv.toLong none = .ok i.id := by
    refine Params.read_ok_iff.2 (Or.inr ⟨[(i.id.map toString).getD ""], rfl, ?_⟩)
    cases hi : i.id with
    | none => exact hconv.toLong_empty
    | some k => exact hconv.toLong k (hid k hi).1 (hid k hi).2
  have hnom : i.params.read "nom" conv.toNullable none = .ok (some i.nom) := by
    refine Params.read_ok_iff.2 (Or.inr ⟨[i.nom], rfl, ?_⟩)
    rw [Conversions.toNullable, hconv.toText]
  rw [Params.bindPlat_eq, hc, hid', hnom, Params.read_int hconv (n := i.nbCalories) rfl,
    Params.read_int hconv (n := i.nbGlucides) rfl, Params.read_int hconv (n := i.nbLipides) rfl,
    Params.read_int hconv (n := i.nbProteines) rfl, GestionMenus.bindPlat]
  simp only [bind_assoc, ok_bind, pure_bind]
  cases Sql.lookup Categorie.id i.categorie db.tables.categorie <;> rfl

/-- The form names a categorie and never changes it. -/
theorem PlatInput.not_renames_params (conv : Conversions) (db : Db) (i : PlatInput) :
    ¬ i.params.Renames conv db := by
  rintro ⟨c, nom, plat, h, -⟩
  obtain ⟨values, hvalues, -⟩ := h.categorieNom
  have hnone : i.params.lookup "categorie.nom" = none := rfl
  rw [hnone] at hvalues
  exact absurd hvalues (by simp)

/-- **The form alone never changes the categories.** -/
theorem categories_unchanged_of_forms (conv : Conversions) (db : Db) (is : List PlatInput) :
    (run (submit conv) db (is.map PlatInput.params)).tables.categorie = db.tables.categorie := by
  by_contra hchanged
  obtain ⟨a, ps, b, hsplit, hbefore, hafter⟩ := exists_step_of_lost
    (P := fun t : Db => t.tables.categorie = db.tables.categorie) rfl hchanged
  have hmem : ps ∈ is.map PlatInput.params := by
    rw [hsplit]
    exact List.mem_append_right a List.mem_cons_self
  obtain ⟨i, -, rfl⟩ := List.mem_map.1 hmem
  exact hafter (((categorie_submit_iff conv _ _).2 (i.not_renames_params conv _)).trans hbefore)

/-- A number in decimal digits, with or without a sign. -/
def decimal (s : String) : Option ℤ :=
  match s.toList with
  | '-' :: digits => (value digits).map fun n : ℕ => -(n : ℤ)
  | digits => (value digits).map fun n : ℕ => (n : ℤ)
where
  /-- The value of at least one digit. -/
  value (digits : List Char) : Option ℕ :=
    if digits ≠ [] ∧ digits.all Char.isDigit then some (Nat.ofDigitChars 10 digits 0) else none

/-- Conversions of decimal numbers.  A number is the first value of its parameter, and a text all of
them. -/
def Conversions.ofDecimal : Conversions where
  toLong
    | [] => some none
    | s :: _ =>
      if s = "" then some none
      else (decimal s).bind fun n => if -2 ^ 63 ≤ n ∧ n < 2 ^ 63 then some (some n) else none
  toInt
    | [] => none
    | s :: _ =>
      (decimal s).bind fun n => if -2 ^ 31 ≤ n ∧ n < 2 ^ 31 then some (Int32.ofInt n) else none
  toText values := ",".intercalate values

theorem decimal_value_toDigits (n : ℕ) : decimal.value (Nat.toDigits 10 n) = some n := by
  have hdigits : (Nat.toDigits 10 n).all Char.isDigit = true :=
    List.all_eq_true.2 fun _ h => Nat.isDigit_of_mem_toDigits (by decide) (by decide) h
  rw [decimal.value, if_pos ⟨Nat.toDigits_ne_nil, hdigits⟩, Nat.ofDigitChars_ten_toDigits]

theorem decimal_toString (n : ℤ) : decimal (toString n) = some n := by
  rw [Int.toString_eq_repr, Int.repr_eq_if, decimal]
  split_ifs with hn
  · rw [Nat.toList_repr]
    split
    · rename_i digits heq
      -- a digit is no sign
      have hmem : '-' ∈ Nat.toDigits 10 n.toNat := by
        rw [heq]
        exact List.mem_cons_self
      exact absurd (Nat.isDigit_of_mem_toDigits (by decide) (by decide) hmem) (by decide)
    · rw [decimal_value_toDigits, Option.map_some, Int.toNat_of_nonneg hn]
  · have hsign : ("-" ++ (-n).toNat.repr).toList = '-' :: Nat.toDigits 10 (-n).toNat := by
      rw [String.toList_append, Nat.toList_repr]
      rfl
    rw [hsign]
    simp only [decimal_value_toDigits, Option.map_some]
    rw [Int.toNat_of_nonneg (by omega), neg_neg]

theorem Conversions.ofDecimal_readsForm : ofDecimal.ReadsForm where
  toText s := by simp [ofDecimal]
  toLong_empty := rfl
  toLong n h₁ h₂ := by
    have hne : toString n ≠ "" := by
      intro h
      have hempty : decimal "" = none := rfl
      rw [← h, decimal_toString] at hempty
      exact absurd hempty (by simp)
    simp only [ofDecimal]
    rw [if_neg hne, decimal_toString, Option.bind_some, if_pos ⟨h₁, h₂⟩]
  toInt n := by
    simp only [ofDecimal, decimal_toString, Option.bind_some]

/-- A new plat of the first categorie of the card, which is given another name on the way. -/
def rizDuJour : Params :=
  [("page", ["0"]), ("size", ["10"]), ("nom", ["Riz"]), ("nbCalories", ["130"]),
    ("categorie", ["1"]), ("categorie.nom", ["Plat du jour"])]

/-- The first categorie of the card has another name after this request. -/
theorem not_categories_unchanged :
    ¬ ∀ (db : Db) (reqs a b : List Params), reqs = a ++ b →
      (run (submit .ofDecimal) db a).tables.categorie = db.tables.categorie := by
  intro h
  exact absurd (h carte [rizDuJour] [rizDuJour] [] rfl) (by decide)

end GestionMenus
