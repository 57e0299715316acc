import GestionMenus.Web.Listing

/-!
# Do the pages of a listing fit together?

Three ways of going through the pages of a listing, and exactly when each of them shows what it
should:

* `browseMenus`, `browsePlats` — ask for the pages `0 … totalPages - 1` one after the other, with
  the same criteria, the server being free to resolve ties differently each time;
* `followMenuLinks`, `followPlatLinks` — follow the numbered links of the rendered listing, which
  drop some of the criteria, the server answering identical queries identically;
* `SortedAcrossPages` — compare the menus of two pages when the listing is sorted by calories,
  which happens in memory on each page.

Each is reduced to the corresponding statement of `Paging`, through `QueryServer.forall_answer_iff`:
only the answers to the queries that are really asked matter.
-/

set_option autoImplicit false

namespace GestionMenus

/-- Requests that all succeed, and the rows they return put together, each up to its own order. -/
theorem exists_mapM_ok {ι β α : Type} {get : ι → Except WebError β} {rows : β → List α}
    {f : ι → List α} (l : List ι) (h : ∀ i ∈ l, ∃ b, get i = .ok b ∧ (rows b).Perm (f i)) :
    ∃ bs, l.mapM get = .ok bs ∧ (bs.flatMap rows).Perm (l.flatMap f) := by
  induction l with
  | nil => exact ⟨[], rfl, List.Perm.refl _⟩
  | cons i l ih =>
    obtain ⟨b, hb, hperm⟩ := h i List.mem_cons_self
    obtain ⟨bs, hbs, hperms⟩ := ih fun j hj => h j (List.mem_cons_of_mem _ hj)
    refine ⟨b :: bs, ?_, ?_⟩
    · rw [List.mapM_cons, hb, hbs]
      rfl
    · rw [List.flatMap_cons, List.flatMap_cons]
      exact hperm.append hperms

/-- What is asked of the rows a request returns, once it is known to return some. -/
theorem exists_ok_perm_iff {α : Type} {x : Except WebError (List α)} {rows rows' l : List α}
    (h : x = .ok rows) (hperm : rows.Perm rows') :
    (∃ rs, x = .ok rs ∧ rs.Perm l) ↔ rows'.Perm l := by
  refine ⟨?_, fun hl => ⟨rows, h, hperm.trans hl⟩⟩
  rintro ⟨rs, hrs, hl⟩
  rw [h, Except.ok.injEq] at hrs
  exact hperm.symm.trans (hrs ▸ hl)

section

variable (col : Collation) (db : Db)

/-! ## Asking for one page after the other -/

/-- Ask for the pages of the menu listing one after the other; `srvs i` answers the `i`-th
request. -/
def browseMenus (srvs : ℕ → MenuServer col db) (req : MenusRequest) :
    Except WebError (List Menu) := do
  let first ← listMenus col db (srvs 0) { req with page := 0 }
  let pages ← (List.range first.page.totalPages).mapM fun i : ℕ =>
    listMenus col db (srvs i) { req with page := i }
  pure (pages.flatMap MenusModel.menus)

/-- Ask for the pages of the plat listing one after the other. -/
def browsePlats (srvs : ℕ → PlatServer col db) (req : PlatsRequest) :
    Except WebError (List Plat) := do
  let first ← listePlats col db (srvs 0) { req with page := 0 }
  let pages ← (List.range first.page.totalPages).mapM fun i : ℕ =>
    listePlats col db (srvs i) { req with page := i }
  pure (pages.flatMap PlatsModel.plats)

variable {col db}

theorem browseMenus_ok (srvs : ℕ → MenuServer col db) (req : MenusRequest) (hs : 1 ≤ req.size) :
    ∃ rows, browseMenus col db srvs req = .ok rows ∧
      rows.Perm ((List.range (Paging.totalPages req.size.toNat
        (MenuRepository.findFiltered col db req.toMenuCriteria).length)).flatMap fun i =>
          Paging.slice req.size.toNat i
            ((srvs i).answer req.toMenuCriteria (menuSortOrder req.sort))) := by
  obtain ⟨first, hfirst, hf⟩ := listMenus_ok (srvs 0) { req with page := 0 } le_rfl hs
  have hpage : ∀ i : ℕ, ∃ m, listMenus col db (srvs i) { req with page := i } = .ok m ∧
      m.menus.Perm (Paging.slice req.size.toNat i
        ((srvs i).answer req.toMenuCriteria (menuSortOrder req.sort))) := by
    intro i
    obtain ⟨m, hm, hfor⟩ := listMenus_ok (srvs i) { req with page := i } (Int.natCast_nonneg i) hs
    exact ⟨m, hm, hfor.perm⟩
  obtain ⟨pages, hpages, hperm⟩ := exists_mapM_ok (List.range first.page.totalPages)
    fun i _ => hpage i
  refine ⟨pages.flatMap MenusModel.menus, ?_, ?_⟩
  · rw [browseMenus, hfirst, ok_bind, hpages, ok_bind]
    rfl
  · rw [← hf.totalPages_eq]
    exact hperm

theorem browsePlats_ok (srvs : ℕ → PlatServer col db) (req : PlatsRequest) (hs : 1 ≤ req.size) :
    ∃ rows, browsePlats col db srvs req = .ok rows ∧
      rows.Perm ((List.range (Paging.totalPages req.size.toNat
        (PlatRepository.findFiltered col db req.toPlatCriteria).length)).flatMap fun i =>
          Paging.slice req.size.toNat i
            ((srvs i).answer req.toPlatCriteria (platSortOrder req.sort))) := by
  obtain ⟨first, hfirst, hf⟩ := listePlats_ok (srvs 0) { req with page := 0 } le_rfl hs
  have hpage : ∀ i : ℕ, ∃ m, listePlats col db (srvs i) { req with page := i } = .ok m ∧
      m.plats.Perm (Paging.slice req.size.toNat i
        ((srvs i).answer req.toPlatCriteria (platSortOrder req.sort))) := by
    intro i
    obtain ⟨m, hm, hfor⟩ := listePlats_ok (srvs i) { req with page := i } (Int.natCast_nonneg i) hs
    exact ⟨m, hm, List.Perm.of_eq hfor.plats_eq⟩
  obtain ⟨pages, hpages, hperm⟩ := exists_mapM_ok (List.range first.page.totalPages)
    fun i _ => hpage i
  refine ⟨pages.flatMap PlatsModel.plats, ?_, ?_⟩
  · rw [browsePlats, hfirst, ok_bind, hpages, ok_bind]
    rfl
  · rw [← hf.totalPages_eq]
    exact hperm

/-- Independent servers, one for each page, give independent legal answers. -/
theorem QueryServer.forall_answers_iff {κ π α : Type} [DecidableEq κ] [DecidableEq π]
    {matching : κ → List α} {leBy : π → α → α → Bool} (hle : ∀ p, Paging.IsOrder (leBy p))
    (c : κ) (s : SortOrder π) (P : (ℕ → List α) → Prop) :
    (∀ srvs : ℕ → QueryServer matching leBy, P fun i => (srvs i).answer c s) ↔
      ∀ rs : ℕ → List α, (∀ i, Paging.Answers (SortOrder.le leBy s) (matching c) (rs i)) →
        P rs := by
  refine ⟨?_, fun h srvs => h _ fun i => (srvs i).legal c s⟩
  intro h rs hrs
  have hP := h fun i => QueryServer.answering hle c s (rs i) (hrs i)
  simpa only [QueryServer.answering_answer] using hP

/-- Do the pages of the menu listing, asked for one after the other, show every matching menu
exactly once, whatever the server does with ties? -/
def MenuPagesExact (col : Collation) (db : Db) (req : MenusRequest) : Prop :=
  ∀ srvs : ℕ → MenuServer col db, ∃ rows, browseMenus col db srvs req = .ok rows ∧
    rows.Perm (MenuRepository.findFiltered col db req.toMenuCriteria)

/-- The same question about the plat listing. -/
def PlatPagesExact (col : Collation) (db : Db) (req : PlatsRequest) : Prop :=
  ∀ srvs : ℕ → PlatServer col db, ∃ rows, browsePlats col db srvs req = .ok rows ∧
    rows.Perm (PlatRepository.findFiltered col db req.toPlatCriteria)

/-- No tie of the ordering straddles a page boundary of the sorted rows. -/
def NoTieAcrossPages {π α : Type} (leBy : π → α → α → Bool) (s : SortOrder π) (size : ℤ)
    (rows : List α) : Prop :=
  Paging.BoundariesStrict (SortOrder.le leBy s) size.toNat (rows.mergeSort (SortOrder.le leBy s))

/-- Without an ordering everything ties, so that only one page will do. -/
theorem noTieAcrossPages_unsorted {π α : Type} {leBy : π → α → α → Bool} {size : ℤ}
    (rows : List α) : NoTieAcrossPages leBy none size rows ↔ rows.length ≤ size.toNat := by
  have hlen : (rows.mergeSort (SortOrder.le leBy none)).length = rows.length :=
    List.length_mergeSort rows
  refine ⟨?_, ?_⟩
  · intro h
    by_contra hgt
    exact absurd (h 1 Nat.one_pos (by omega)) (by simp [SortOrder.le])
  · intro h k hk hlt
    have hone : size.toNat ≤ k * size.toNat := Nat.le_mul_of_pos_left _ hk
    omega

/-- **Pages answered independently of each other.** -/
theorem QueryServer.forall_pages_iff {κ π α : Type} [DecidableEq κ] [DecidableEq π]
    {matching : κ → List α} {leBy : π → α → α → Bool} (hle : ∀ p, Paging.IsOrder (leBy p))
    (hnd : ∀ c, (matching c).Nodup) (c : κ) (s : SortOrder π) {size : ℤ} (hs : 1 ≤ size) :
    (∀ srvs : ℕ → QueryServer matching leBy,
      ((List.range (Paging.totalPages size.toNat (matching c).length)).flatMap fun i =>
        Paging.slice size.toNat i ((srvs i).answer c s)).Perm (matching c)) ↔
    NoTieAcrossPages leBy s size (matching c) := by
  have hsort := SortOrder.isOrder hle s
  rw [NoTieAcrossPages, ← Paging.forall_answers_slices_perm_iff hsort
    (show 0 < size.toNat by omega) (hnd c) (hsort.answers_mergeSort _)]
  exact QueryServer.forall_answers_iff hle c s fun rs =>
    ((List.range (Paging.totalPages size.toNat (matching c).length)).flatMap fun i =>
      Paging.slice size.toNat i (rs i)).Perm (matching c)

theorem menuPagesExact_iff (req : MenusRequest) (hs : 1 ≤ req.size) :
    MenuPagesExact col db req ↔ NoTieAcrossPages (MenuProperty.le col) (menuSortOrder req.sort)
      req.size (MenuRepository.findFiltered col db req.toMenuCriteria) := by
  rw [← QueryServer.forall_pages_iff (MenuProperty.isOrder col)
    (MenuRepository.nodup_findFiltered col db) _ _ hs]
  refine forall_congr' ?_
  intro srvs
  obtain ⟨rows, hrows, hperm⟩ := browseMenus_ok srvs req hs
  exact exists_ok_perm_iff hrows hperm

theorem platPagesExact_iff (req : PlatsRequest) (hs : 1 ≤ req.size) :
    PlatPagesExact col db req ↔ NoTieAcrossPages (PlatProperty.le col db) (platSortOrder req.sort)
      req.size (PlatRepository.findFiltered col db req.toPlatCriteria) := by
  rw [← QueryServer.forall_pages_iff (PlatProperty.isOrder col db)
    (PlatRepository.nodup_findFiltered col db) _ _ hs]
  refine forall_congr' ?_
  intro srvs
  obtain ⟨rows, hrows, hperm⟩ := browsePlats_ok srvs req hs
  exact exists_ok_perm_iff hrows hperm

variable (col db) in
/-- **Pages asked for one after the other.**  A listing shows every matching row exactly once,
whatever the server does with the ties of each request, if and only if no tie of the ordering
straddles a page boundary. -/
theorem pages_exact_iff :
    (∀ req : MenusRequest, 1 ≤ req.size →
      (MenuPagesExact col db req ↔
        NoTieAcrossPages (MenuProperty.le col) (menuSortOrder req.sort) req.size
          (MenuRepository.findFiltered col db req.toMenuCriteria))) ∧
    (∀ req : PlatsRequest, 1 ≤ req.size →
      (PlatPagesExact col db req ↔
        NoTieAcrossPages (PlatProperty.le col db) (platSortOrder req.sort) req.size
          (PlatRepository.findFiltered col db req.toPlatCriteria))) :=
  ⟨menuPagesExact_iff, platPagesExact_iff⟩

/-- Three menus of three prices, one to a page: all three pages together are the card. -/
theorem pages_exact_iff_carte :
    (MenuRepository.findFiltered .codePoint carte {}).length = 3 ∧
      MenuPagesExact .codePoint carte { sort := "prixAsc", size := 1 } := by
  refine ⟨by decide, ((pages_exact_iff .codePoint carte).1 _ (by decide)).2 ?_⟩
  have hsorted : (MenuRepository.findFiltered .codePoint carte {}).Pairwise fun a b =>
      SortOrder.le (MenuProperty.le .codePoint) (menuSortOrder "prixAsc") a b = true := by decide
  rw [NoTieAcrossPages, List.mergeSort_of_pairwise hsorted]
  intro k hk hlt
  -- there are only two boundaries
  have hbound : k < 3 := by
    have hlength : k * 1 < 3 := hlt
    omega
  revert hk hlt
  revert hbound
  revert k
  decide

/-- Three menus on pages of two, in no particular order: some answers repeat a menu. -/
theorem not_menuPagesExact_carte : ¬ MenuPagesExact .codePoint carte { size := 2 } := by
  rw [menuPagesExact_iff _ (by decide)]
  exact fun h => absurd ((noTieAcrossPages_unsorted _).1 h) (by decide)

/-! ## Following the numbered links -/

variable (col db) in
/-- Follow the numbered links of a menu listing.  A listing that fits on one page has none. -/
def followMenuLinks (srv : MenuServer col db) (req : MenusRequest) :
    Except WebError (List Menu) := do
  let m ← listMenus col db srv req
  if m.pageLinks.isEmpty then pure m.menus
  else do
    let pages ← m.pageLinks.mapM (listMenus col db srv)
    pure (pages.flatMap MenusModel.menus)

variable (col db) in
/-- Follow the numbered links of a plat listing. -/
def followPlatLinks (srv : PlatServer col db) (req : PlatsRequest) :
    Except WebError (List Plat) := do
  let m ← listePlats col db srv req
  if m.pageLinks.isEmpty then pure m.plats
  else do
    let pages ← m.pageLinks.mapM (listePlats col db srv)
    pure (pages.flatMap PlatsModel.plats)

/-- The rows met by following links: those of the pages `0 … totalPages - 1` of the answer to the
query of the links, when there are links. -/
def linkedRows {α : Type} (size page count : ℕ) (own linked : List α) : List α :=
  if size < count then
    (List.range (Paging.totalPages size count)).flatMap (Paging.slice size · linked)
  else Paging.slice size page own

/-- **Following links that all render.**  The templates show their links when there is more than one
page, which is when one page is not enough. -/
theorem exists_followLinks {ι β α : Type} {get : ι → Except WebError β} {rows : β → List α} {m : β}
    {link : ℕ → ι} {links : List ι} {size page count : ℕ} {own linked : List α} (hs : 0 < size)
    (hown : (rows m).Perm (Paging.slice size page own))
    (hlink : ∀ i, ∃ b, get (link i) = .ok b ∧ (rows b).Perm (Paging.slice size i linked))
    (hlinks : links = if Paging.totalPages size count > 1 then
      (List.range (Paging.totalPages size count)).map link else []) :
    ∃ rs, (if links.isEmpty then pure (rows m) else do
        let pages ← links.mapM get
        pure (pages.flatMap rows) : Except WebError (List α)) = .ok rs ∧
      rs.Perm (linkedRows size page count own linked) := by
  rw [linkedRows]
  by_cases hlt : size < count
  · have hmany := (Paging.one_lt_totalPages_iff hs).2 hlt
    have hne : links.isEmpty = false := by
      rw [hlinks, if_pos hmany, List.isEmpty_eq_false_iff, Ne, List.map_eq_nil_iff,
        List.range_eq_nil]
      omega
    obtain ⟨pages, hpages, hperm⟩ := exists_mapM_ok
      (List.range (Paging.totalPages size count)) fun i _ => hlink i
    rw [hne, hlinks, if_pos hmany, List.mapM_map, if_pos hlt]
    exact ⟨pages.flatMap rows, by simp [Function.comp_def, hpages], hperm⟩
  · have hone := (Paging.one_lt_totalPages_iff hs).not.2 hlt
    rw [hlinks, if_neg hone, if_neg hlt]
    exact ⟨rows m, rfl, hown⟩

theorem followMenuLinks_ok (srv : MenuServer col db) (req : MenusRequest) (hp : 0 ≤ req.page)
    (hs : 1 ≤ req.size) :
    ∃ rows, followMenuLinks col db srv req = .ok rows ∧
      rows.Perm (linkedRows req.size.toNat req.page.toNat
        (MenuRepository.findFiltered col db req.toMenuCriteria).length
        (srv.answer req.toMenuCriteria (menuSortOrder req.sort))
        (srv.answer { filtre := req.filtre } (menuSortOrder req.sort))) := by
  obtain ⟨m, hm, hf⟩ := listMenus_ok srv req hp hs
  rw [followMenuLinks, hm, ok_bind]
  refine exists_followLinks (show 0 < req.size.toNat by omega) hf.perm ?_
    (by rw [MenusModel.pageLinks, hf.totalPages_eq])
  intro i
  have hsize : 1 ≤ (m.pageLink i).size := by
    simp only [MenusModel.pageLink, hf.size_eq]
    omega
  obtain ⟨b, hb, hfor⟩ := listMenus_ok srv (m.pageLink i) (Int.natCast_nonneg i) hsize
  have hperm := hfor.perm
  simp only [MenusModel.pageLink, hf.size_eq, hf.sort_eq, hf.criteria_eq,
    Int.toNat_natCast] at hperm
  exact ⟨b, hb, hperm⟩

theorem followPlatLinks_ok (srv : PlatServer col db) (req : PlatsRequest) (hp : 0 ≤ req.page)
    (hs : 1 ≤ req.size) :
    ∃ rows, followPlatLinks col db srv req = .ok rows ∧
      rows.Perm (linkedRows req.size.toNat req.page.toNat
        (PlatRepository.findFiltered col db req.toPlatCriteria).length
        (srv.answer req.toPlatCriteria (platSortOrder req.sort))
        (srv.answer req.toPlatCriteria.linked (platSortOrder req.sort))) := by
  obtain ⟨m, hm, hf⟩ := listePlats_ok srv req hp hs
  rw [followPlatLinks, hm, ok_bind]
  refine exists_followLinks (show 0 < req.size.toNat by omega) (List.Perm.of_eq hf.plats_eq) ?_
    (by rw [PlatsModel.pageLinks, hf.totalPages_eq])
  intro i
  have hsize : 1 ≤ (m.pageLink i).size := by
    simp only [PlatsModel.pageLink, hf.size_eq]
    omega
  obtain ⟨b, hb, hfor⟩ := listePlats_ok srv (m.pageLink i) (Int.natCast_nonneg i) hsize
  have hperm := List.Perm.of_eq hfor.plats_eq
  simp only [PlatsModel.pageLink, hf.size_eq, hf.sort_eq, hf.criteria_eq,
    Int.toNat_natCast] at hperm
  exact ⟨b, hb, hperm⟩

/-- Following the links of a listing of the rows `l` shows exactly these rows, although the links
ask for the rows `w`: the listing is the first page and the only one, or the links ask for nothing
more, or every page is full and what they ask for in addition sorts strictly last. -/
def LinksHarmless {α : Type} (le : α → α → Bool) (size page : ℤ) (l w : List α) : Prop :=
  (l.length ≤ size.toNat ∧ (page = 0 ∨ l = [])) ∨
    (size.toNat < l.length ∧
      (w ⊆ l ∨ (size.toNat ∣ l.length ∧ ∀ x ∈ l, ∀ y ∈ w, y ∉ l → le y x = false)))

instance {α : Type} [DecidableEq α] (le : α → α → Bool) (size page : ℤ) (l w : List α) :
    Decidable (LinksHarmless le size page l w) :=
  inferInstanceAs (Decidable (_ ∨ _))

/-- A list that fits on one page is shown by page `0` and by no other. -/
theorem slice_perm_iff {α : Type} {size page : ℕ} (hs : 0 < size) {l r : List α} (hr : r.Perm l)
    (hlen : l.length ≤ size) : (Paging.slice size page r).Perm l ↔ page = 0 ∨ l = [] := by
  rcases Nat.eq_zero_or_pos page with rfl | hpage
  · have hfull : Paging.slice size 0 r = r := by
      rw [Paging.slice, Nat.zero_mul, List.drop_zero,
        List.take_of_length_le (by rw [hr.length_eq]; exact hlen)]
    simpa [hfull] using hr
  · have hnil : Paging.slice size page r = [] := by
      rw [Paging.slice_eq_nil_iff hs, hr.length_eq]
      exact hlen.trans (Nat.le_mul_of_pos_left _ hpage)
    rw [hnil, List.nil_perm]
    exact ⟨Or.inr, fun h => h.resolve_left (by omega)⟩

/-- **Following links that ask a wider query.** -/
theorem QueryServer.forall_linkedRows_iff {κ π α : Type} [DecidableEq κ] [DecidableEq π]
    [DecidableEq α] {matching : κ → List α} {leBy : π → α → α → Bool}
    (hle : ∀ p, Paging.IsOrder (leBy p)) (hnd : ∀ c, (matching c).Nodup) (c c' : κ)
    (s : SortOrder π) (hsub : matching c ⊆ matching c') {size page : ℤ} (hp : 0 ≤ page)
    (hs : 1 ≤ size) :
    (∀ srv : QueryServer matching leBy,
      (linkedRows size.toNat page.toNat (matching c).length (srv.answer c s)
        (srv.answer c' s)).Perm (matching c)) ↔
    LinksHarmless (SortOrder.le leBy s) size page (matching c) (matching c') := by
  have hpos : 0 < size.toNat := by omega
  by_cases hlt : size.toNat < (matching c).length
  · simp only [LinksHarmless, linkedRows, Nat.not_le.2 hlt, hlt, false_and, true_and,
      false_or]
    rw [← Paging.forall_answers_wider_iff (SortOrder.isOrder hle s) hpos (hnd c) (hnd c') hsub]
    exact QueryServer.forall_answer_iff hle c' s fun r =>
      ((List.range (Paging.totalPages size.toNat (matching c).length)).flatMap
        (Paging.slice size.toNat · r)).Perm (matching c)
  · have hlen : (matching c).length ≤ size.toNat := Nat.not_lt.1 hlt
    simp only [LinksHarmless, linkedRows, hlen, hlt, true_and, false_and, or_false]
    have hpage : page = 0 ↔ page.toNat = 0 := by omega
    rw [hpage]
    refine ⟨?_, ?_⟩
    · intro h
      have srv : QueryServer matching leBy := sorting hle
      exact (slice_perm_iff hpos (srv.legal c s).perm hlen).1 (h srv)
    · intro h srv
      exact (slice_perm_iff hpos (srv.legal c s).perm hlen).2 h

theorem findFiltered_subset_linked (col : Collation) (db : Db) (c : PlatCriteria) :
    PlatRepository.findFiltered col db c ⊆ PlatRepository.findFiltered col db c.linked := by
  intro p hp
  obtain ⟨hp, hm⟩ := PlatRepository.mem_findFiltered.1 hp
  exact PlatRepository.mem_findFiltered.2 ⟨hp,
    { hm with
      minLipides := by simp [PlatCriteria.linked]
      maxLipides := by simp [PlatCriteria.linked]
      minGlucides := by simp [PlatCriteria.linked]
      maxGlucides := by simp [PlatCriteria.linked]
      minProteines := by simp [PlatCriteria.linked]
      maxProteines := by simp [PlatCriteria.linked] }⟩

/-- Do the numbered links of the menu listing show exactly the menus that match its criteria? -/
def MenuLinksExact (col : Collation) (db : Db) (req : MenusRequest) : Prop :=
  ∀ srv : MenuServer col db, ∃ rows, followMenuLinks col db srv req = .ok rows ∧
    rows.Perm (MenuRepository.findFiltered col db req.toMenuCriteria)

/-- The same question about the plat listing. -/
def PlatLinksExact (col : Collation) (db : Db) (req : PlatsRequest) : Prop :=
  ∀ srv : PlatServer col db, ∃ rows, followPlatLinks col db srv req = .ok rows ∧
    rows.Perm (PlatRepository.findFiltered col db req.toPlatCriteria)

theorem menuLinksExact_iff (req : MenusRequest) (hp : 0 ≤ req.page) (hs : 1 ≤ req.size) :
    MenuLinksExact col db req ↔
      LinksHarmless (SortOrder.le (MenuProperty.le col) (menuSortOrder req.sort)) req.size req.page
        (MenuRepository.findFiltered col db req.toMenuCriteria)
        (MenuRepository.findFiltered col db { filtre := req.filtre }) := by
  rw [← QueryServer.forall_linkedRows_iff (MenuProperty.isOrder col)
    (MenuRepository.nodup_findFiltered col db) _ _ _
    (MenuRepository.findFiltered_subset_filtre col db _) hp hs]
  refine forall_congr' ?_
  intro srv
  obtain ⟨rows, hrows, hperm⟩ := followMenuLinks_ok srv req hp hs
  exact exists_ok_perm_iff hrows hperm

theorem platLinksExact_iff (req : PlatsRequest) (hp : 0 ≤ req.page) (hs : 1 ≤ req.size) :
    PlatLinksExact col db req ↔
      LinksHarmless (SortOrder.le (PlatProperty.le col db) (platSortOrder req.sort)) req.size
        req.page (PlatRepository.findFiltered col db req.toPlatCriteria)
        (PlatRepository.findFiltered col db req.toPlatCriteria.linked) := by
  rw [← QueryServer.forall_linkedRows_iff (PlatProperty.isOrder col db)
    (PlatRepository.nodup_findFiltered col db) _ _ _
    (findFiltered_subset_linked col db _) hp hs]
  refine forall_congr' ?_
  intro srv
  obtain ⟨rows, hrows, hperm⟩ := followPlatLinks_ok srv req hp hs
  exact exists_ok_perm_iff hrows hperm

variable (col db) in
/-- **Following the numbered links.**  Starting from any page of a listing, the links show exactly
the rows that match its criteria if and only if the criteria they drop do no harm: there are no
links, or what they ask for in addition is nothing, or sorts strictly behind pages that are all
full. -/
theorem links_exact_iff :
    (∀ req : MenusRequest, 0 ≤ req.page → 1 ≤ req.size →
      (MenuLinksExact col db req ↔
        LinksHarmless (SortOrder.le (MenuProperty.le col) (menuSortOrder req.sort)) req.size
          req.page (MenuRepository.findFiltered col db req.toMenuCriteria)
          (MenuRepository.findFiltered col db { filtre := req.filtre }))) ∧
    (∀ req : PlatsRequest, 0 ≤ req.page → 1 ≤ req.size →
      (PlatLinksExact col db req ↔
        LinksHarmless (SortOrder.le (PlatProperty.le col db) (platSortOrder req.sort)) req.size
          req.page (PlatRepository.findFiltered col db req.toPlatCriteria)
          (PlatRepository.findFiltered col db req.toPlatCriteria.linked))) :=
  ⟨menuLinksExact_iff, platLinksExact_iff⟩

/-- Two menus with the keyword, one to a page: the links carry the keyword on. -/
theorem links_exact_iff_carte :
    (MenuRepository.findFiltered .codePoint carte { filtre := "i" }).length = 2 ∧
      MenuLinksExact .codePoint carte { filtre := "i", size := 1 } :=
  ⟨by decide, ((links_exact_iff .codePoint carte).1 _ (by decide) (by decide)).2 (by decide)⟩

/-- Two of three menus cost at least 20, but the links of their listing ask for all three. -/
theorem not_menuLinksExact_carte :
    ¬ MenuLinksExact .codePoint carte { prixMin := some 20, size := 1 } := by
  rw [menuLinksExact_iff _ (by decide) (by decide)]
  decide

/-! ## Sorting by calories -/

/-- With the sort value `sort`, are the calories of every menu of an earlier page related by `R` to
those of every menu of a later one? -/
def SortedAcrossPages (col : Collation) (db : Db) (c : MenuCriteria) (size : ℤ) (sort : String)
    (R : Int32 → Int32 → Prop) : Prop :=
  ∀ (srv : MenuServer col db) (i j : ℕ), i < j → ∃ mi mj,
    listMenus col db srv { toMenuCriteria := c, size := size, sort := sort, page := i } = .ok mi ∧
    listMenus col db srv { toMenuCriteria := c, size := size, sort := sort, page := j } = .ok mj ∧
    (j < mi.page.totalPages →
      ∀ x ∈ mi.menus, ∀ y ∈ mj.menus, R (db.totalCalories x) (db.totalCalories y))

/-- Without an ordering every arrangement of the rows is a legal answer. -/
theorem answers_unsorted_iff {π α : Type} (leBy : π → α → α → Bool) {l r : List α} :
    Paging.Answers (SortOrder.le leBy none) l r ↔ r.Perm l :=
  ⟨fun h => h.perm, fun h => ⟨h, List.pairwise_of_forall fun _ _ => rfl⟩⟩

/-- A sort the query knows nothing about is a sort of each page on its own. -/
theorem sortedAcrossPages_iff {c : MenuCriteria} {size : ℤ} {sort : String}
    {R : Int32 → Int32 → Prop} (hR : ∀ x, R x x) (hs : 1 ≤ size)
    (hsort : menuSortOrder sort = none) :
    SortedAcrossPages col db c size sort R ↔
      (MenuRepository.findFiltered col db c).length ≤ size.toNat ∨
        ∀ x ∈ MenuRepository.findFiltered col db c, ∀ y ∈ MenuRepository.findFiltered col db c,
          R (db.totalCalories x) (db.totalCalories y) := by
  rw [← Paging.forall_perm_slices_iff (fun x => hR (db.totalCalories x))
    (show 0 < size.toNat by omega)]
  simp only [← answers_unsorted_iff (MenuProperty.le col)]
  rw [← QueryServer.forall_answer_iff (MenuProperty.isOrder col)]
  refine forall_congr' fun srv => forall₂_congr fun i j => forall_congr' fun hij => ?_
  obtain ⟨mi, hmi, hfi⟩ := listMenus_ok srv
    { toMenuCriteria := c, size := size, sort := sort, page := i } (Int.natCast_nonneg i) hs
  obtain ⟨mj, hmj, hfj⟩ := listMenus_ok srv
    { toMenuCriteria := c, size := size, sort := sort, page := j } (Int.natCast_nonneg j) hs
  have hpi := hfi.perm
  have hpj := hfj.perm
  simp only [hsort, Int.toNat_natCast] at hpi hpj
  simp only [hmi, hmj, Except.ok.injEq, exists_and_left, exists_eq_left', hfi.totalPages_eq,
    hpi.mem_iff, hpj.mem_iff]

variable (col db) in
/-- **Sorting by calories.**  The listing is sorted across its pages, in either direction and
whatever order the unsorted query is answered in, if and only if there is only one page or all
the menus have the same calories. -/
theorem calorie_sort_global_iff (c : MenuCriteria) (size : ℤ) (hs : 1 ≤ size) :
    (SortedAcrossPages col db c size "calAsc" (fun a b => a ≤ b) ↔
      (MenuRepository.findFiltered col db c).length ≤ size.toNat ∨
        ∀ x ∈ MenuRepository.findFiltered col db c, ∀ y ∈ MenuRepository.findFiltered col db c,
          db.totalCalories x = db.totalCalories y) ∧
    (SortedAcrossPages col db c size "calDesc" (fun a b => b ≤ a) ↔
      (MenuRepository.findFiltered col db c).length ≤ size.toNat ∨
        ∀ x ∈ MenuRepository.findFiltered col db c, ∀ y ∈ MenuRepository.findFiltered col db c,
          db.totalCalories x = db.totalCalories y) := by
  -- any two menus are related both ways round, which is equality
  have heq : ∀ l : List Menu, (∀ x ∈ l, ∀ y ∈ l, db.totalCalories x ≤ db.totalCalories y) ↔
      ∀ x ∈ l, ∀ y ∈ l, db.totalCalories x = db.totalCalories y := fun l =>
    ⟨fun h x hx y hy => Int32.le_antisymm (h x hx y hy) (h y hy x hx),
      fun h x hx y hy => h x hx y hy ▸ Int32.le_refl _⟩
  have hswap : ∀ l : List Menu, (∀ x ∈ l, ∀ y ∈ l, db.totalCalories y ≤ db.totalCalories x) ↔
      ∀ x ∈ l, ∀ y ∈ l, db.totalCalories x ≤ db.totalCalories y := fun l =>
    ⟨fun h x hx y hy => h y hy x hx, fun h x hx y hy => h y hy x hx⟩
  rw [sortedAcrossPages_iff (R := fun a b => a ≤ b) Int32.le_refl hs rfl,
    sortedAcrossPages_iff (R := fun a b => b ≤ a) Int32.le_refl hs rfl, hswap, heq]
  exact ⟨Iff.rfl, Iff.rfl⟩

theorem calorie_sort_global_iff_carte :
    SortedAcrossPages .codePoint carte { prixMax := some 10 } 1 "calAsc" (fun a b => a ≤ b) :=
  (calorie_sort_global_iff .codePoint carte { prixMax := some 10 } 1 (by decide)).1.2
    (Or.inl (by decide))

/-- Menus of 100, 400 and 500 calories on pages of one: the server may begin with any of them. -/
theorem not_sortedAcrossPages_carte :
    (∀ m ∈ carte.tables.menu, MenuRepository.sumCalories carte m < 2 ^ 31) ∧
      ¬ SortedAcrossPages .codePoint carte {} 1 "calAsc" (fun a b => a ≤ b) ∧
      ¬ SortedAcrossPages .codePoint carte {} 1 "calDesc" (fun a b => b ≤ a) := by
  rw [sortedAcrossPages_iff (R := fun a b => a ≤ b) Int32.le_refl (by decide) rfl,
    sortedAcrossPages_iff (R := fun a b => b ≤ a) Int32.le_refl (by decide) rfl]
  decide

end

end GestionMenus
