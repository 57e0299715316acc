import GestionMenus.Store.Card
import GestionMenus.Web.Visit

/-!
# Sending a request again

A form that is submitted twice, a link that is clicked twice, a page that is reloaded: the server
gets the same request again.  The deletions are `GET` requests, and nothing in the two saves tells a
second submission from a first one.

* `Requete.Creates` are the submissions of a form without an identifier.
* `answer_again` is about the second time, and `resend_iff` about any number of times: a request
  that was answered is answered again, and the card (`Store/Card.lean`) stays as it is exactly when
  the request creates nothing.
-/

set_option autoImplicit false

namespace GestionMenus

open Memory

/-- The form of a new menu or of a new plat. -/
def Requete.Creates : Requete → Prop
  | .get _ => False
  | .saveMenu req => req.menu.id = none
  | .savePlat i => i.id = none

instance : DecidablePred Requete.Creates
  | .get _ => inferInstanceAs (Decidable False)
  | .saveMenu req => inferInstanceAs (Decidable (req.menu.id = none))
  | .savePlat i => inferInstanceAs (Decidable (i.id = none))

section

variable {db db₁ db₂ : Db}

/-! ## The same write again -/

/-- What the columns accept does not depend on the identifier. -/
theorem checkMenu_row (menu : MenuBean) (id id' : ℤ) :
    checkMenu (menu.row id) = .ok () ↔ checkMenu (menu.row id') = .ok () := by
  rw [checkMenu_ok_iff, checkMenu_ok_iff]
  rfl

theorem checkPlat_row (plat : PlatBean) (id id' categorieId : ℤ) :
    checkPlat (plat.row id categorieId) = .ok () ↔
      checkPlat (plat.row id' categorieId) = .ok () := by
  rw [checkPlat_ok_iff, checkPlat_ok_iff]
  rfl

/-- Nothing is stored under the next identifier. -/
theorem Db.card_menuSeq (db : Db) : db.card.menus db.menuSeq = none := by
  have hno : Sql.lookup Menu.id db.menuSeq db.tables.menu = none := by
    refine List.find?_eq_none.2 fun m hm => ?_
    have := (db.menu_lt m hm).2
    simp
    omega
  simp only [Db.card, hno, Option.map_none]

theorem Db.card_platSeq (db : Db) : db.card.plats db.platSeq = none := by
  refine List.find?_eq_none.2 fun p hp => ?_
  have := (db.plat_lt p hp).2
  simp
  omega

/-- **A menu that was saved is saved again**: nothing changes if it has an identifier, and there is
one more if it has not. -/
theorem saveMenu_again {req : SaveMenuRequest} {r : MenusRequest}
    (h : saveMenu db req = .ok (db₁, r)) :
    ∃ db₂ r₂, saveMenu db₁ req = .ok (db₂, r₂) ∧ (db₂.card = db₁.card ↔ req.menu.id ≠ none) := by
  obtain ⟨⟨ids, hids, hsaved⟩, hothers, -⟩ := saveMenu_ok h
  have hplat : ∀ k, db₁.HasPlat k ↔ db.HasPlat k := by
    intro k
    rw [Db.HasPlat, Db.HasPlat, hsaved.plat_eq]
  obtain ⟨db₂, r₂, h₂⟩ : ∃ db₂ r₂, saveMenu db₁ req = .ok (db₂, r₂) := by
    refine exists_saveMenu ?_ ((checkMenu_row req.menu r.id _).1 hsaved.check)
    intro id hid
    have hr : r.id = id := by rw [hsaved.id_eq, hid, Option.getD_some]
    exact (hsaved.hasMenu_iff id).2 (Or.inr hr.symm)
  obtain ⟨⟨ids₂, hids₂, hsaved₂⟩, hothers₂, -⟩ := saveMenu_ok h₂
  obtain ⟨hmenus, -⟩ := card_saveMenu hsaved hothers
  obtain ⟨hmenus₂, hplats₂, hcategories₂⟩ := card_saveMenu hsaved₂ hothers₂
  -- the same plats are found the second time
  have hsame : ids₂.toFinset = ids.toFinset := by
    ext k
    rw [List.mem_toFinset, List.mem_toFinset, hids₂, hids, hplat]
  refine ⟨db₂, r₂, h₂, ?_, ?_⟩
  · intro hcard hnone
    have hid₂ : r₂.id = db₁.menuSeq := by rw [hsaved₂.id_eq, hnone, Option.getD_none]
    have hstored := congrFun hmenus₂ r₂.id
    rw [write_self _ (⟨r₂.id, _⟩ : Write ℤ StoredMenu), hcard, hid₂, db₁.card_menuSeq] at hstored
    exact absurd hstored (by simp)
  · intro hsome
    obtain ⟨id, hid⟩ := Option.ne_none_iff_exists'.1 hsome
    have hr : r.id = id := by rw [hsaved.id_eq, hid, Option.getD_some]
    have hr₂ : r₂.id = id := by rw [hsaved₂.id_eq, hid, Option.getD_some]
    refine Card.ext ?_ hplats₂ hcategories₂
    rw [hmenus₂, hmenus, hr, hr₂, hsame, write_write]

/-- **A plat that was saved is saved again.** -/
theorem PlatInput.save_again {i : PlatInput} {r : PlatsRequest}
    (h : i.save db = .ok (db₁, r)) :
    ∃ db₂ r₂, i.save db₁ = .ok (db₂, r₂) ∧ (db₂.card = db₁.card ↔ i.id ≠ none) := by
  obtain ⟨plat, c, hbind, -, -, hh, hsave⟩ := PlatInput.save_cases h
  have hcat := hh.categorie
  have hid := hh.id
  have hsaved := PlatRepository.save_ok hsave
  obtain ⟨c', hcat', hcheck, -, hcategorie⟩ := hsaved.row
  obtain rfl : c' = ⟨c, c⟩ := Option.some_inj.1 (hcat'.symm.trans hcat)
  -- the second time the binder finds the same categorie
  have hbind₁ : bindPlat db₁ i = .ok plat := by
    rw [← hbind, bindPlat, bindPlat, hcategorie rfl]
  obtain ⟨db₂, id₂, hsave₂⟩ : ∃ db₂ id₂, PlatRepository.save db₁ plat = .ok (db₂, id₂) := by
    refine PlatRepository.exists_save ?_ hcat ⟨rfl, Or.inl rfl⟩ ?_
      ((checkPlat_row plat r.id _ _).1 hcheck)
    · intro id hid'
      have hr : r.id = id := by rw [hsaved.id_eq, hid', Option.getD_some]
      exact (hsaved.hasPlat_iff id).2 (Or.inr hr.symm)
    · exact db₁.valid.plat_categorie _ (hsaved.row_mem hcat)
  obtain ⟨hplats, hmenus, hcategories⟩ := card_savePlat hsave hcat
  obtain ⟨hplats₂, hmenus₂, hcategories₂⟩ := card_savePlat hsave₂ hcat
  have hid₂ := (PlatRepository.save_ok hsave₂).id_eq
  obtain ⟨r₂, h₂⟩ : ∃ r₂, i.save db₁ = .ok (db₂, r₂) := by
    rw [PlatInput.save, hbind₁, ok_bind, savePlat, hsave₂]
    exact ⟨_, rfl⟩
  refine ⟨db₂, r₂, h₂, ?_, ?_⟩
  · intro hcard hnone
    rw [hid, hnone, Option.getD_none] at hid₂
    have hstored := congrFun hplats₂ id₂
    rw [write_self _ (⟨id₂, _⟩ : Write ℤ Plat), hcard, hid₂, db₁.card_platSeq] at hstored
    exact absurd hstored (by simp)
  · intro hsome
    obtain ⟨id, hid'⟩ := Option.ne_none_iff_exists'.1 hsome
    have hr : r.id = id := by rw [hsaved.id_eq, hid, hid', Option.getD_some]
    have hr₂ : id₂ = id := by rw [hid₂, hid, hid', Option.getD_some]
    refine Card.ext hmenus₂ ?_ ?_
    · rw [hplats₂, hplats, hr, hr₂, write_write]
    · rw [hcategories₂, ManagedCategorie.write?, if_pos rfl]
      rfl

theorem deleteMenu_again {req : DeleteMenuRequest} {r : MenusRequest}
    (h : deleteMenu db req = .ok (db₁, r)) :
    ∃ db₂, deleteMenu db₁ req = .ok (db₂, r) ∧ db₂.card = db₁.card := by
  obtain ⟨db', hdel, ht, -⟩ := deleteMenu_ok db req
  rw [h] at hdel
  cases hdel
  obtain ⟨db₂, hdel₂, ht₂, -⟩ := deleteMenu_ok db₁ req
  obtain ⟨hmenus, -⟩ := card_deleteMenu ht
  obtain ⟨hmenus₂, hplats₂, hcategories₂⟩ := card_deleteMenu ht₂
  refine ⟨db₂, hdel₂, Card.ext ?_ hplats₂ hcategories₂⟩
  rw [hmenus₂, hmenus, write_write]

theorem deletePlat_again {req : DeletePlatRequest} {r : PlatsRequest}
    (h : deletePlat db req = .ok (db₁, r)) :
    ∃ db₂, deletePlat db₁ req = .ok (db₂, r) ∧ db₂.card = db₁.card := by
  obtain ⟨hfree, ht, -, -, hr⟩ := deletePlat_ok h
  have hfree₁ : ∀ row ∈ db₁.tables.menuPlat, row.platId ≠ req.id := by
    rw [ht]
    exact hfree
  obtain ⟨db₂, r₂, hdel₂, -⟩ := exists_deletePlat hfree₁
  obtain ⟨-, ht₂, -, -, hr₂⟩ := deletePlat_ok hdel₂
  obtain ⟨hplats, -⟩ := card_deletePlat ht
  obtain ⟨hplats₂, hmenus₂, hcategories₂⟩ := card_deletePlat ht₂
  refine ⟨db₂, by rw [hdel₂, hr₂, hr], Card.ext hmenus₂ ?_ hcategories₂⟩
  rw [hplats₂, hplats, write_write]

end

/-! ## The same request again -/

section

variable {fw : Framework} {col : Collation} {srv srv' : Servers fw col} {db : Db}

theorem showMenus_again {req : MenusRequest} {v : View} (h : showMenus srv db req = .ok v) :
    ∃ v', showMenus srv' db req = .ok v' := by
  obtain ⟨-, -, -, hrange, -⟩ := showMenus_ok h
  rw [showMenus] at h
  obtain ⟨x, hx, -⟩ := bind_ok h
  obtain ⟨y, hy⟩ := (exists_getMenus_iff (srv'.menus db) req hrange.1 hrange.2).2
    ((exists_getMenus_iff (srv.menus db) req hrange.1 hrange.2).1 ⟨x, hx⟩)
  rw [showMenus, hy]
  exact ⟨_, rfl⟩

theorem showPlats_again {req : PlatsRequest} {v : View} (h : showPlats srv db req = .ok v) :
    ∃ v', showPlats srv' db req = .ok v' := by
  obtain ⟨-, -, -, hrange, -⟩ := showPlats_ok h
  rw [showPlats] at h
  obtain ⟨x, hx, -⟩ := bind_ok h
  obtain ⟨y, hy⟩ := (exists_getPlats_iff (srv'.plats db) req hrange.1 hrange.2).2
    ((exists_getPlats_iff (srv.plats db) req hrange.1 hrange.2).1 ⟨x, hx⟩)
  rw [showPlats, hy]
  exact ⟨_, rfl⟩

/-- The redirect by hand leads to the same request every time. -/
theorem followRedirect_again {viewName : String} {v : View}
    (h : followRedirect srv db viewName = .ok v) :
    ∃ v', followRedirect srv' db viewName = .ok v' := by
  rw [followRedirect] at h ⊢
  split at h
  · obtain ⟨req, hreq, hshow⟩ := bind_ok h
    rw [hreq, ok_bind]
    exact showMenus_again hshow
  · exact absurd h (by simp)

/-- **The second time.**  A request that was answered is answered again, and the card stays as it
is exactly when the request creates nothing. -/
theorem answer_again {r : Requete} {v : View} (h : (answer srv db r).2 = .ok v) :
    (∃ v', (answer srv' (answer srv db r).1 r).2 = .ok v') ∧
      ((answer srv' (answer srv db r).1 r).1.card = (answer srv db r).1.card ↔ ¬ r.Creates) := by
  match r with
  | .get .accueil => exact ⟨⟨_, rfl⟩, iff_of_true rfl id⟩
  | .get (.menus req) => exact ⟨showMenus_again h, iff_of_true rfl id⟩
  | .get (.plats req) => exact ⟨showPlats_again h, iff_of_true rfl id⟩
  | .get (.edit req) =>
    refine ⟨?_, iff_of_true rfl id⟩
    simp only [answer] at h ⊢
    split at h
    · exact ⟨v, h⟩
    · exact followRedirect_again h
  | .get (.platEdit req) =>
    refine ⟨?_, iff_of_true rfl id⟩
    simp only [answer] at h ⊢
    split at h
    · exact ⟨v, h⟩
    · exact showPlats_again h
  | .get (.menuDetail req) =>
    refine ⟨?_, iff_of_true rfl id⟩
    simp only [answer] at h ⊢
    split at h
    · exact ⟨v, h⟩
    · exact showMenus_again h
  | .get (.platDetail req) =>
    refine ⟨?_, iff_of_true rfl id⟩
    simp only [answer] at h ⊢
    split at h
    · exact ⟨v, h⟩
    · exact showPlats_again h
  | .get (.menuDelete req) =>
    obtain ⟨db₁, red, hdel, hdb, hshow⟩ := thenMenus_ok h
    obtain ⟨-, -, -, hrange, -⟩ := showMenus_ok hshow
    obtain ⟨db₂, hdel₂, hcard⟩ := deleteMenu_again hdel
    obtain ⟨db', hdel', -⟩ := deleteMenu_ok db req
    obtain rfl := (Prod.mk.inj (Except.ok.inj (hdel.symm.trans hdel'))).2
    simp only [answer, hdb]
    refine ⟨exists_thenMenus hdel₂ hrange fun hact => absurd hact (by simp), iff_of_true ?_ id⟩
    rw [hdel₂]
    exact hcard
  | .get (.platDelete req) =>
    obtain ⟨db₁, red, hdel, hdb, hshow⟩ := thenPlats_ok h
    obtain ⟨-, -, -, hrange, -⟩ := showPlats_ok hshow
    obtain ⟨db₂, hdel₂, hcard⟩ := deletePlat_again hdel
    obtain ⟨-, -, -, -, rfl⟩ := deletePlat_ok hdel
    simp only [answer, hdb]
    refine ⟨exists_thenPlats hdel₂ hrange fun hact => absurd hact (by simp), iff_of_true ?_ id⟩
    rw [hdel₂]
    exact hcard
  | .saveMenu req =>
    obtain ⟨db₁, red, hsave, hdb, hshow⟩ := thenMenus_ok h
    obtain ⟨-, -, -, hrange, -⟩ := showMenus_ok hshow
    obtain ⟨db₂, red₂, hsave₂, hcard⟩ := saveMenu_again hsave
    obtain ⟨⟨ids, -, hsaved⟩, -⟩ := saveMenu_ok hsave₂
    rw [saveMenu_redirect hsave] at hrange
    simp only [answer, hdb]
    refine ⟨exists_thenMenus hsave₂ ?_ fun _ => (hsaved.hasMenu_iff _).2 (Or.inr rfl), ?_⟩
    · rw [saveMenu_redirect hsave₂]
      exact hrange
    · rw [hsave₂]
      exact hcard
  | .savePlat i =>
    obtain ⟨db₁, red, hsave, hdb, hshow⟩ := thenPlats_ok h
    obtain ⟨-, -, -, hrange, -⟩ := showPlats_ok hshow
    obtain ⟨db₂, red₂, hsave₂, hcard⟩ := PlatInput.save_again hsave
    obtain ⟨hred₂, hplat⟩ := PlatInput.save_redirect hsave₂
    rw [(PlatInput.save_redirect hsave).1] at hrange
    simp only [answer, hdb]
    refine ⟨exists_thenPlats hsave₂ ?_ fun _ => hplat, ?_⟩
    · rw [hred₂]
      exact hrange
    · rw [hsave₂]
      exact hcard

/-- The store after a request was sent `n` times, each of them answered in an order of its own. -/
def sent (srvs : ℕ → Servers fw col) (db : Db) (r : Requete) : ℕ → Db
  | 0 => db
  | n + 1 => (answer (srvs n) (sent srvs db r n) r).1

/-- **What sending a request again does.**  A request that is answered with a page is answered with
one every time it is sent.  From the second time on the card stays as it is, if and only if the
request is not the form of a new menu or of a new plat; those change the card every time. -/
theorem resend_iff (srvs : ℕ → Servers fw col) (db : Db) (r : Requete)
    (h : ∃ v, (answer (srvs 0) db r).2 = .ok v) (n : ℕ) :
    (∃ v, (answer (srvs n) (sent srvs db r n) r).2 = .ok v) ∧
      ((sent srvs db r (n + 2)).card = (sent srvs db r (n + 1)).card ↔ ¬ r.Creates) := by
  have hanswered : ∃ v, (answer (srvs n) (sent srvs db r n) r).2 = .ok v := by
    induction n with
    | zero => exact h
    | succ n ih =>
      obtain ⟨v, hv⟩ := ih
      exact (answer_again hv).1
  obtain ⟨v, hv⟩ := hanswered
  exact ⟨⟨v, hv⟩, (answer_again hv).2⟩

/-- The form of a new menu, submitted twice: two menus. -/
theorem resend_carte :
    let r := Requete.saveMenu
      { menu := ⟨none, some "Brunch", some "", 15⟩, platIds := some [1, 2] }
    let srvs := fun _ : ℕ => Visit.stableServers .byName .codePoint
    (sent srvs carte r 2).card ≠ (sent srvs carte r 1).card := by
  intro r srvs
  have h : ∃ v, (answer (srvs 0) carte r).2 = .ok v := ⟨_, rfl⟩
  exact fun he => (resend_iff srvs carte r h 0).2.1 he rfl

end

end GestionMenus
