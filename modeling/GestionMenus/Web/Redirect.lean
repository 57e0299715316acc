import GestionMenus.Base.QueryString
import GestionMenus.Web.Binding
import GestionMenus.Web.MenuForm

/-!
# The redirect of `editMenu`

`GET /edit?id=m` for a menu that is not there goes back to the list of the menus, on the page, with
the size and with the keyword the client came with.  The other redirects of the controllers hand
such values to the framework as attributes, which encodes them.  This one is put together by hand:

    return "redirect:/menus?page=" + page + "&size=" + size + "&filtre=" + filtre;

The two numbers are digits and perhaps a sign, and can stand in a URL as they are.  The keyword is
any text at all.  `editMenu_redirect_iff` says which keywords arrive: those without `#`, `&`, `+`
and percent escapes, in which the view finds no template variable either.

`followed` is the way from the name of the view to the request the client makes next.  The view
fails on a template variable it has no value for; the model of `editMenu` is still empty at this
point, so that is every template variable.

`Framework` is what is left to the framework: the reading of a malformed escape, and the conversion
of the parameters that arrive to the arguments of `listMenus`.  `Framework.byName` is one that reads
them by their names.
-/

set_option autoImplicit false

namespace GestionMenus

open QueryString

/-! ## Template variables -/

namespace RedirectView

/-- After a `{`: at least one character other than `/`, and then a `}` before any `/`. -/
def closes : List Char → Bool
  | [] => false
  | c :: s => c ≠ '/' && (s.takeWhile (· ≠ '/')).contains '}'

/-- Does the view find a template variable in a URL? -/
def hasVariable : List Char → Bool
  | [] => false
  | c :: s => (c = '{' && closes s) || hasVariable s

/-- A template variable: a name without `/` in braces. -/
def Variable (s : List Char) : Prop :=
  ∃ name, name ≠ [] ∧ '/' ∉ name ∧ '{' :: (name ++ ['}']) <:+: s

theorem closes_iff (s : List Char) :
    closes s = true ↔ ∃ name, name ≠ [] ∧ '/' ∉ name ∧ name ++ ['}'] <+: s := by
  cases s with
  | nil => simp [closes]
  | cons c s =>
    rw [closes, Bool.and_eq_true, decide_eq_true_eq, List.contains_iff_mem]
    refine ⟨?_, ?_⟩
    · rintro ⟨hc, hmem⟩
      obtain ⟨front, back, hsplit⟩ := List.append_of_mem hmem
      have hprefix := s.takeWhile_prefix (· ≠ '/')
      have hfront : '/' ∉ front := by
        intro h
        have hslash : '/' ∈ s.takeWhile (· ≠ '/') := by
          rw [hsplit]
          exact List.mem_append_left _ h
        simpa using List.mem_takeWhile_imp hslash
      refine ⟨c :: front, List.cons_ne_nil c front, ?_, ?_⟩
      · rw [List.mem_cons, not_or]
        exact ⟨fun h => hc h.symm, hfront⟩
      · rw [List.cons_append, List.cons_prefix_cons]
        refine ⟨rfl, List.IsPrefix.trans ?_ hprefix⟩
        rw [hsplit]
        exact ⟨back, by simp⟩
    · rintro ⟨name, hne, hslash, hname⟩
      match name, hne with
      | d :: front, _ =>
        rw [List.cons_append, List.cons_prefix_cons] at hname
        obtain ⟨rfl, rest, rfl⟩ := hname
        rw [List.mem_cons, not_or] at hslash
        refine ⟨fun h => hslash.1 h.symm, ?_⟩
        rw [List.append_assoc, List.takeWhile_append_of_pos (forall_mem_ne hslash.2),
          List.singleton_append, List.takeWhile_cons_of_pos (by decide)]
        exact List.mem_append_right _ List.mem_cons_self

theorem hasVariable_iff (s : List Char) : hasVariable s = true ↔ Variable s := by
  induction s with
  | nil => simp [hasVariable, Variable]
  | cons c s ih =>
    rw [hasVariable, Bool.or_eq_true, Bool.and_eq_true, decide_eq_true_eq, ih, closes_iff]
    simp only [Variable, List.infix_cons_iff, List.cons_prefix_cons]
    refine ⟨?_, ?_⟩
    · rintro (⟨rfl, name, hne, hslash, hname⟩ | ⟨name, hne, hslash, hname⟩)
      · exact ⟨name, hne, hslash, Or.inl ⟨rfl, hname⟩⟩
      · exact ⟨name, hne, hslash, Or.inr hname⟩
    · rintro ⟨name, hne, hslash, ⟨rfl, hname⟩ | hname⟩
      · exact Or.inl ⟨rfl, name, hne, hslash, hname⟩
      · exact Or.inr ⟨name, hne, hslash, hname⟩

theorem hasVariable_append {s : List Char} (h : '{' ∉ s) (t : List Char) :
    hasVariable (s ++ t) = hasVariable t := by
  induction s with
  | nil => rfl
  | cons c s ih =>
    rw [List.mem_cons, not_or] at h
    have hc : decide (c = '{') = false := decide_eq_false fun hc => h.1 hc.symm
    rw [List.cons_append, hasVariable, hc, Bool.false_and, Bool.false_or, ih h.2]

/-- Where a view name of the form `redirect:` and a URL leads.  Nothing in the URL is encoded. -/
def createTargetUrl (viewName : String) : Option (List Char) :=
  let url := viewName.toList.drop "redirect:".length
  if hasVariable url then none else some url

end RedirectView

/-! ## The parameters that arrive -/

/-- The request a client makes next. -/
def followed (m : Malformed) : EditResponse → Option Target
  | .menuForm _ => none
  | .redirect viewName => (RedirectView.createTargetUrl viewName).bind (QueryString.read m)

/-- The parameters the redirect is meant to hand on. -/
def redirectParams (page size : ℤ) (filtre : String) : List (List Char × List Char) :=
  [("page".toList, (toString page).toList), ("size".toList, (toString size).toList),
    ("filtre".toList, filtre.toList)]

/-- The list of the menus, with the page, the size and the keyword of a request. -/
def menusTarget (page size : ℤ) (filtre : String) : Target :=
  ⟨"/menus".toList, (redirectParams page size filtre).map encoded⟩

theorem isDigit_of_mem_toString {n : ℤ} {c : Char} (h : c ∈ (toString n).toList) :
    c = '-' ∨ c.isDigit := by
  rw [Int.toString_eq_repr, Int.repr_eq_if] at h
  split_ifs at h
  · rw [Nat.toList_repr] at h
    exact Or.inr (Nat.isDigit_of_mem_toDigits (by decide) (by decide) h)
  · rw [String.toList_append, Nat.toList_repr, List.mem_append] at h
    rcases h with h | h
    · exact Or.inl (by simpa using h)
    · exact Or.inr (Nat.isDigit_of_mem_toDigits (by decide) (by decide) h)

theorem not_mem_toString (n : ℤ) {c : Char} (hminus : c ≠ '-') (hdigit : c.isDigit = false) :
    c ∉ (toString n).toList := by
  intro h
  rcases isDigit_of_mem_toString h with h | h
  · exact hminus h
  · rw [hdigit] at h
    exact Bool.false_ne_true h

/-- A number can stand in a URL as it is. -/
theorem safe_toString (m : Malformed) (n : ℤ) : Safe m (toString n).toList := by
  have hspecial : ∀ c ∈ special, c ≠ '-' ∧ c.isDigit = false := by
    simp [special, Char.isDigit]
  refine .of_not_special ?_
  intro c hc
  exact not_mem_toString n (hspecial c hc).1 (hspecial c hc).2

theorem name_redirectParams (m : Malformed) (page size : ℤ) (filtre : String) :
    ∀ p ∈ redirectParams page size filtre, Name m p.1 := by
  have hpage : Name m "page".toList := ⟨.of_not_special (by simp [special]), by simp⟩
  have hsize : Name m "size".toList := ⟨.of_not_special (by simp [special]), by simp⟩
  have hfiltre : Name m "filtre".toList := ⟨.of_not_special (by simp [special]), by simp⟩
  simp only [redirectParams, List.forall_mem_cons]
  exact ⟨hpage, hsize, hfiltre, fun p hp => absurd hp List.not_mem_nil⟩

/-- The URL of the redirect, piece by piece. -/
theorem redirect_url (page size : ℤ) (filtre : String) :
    ("redirect:/menus?page=" ++ toString page ++ "&size=" ++ toString size ++ "&filtre=" ++
        filtre).toList.drop "redirect:".length =
      "/menus".toList ++ '?' :: build (redirectParams page size filtre) := by
  have hlen : "redirect:".length = 9 := by decide
  simp [redirectParams, build, sep, hlen]

/-- The only braces are those of the keyword. -/
theorem hasVariable_redirect_url (page size : ℤ) (filtre : String) :
    RedirectView.hasVariable ("/menus".toList ++ '?' :: build (redirectParams page size filtre)) =
      RedirectView.hasVariable filtre.toList := by
  have hpage : '{' ∉ (toString page).toList := not_mem_toString page (by decide) (by decide)
  have hsize : '{' ∉ (toString size).toList := not_mem_toString size (by decide) (by decide)
  have hsplit : "/menus".toList ++ '?' :: build (redirectParams page size filtre) =
      ("/menus?page=".toList ++ (toString page).toList ++ "&size=".toList ++
        (toString size).toList ++ "&filtre=".toList) ++ filtre.toList := by
    simp [redirectParams, build, sep]
  rw [hsplit]
  refine RedirectView.hasVariable_append ?_ filtre.toList
  simpa using And.intro hpage hsize

/-- Which keywords the redirect hands on. -/
theorem followed_redirect_iff (m : Malformed) (page size : ℤ) (filtre : String) :
    followed m (.redirect ("redirect:/menus?page=" ++ toString page ++ "&size=" ++
        toString size ++ "&filtre=" ++ filtre)) = some (menusTarget page size filtre) ↔
      Safe m filtre.toList ∧ ¬ RedirectView.Variable filtre.toList := by
  have hread : QueryString.read m
      ("/menus".toList ++ '?' :: build (redirectParams page size filtre)) =
        some (menusTarget page size filtre) ↔ Safe m filtre.toList := by
    refine (read_build_iff (by decide) (by decide) (redirectParams page size filtre)
      (name_redirectParams m page size filtre)).trans ?_
    simp only [redirectParams, List.forall_mem_cons]
    exact ⟨fun h => h.2.2.1, fun h => ⟨safe_toString m page, safe_toString m size, h,
      fun p hp => absurd hp List.not_mem_nil⟩⟩
  have hvariable := hasVariable_redirect_url page size filtre
  rw [followed, RedirectView.createTargetUrl, redirect_url, ← RedirectView.hasVariable_iff,
    ← hread, ← hvariable]
  -- the URL in pieces is all that is left of the view name
  generalize "/menus".toList ++ '?' :: build (redirectParams page size filtre) = url
  cases RedirectView.hasVariable url <;> simp

/-- **The redirect of `editMenu` keeps its parameters if and only if the keyword can stand in a URL
as it is.**  The client is sent to the list of the menus with the page, the size and the keyword it
came with, and with nothing else, exactly when the keyword holds no `#`, no `&` and no `+`, no
percent escape (no `%` at all for a reader that rejects a malformed one) and no template variable;
with one the view fails. -/
theorem editMenu_redirect_iff (m : Malformed) (col : Collation) (db : Db) (req : EditRequest)
    (hid : req.id ≠ 0) (hnone : Sql.lookup Menu.id req.id db.tables.menu = none) :
    followed m (editMenu col db req) = some (menusTarget req.page req.size req.filtre) ↔
      Safe m req.filtre.toList ∧ ¬ RedirectView.Variable req.filtre.toList := by
  rw [editMenu, if_pos hid, hnone]
  exact followed_redirect_iff m req.page req.size req.filtre

/-- An ordinary keyword arrives. -/
theorem editMenu_redirect_carte :
    Sql.lookup Menu.id 9 carte.tables.menu = none ∧
      followed .reject (editMenu .codePoint carte { id := 9, page := 2, filtre := "soupe" }) =
        some (menusTarget 2 10 "soupe") := by
  have hnone : Sql.lookup Menu.id 9 carte.tables.menu = none := by decide
  refine ⟨hnone, (editMenu_redirect_iff .reject .codePoint carte
    { id := 9, page := 2, filtre := "soupe" } (by decide) hnone).2 ⟨?_, ?_⟩⟩
  · exact .of_not_special (by simp [special])
  · rw [← RedirectView.hasVariable_iff]
    decide

/-- An `&` in the keyword ends it, and what follows is a parameter of its own. -/
theorem editMenu_redirect_not_kept :
    ¬ ∃ m, ∀ (col : Collation) (db : Db) (req : EditRequest), req.id ≠ 0 →
      Sql.lookup Menu.id req.id db.tables.menu = none →
        followed m (editMenu col db req) =
          some (menusTarget req.page req.size req.filtre) := by
  rintro ⟨m, h⟩
  have hkept := h .codePoint carte { id := 9, filtre := "sel&poivre" } (by decide) (by decide)
  have hnone : Sql.lookup Menu.id 9 carte.tables.menu = none := by decide
  rw [editMenu, if_pos (by decide), hnone] at hkept
  exact ((followed_redirect_iff m 0 10 "sel&poivre").1 hkept).1.amp (by decide)

/-! ## The arguments of `listMenus` -/

/-- How the framework reads a URL, and the arguments of `listMenus` it gets from the parameters of a
request.  The two numbers and the text of an ordinary redirect arrive as they were. -/
structure Framework where
  malformed : Malformed
  arguments : Target → Except WebError MenusRequest
  arguments_menusTarget : ∀ (page size : Int32) (filtre : String),
    arguments (menusTarget page.toInt size.toInt filtre) =
      .ok { page := page.toInt, size := size.toInt, filtre := filtre }

namespace Framework

/-- The text of a parameter. -/
def text (t : Target) (name : String) : Option String := do
  let p ← t.params.find? fun p => p.1 = utf8 name.toList
  let cs ← p.2.toByteArray.utf8Decode?
  return String.ofList cs.toList

/-- An `int` parameter in decimal digits. -/
def int (t : Target) (name : String) (defaultValue : ℤ) : Except WebError ℤ :=
  match text t name with
  | none => .ok defaultValue
  | some s =>
    match Conversions.ofDecimal.toInt [s] with
    | some n => .ok n.toInt
    | none => .error (.binding name)

/-- The page, the size and the keyword, each by its name. -/
def named (t : Target) : Except WebError MenusRequest := do
  let page ← int t "page" 0
  let size ← int t "size" 10
  return { page := page, size := size, filtre := (text t "filtre").getD "" }

theorem text_eq {t : Target} {name s : String}
    (h : t.params.find? (fun p => p.1 = utf8 name.toList) =
      some (utf8 name.toList, utf8 s.toList)) : text t name = some s := by
  have hdecode : (utf8 s.toList).toByteArray.utf8Decode? = some s.toList.toArray :=
    List.utf8Decode?_utf8Encode
  simp [text, h, hdecode]

theorem int_eq {t : Target} {name : String} {n : Int32} {defaultValue : ℤ}
    (h : text t name = some (toString n.toInt)) : int t name defaultValue = .ok n.toInt := by
  have hint : Conversions.ofDecimal.toInt [toString n.toInt] = some n := by
    rw [Conversions.ofDecimal_readsForm.toInt, if_pos ⟨n.le_toInt, n.toInt_lt⟩, Int32.ofInt_toInt]
  simp only [int, h, hint]

theorem named_menusTarget (page size : Int32) (filtre : String) :
    named (menusTarget page.toInt size.toInt filtre) =
      .ok { page := page.toInt, size := size.toInt, filtre := filtre } := by
  have hpage : text (menusTarget page.toInt size.toInt filtre) "page" =
      some (toString page.toInt) := text_eq rfl
  have hsize : text (menusTarget page.toInt size.toInt filtre) "size" =
      some (toString size.toInt) := text_eq rfl
  have hfiltre : text (menusTarget page.toInt size.toInt filtre) "filtre" = some filtre :=
    text_eq rfl
  rw [named, int_eq hpage, int_eq hsize, hfiltre]
  rfl

/-- A framework that knows no criteria but the keyword. -/
def byName : Framework := ⟨.keep, named, named_menusTarget⟩

end Framework

end GestionMenus
