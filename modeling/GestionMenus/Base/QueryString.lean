import Mathlib.Data.List.Basic
import Mathlib.Data.List.Infix
import Mathlib.Data.List.TakeWhile

/-!
# Query strings

How the reader of a URL takes it apart: everything from the first `#` on is cut off, the path ends
at the first `?`, the rest is split at every `&`, each piece at its first `=`, and then `+` is a
space and `%` with two hexadecimal digits is a byte.  Values are sequences of bytes; a character
that is written out stands for its UTF-8 encoding.

* `decode` reads a name or a value, `params` a query and `read` a URL.  Readers differ in what they
  do with a `%` that no two digits follow, and `Malformed` is that choice.
* `build` puts names and values together without encoding anything.
* `decode_eq_utf8_iff` says which texts are read as they are written, and `read_build_iff` that a
  URL put together by hand is read back as it was meant if and only if every value in it is `Safe`.

What makes the last one an equivalence is a count of bytes.  Nothing a reader does makes a value
longer: a delimiter inside a value cuts it short, and an escape loses two bytes.
-/

set_option autoImplicit false

namespace QueryString

/-- What a reader does with a `%` that no two hexadecimal digits follow. -/
inductive Malformed where
  | keep
  | reject
  deriving DecidableEq, Repr

/-- The bytes of a text. -/
def utf8 (s : List Char) : List UInt8 := s.flatMap String.utf8EncodeChar

@[simp] theorem utf8_cons (c : Char) (s : List Char) :
    utf8 (c :: s) = String.utf8EncodeChar c ++ utf8 s := rfl

@[simp] theorem utf8_append (s t : List Char) : utf8 (s ++ t) = utf8 s ++ utf8 t :=
  List.flatMap_append

theorem length_utf8EncodeChar_pos (c : Char) : 0 < (String.utf8EncodeChar c).length :=
  List.length_pos_iff.2 String.utf8EncodeChar_ne_nil

/-- A proper beginning of a text has fewer bytes. -/
theorem eq_of_prefix_of_length_le {s t : List Char} (h : s <+: t)
    (hlen : (utf8 t).length ≤ (utf8 s).length) : s = t := by
  obtain ⟨r, rfl⟩ := h
  cases r with
  | nil => rw [List.append_nil]
  | cons c r =>
    have hc := length_utf8EncodeChar_pos c
    simp only [utf8_append, utf8_cons, List.length_append] at hlen
    omega

/-! ## Escapes -/

/-- The value of a hexadecimal digit. -/
def hexValue (c : Char) : Option ℕ :=
  if '0' ≤ c ∧ c ≤ '9' then some (c.toNat - '0'.toNat)
  else if 'a' ≤ c ∧ c ≤ 'f' then some (c.toNat - 'a'.toNat + 10)
  else if 'A' ≤ c ∧ c ≤ 'F' then some (c.toNat - 'A'.toNat + 10)
  else none

/-- The byte two hexadecimal digits at the beginning of a text spell. -/
def escape : List Char → Option UInt8
  | a :: b :: _ =>
    match hexValue a, hexValue b with
    | some x, some y => some (UInt8.ofNat (16 * x + y))
    | _, _ => none
  | _ => none

theorem length_of_escape {t : List Char} {byte : UInt8} (h : escape t = some byte) :
    2 ≤ t.length := by
  match t, h with
  | _ :: _ :: _, _ => simp

/-- The bytes a character stands for, before the text `t`, and how much of `t` it takes up. -/
def readChar (m : Malformed) (c : Char) (t : List Char) : Option (List UInt8 × ℕ) :=
  if c = '+' then some ([0x20], 0)
  else if c = '%' then
    match escape t, m with
    | some byte, _ => some ([byte], 2)
    | none, .reject => none
    | none, .keep => some (String.utf8EncodeChar c, 0)
  else some (String.utf8EncodeChar c, 0)

/-- What a text stands for, when its first `skip` characters have been read already. -/
def decodeFrom (m : Malformed) : ℕ → List Char → Option (List UInt8)
  | _, [] => some []
  | skip + 1, _ :: t => decodeFrom m skip t
  | 0, c :: t =>
    match readChar m c t with
    | none => none
    | some r => (decodeFrom m r.2 t).map (r.1 ++ ·)

/-- What a name or a value stands for. -/
def decode (m : Malformed) (s : List Char) : Option (List UInt8) := decodeFrom m 0 s

/-- A percent escape: a `%` and two hexadecimal digits. -/
def HasEscape (s : List Char) : Prop := ∃ t, '%' :: t <:+ s ∧ (escape t).isSome

/-- A text that is read as it is written. -/
structure Plain (m : Malformed) (s : List Char) : Prop where
  plus : '+' ∉ s
  percent : match m with
    | .keep => ¬ HasEscape s
    | .reject => '%' ∉ s

/-- A character that is read as it is written. -/
theorem readChar_eq_iff (m : Malformed) (c : Char) (t : List Char) :
    readChar m c t = some (String.utf8EncodeChar c, 0) ↔
      c ≠ '+' ∧ (c = '%' → m = .keep ∧ escape t = none) := by
  unfold readChar
  split_ifs with hplus hpercent
  · subst hplus
    exact ⟨fun h => absurd h (by decide), fun h => absurd rfl h.1⟩
  · subst hpercent
    cases escape t with
    | some byte => simp
    | none => cases m <;> simp [hplus]
  · exact ⟨fun _ => ⟨hplus, fun h => absurd h hpercent⟩, fun _ => rfl⟩

/-- Any other character changes what is read, or takes up what follows it. -/
theorem readChar_cases {m : Malformed} {c : Char} {t : List Char} {r : List UInt8 × ℕ}
    (h : readChar m c t = some r) :
    r = (String.utf8EncodeChar c, 0) ∨ r = ([0x20], 0) ∧ c = '+' ∨
      ∃ byte, r = ([byte], 2) ∧ 2 ≤ t.length := by
  unfold readChar at h
  split_ifs at h with hplus hpercent
  · exact Or.inr (Or.inl ⟨(Option.some_inj.1 h).symm, hplus⟩)
  · split at h
    · rename_i byte he
      exact Or.inr (Or.inr ⟨byte, (Option.some_inj.1 h).symm, length_of_escape he⟩)
    · exact absurd h (by simp)
    · exact Or.inl (Option.some_inj.1 h).symm
  · exact Or.inl (Option.some_inj.1 h).symm

theorem decodeFrom_zero_cons {m : Malformed} {c : Char} {t : List Char} {bytes : List UInt8}
    (h : decodeFrom m 0 (c :: t) = some bytes) :
    ∃ r rest, readChar m c t = some r ∧ decodeFrom m r.2 t = some rest ∧ bytes = r.1 ++ rest := by
  rw [decodeFrom] at h
  split at h
  · exact absurd h (by simp)
  · rename_i r hr
    obtain ⟨rest, hrest, rfl⟩ := Option.map_eq_some_iff.1 h
    exact ⟨r, rest, hr, hrest, rfl⟩

theorem length_utf8_drop_lt {t : List Char} (h : 2 ≤ t.length) :
    (utf8 (t.drop 2)).length < (utf8 t).length := by
  match t, h with
  | a :: b :: t, _ =>
    have ha := length_utf8EncodeChar_pos a
    simp only [List.drop_succ_cons, List.drop_zero, utf8_cons, List.length_append]
    omega

/-- **Nothing a reader does makes a value longer.** -/
theorem length_decodeFrom_le {m : Malformed} {skip : ℕ} {s : List Char} {bytes : List UInt8}
    (h : decodeFrom m skip s = some bytes) : bytes.length ≤ (utf8 (s.drop skip)).length := by
  induction s generalizing skip bytes with
  | nil =>
    rw [decodeFrom, Option.some_inj] at h
    simp [← h]
  | cons c t ih =>
    cases skip with
    | succ skip =>
      rw [decodeFrom] at h
      exact ih h
    | zero =>
      obtain ⟨r, rest, hr, hrest, rfl⟩ := decodeFrom_zero_cons h
      have hpos := length_utf8EncodeChar_pos c
      have hle := ih hrest
      rw [List.drop_zero, utf8_cons, List.length_append, List.length_append]
      obtain rfl | ⟨rfl, -⟩ | ⟨byte, rfl, htwo⟩ := readChar_cases hr
      · simp only [List.drop_zero] at hle ⊢
        omega
      · simp only [List.drop_zero, List.length_singleton] at hle ⊢
        omega
      · have hlt := length_utf8_drop_lt htwo
        simp only [List.length_singleton] at hle ⊢
        omega

theorem length_decode_le {m : Malformed} {s : List Char} {bytes : List UInt8}
    (h : decode m s = some bytes) : bytes.length ≤ (utf8 s).length :=
  length_decodeFrom_le h

theorem hasEscape_cons_iff (c : Char) (t : List Char) :
    HasEscape (c :: t) ↔ c = '%' ∧ (escape t).isSome ∨ HasEscape t := by
  simp only [HasEscape, List.suffix_cons_iff, List.cons.injEq, or_and_right, exists_or]
  refine or_congr ⟨?_, ?_⟩ Iff.rfl
  · rintro ⟨t', ⟨hc, rfl⟩, he⟩
    exact ⟨hc.symm, he⟩
  · rintro ⟨rfl, he⟩
    exact ⟨t, ⟨rfl, rfl⟩, he⟩

theorem plain_nil (m : Malformed) : Plain m [] := by
  refine ⟨by simp, ?_⟩
  cases m with
  | keep => simp [HasEscape]
  | reject => simp

theorem Plain.of_not_mem {m : Malformed} {s : List Char} (hplus : '+' ∉ s) (hpercent : '%' ∉ s) :
    Plain m s := by
  refine ⟨hplus, ?_⟩
  cases m with
  | keep =>
    rintro ⟨t, hsuffix, -⟩
    exact hpercent (hsuffix.subset List.mem_cons_self)
  | reject => exact hpercent

theorem plain_cons_iff (m : Malformed) (c : Char) (t : List Char) :
    Plain m (c :: t) ↔ readChar m c t = some (String.utf8EncodeChar c, 0) ∧ Plain m t := by
  rw [readChar_eq_iff]
  cases m with
  | keep =>
    have hesc : (c = '%' → Malformed.keep = .keep ∧ escape t = none) ↔
        ¬ (c = '%' ∧ (escape t).isSome) := by
      cases escape t <;> simp
    rw [hesc]
    refine ⟨?_, ?_⟩
    · rintro ⟨hplus, hpercent⟩
      have hpercent' : ¬ HasEscape (c :: t) := hpercent
      rw [hasEscape_cons_iff, not_or] at hpercent'
      exact ⟨⟨fun h => hplus (h ▸ List.mem_cons_self), hpercent'.1⟩,
        fun h => hplus (List.mem_cons_of_mem _ h), hpercent'.2⟩
    · rintro ⟨⟨hc, hesc⟩, hplus, hpercent⟩
      refine ⟨fun h => (List.mem_cons.1 h).elim (fun h => hc h.symm) hplus, ?_⟩
      show ¬ HasEscape (c :: t)
      rw [hasEscape_cons_iff, not_or]
      exact ⟨hesc, hpercent⟩
  | reject =>
    refine ⟨?_, ?_⟩
    · rintro ⟨hplus, hpercent⟩
      have hpercent' : '%' ∉ c :: t := hpercent
      rw [List.mem_cons, not_or] at hplus hpercent'
      exact ⟨⟨fun h => hplus.1 h.symm, fun h => absurd h.symm hpercent'.1⟩, hplus.2, hpercent'.2⟩
    · rintro ⟨⟨hc, hesc⟩, hplus, hpercent⟩
      refine ⟨fun h => (List.mem_cons.1 h).elim (fun h => hc h.symm) hplus, ?_⟩
      show '%' ∉ c :: t
      intro h
      rcases List.mem_cons.1 h with h | h
      · exact absurd (hesc h.symm).1 (by simp)
      · exact hpercent h

/-- **Which texts are read as they are written.** -/
theorem decode_eq_utf8_iff (m : Malformed) (s : List Char) :
    decode m s = some (utf8 s) ↔ Plain m s := by
  induction s with
  | nil => exact ⟨fun _ => plain_nil m, fun _ => rfl⟩
  | cons c t ih =>
    rw [plain_cons_iff, ← ih]
    refine ⟨?_, ?_⟩
    · intro h
      obtain ⟨r, rest, hr, hrest, heq⟩ := decodeFrom_zero_cons h
      rw [utf8_cons] at heq
      obtain rfl | ⟨rfl, rfl⟩ | ⟨byte, rfl, htwo⟩ := readChar_cases hr
      · exact ⟨hr, by rw [List.append_cancel_left heq]; exact hrest⟩
      · exact absurd (List.cons.inj heq).1 (by decide)
      · -- two bytes are missing
        have hle := length_decodeFrom_le hrest
        have hlt := length_utf8_drop_lt htwo
        have hpos := length_utf8EncodeChar_pos c
        have hlen := congrArg List.length heq
        simp only [List.length_append, List.length_singleton] at hlen hle
        omega
    · rintro ⟨hr, hrest⟩
      rw [decode, decodeFrom, hr]
      exact Option.map_eq_some_iff.2 ⟨_, hrest, rfl⟩

/-- A value that was cut short is never read as the whole. -/
theorem decode_takeWhile_iff (m : Malformed) (p : Char → Bool) (v : List Char) :
    decode m (v.takeWhile p) = some (utf8 v) ↔ (∀ c ∈ v, p c) ∧ Plain m v := by
  refine ⟨?_, ?_⟩
  · intro h
    have hwhole : v.takeWhile p = v :=
      eq_of_prefix_of_length_le (v.takeWhile_prefix p) (length_decode_le h)
    rw [hwhole, decode_eq_utf8_iff] at h
    exact ⟨List.takeWhile_eq_self_iff.1 hwhole, h⟩
  · rintro ⟨hp, hplain⟩
    rw [List.takeWhile_eq_self_iff.2 hp]
    exact (decode_eq_utf8_iff m v).2 hplain

/-! ## Queries -/

/-- The pieces of a query: what stands between the `&`s, where there is anything. -/
def pieces (query : List Char) : List (List Char) := (query.splitOn '&').filter (· ≠ [])

/-- The name and the value of a piece.  The name ends at the first `=`. -/
def param (m : Malformed) (piece : List Char) : Option (List UInt8 × List UInt8) := do
  let name ← decode m (piece.takeWhile (· ≠ '='))
  let value ← decode m ((piece.dropWhile (· ≠ '=')).drop 1)
  return (name, value)

/-- The parameters of a query, in the order they are written in. -/
def params (m : Malformed) (query : List Char) : Option (List (List UInt8 × List UInt8)) :=
  (pieces query).mapM (param m)

/-- What a request is for. -/
structure Target where
  path : List Char
  params : List (List UInt8 × List UInt8)
  deriving DecidableEq, Repr

/-- What a URL without a scheme and a host is a request for. -/
def read (m : Malformed) (url : List Char) : Option Target :=
  let sent := url.takeWhile (· ≠ '#')
  (params m ((sent.dropWhile (· ≠ '?')).drop 1)).map (Target.mk (sent.takeWhile (· ≠ '?')))

/-- What follows a value: nothing, or an `&` and the next name. -/
def sep (query : List Char) : List Char := if query = [] then [] else '&' :: query

/-- A query put together by hand, with nothing encoded. -/
def build : List (List Char × List Char) → List Char
  | [] => []
  | p :: ps => p.1 ++ '=' :: (p.2 ++ sep (build ps))

/-- A value that can stand in a URL as it is. -/
structure Safe (m : Malformed) (s : List Char) : Prop where
  hash : '#' ∉ s
  amp : '&' ∉ s
  plain : Plain m s

/-- A name that can stand in a URL as it is. -/
structure Name (m : Malformed) (s : List Char) : Prop extends Safe m s where
  eq : '=' ∉ s

/-- The characters a value is safe without, whatever the reader. -/
def special : List Char := ['#', '&', '+', '%']

theorem Safe.of_not_special {m : Malformed} {s : List Char} (h : ∀ c ∈ special, c ∉ s) :
    Safe m s where
  hash := h '#' (by simp [special])
  amp := h '&' (by simp [special])
  plain := .of_not_mem (h '+' (by simp [special])) (h '%' (by simp [special]))

/-- The bytes of a parameter. -/
def encoded (p : List Char × List Char) : List UInt8 × List UInt8 := (utf8 p.1, utf8 p.2)

theorem forall_mem_ne {c : Char} {s : List Char} (h : c ∉ s) :
    ∀ x ∈ s, decide (x ≠ c) = true := by
  intro x hx
  simpa using ne_of_mem_of_not_mem hx h

theorem pieces_eq (query : List Char) (h : query.takeWhile (· ≠ '&') ≠ []) :
    pieces query =
      query.takeWhile (· ≠ '&') :: pieces ((query.dropWhile (· ≠ '&')).drop 1) := by
  have hmem : '&' ∉ query.takeWhile (· ≠ '&') := by
    intro h
    simpa using List.mem_takeWhile_imp h
  have hsplit : query.takeWhile (· ≠ '&') ++ query.dropWhile (· ≠ '&') = query :=
    List.takeWhile_append_dropWhile
  cases hdrop : query.dropWhile (· ≠ '&') with
  | nil =>
    rw [hdrop, List.append_nil] at hsplit
    rw [hsplit] at hmem h ⊢
    simp [pieces, List.splitOn_eq_singleton hmem, h]
  | cons c rest =>
    have hc : c = '&' := by
      have hnot := List.head?_dropWhile_not (fun c => decide (c ≠ '&')) query
      rw [hdrop] at hnot
      simpa using hnot
    subst hc
    rw [hdrop] at hsplit
    have hpieces : query.splitOn '&' = query.takeWhile (· ≠ '&') :: rest.splitOn '&' := by
      conv_lhs => rw [← hsplit]
      exact List.splitOn_append_cons_self_of_not_mem hmem rest
    rw [pieces, hpieces, List.filter_cons_of_pos (by simpa using h)]
    rfl

/-- A piece that begins with a name. -/
theorem param_name {m : Malformed} {name : List Char} (hname : Name m name) (v : List Char) :
    param m (name ++ '=' :: v) = (decode m v).map fun value => (utf8 name, value) := by
  have heq : ∀ c ∈ name, decide (c ≠ '=') = true := forall_mem_ne hname.eq
  rw [param, List.takeWhile_append_of_pos heq, List.dropWhile_append_of_pos heq,
    List.takeWhile_cons_of_neg (by decide), List.dropWhile_cons_of_neg (by decide),
    List.append_nil, (decode_eq_utf8_iff m name).2 hname.plain, List.drop_one, List.tail_cons]
  cases decode m v <;> rfl

/-- A query that begins with a name: its value ends at the first `&`. -/
theorem params_name {m : Malformed} {name : List Char} (hname : Name m name) (rest : List Char) :
    params m (name ++ '=' :: rest) =
      (decode m (rest.takeWhile (· ≠ '&'))).bind fun value =>
        (params m ((rest.dropWhile (· ≠ '&')).drop 1)).map ((utf8 name, value) :: ·) := by
  have hamp : ∀ c ∈ name, decide (c ≠ '&') = true := forall_mem_ne hname.amp
  have htake : (name ++ '=' :: rest).takeWhile (· ≠ '&') =
      name ++ '=' :: rest.takeWhile (· ≠ '&') := by
    rw [List.takeWhile_append_of_pos hamp, List.takeWhile_cons_of_pos (by decide)]
  have hdrop : (name ++ '=' :: rest).dropWhile (· ≠ '&') = rest.dropWhile (· ≠ '&') := by
    rw [List.dropWhile_append_of_pos hamp, List.dropWhile_cons_of_pos (by decide)]
  rw [params, pieces_eq _ (by rw [htake]; simp), htake, hdrop, List.mapM_cons, param_name hname,
    params]
  cases decode m (rest.takeWhile (· ≠ '&')) with
  | none => rfl
  | some value =>
    cases (pieces ((rest.dropWhile (· ≠ '&')).drop 1)).mapM (param m) <;> rfl

theorem takeWhile_value (p : Char → Bool) (hp : p '&' = false) (v query : List Char) :
    (v ++ sep query).takeWhile p = v.takeWhile p := by
  have hsep : (sep query).takeWhile p = [] := by
    rw [sep]
    split_ifs
    · rfl
    · exact List.takeWhile_cons_of_neg (by simp [hp])
  rw [List.takeWhile_append]
  split_ifs with h
  · rw [hsep, List.append_nil, (v.takeWhile_prefix p).eq_of_length h]
  · rfl

/-- What is left of the query after a value that has been read whole. -/
theorem rest_value {v : List Char} (hhash : '#' ∉ v) (hamp : '&' ∉ v) (query : List Char) :
    (((v ++ sep query).takeWhile (· ≠ '#')).dropWhile (· ≠ '&')).drop 1 =
      query.takeWhile (· ≠ '#') := by
  have hhash' : ∀ c ∈ v, decide (c ≠ '#') = true := forall_mem_ne hhash
  have hamp' : ∀ c ∈ v, decide (c ≠ '&') = true := forall_mem_ne hamp
  rw [List.takeWhile_append_of_pos hhash', List.dropWhile_append_of_pos hamp', sep]
  split_ifs with h
  · rw [h]
    rfl
  · rw [List.takeWhile_cons_of_pos (by decide), List.dropWhile_cons_of_neg (by decide)]
    rfl

/-- One parameter of a query that was put together by hand. -/
theorem params_build_cons_iff {m : Malformed} {name : List Char} (hname : Name m name)
    (v query : List Char) (more : List (List UInt8 × List UInt8)) :
    params m ((name ++ '=' :: (v ++ sep query)).takeWhile (· ≠ '#')) =
        some (encoded (name, v) :: more) ↔
      Safe m v ∧ params m (query.takeWhile (· ≠ '#')) = some more := by
  have hhash : ∀ c ∈ name, decide (c ≠ '#') = true := forall_mem_ne hname.hash
  have hcut : ((v ++ sep query).takeWhile (· ≠ '#')).takeWhile (· ≠ '&') =
      v.takeWhile fun c => decide (c ≠ '&' ∧ c ≠ '#') := by
    rw [List.takeWhile_takeWhile]
    simp only [decide_eq_true_eq]
    exact takeWhile_value _ (by decide) v query
  have hvalue : decode m (v.takeWhile fun c => decide (c ≠ '&' ∧ c ≠ '#')) = some (utf8 v) ↔
      Safe m v := by
    rw [decode_takeWhile_iff]
    refine ⟨?_, ?_⟩
    · rintro ⟨hclean, hplain⟩
      have hne : ∀ c ∈ v, c ≠ '&' ∧ c ≠ '#' := fun c hc => of_decide_eq_true (hclean c hc)
      exact ⟨fun h => (hne _ h).2 rfl, fun h => (hne _ h).1 rfl, hplain⟩
    · rintro ⟨hhash, hamp, hplain⟩
      exact ⟨fun c hc => decide_eq_true
        ⟨ne_of_mem_of_not_mem hc hamp, ne_of_mem_of_not_mem hc hhash⟩, hplain⟩
  rw [List.takeWhile_append_of_pos hhash, List.takeWhile_cons_of_pos (by decide),
    params_name hname, hcut, ← hvalue, Option.bind_eq_some_iff]
  refine ⟨?_, ?_⟩
  · rintro ⟨value, hdecode, hrest⟩
    obtain ⟨more', hmore, heq⟩ := Option.map_eq_some_iff.1 hrest
    obtain ⟨hpair, rfl⟩ := List.cons.inj heq
    obtain rfl : value = utf8 v := (Prod.mk.inj hpair).2
    have hsafe := hvalue.1 hdecode
    rw [rest_value hsafe.hash hsafe.amp] at hmore
    exact ⟨hdecode, hmore⟩
  · rintro ⟨hdecode, hmore⟩
    have hsafe := hvalue.1 hdecode
    refine ⟨utf8 v, hdecode, ?_⟩
    rw [rest_value hsafe.hash hsafe.amp, hmore]
    rfl

/-- **Which queries put together by hand are read as they were meant.** -/
theorem params_build_iff {m : Malformed} (ps : List (List Char × List Char))
    (hnames : ∀ p ∈ ps, Name m p.1) :
    params m ((build ps).takeWhile (· ≠ '#')) = some (ps.map encoded) ↔
      ∀ p ∈ ps, Safe m p.2 := by
  induction ps with
  | nil => exact ⟨fun _ p hp => absurd hp List.not_mem_nil, fun _ => rfl⟩
  | cons p ps ih =>
    rw [build, List.map_cons, params_build_cons_iff (hnames p List.mem_cons_self),
      ih fun q hq => hnames q (List.mem_cons_of_mem p hq), List.forall_mem_cons]

/-- **A URL put together by hand is read back as it was meant if and only if every value in it can
stand there as it is.** -/
theorem read_build_iff {m : Malformed} {path : List Char} (hhash : '#' ∉ path)
    (hquestion : '?' ∉ path) (ps : List (List Char × List Char))
    (hnames : ∀ p ∈ ps, Name m p.1) :
    read m (path ++ '?' :: build ps) = some ⟨path, ps.map encoded⟩ ↔ ∀ p ∈ ps, Safe m p.2 := by
  have hhash' : ∀ c ∈ path, decide (c ≠ '#') = true := forall_mem_ne hhash
  have hquestion' : ∀ c ∈ path, decide (c ≠ '?') = true := forall_mem_ne hquestion
  rw [← params_build_iff ps hnames, read, List.takeWhile_append_of_pos hhash',
    List.takeWhile_cons_of_pos (by decide)]
  rw [List.takeWhile_append_of_pos hquestion', List.dropWhile_append_of_pos hquestion',
    List.takeWhile_cons_of_neg (by decide), List.dropWhile_cons_of_neg (by decide),
    List.append_nil, List.drop_one, List.tail_cons, Option.map_eq_some_iff]
  simp

end QueryString
