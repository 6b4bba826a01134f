import BucketQuery.Proofs.Text.Cut
import BucketQuery.Text.Name

set_option autoImplicit false

/-! # Reading names back

A name and a path can be told from the statement that goes on after them. A quoted name ends at
the first back quote without a second one, a bare name at the first character that cannot stand in
it (`Name.read`), and a path at the first name without a dot after it. Nothing that a name contains
changes where it ends.
-/

namespace BucketQuery

namespace Name

/-! ## Names -/

/-- What may follow a name: nothing that could go on with it. -/
def Ends : List Char → Prop
  | [] => True
  | c :: _ => isInner c = false ∧ c ≠ quote

/-- The name up to its closing back quote, and what follows. A double back quote is one of the
name's own. -/
def unquote : List Char → List Char × List Char
  | [] => ([], [])
  | [c] => if c = quote then ([], []) else ([c], [])
  | c :: d :: rest =>
    if c = quote then
      if d = quote then
        let (name, after) := unquote rest
        (quote :: name, after)
      else ([], d :: rest)
    else
      let (name, after) := unquote (d :: rest)
      (c :: name, after)

/-- The name at the head of a text, and what follows. -/
def read (text : List Char) : List Char × List Char :=
  match text with
  | [] => ([], [])
  | c :: rest => if c = quote then unquote rest else text.span isInner

theorem unquote_doubleQuotes (name : List Char) {rest : List Char} (h : Ends rest) :
    unquote (doubleQuotes name ++ quote :: rest) = (name, rest) := by
  induction name with
  | nil =>
      cases rest with
      | nil => rfl
      | cons c rest =>
          rw [doubleQuotes, List.nil_append, unquote, if_pos rfl, if_neg h.2]
  | cons c name ih =>
      rw [doubleQuotes]
      by_cases hc : c = quote
      · -- a back quote of the name stands there twice, so it does not close the name
        rw [if_pos hc, List.cons_append, List.cons_append, unquote, if_pos rfl, if_pos rfl, ih, hc]
      · rw [if_neg hc, List.cons_append]
        cases htext : doubleQuotes name ++ quote :: rest with
        | nil => exact absurd htext (by simp)
        | cons d text =>
            rw [unquote, if_neg hc, ← htext, ih]

theorem toList_quoted (name : String) :
    (quoted name).toList = quote :: (doubleQuotes name.toList ++ [quote]) := by
  rw [quoted, String.toList_ofList]

/-- A quoted name is read back. -/
theorem read_quoted (name : String) {rest : List Char} (h : Ends rest) :
    read ((quoted name).toList ++ rest) = (name.toList, rest) := by
  rw [toList_quoted, List.cons_append, List.append_assoc, List.singleton_append, read, if_pos rfl]
  exact unquote_doubleQuotes _ h

theorem Ends.isInner_eq_false {rest : List Char} (h : Ends rest) :
    ∀ c ∈ rest.head?, isInner c = false := by
  cases rest with
  | nil => exact nofun
  | cons c rest =>
      rintro d ⟨rfl⟩
      exact h.1

theorem isInner_of_isInitial {c : Char} (h : isInitial c = true) : isInner c = true := by
  rw [isInitial, Bool.or_eq_true] at h
  rw [isInner, Bool.or_eq_true, Char.isAlphanum, Bool.or_eq_true]
  exact h.imp_left Or.inl

theorem isInner_of_isDigit {c : Char} (h : c.isDigit = true) : isInner c = true := by
  rw [isInner, Char.isAlphanum, h, Bool.or_true, Bool.true_or]

theorem ne_of_isInner {c d : Char} (hc : isInner c = true) (hd : isInner d = false) : c ≠ d := by
  rintro rfl
  rw [hc] at hd
  cases hd

theorem isInner_of_mem_of_isPlain {name : List Char} (h : isPlain name = true) :
    ∀ c ∈ name, isInner c = true := by
  cases name with
  | nil => cases h
  | cons c name =>
      rw [isPlain, Bool.and_eq_true] at h
      exact List.forall_mem_cons.mpr ⟨isInner_of_isInitial h.1, List.all_eq_true.mp h.2⟩

theorem ne_quote_of_isPlain {c : Char} {rest : List Char} (h : isPlain (c :: rest) = true) :
    c ≠ quote :=
  ne_of_isInner (isInner_of_mem_of_isPlain h c List.mem_cons_self) (by decide)

/-- A plain identifier is read back. -/
theorem read_plain {name : List Char} (hplain : isPlain name = true) {rest : List Char}
    (h : Ends rest) : read (name ++ rest) = (name, rest) := by
  cases name with
  | nil => cases hplain
  | cons c name =>
      -- the reader takes all inner characters, which are the name and nothing of what follows
      rw [List.cons_append, read, if_neg (ne_quote_of_isPlain hplain), ← List.cons_append,
        span_append (isInner_of_mem_of_isPlain hplain) h.isInner_eq_false]

/-- **A name is read back**, whatever it contains, when nothing follows that could go on with
it. -/
theorem read_write (name : String) {rest : List Char} (h : Ends rest) :
    read ((write name).toList ++ rest) = (name.toList, rest) := by
  rw [write]
  split
  · next hplain => exact read_plain hplain h
  · exact read_quoted name h

theorem mem_doubleQuotes {c : Char} {name : List Char} (h : c ∈ doubleQuotes name) : c ∈ name := by
  induction name with
  | nil => exact h
  | cons d name ih =>
      rw [doubleQuotes] at h
      by_cases hd : d = quote
      · rw [if_pos hd, List.mem_cons, List.mem_cons, ← hd] at h
        rcases h with rfl | rfl | h
        · exact List.mem_cons_self
        · exact List.mem_cons_self
        · exact List.mem_cons_of_mem _ (ih h)
      · rw [if_neg hd, List.mem_cons] at h
        exact List.mem_cons.mpr (h.imp_right ih)

/-- Writing a name brings in back quotes and nothing else. -/
theorem mem_write {c : Char} {name : String} (h : c ∈ (write name).toList) :
    c = quote ∨ c ∈ name.toList := by
  rw [write] at h
  split at h
  · exact .inr h
  · rw [toList_quoted, List.mem_cons, List.mem_append, List.mem_singleton] at h
    rcases h with rfl | h | rfl
    · exact .inl rfl
    · exact .inr (mem_doubleQuotes h)
    · exact .inl rfl

/-- A written name starts with a back quote or with a character that may start a name. -/
theorem exists_head?_write (name : String) (rest : List Char) :
    ∃ c, ((write name).toList ++ rest).head? = some c ∧ (c = quote ∨ isInitial c = true) := by
  rw [write]
  split
  · next hplain =>
    cases hname : name.toList with
    | nil =>
        rw [hname] at hplain
        cases hplain
    | cons c text =>
        rw [hname, isPlain, Bool.and_eq_true] at hplain
        exact ⟨c, rfl, .inr hplain.1⟩
  · rw [toList_quoted]
    exact ⟨quote, rfl, .inl rfl⟩

theorem write_append_inj {a b : String} {r s : List Char} (hr : Ends r) (hs : Ends s)
    (h : (write a).toList ++ r = (write b).toList ++ s) : a = b ∧ r = s := by
  have hread := congrArg read h
  rw [read_write a hr, read_write b hs] at hread
  exact ⟨String.toList_inj.mp (congrArg Prod.fst hread), congrArg Prod.snd hread⟩

theorem quoted_append_inj {a b : String} {r s : List Char} (hr : Ends r) (hs : Ends s)
    (h : (quoted a).toList ++ r = (quoted b).toList ++ s) : a = b ∧ r = s := by
  have hread := congrArg read h
  rw [read_quoted a hr, read_quoted b hs] at hread
  exact ⟨String.toList_inj.mp (congrArg Prod.fst hread), congrArg Prod.snd hread⟩

end Name

/-! ## Paths -/

theorem splitOnChar_ne_nil (separator : Char) (text : List Char) :
    splitOnChar separator text ≠ [] := by
  cases text with
  | nil => exact List.cons_ne_nil _ _
  | cons c rest =>
      rw [splitOnChar]
      split
      · exact List.cons_ne_nil _ _
      · split
        · exact List.cons_ne_nil _ _
        · exact List.cons_ne_nil _ _

/-- The pieces of a text, joined by the separator, are the text. -/
theorem intercalate_splitOnChar (separator : Char) (text : List Char) :
    [separator].intercalate (splitOnChar separator text) = text := by
  induction text with
  | nil => rfl
  | cons c rest ih =>
      rw [splitOnChar]
      split
      · next hc =>
        rw [List.intercalate_cons_of_ne_nil (splitOnChar_ne_nil separator rest), ih, hc]
        rfl
      · cases hsplit : splitOnChar separator rest with
        | nil => exact absurd hsplit (splitOnChar_ne_nil separator rest)
        | cons piece pieces =>
            rw [hsplit] at ih
            rw [List.intercalate_cons_cons_left, ih]

/-- The pieces of a text are those of the library's splitting. -/
theorem splitOnChar_eq_splitOn (separator : Char) (text : List Char) :
    splitOnChar separator text = text.splitOn separator := by
  induction text with
  | nil => rfl
  | cons c rest ih =>
      rw [splitOnChar, List.splitOn_cons_eq_if_modifyHead, ih]
      by_cases hc : c = separator
      · rw [if_pos hc, if_pos (beq_iff_eq.mpr hc)]
      · rw [if_neg hc, if_neg (mt beq_iff_eq.mp hc)]
        cases hpieces : rest.splitOn separator with
        | nil => exact absurd hpieces (List.splitOn_ne_nil _ _)
        | cons piece pieces => rfl

theorem segments_ne_nil (path : String) : segments path ≠ [] := by
  rw [segments, Ne, List.map_eq_nil_iff]
  exact splitOnChar_ne_nil _ _

/-- A path is determined by its names. -/
theorem segments_inj {a b : String} (h : segments a = segments b) : a = b := by
  have hpieces : splitOnChar '.' a.toList = splitOnChar '.' b.toList :=
    (List.map_inj_right fun _ _ => String.ofList_inj.mp).mp h
  rw [← String.toList_inj, ← intercalate_splitOnChar '.' a.toList, hpieces,
    intercalate_splitOnChar]

namespace Name

theorem toList_writePath (path : String) :
    (writePath path).toList =
      ['.'].intercalate ((segments path).map fun name => (write name).toList) := by
  rw [writePath, String.toList_intercalate, List.map_map]
  rfl

/-- **A path is read back in one way**, when nothing follows that could go on with it. -/
theorem writePath_append_inj {a b : String} {r s : List Char} (hr : Ends r) (hs : Ends s)
    (hr_dot : r.head? ≠ some '.') (hs_dot : s.head? ≠ some '.')
    (h : (writePath a).toList ++ r = (writePath b).toList ++ s) : a = b ∧ r = s := by
  have hdots : ∀ {t : List Char}, t.head? ≠ some '.' → ¬ ['.'] <+: t := by
    rintro t ht ⟨u, rfl⟩
    exact ht rfl
  rw [toList_writePath, toList_writePath] at h
  -- a dot ends a name, so the names of a path come apart at the dots
  have hdot : ∀ t, Ends (['.'] ++ t) := fun t => ⟨by decide, by decide⟩
  obtain ⟨hnames, hrs⟩ := intercalate_append_inj id (fun _ => True) Ends
    (fun a _ b _ _ _ hr hs h => write_append_inj hr hs h) hdot (fun _ _ => trivial)
    (segments_ne_nil a) (segments_ne_nil b) hr hs (hdots hr_dot) (hdots hs_dot) h
  rw [List.map_id, List.map_id] at hnames
  exact ⟨segments_inj hnames, hrs⟩

end Name

end BucketQuery
