import BucketQuery.Proofs.Text.Name

set_option autoImplicit false

/-! # Reading written paths

A written path is taken apart at the dots outside of back quotes, and each piece is read as a name:
a plain identifier stands for itself, and between back quotes every back quote of the name stands
twice. A text of any other form is refused (`readPath?`). Whatever names are written, the reader gets
them back (`readPath?_intercalate_write`), so the names of a path are those that its text shows
(`readPath?_writePath`). Names without dots are in turn the names of the path that joins them
(`segments_intercalate`).
-/

namespace BucketQuery

namespace Name

/-! ## The reader -/

/-- The pieces of a text between the dots that stand outside of back quotes. Each back quote leads
in or out, so a double one inside of a name leaves the reader where it was. -/
def splitOutside (inside : Bool) : List Char → List (List Char)
  | [] => [[]]
  | c :: rest =>
    if c = '.' ∧ inside = false then [] :: splitOutside false rest
    else (splitOutside (if c = quote then !inside else inside) rest).modifyHead (c :: ·)

/-- The name before the closing back quote that ends the text. A double back quote is one of the
name's own. -/
def closed? : List Char → Option (List Char)
  | [] => none
  | [c] => if c = quote then some [] else none
  | c :: d :: rest =>
    if c = quote then
      if d = quote then (closed? rest).map (quote :: ·) else none
    else (closed? (d :: rest)).map (c :: ·)

/-- The name that a text is written for. -/
def ofWritten? : List Char → Option String
  | [] => none
  | c :: rest =>
    if c = quote then (closed? rest).map String.ofList
    else if isPlain (c :: rest) then some (String.ofList (c :: rest))
    else none

/-- **The names of a written path**, in their order. -/
def readPath? (text : String) : Option (List String) :=
  (splitOutside false text.toList).mapM ofWritten?

/-! ## Names are read back -/

theorem closed?_doubleQuotes (name : List Char) :
    closed? (doubleQuotes name ++ [quote]) = some name := by
  induction name with
  | nil => rfl
  | cons c name ih =>
      rw [doubleQuotes]
      by_cases hc : c = quote
      · rw [if_pos hc, List.cons_append, List.cons_append, closed?, if_pos rfl, if_pos rfl, ih, hc]
        rfl
      · rw [if_neg hc, List.cons_append]
        cases htext : doubleQuotes name ++ [quote] with
        | nil => exact absurd htext (by simp)
        | cons d text =>
            rw [closed?, if_neg hc, ← htext, ih]
            rfl

/-- A written name is read back, whatever it contains. -/
theorem ofWritten?_write (name : String) : ofWritten? (write name).toList = some name := by
  rw [write]
  split
  · next hplain =>
    cases hname : name.toList with
    | nil =>
        rw [hname] at hplain
        cases hplain
    | cons c rest =>
        rw [hname] at hplain
        rw [ofWritten?, if_neg (ne_quote_of_isPlain hplain), if_pos hplain, ← hname,
          String.ofList_toList]
  · rw [toList_quoted, ofWritten?, if_pos rfl, closed?_doubleQuotes, Option.map_some,
      String.ofList_toList]

/-! ## Dots between names -/

/-- A text that dots outside of back quotes do not cut, whatever follows. -/
def Uncut (piece : List Char) : Prop :=
  ∀ rest, splitOutside false (piece ++ rest) = (splitOutside false rest).modifyHead (piece ++ ·)

theorem Uncut.of_forall {run : List Char} (hrun : ∀ c ∈ run, isInner c = true) : Uncut run := by
  intro rest
  induction run with
  | nil => exact (congrFun List.modifyHead_id _).symm
  | cons c run ih =>
      obtain ⟨hc, hrun⟩ := List.forall_mem_cons.mp hrun
      have hdot : ¬ (c = '.' ∧ false = false) := fun h => ne_of_isInner hc (by decide) h.1
      have hquote : c ≠ quote := ne_of_isInner hc (by decide)
      rw [List.cons_append, splitOutside, if_neg hdot, if_neg hquote, ih hrun,
        List.modifyHead_modifyHead]
      rfl

/-- Dots and double back quotes between back quotes cut nothing. -/
theorem splitOutside_doubleQuotes (name rest : List Char) :
    splitOutside true (doubleQuotes name ++ rest) =
      (splitOutside true rest).modifyHead (doubleQuotes name ++ ·) := by
  have hdot : ∀ c : Char, ¬ (c = '.' ∧ true = false) := fun _ h => Bool.noConfusion h.2
  induction name with
  | nil => exact (congrFun List.modifyHead_id _).symm
  | cons c name ih =>
      rw [doubleQuotes]
      by_cases hc : c = quote
      · -- the first of the two leads out and the second in again, with no dot between them
        rw [if_pos hc, List.cons_append, List.cons_append, splitOutside, if_neg (hdot _),
          if_pos rfl, splitOutside, if_neg (by decide), if_pos rfl, Bool.not_not, ih,
          List.modifyHead_modifyHead, List.modifyHead_modifyHead]
        rfl
      · rw [if_neg hc, List.cons_append, splitOutside, if_neg (hdot _), if_neg hc, ih,
          List.modifyHead_modifyHead]
        rfl

theorem Uncut.quoted (name : String) : Uncut (quoted name).toList := by
  intro rest
  have hopen : ¬ (quote = '.' ∧ false = false) := by decide
  have hclose : ¬ (quote = '.' ∧ true = false) := by decide
  rw [toList_quoted, List.cons_append, List.append_assoc, List.singleton_append, splitOutside,
    if_neg hopen, if_pos rfl, Bool.not_false, splitOutside_doubleQuotes, splitOutside,
    if_neg hclose, if_pos rfl, Bool.not_true, List.modifyHead_modifyHead,
    List.modifyHead_modifyHead]
  congr 1
  funext piece
  simp

theorem Uncut.write (name : String) : Uncut (write name).toList := by
  rw [Name.write]
  split
  · next hplain => exact .of_forall (isInner_of_mem_of_isPlain hplain)
  · exact .quoted name

/-- Joined pieces come apart at the dots between them. -/
theorem splitOutside_intercalate {pieces : List (List Char)} (hne : pieces ≠ [])
    (hpieces : ∀ piece ∈ pieces, Uncut piece) :
    splitOutside false (['.'].intercalate pieces) = pieces := by
  induction pieces with
  | nil => exact absurd rfl hne
  | cons piece pieces ih =>
      obtain ⟨hpiece, hpieces⟩ := List.forall_mem_cons.mp hpieces
      cases pieces with
      | nil =>
          have hlast := hpiece []
          rw [List.intercalate_singleton]
          rwa [List.append_nil, splitOutside, List.modifyHead_cons, List.append_nil] at hlast
      | cons next pieces =>
          have hdot : '.' = '.' ∧ false = false := ⟨rfl, rfl⟩
          rw [List.intercalate_cons_cons, List.append_assoc, List.singleton_append, hpiece,
            splitOutside, if_pos hdot, List.modifyHead_cons, List.append_nil,
            ih (List.cons_ne_nil _ _) hpieces]

/-- **Written names that are joined by dots are read back**, whatever they contain. -/
theorem readPath?_intercalate_write {names : List String} (h : names ≠ []) :
    readPath? (".".intercalate (names.map write)) = some names := by
  have hpieces : ∀ piece ∈ names.map fun name => (write name).toList, Uncut piece := by
    intro piece hpiece
    obtain ⟨name, _, rfl⟩ := List.mem_map.mp hpiece
    exact .write name
  have hread : ∀ names : List String,
      (names.map fun name => (write name).toList).mapM ofWritten? = some names := by
    intro names
    induction names with
    | nil => rfl
    | cons name names ih =>
        rw [List.map_cons, List.mapM_cons, ofWritten?_write, ih]
        rfl
  rw [readPath?, String.toList_intercalate, List.map_map]
  show (splitOutside false (['.'].intercalate (names.map fun name => (write name).toList))).mapM
    ofWritten? = some names
  rw [splitOutside_intercalate (mt List.map_eq_nil_iff.mp h) hpieces, hread]

/-- **The text of a path shows its names.** -/
theorem readPath?_writePath (path : String) : readPath? (writePath path) = some (segments path) :=
  readPath?_intercalate_write (segments_ne_nil path)

end Name

/-- Names without dots are the names of the path that joins them. -/
theorem segments_intercalate {names : List String} (hne : names ≠ [])
    (hnames : ∀ name ∈ names, '.' ∉ name.toList) : segments (".".intercalate names) = names := by
  have hpieces : ∀ piece ∈ names.map String.toList, '.' ∉ piece := by
    intro piece hpiece
    obtain ⟨name, hname, rfl⟩ := List.mem_map.mp hpiece
    exact hnames name hname
  rw [segments, String.toList_intercalate, splitOnChar_eq_splitOn]
  show ((['.'].intercalate (names.map String.toList)).splitOn '.').map String.ofList = names
  rw [List.splitOn_intercalate '.' hpieces (mt List.map_eq_nil_iff.mp hne), List.map_map]
  refine (List.map_congr_left fun name _ => ?_).trans (List.map_id names)
  exact String.ofList_toList

end BucketQuery
