import BucketQuery.Json.Token
import BucketQuery.Proofs.Number.Numeral

set_option autoImplicit false

/-! # The lexical grammar of JSON

A text is cut into tokens, with blanks between them: signs, the three words, numerals and strings. A
word and a numeral go on as long as their characters do. The automaton finds exactly the tokens that
a text is cut into (`tokens?_eq_some_iff`).
-/

namespace BucketQuery.Json

/-- The signs and their tokens. -/
inductive Sign : Char → Token → Prop where
  | openArray : Sign '[' .openArray
  | closeArray : Sign ']' .closeArray
  | openObject : Sign '\x7b' .openObject
  | closeObject : Sign '\x7d' .closeObject
  | comma : Sign ',' .comma
  | colon : Sign ':' .colon

/-- The number that hexadecimal digits denote, after those that denote `start`. -/
def hexFrom? (start : Nat) (digits : List Char) : Option Nat :=
  digits.foldlM (fun n c => (hexDigitValue? c).map (16 * n + ·)) start

/-- What the text between the quotes of a string writes. -/
inductive Writes : List Char → List Element → Prop where
  | nil : Writes [] []
  | char {c : Char} {text : List Char} {elements : List Element} (hquote : c ≠ '"')
      (hescape : c ≠ '\\') (hcontrol : 0x20 ≤ c.toNat) (h : Writes text elements) :
      Writes (c :: text) (.char c :: elements)
  | escape {c d : Char} {text : List Char} {elements : List Element} (hc : escaped? c = some d)
      (h : Writes text elements) : Writes ('\\' :: c :: text) (.char d :: elements)
  | unit {digits text : List Char} {code : Nat} {elements : List Element}
      (hlength : digits.length = 4) (hcode : hexFrom? 0 digits = some code)
      (h : Writes text elements) :
      Writes ('\\' :: 'u' :: (digits ++ text)) (.unit code :: elements)

/-- **The texts that are cut into some tokens.** -/
inductive CutInto : List Char → List Token → Prop where
  | nil : CutInto [] []
  | space {c : Char} {text : List Char} {tokens : List Token} (hc : isSpace c = true)
      (h : CutInto text tokens) : CutInto (c :: text) tokens
  | sign {c : Char} {token : Token} {text : List Char} {tokens : List Token} (hc : Sign c token)
      (h : CutInto text tokens) : CutInto (c :: text) (token :: tokens)
  | word {letters text : List Char} {token : Token} {tokens : List Token}
      (hword : word? letters = some token) (hend : ∀ c ∈ text.head?, c.isLower = false)
      (h : CutInto text tokens) : CutInto (letters ++ text) (token :: tokens)
  | numeral {numeral text : List Char} {n : Numeral} {tokens : List Token}
      (hnumeral : n.Spells numeral) (hend : ∀ c ∈ text.head?, isNumeral c = false)
      (h : CutInto text tokens) : CutInto (numeral ++ text) (.number n.number? :: tokens)
  | string {body text : List Char} {elements : List Element} {tokens : List Token}
      (hbody : Writes body elements) (h : CutInto text tokens) :
      CutInto ('"' :: (body ++ '"' :: text))
        (.string ((spell elements).map String.ofList) :: tokens)

/-! ## Steps of the automaton -/

theorem tokensFrom_found (scan : Scan) (found : List Token) (text : List Char) :
    tokensFrom scan found text = (tokensFrom scan [] text).map (found.reverse ++ ·) := by
  induction text generalizing scan found with
  | nil =>
      simp only [tokensFrom, Option.map_map, List.reverseAux_eq]
      rfl
  | cons c text ih =>
      rw [tokensFrom, tokensFrom]
      cases scanChar scan c with
      | none => rfl
      | some step =>
          simp only
          rw [ih step.2 (step.1.reverseAux found), ih step.2 (step.1.reverseAux [])]
          simp only [Option.map_map, List.reverseAux_eq, List.reverse_append, List.reverse_reverse,
            List.append_nil]
          refine congrArg (Option.map · _) (funext fun tokens => ?_)
          exact List.append_assoc _ _ _

theorem tokensFrom_cons (scan : Scan) (c : Char) (text : List Char) :
    tokensFrom scan [] (c :: text) =
      (scanChar scan c).bind fun step => (tokensFrom step.2 [] text).map (step.1 ++ ·) := by
  rw [tokensFrom]
  cases scanChar scan c with
  | none => rfl
  | some step =>
      simp only
      rw [tokensFrom_found, List.reverseAux_eq, List.append_nil, List.reverse_reverse]
      rfl

/-- A step that completes no token. -/
theorem tokensFrom_silent {scan next : Scan} {c : Char} (h : scanChar scan c = some ([], next))
    (text : List Char) : tokensFrom scan [] (c :: text) = tokensFrom next [] text := by
  rw [tokensFrom_cons, h, Option.bind_some]
  exact congrFun Option.map_id _

theorem tokensFrom_start {scan : Scan} {c : Char} (h : start? c = some ([], scan))
    (text : List Char) : tokensFrom .between [] (c :: text) = tokensFrom scan [] text :=
  tokensFrom_silent (show scanChar .between c = _ from h) text

/-- A token that is a run of characters of a kind ends with the run. -/
theorem tokensFrom_run {scan : List Char → Scan} {kind : Char → Bool}
    {token? : List Char → Option Token}
    (hstep : ∀ letters c, scanChar (scan letters) c =
      if kind c then some ([], scan (c :: letters)) else complete? (token? letters.reverse) c)
    (hend : ∀ letters, scanEnd (scan letters) = (token? letters.reverse).map fun token => [token])
    (letters : List Char) {run rest : List Char} (hrun : ∀ c ∈ run, kind c = true)
    (hrest : ∀ c ∈ rest.head?, kind c = false) :
    tokensFrom (scan letters) [] (run ++ rest) =
      (token? (letters.reverse ++ run)).bind fun token =>
        (tokensFrom .between [] rest).map (token :: ·) := by
  induction run generalizing letters with
  | nil =>
      -- the character after the run completes the token and starts the next one
      rw [List.append_nil, List.nil_append]
      cases rest with
      | nil =>
          rw [tokensFrom, hend]
          cases token? letters.reverse <;> rfl
      | cons c rest =>
          rw [tokensFrom_cons, hstep, hrest c rfl, if_neg Bool.false_ne_true, tokensFrom_cons,
            scanChar]
          cases token? letters.reverse with
          | none => rfl
          | some token =>
              show ((start? c).bind fun step => some (token :: step.1, step.2)).bind _ = _
              rw [Option.bind_assoc, Option.bind_some, Option.map_bind]
              refine congrArg (Option.bind _) (funext fun step => ?_)
              rw [Function.comp_apply, Option.map_map]
              rfl
  | cons c run ih =>
      obtain ⟨hc, hrun⟩ := List.forall_mem_cons.mp hrun
      have hnext := (hstep letters c).trans (if_pos hc)
      rw [List.cons_append, tokensFrom_silent hnext, ih _ hrun, List.reverse_cons,
        List.append_assoc]
      rfl

theorem tokensFrom_word (letters : List Char) {run rest : List Char}
    (hrun : ∀ c ∈ run, c.isLower = true) (hrest : ∀ c ∈ rest.head?, c.isLower = false) :
    tokensFrom (.word letters) [] (run ++ rest) =
      (word? (letters.reverse ++ run)).bind fun token =>
        (tokensFrom .between [] rest).map (token :: ·) :=
  tokensFrom_run (fun _ _ => rfl) (fun _ => rfl) letters hrun hrest

theorem tokensFrom_numeral (text : List Char) {run rest : List Char}
    (hrun : ∀ c ∈ run, isNumeral c = true) (hrest : ∀ c ∈ rest.head?, isNumeral c = false) :
    tokensFrom (.numeral text) [] (run ++ rest) =
      (numeral? (text.reverse ++ run)).bind fun token =>
        (tokensFrom .between [] rest).map (token :: ·) :=
  tokensFrom_run (fun _ _ => rfl) (fun _ => rfl) text hrun hrest

/-! ## Strings -/

/-- The digits of a unit, as many as are left. -/
theorem tokensFrom_unit (elements : List Element) {digits : List Char} (hne : digits ≠ [])
    (code : Nat) (rest : List Char) :
    tokensFrom (.unit elements digits.length code) [] (digits ++ rest) =
      (hexFrom? code digits).bind fun code =>
        tokensFrom (.string (.unit code :: elements)) [] rest := by
  induction digits generalizing code with
  | nil => exact absurd rfl hne
  | cons c digits ih =>
      rw [List.cons_append, hexFrom?, List.foldlM_cons]
      cases hdigit : hexDigitValue? c with
      | none => rw [tokensFrom_cons, scanChar, hdigit]; rfl
      | some digit =>
          cases digits with
          | nil =>
              refine tokensFrom_silent ?_ rest
              rw [scanChar, hdigit]
              rfl
          | cons d digits =>
              refine (tokensFrom_silent ?_ _).trans (ih (List.cons_ne_nil _ _) _)
              rw [scanChar, hdigit, Option.map_some, if_neg (by simp)]
              rfl

theorem tokensFrom_string {body : List Char} {written : List Element} (h : Writes body written)
    (elements : List Element) (rest : List Char) :
    tokensFrom (.string elements) [] (body ++ '"' :: rest) =
      (tokensFrom .between [] rest).map
        (.string ((spell (elements.reverse ++ written)).map String.ofList) :: ·) := by
  -- each step puts one more element in front of those kept in reverse
  induction h generalizing elements with
  | nil =>
      rw [List.nil_append, tokensFrom_cons, List.append_nil]
      rfl
  | @char c text written hquote hescape hcontrol _ ih =>
      have hstep : scanChar (.string elements) c = some ([], .string (.char c :: elements)) := by
        rw [scanChar, if_neg hquote, if_neg hescape, if_neg (Nat.not_lt.mpr hcontrol)]
      rw [List.cons_append, tokensFrom_silent hstep, ih, List.reverse_cons, List.append_assoc]
      rfl
  | @escape c d text written hc _ ih =>
      have hu : c ≠ 'u' := by
        rintro rfl
        cases hc
      have hstep : scanChar (.escape elements) c = some ([], .string (.char d :: elements)) := by
        rw [scanChar, if_neg hu, hc]
        rfl
      rw [List.cons_append, List.cons_append, tokensFrom_silent rfl, tokensFrom_silent hstep, ih,
        List.reverse_cons, List.append_assoc]
      rfl
  | @unit digits text code written hlength hcode _ ih =>
      have hne : digits ≠ [] := List.ne_nil_of_length_eq_add_one hlength
      have hdigits := tokensFrom_unit elements hne 0 (text ++ '"' :: rest)
      rw [hlength, hcode, Option.bind_some] at hdigits
      rw [List.cons_append, List.cons_append, List.append_assoc, tokensFrom_silent rfl,
        tokensFrom_silent rfl, hdigits, ih, List.reverse_cons, List.append_assoc]
      rfl

/-- In the middle of a token, the text must go on. -/
theorem exists_step_of_tokensFrom {scan : Scan} {text : List Char} {tokens : List Token}
    (hscan : scanEnd scan = none) (h : tokensFrom scan [] text = some tokens) :
    ∃ c rest step later, text = c :: rest ∧ scanChar scan c = some step ∧
      tokensFrom step.2 [] rest = some later ∧ tokens = step.1 ++ later := by
  cases text with
  | nil =>
      rw [tokensFrom, hscan] at h
      cases h
  | cons c rest =>
      rw [tokensFrom_cons] at h
      obtain ⟨step, hstep, hrest⟩ := Option.bind_eq_some_iff.mp h
      obtain ⟨later, hlater, rfl⟩ := Option.map_eq_some_iff.mp hrest
      exact ⟨c, rest, step, later, rfl, hstep, hlater, rfl⟩

theorem exists_digits_of_tokensFrom {elements : List Element} {left : Nat} (hleft : 0 < left)
    {code : Nat} {text : List Char} {tokens : List Token}
    (h : tokensFrom (.unit elements left code) [] text = some tokens) :
    ∃ digits rest, digits.length = left ∧ text = digits ++ rest := by
  induction left generalizing code text tokens with
  | zero => exact absurd hleft (Nat.lt_irrefl 0)
  | succ left ih =>
      obtain ⟨c, rest, step, later, rfl, hstep, hlater, -⟩ := exists_step_of_tokensFrom rfl h
      by_cases hlast : left = 0
      · exact ⟨[c], rest, by rw [hlast]; rfl, rfl⟩
      · obtain ⟨digit, -, rfl⟩ := Option.map_eq_some_iff.mp hstep
        simp only [if_neg (by omega : ¬ left + 1 ≤ 1), Nat.add_sub_cancel] at hlater
        obtain ⟨digits, rest, hlength, rfl⟩ := ih (Nat.pos_of_ne_zero hlast) hlater
        exact ⟨c :: digits, rest, by rw [List.length_cons, hlength], rfl⟩

/-- A string that is read to its end has a body. -/
theorem exists_body_of_tokensFrom {elements : List Element} {text : List Char}
    {tokens : List Token} (h : tokensFrom (.string elements) [] text = some tokens) :
    ∃ body written rest, Writes body written ∧ text = body ++ '"' :: rest := by
  induction hlength : text.length using Nat.strongRecOn generalizing elements text tokens with
  | _ n ih =>
  subst hlength
  obtain ⟨c, rest, step, later, rfl, hstep, hlater, -⟩ := exists_step_of_tokensFrom rfl h
  rw [scanChar] at hstep
  split_ifs at hstep with hquote hescape hcontrol
  · exact ⟨[], [], rest, .nil, by rw [hquote]; rfl⟩
  · -- an escape takes one more character, or five
    cases hstep
    obtain ⟨d, rest, step, later, rfl, hstep, hlater, -⟩ := exists_step_of_tokensFrom rfl hlater
    rw [scanChar] at hstep
    split_ifs at hstep with hu
    · cases hstep
      obtain ⟨digits, rest, hlength, rfl⟩ := exists_digits_of_tokensFrom (by decide) hlater
      have hne : digits ≠ [] := List.ne_nil_of_length_eq_add_one hlength
      have hdigits := tokensFrom_unit elements hne 0 rest
      rw [hlength] at hdigits
      obtain ⟨code, hcode, hlater⟩ := Option.bind_eq_some_iff.mp (hdigits.symm.trans hlater)
      obtain ⟨body, written, rest, hbody, rfl⟩ := ih rest.length
        (by simp only [List.length_cons, List.length_append]; omega) hlater rfl
      refine ⟨_, _, rest, .unit hlength hcode hbody, ?_⟩
      rw [hescape, hu, List.cons_append, List.cons_append, List.append_assoc]
    · obtain ⟨e, he, rfl⟩ := Option.map_eq_some_iff.mp hstep
      obtain ⟨body, written, rest, hbody, rfl⟩ := ih rest.length
        (by simp only [List.length_cons]; omega) hlater rfl
      exact ⟨_, _, rest, .escape he hbody, by rw [hescape]; rfl⟩
  · cases hstep
    obtain ⟨body, written, rest, hbody, rfl⟩ := ih rest.length
      (by rw [List.length_cons]; exact Nat.lt_succ_self _) hlater rfl
    exact ⟨_, _, rest, .char hquote hescape (Nat.not_lt.mp hcontrol) hbody, rfl⟩

/-! ## Starts of tokens -/

theorem isNumeral_of_isDigit {c : Char} (h : c.isDigit = true) : isNumeral c = true := by
  simp only [isNumeral, h, Bool.true_or]

/-- The characters of a numeral are those that numerals have. -/
theorem isNumeral_of_spells {text : List Char} {n : Numeral} (h : n.Spells text) :
    ∀ c ∈ text, isNumeral c = true := by
  have hdigits : ∀ digits, Numeral.IsDigits digits → ∀ c ∈ digits, isNumeral c = true :=
    fun digits h c hc => isNumeral_of_isDigit (h.2 c hc)
  obtain ⟨hwhole, hfraction, hexponent⟩ := h
  simp only [List.forall_mem_append]
  refine ⟨?_, ?_, ?_, ?_⟩
  · split
    · exact List.forall_mem_singleton.mpr rfl
    · exact nofun
  · obtain rfl | ⟨hwhole, -⟩ := hwhole
    · exact List.forall_mem_singleton.mpr rfl
    · exact hdigits _ hwhole
  · cases hfraction with
    | absent => exact nofun
    | digits h => exact List.forall_mem_cons.mpr ⟨rfl, hdigits _ h⟩
  · cases hexponent with
    | absent => exact nofun
    | digits hmark hsign h =>
        refine List.forall_mem_cons.mpr ⟨?_, List.forall_mem_append.mpr ⟨?_, hdigits _ h⟩⟩
        · obtain rfl | rfl := hmark <;> rfl
        · cases hsign with
          | absent => exact nofun
          | plus | minus => exact List.forall_mem_singleton.mpr rfl

/-- A numeral starts with a digit or a sign. -/
theorem exists_start_of_spells {text : List Char} {n : Numeral} (h : n.Spells text) :
    ∃ c rest, text = c :: rest ∧ (c = '-' ∨ c.isDigit = true) := by
  cases h with
  | @parts negative whole _ _ _ _ hwhole =>
      cases negative with
      | true => exact ⟨'-', _, rfl, .inl rfl⟩
      | false =>
          obtain rfl | ⟨⟨hne, hdigits⟩, -⟩ := hwhole
          · exact ⟨'0', _, rfl, .inr rfl⟩
          · obtain ⟨c, rest, rfl⟩ := List.exists_cons_of_ne_nil hne
            exact ⟨c, _, rfl, .inr (hdigits c List.mem_cons_self)⟩

theorem start?_numeral {c : Char} (h : c = '-' ∨ c.isDigit = true) :
    start? c = some ([], .numeral [c]) := by
  obtain rfl | hdigit := h
  · rfl
  have hne : ∀ d, d.isDigit = false → c ≠ d := by
    rintro d hd rfl
    rw [hdigit] at hd
    cases hd
  have hspace : isSpace c = false := by
    simp only [isSpace, Bool.or_eq_false_iff, beq_eq_false_iff_ne]
    exact ⟨⟨⟨hne _ rfl, hne _ rfl⟩, hne _ rfl⟩, hne _ rfl⟩
  have hlower : c.isLower = false := by
    have hnine : c.val ≤ '9'.val := decide_eq_true_iff.mp (Bool.and_eq_true_iff.mp hdigit).2
    refine Bool.eq_false_iff.mpr fun hlower => ?_
    have ha : 'a'.val ≤ c.val := decide_eq_true_iff.mp (Bool.and_eq_true_iff.mp hlower).1
    exact absurd (UInt32.le_trans ha hnine) (by decide)
  rw [start?, hspace, hlower, isNumeral_of_isDigit hdigit, if_neg Bool.false_ne_true,
    if_neg (hne _ rfl), if_neg (hne _ rfl), if_neg (hne _ rfl), if_neg (hne _ rfl),
    if_neg (hne _ rfl), if_neg (hne _ rfl), if_neg (hne _ rfl), if_neg Bool.false_ne_true,
    if_pos rfl]

theorem start?_sound {c : Char} {step : List Token × Scan} (h : start? c = some step) :
    (isSpace c = true ∧ step = ([], .between)) ∨
    (∃ token, Sign c token ∧ step = ([token], .between)) ∨
    (c = '"' ∧ step = ([], .string [])) ∨
    (c.isLower = true ∧ step = ([], .word [c])) ∨
    (isNumeral c = true ∧ step = ([], .numeral [c])) := by
  -- the tests of `start?` one after another; each `cases` reads the step off the taken branch
  rw [start?] at h
  by_cases hspace : isSpace c = true
  · cases (if_pos hspace).symm.trans h
    exact .inl ⟨hspace, rfl⟩
  rw [if_neg hspace] at h
  have hsign : ∀ {d : Char} {token : Token} {others : Option (List Token × Scan)},
      Sign d token → (if c = d then some ([token], Scan.between) else others) = some step →
      (∃ token, Sign c token ∧ step = ([token], .between)) ∨ others = some step := by
    intro d token others hd h
    split at h
    · next hc =>
      cases h
      exact .inl ⟨token, hc ▸ hd, rfl⟩
    · exact .inr h
  obtain hfound | h := hsign .openArray h
  · exact .inr (.inl hfound)
  obtain hfound | h := hsign .closeArray h
  · exact .inr (.inl hfound)
  obtain hfound | h := hsign .openObject h
  · exact .inr (.inl hfound)
  obtain hfound | h := hsign .closeObject h
  · exact .inr (.inl hfound)
  obtain hfound | h := hsign .comma h
  · exact .inr (.inl hfound)
  obtain hfound | h := hsign .colon h
  · exact .inr (.inl hfound)
  split at h
  · next hquote =>
    cases h
    exact .inr (.inr (.inl ⟨hquote, rfl⟩))
  split at h
  · next hlower =>
    cases h
    exact .inr (.inr (.inr (.inl ⟨hlower, rfl⟩)))
  split at h
  · next hnumeral =>
    cases h
    exact .inr (.inr (.inr (.inr ⟨hnumeral, rfl⟩)))
  · cases h

/-! ## Texts -/

/-- The words, and no other runs of letters, have a token. -/
theorem exists_start_of_word {letters : List Char} {token : Token}
    (h : word? letters = some token) :
    ∃ c rest, letters = c :: rest ∧ start? c = some ([], .word [c]) ∧
      rest.all Char.isLower = true := by
  rw [word?] at h
  split_ifs at h with hnull htrue hfalse
  · exact ⟨'n', _, hnull, rfl, rfl⟩
  · exact ⟨'t', _, htrue, rfl, rfl⟩
  · exact ⟨'f', _, hfalse, rfl, rfl⟩

theorem numeral?_eq_some_iff {text : List Char} {token : Token} :
    numeral? text = some token ↔ ∃ n : Numeral, n.Spells text ∧ .number n.number? = token := by
  simp only [numeral?, Option.map_eq_some_iff, Numeral.read?_eq_some_iff]

theorem tokensFrom_of_cutInto {text : List Char} {tokens : List Token} (h : CutInto text tokens) :
    tokensFrom .between [] text = some tokens := by
  induction h with
  | nil => rfl
  | space hc _ ih => rw [tokensFrom_start (if_pos hc), ih]
  | sign hc _ ih =>
      rw [tokensFrom_cons]
      cases hc <;> exact congrArg (Option.map _) ih
  | @word letters text token tokens hword hend _ ih =>
      obtain ⟨c, rest, rfl, hstart, hall⟩ := exists_start_of_word hword
      have hletters := List.all_eq_true.mp hall
      rw [List.cons_append, tokensFrom_start hstart, tokensFrom_word [c] hletters hend, ih]
      exact congrArg (Option.bind · _) hword
  | @numeral numeral text n tokens hnumeral hend _ ih =>
      obtain ⟨c, rest, rfl, hstart⟩ := exists_start_of_spells hnumeral
      have hchars := (List.forall_mem_cons.mp (isNumeral_of_spells hnumeral)).2
      rw [List.cons_append, tokensFrom_start (start?_numeral hstart),
        tokensFrom_numeral [c] hchars hend, ih]
      exact congrArg (Option.bind · _) (numeral?_eq_some_iff.mpr ⟨n, hnumeral, rfl⟩)
  | string hbody _ ih =>
      rw [tokensFrom_start rfl, tokensFrom_string hbody, ih]
      rfl

theorem cutInto_of_tokensFrom {text : List Char} {tokens : List Token}
    (h : tokensFrom .between [] text = some tokens) : CutInto text tokens := by
  -- on the length, for a token takes any number of characters, but at least one
  induction hlength : text.length using Nat.strongRecOn generalizing text tokens with
  | _ n ih =>
  subst hlength
  cases text with
  | nil =>
      cases h
      exact .nil
  | cons c text =>
      have hshorter : ∀ run rest : List Char, rest.length < (c :: (run ++ rest)).length := by
        intro run rest
        rw [List.length_cons, List.length_append]
        omega
      rw [tokensFrom_cons] at h
      obtain ⟨step, hstep, hrest⟩ := Option.bind_eq_some_iff.mp h
      obtain ⟨later, hlater, rfl⟩ := Option.map_eq_some_iff.mp hrest
      obtain ⟨hspace, rfl⟩ | ⟨token, hsign, rfl⟩ | ⟨rfl, rfl⟩ | ⟨hlower, rfl⟩ | ⟨hnumeral, rfl⟩ :=
        start?_sound hstep
      · exact .space hspace (ih text.length (Nat.lt_succ_self _) hlater rfl)
      · exact .sign hsign (ih text.length (Nat.lt_succ_self _) hlater rfl)
      · obtain ⟨body, written, rest, hbody, rfl⟩ := exists_body_of_tokensFrom hlater
        rw [tokensFrom_string hbody] at hlater
        obtain ⟨tokens, htokens, rfl⟩ := Option.map_eq_some_iff.mp hlater
        have hlength := hshorter body ('"' :: rest)
        exact .string hbody (ih rest.length (Nat.lt_of_succ_lt hlength) htokens rfl)
      · obtain ⟨run, rest, rfl, hrun, hend⟩ := exists_run Char.isLower text
        rw [tokensFrom_word [c] hrun hend] at hlater
        obtain ⟨token, hword, hread⟩ := Option.bind_eq_some_iff.mp hlater
        obtain ⟨tokens, htokens, rfl⟩ := Option.map_eq_some_iff.mp hread
        exact .word hword hend (ih rest.length (hshorter run rest) htokens rfl)
      · obtain ⟨run, rest, rfl, hrun, hend⟩ := exists_run isNumeral text
        rw [tokensFrom_numeral [c] hrun hend] at hlater
        obtain ⟨token, htoken, hread⟩ := Option.bind_eq_some_iff.mp hlater
        obtain ⟨n, hnumeral, rfl⟩ := numeral?_eq_some_iff.mp htoken
        obtain ⟨tokens, htokens, rfl⟩ := Option.map_eq_some_iff.mp hread
        exact .numeral hnumeral hend (ih rest.length (hshorter run rest) htokens rfl)

/-- **The automaton finds the tokens that a text is cut into.** -/
theorem tokens?_eq_some_iff (text : String) (tokens : List Token) :
    tokens? text = some tokens ↔ CutInto text.toList tokens :=
  ⟨cutInto_of_tokensFrom, tokensFrom_of_cutInto⟩

end BucketQuery.Json
