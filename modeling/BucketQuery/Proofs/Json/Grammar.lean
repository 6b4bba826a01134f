import BucketQuery.Json.Written
import BucketQuery.Proofs.Json.Lexeme

set_option autoImplicit false

/-! # The grammar of JSON

Which tokens build which tree (`Builds`), and so which texts spell it (`Spells`). An array is its
items with commas between them, in brackets, and an object is its members likewise. The automaton
with its stack of open containers builds exactly this tree (`build?_eq_some_iff`), and a text is
read as exactly the tree that it spells (`read?_eq_some_iff`).
-/

namespace BucketQuery.Written

open Json (Token)

/-- An item of an array: its tokens and its tree. -/
structure Item where
  tokens : List Token
  tree : Written

/-- A member of an object: its key, and the tokens and the tree of its value. -/
structure Member where
  key : Option String
  tokens : List Token
  tree : Written

/-- The tokens of a member. -/
def Member.written (member : Member) : List Token := .string member.key :: .colon :: member.tokens

/-- The tree of an object, which is valueless when a key is. -/
def objectOf (members : List (Option String × Written)) : Written :=
  match members.mapM fun member => member.1.map (·, member.2) with
  | some members => .object members
  | none => .valueless

/-- **The tokens that build a tree.** -/
inductive Builds : List Token → Written → Prop where
  | null : Builds [.null] .null
  | bool (b : Bool) : Builds [.bool b] (.bool b)
  | number (n : Number) : Builds [.number (some n)] (.number n)
  | string (s : String) : Builds [.string (some s)] (.string s)
  | tooLarge : Builds [.number none] .valueless
  | halfPair : Builds [.string none] .valueless
  | array (items : List Item) (h : ∀ item ∈ items, Builds item.tokens item.tree) :
      Builds (.openArray :: ([.comma].intercalate (items.map Item.tokens) ++ [.closeArray]))
        (.array (items.map Item.tree))
  | object (members : List Member) (h : ∀ member ∈ members, Builds member.tokens member.tree) :
      Builds (.openObject :: ([.comma].intercalate (members.map Member.written) ++ [.closeObject]))
        (objectOf (members.map fun member => (member.key, member.tree)))

/-- **The texts that spell a tree.** -/
def Spells (text : List Char) (tree : Written) : Prop :=
  ∃ tokens, Json.CutInto text tokens ∧ Builds tokens tree

/-! ## Members so far -/

/-- The members so far, with more. -/
def MembersSoFar.addAll (members : MembersSoFar) (more : List Member) : MembersSoFar :=
  more.foldl (fun members member => members.add member.key member.tree) members

theorem MembersSoFar.close_addAll (members : MembersSoFar) (more : List Member) :
    (members.addAll more).close =
      match members, more.mapM fun member => member.key.map (·, member.tree) with
      | some members, some more => .object (members.reverse ++ more)
      | _, _ => .valueless := by
  induction more generalizing members with
  | nil =>
      cases members with
      | none => rfl
      | some members => exact congrArg Written.object (List.append_nil _).symm
  | cons member more ih =>
      rw [addAll, List.foldl_cons, ← addAll, ih, List.mapM_cons]
      cases members <;> cases member.key <;>
        cases more.mapM (fun member : Member => member.key.map (·, member.tree)) <;>
        simp [add]

theorem objectOf_eq (members : List Member) :
    objectOf (members.map fun member => (member.key, member.tree)) =
      (MembersSoFar.addAll (some []) members).close := by
  rw [MembersSoFar.close_addAll, objectOf, List.mapM_map]
  show (match members.mapM (fun member : Member => member.key.map (·, member.tree)) with
    | some members => Written.object members
    | none => .valueless) = _
  cases members.mapM (fun member : Member => member.key.map (·, member.tree)) <;> rfl

/-! ## What is built is found -/

/-- A value is found when its tokens lead past it, wherever it stands. -/
def Passes (tokens : List Token) (tree : Written) : Prop :=
  ∀ stack rest, build? (.value stack) (tokens ++ rest) = build? (.after tree stack) rest

theorem build?_items (items : List Item) (h : ∀ item ∈ items, Passes item.tokens item.tree)
    (before : List Written) (tree : Written) (stack : List Open) (rest : List Token) :
    build? (.after tree (.array before :: stack))
        (items.flatMap (fun item => .comma :: item.tokens) ++ .closeArray :: rest) =
      build? (.after (.array ((tree :: before).reverse ++ items.map Item.tree)) stack) rest := by
  -- the value just read joins those before it, which stand in reverse
  induction items generalizing before tree with
  | nil =>
      rw [List.map_nil, List.append_nil]
      rfl
  | cons item items ih =>
      obtain ⟨hitem, hitems⟩ := List.forall_mem_cons.mp h
      rw [List.flatMap_cons, List.cons_append, List.cons_append, List.append_assoc]
      show build? (.value _) _ = _
      rw [hitem, ih hitems, List.reverse_cons, List.append_assoc]
      rfl

theorem build?_member {member : Member} (h : Passes member.tokens member.tree)
    (before : MembersSoFar) (stack : List Open) (rest : List Token) :
    build? (.key before stack) (member.written ++ rest) =
      build? (.after member.tree (.object before member.key :: stack)) rest :=
  h (.object before member.key :: stack) rest

theorem build?_firstMember {member : Member} (h : Passes member.tokens member.tree)
    (stack : List Open) (rest : List Token) :
    build? (.firstKey stack) (member.written ++ rest) =
      build? (.after member.tree (.object (some []) member.key :: stack)) rest :=
  h (.object (some []) member.key :: stack) rest

theorem build?_members (members : List Member)
    (h : ∀ member ∈ members, Passes member.tokens member.tree)
    (before : MembersSoFar) (key : Option String) (tree : Written) (stack : List Open)
    (rest : List Token) :
    build? (.after tree (.object before key :: stack))
        (members.flatMap (fun member => .comma :: member.written) ++ .closeObject :: rest) =
      build? (.after ((before.add key tree).addAll members).close stack) rest := by
  induction members generalizing before key tree with
  | nil => rfl
  | cons member members ih =>
      obtain ⟨hmember, hmembers⟩ := List.forall_mem_cons.mp h
      rw [List.flatMap_cons, List.cons_append, List.cons_append, List.append_assoc]
      refine Eq.trans ?_ (ih hmembers _ _ _)
      exact build?_member hmember _ _ _

theorem Builds.exists_start {tokens : List Token} {tree : Written} (h : Builds tokens tree) :
    ∃ token rest, tokens = token :: rest ∧ token ≠ .closeArray := by
  cases h <;> exact ⟨_, _, rfl, nofun⟩

/-- The first item of an array is read as any value. -/
theorem build?_firstItem {tokens : List Token} {tree : Written} (h : Builds tokens tree)
    (stack : List Open) (rest : List Token) :
    build? (.firstItem stack) (tokens ++ rest) =
      build? (.value (.array [] :: stack)) (tokens ++ rest) := by
  obtain ⟨token, more, rfl, hclose⟩ := h.exists_start
  cases token with
  | closeArray => exact absurd rfl hclose
  | _ => rfl

/-- **What tokens build is found.** -/
theorem Builds.passes {tokens : List Token} {tree : Written} (h : Builds tokens tree) :
    Passes tokens tree := by
  induction h with
  | null | bool | number | string | tooLarge | halfPair => exact fun _ _ => rfl
  | array items h ih =>
      -- the first item is waited for in another state than those after a comma
      intro stack rest
      rw [List.cons_append]
      show build? (.firstItem stack) _ = _
      cases items with
      | nil => rfl
      | cons item items =>
          obtain ⟨hitem, hitems⟩ := List.forall_mem_cons.mp ih
          rw [List.map_cons, intercalate_cons, List.append_assoc, List.append_assoc,
            build?_firstItem (h _ List.mem_cons_self), hitem, List.flatMap_map]
          exact build?_items items hitems [] item.tree stack rest
  | object members h ih =>
      intro stack rest
      rw [List.cons_append, objectOf_eq]
      show build? (.firstKey stack) _ = _
      cases members with
      | nil => rfl
      | cons member members =>
          obtain ⟨hmember, hmembers⟩ := List.forall_mem_cons.mp ih
          rw [List.map_cons, intercalate_cons, List.append_assoc, List.append_assoc,
            build?_firstMember hmember, List.flatMap_map]
          exact build?_members members hmembers (some []) member.key member.tree stack rest

/-! ## What is found is built

`Closes` says which tokens close the containers still open once a value has been read, and
`Demands` which tokens the automaton can still accept.
-/

/-- The tokens that close the open containers after a value, and the tree of the whole. -/
def Closes : List Open → Written → List Token → Written → Prop
  | [], tree, tokens, whole => tokens = [] ∧ tree = whole
  | .array before :: stack, tree, tokens, whole =>
    ∃ (items : List Item) (rest : List Token), (∀ item ∈ items, Builds item.tokens item.tree) ∧
      tokens = items.flatMap (fun item => .comma :: item.tokens) ++ .closeArray :: rest ∧
      Closes stack (.array ((tree :: before).reverse ++ items.map Item.tree)) rest whole
  | .object before key :: stack, tree, tokens, whole =>
    ∃ (members : List Member) (rest : List Token),
      (∀ member ∈ members, Builds member.tokens member.tree) ∧
      tokens = members.flatMap (fun member => .comma :: member.written) ++ .closeObject :: rest ∧
      Closes stack ((before.add key tree).addAll members).close rest whole

/-- A value, and tokens that close the open containers after it. -/
def ValueThenCloses (stack : List Open) (tokens : List Token) (whole : Written) : Prop :=
  ∃ value tree rest, Builds value tree ∧ tokens = value ++ rest ∧ Closes stack tree rest whole

/-- The tokens that lead the automaton to a tree. -/
def Demands : Expect → List Token → Written → Prop
  | .value stack, tokens, whole => ValueThenCloses stack tokens whole
  | .firstItem stack, tokens, whole =>
    (∃ rest, tokens = .closeArray :: rest ∧ Closes stack (.array []) rest whole) ∨
      ValueThenCloses (.array [] :: stack) tokens whole
  | .firstKey stack, tokens, whole =>
    (∃ rest, tokens = .closeObject :: rest ∧ Closes stack (.object []) rest whole) ∨
      ∃ key rest, tokens = .string key :: .colon :: rest ∧
        ValueThenCloses (.object (some []) key :: stack) rest whole
  | .key before stack, tokens, whole =>
    ∃ key rest, tokens = .string key :: .colon :: rest ∧
      ValueThenCloses (.object before key :: stack) rest whole
  | .colon before key stack, tokens, whole =>
    ∃ rest, tokens = .colon :: rest ∧ ValueThenCloses (.object before key :: stack) rest whole
  | .after tree stack, tokens, whole => Closes stack tree tokens whole

/-- A value that is an array. -/
theorem valueThenCloses_array {stack : List Open} {tokens : List Token} {whole : Written}
    (h : Demands (.firstItem stack) tokens whole) :
    ValueThenCloses stack (.openArray :: tokens) whole := by
  obtain ⟨rest, rfl, hcloses⟩ |
    ⟨value, tree, _, hvalue, rfl, items, rest, hitems, rfl, hcloses⟩ := h
  · exact ⟨_, _, rest, .array [] nofun, rfl, hcloses⟩
  · refine ⟨_, _, rest, .array (⟨value, tree⟩ :: items)
      (List.forall_mem_cons.mpr ⟨hvalue, hitems⟩), ?_, hcloses⟩
    rw [List.map_cons, intercalate_cons, List.flatMap_map, List.cons_append, List.append_assoc,
      List.append_assoc]
    rfl

theorem valueThenCloses_object {stack : List Open} {tokens : List Token} {whole : Written}
    (h : Demands (.firstKey stack) tokens whole) :
    ValueThenCloses stack (.openObject :: tokens) whole := by
  obtain ⟨rest, rfl, hcloses⟩ |
    ⟨key, _, rfl, value, tree, _, hvalue, rfl, members, rest, hmembers, rfl, hcloses⟩ := h
  · exact ⟨_, _, rest, .object [] nofun, rfl, hcloses⟩
  · refine ⟨_, _, rest, .object (⟨key, value, tree⟩ :: members)
      (List.forall_mem_cons.mpr ⟨hvalue, hmembers⟩), ?_, ?_⟩
    · rw [List.map_cons, intercalate_cons, List.flatMap_map, List.cons_append, List.append_assoc,
        List.append_assoc]
      rfl
    · rw [objectOf_eq]
      exact hcloses

theorem demands_begin {stack : List Open} {token : Token} {next : Expect} {rest : List Token}
    {whole : Written} (hstep : begin? stack token = some next) (h : Demands next rest whole) :
    ValueThenCloses stack (token :: rest) whole := by
  have hscalar : ∀ {tree : Written}, Builds [token] tree → some (.after tree stack) = some next →
      ValueThenCloses stack (token :: rest) whole := by
    intro tree htree hnext
    cases hnext
    exact ⟨[token], tree, rest, htree, rfl, h⟩
  cases token with
  | null => exact hscalar .null hstep
  | bool b => exact hscalar (.bool b) hstep
  | number n =>
      cases n with
      | none => exact hscalar .tooLarge hstep
      | some n => exact hscalar (.number n) hstep
  | string s =>
      cases s with
      | none => exact hscalar .halfPair hstep
      | some s => exact hscalar (.string s) hstep
  | openArray =>
      cases hstep
      exact valueThenCloses_array h
  | openObject =>
      cases hstep
      exact valueThenCloses_object h
  | closeArray | closeObject | comma | colon => cases hstep

theorem closes_of_step {tree : Written} {stack : List Open} {next : Expect} {token : Token}
    {rest : List Token} {whole : Written} (hstep : step? (.after tree stack) token = some next)
    (h : Demands next rest whole) : Closes stack tree (token :: rest) whole := by
  -- what is open decides: a comma adds one more part to it, its own sign closes it
  cases stack with
  | nil => cases token <;> cases hstep
  | cons container stack =>
      cases container with
      | array before =>
          cases token with
          | comma =>
              cases hstep
              obtain ⟨value, item, _, hvalue, rfl, items, rest, hitems, rfl, hcloses⟩ := h
              refine ⟨⟨value, item⟩ :: items, rest,
                List.forall_mem_cons.mpr ⟨hvalue, hitems⟩, ?_, ?_⟩
              · rw [List.flatMap_cons, List.cons_append, List.cons_append, List.append_assoc]
              · rwa [List.reverse_cons, List.append_assoc] at hcloses
          | closeArray =>
              cases hstep
              refine ⟨[], rest, nofun, rfl, ?_⟩
              rwa [List.map_nil, List.append_nil]
          | _ => cases hstep
      | object before key =>
          cases token with
          | comma =>
              cases hstep
              obtain ⟨key', _, rfl, value, member, _, hvalue, rfl, members, rest, hmembers, rfl,
                hcloses⟩ := h
              refine ⟨⟨key', value, member⟩ :: members, rest,
                List.forall_mem_cons.mpr ⟨hvalue, hmembers⟩, ?_, hcloses⟩
              rw [List.flatMap_cons, List.cons_append, List.cons_append, List.append_assoc]
              rfl
          | closeObject =>
              cases hstep
              exact ⟨[], rest, nofun, rfl, h⟩
          | _ => cases hstep

theorem demands_of_step {expect next : Expect} {token : Token} {rest : List Token}
    {whole : Written} (hstep : step? expect token = some next) (h : Demands next rest whole) :
    Demands expect (token :: rest) whole := by
  -- by what the automaton waits for; every other token stops it
  cases expect with
  | value stack => exact demands_begin hstep h
  | firstItem stack =>
      cases token with
      | closeArray =>
          cases hstep
          exact .inl ⟨rest, rfl, h⟩
      | _ => exact .inr (demands_begin hstep h)
  | firstKey stack =>
      cases token with
      | closeObject =>
          cases hstep
          exact .inl ⟨rest, rfl, h⟩
      | string key =>
          cases hstep
          obtain ⟨rest, rfl, hvalue⟩ := h
          exact .inr ⟨key, rest, rfl, hvalue⟩
      | _ => cases hstep
  | key before stack =>
      cases token with
      | string key =>
          cases hstep
          obtain ⟨rest, rfl, hvalue⟩ := h
          exact ⟨key, rest, rfl, hvalue⟩
      | _ => cases hstep
  | colon before key stack =>
      cases token with
      | colon =>
          cases hstep
          exact ⟨rest, rfl, h⟩
      | _ => cases hstep
  | after tree stack => exact closes_of_step hstep h

theorem demands_of_build? {expect : Expect} {tokens : List Token} {whole : Written}
    (h : build? expect tokens = some whole) : Demands expect tokens whole := by
  induction tokens generalizing expect with
  | nil =>
      cases expect with
      | after tree stack =>
          cases stack with
          | nil => exact ⟨rfl, Option.some.inj h⟩
          | cons _ _ => cases h
      | _ => cases h
  | cons token rest ih =>
      cases hstep : step? expect token with
      | none =>
          rw [build?, hstep] at h
          cases h
      | some next =>
          rw [build?, hstep] at h
          exact demands_of_step hstep (ih h)

/-- **The automaton finds the tree that tokens build.** -/
theorem build?_eq_some_iff (tokens : List Token) (tree : Written) :
    build? (.value []) tokens = some tree ↔ Builds tokens tree := by
  constructor
  · intro h
    obtain ⟨value, _, _, hvalue, rfl, rfl, rfl⟩ := demands_of_build? h
    rwa [List.append_nil]
  · intro h
    have hpasses := h.passes [] []
    rwa [List.append_nil] at hpasses

/-- **A text is read as the tree that it spells.** -/
theorem read?_eq_some_iff (text : String) (tree : Written) :
    read? text = some tree ↔ Spells text.toList tree := by
  simp only [read?, Option.bind_eq_some_iff, Json.tokens?_eq_some_iff, build?_eq_some_iff, Spells]

/-- A text spells one tree at most. -/
theorem Spells.unique {text : List Char} {a b : Written} (ha : Spells text a)
    (hb : Spells text b) : a = b := by
  rw [← String.toList_ofList (l := text), ← read?_eq_some_iff] at ha hb
  exact Option.some.inj (ha.symm.trans hb)

end BucketQuery.Written
