import TemplateEngine.Expr.Eval

/-!
# `Expr` · One walk

Expressions are walked in two ways, without waiting and with waiting. Both are cases of one walk.

* **`Walking`** says in what walks differ: what an `await` does with its operand, and which trees
  are handed to another walk. **`Expr.walkBy`** is the walk with everything else.
* **Both walks** (`walk_eq_walkBy`, `walkAwaiting_eq_walkBy`): the one hands nothing over and fails
  at an `await`, the other waits there and hands the trees without an `await` to the first.
* **`walkBy_congr`**: two walks over a tree agree if handing over makes no difference and their
  `await` is the same one, which only matters if there is one in the tree.
* **`evaluations_agree`**: handing trees over makes no difference at all.
-/

namespace TemplateEngine

open Render

variable {σ : Type}

/-- In what walks over an expression differ. -/
structure Walking (σ : Type) where
  /-- What an `await` makes of its operand. -/
  await : Render σ Value → Render σ Value
  /-- The value of a tree that is handed to another walk. -/
  handed : Expr → Option (Render σ Value)

namespace Walking

/-- Nothing is handed over. -/
def alone (await : Render σ Value → Render σ Value) : Walking σ := ⟨await, fun _ => none⟩

/-- An `await` fails. -/
def straying : Walking σ := alone fun _ => raise (.expression .strayAwait)

/-- An `await` evaluates its operand, and waits for the value if it is a promise. -/
def waiting (wait : PromiseId → Render σ Value) : Walking σ :=
  alone fun operand => operand >>= Expr.awaitValue wait

/-- Trees without an `await` are handed over. -/
def handing (w : Walking σ) (other : Expr → Render σ Value) : Walking σ :=
  ⟨w.await, fun e => if e.containsAwait then none else some (other e)⟩

/-- The value of a tree: that of the other walk, or that of its chain here. -/
def value (w : Walking σ) (e : Expr) (chain : Render σ (Option Value)) : Render σ Value :=
  (w.handed e).getD (settle chain)

end Walking

namespace Expr

/-- A tree that goes on a chain: a member, a key or a call. -/
def isLink : Expr → Bool
  | .member _ _ _ => true
  | .index _ _ _ => true
  | .call _ _ _ => true
  | _ => false

/-- The chain in front of a link. Its head, which is no link, has a value of its own. -/
def chainBy (w : Walking σ) (e : Expr) (chain : Render σ (Option Value)) :
    Render σ (Option Value) :=
  if e.isLink then chain else some <$> w.value e chain

mutual

/-- The value of an expression, or nothing for a chain that an optional link ended. -/
def walkBy (w : Walking σ) (host : Host σ) (scope : Scope) : Expr → Render σ (Option Value)
  | .number x => return some (.number x)
  | .string s => return some (.string s)
  | .bool b => return some (.bool b)
  | .null => return some .null
  | .undefined => return some .undefined
  | .root => return some (.object scope.data)
  | .ident name => return some (← lookup scope name)
  | .array items => return some (.array (← walkItemsBy w host scope items))
  | .object entries => return some (← makeObject (← walkEntriesBy w host scope entries))
  | .member holder name optional =>
    link (chainBy w holder (walkBy w host scope holder)) optional fun value =>
      readMember value name holder
  | .index holder key optional =>
    link (chainBy w holder (walkBy w host scope holder)) optional fun value => do
      let key ← w.value key (walkBy w host scope key)
      readMember value key.display holder
  | .call callee args optional =>
    link (chainBy w callee (walkBy w host scope callee)) optional fun value => do
      let args ← walkItemsBy w host scope args
      callValue host value args callee
  | .unary op operand => return some (op.apply (← w.value operand (walkBy w host scope operand)))
  | .await operand => some <$> w.await (w.value operand (walkBy w host scope operand))
  | .binary op left right => do
    let left ← w.value left (walkBy w host scope left)
    let right ← w.value right (walkBy w host scope right)
    return some (op.apply left right)
  | .logical op left right => do
    let left ← w.value left (walkBy w host scope left)
    if op.isDecided left then return some left
    else some <$> w.value right (walkBy w host scope right)
  | .conditional test consequent alternate => do
    let test ← w.value test (walkBy w host scope test)
    if test.truthy then some <$> w.value consequent (walkBy w host scope consequent)
    else some <$> w.value alternate (walkBy w host scope alternate)
  | .assign (.ident name) value => do
    let value ← w.value value (walkBy w host scope value)
    some <$> assignName scope name value
  | .assign (.member holder name _) value => do
    let value ← w.value value (walkBy w host scope value)
    let holder ← w.value holder (walkBy w host scope holder)
    some <$> assignMember holder name value
  | .assign (.index holder key _) value => do
    let value ← w.value value (walkBy w host scope value)
    let holder ← w.value holder (walkBy w host scope holder)
    let key ← w.value key (walkBy w host scope key)
    some <$> assignMember holder key.display value
  | .assign target value => do
    let _ ← w.value value (walkBy w host scope value)
    raise (.expression (.badTarget target.describe))

/-- The values of expressions from left to right. -/
def walkItemsBy (w : Walking σ) (host : Host σ) (scope : Scope) :
    List Expr → Render σ (List Value)
  | [] => return []
  | item :: rest => do
    let value ← w.value item (walkBy w host scope item)
    let values ← walkItemsBy w host scope rest
    return value :: values

/-- The values of entries from left to right. -/
def walkEntriesBy (w : Walking σ) (host : Host σ) (scope : Scope) :
    List (String × Expr) → Render σ (List (String × Value))
  | [] => return []
  | (key, e) :: rest => do
    let value ← w.value e (walkBy w host scope e)
    let values ← walkEntriesBy w host scope rest
    return (key, value) :: values

end

/-- The value of an expression. -/
def evalBy (w : Walking σ) (host : Host σ) (scope : Scope) (e : Expr) : Render σ Value :=
  w.value e (walkBy w host scope e)

variable {w w' : Walking σ} {host : Host σ} {scope : Scope} {wait : PromiseId → Render σ Value}
  {e : Expr}

/-! ## Chains that are not ended -/

theorem settle_some (x : Render σ Value) : settle (some <$> x) = x := by
  simp [settle]

theorem some_settle_some (x : Render σ Value) : some <$> settle (some <$> x) = some <$> x := by
  rw [settle_some]

theorem some_settle_pure (value : Value) :
    some <$> settle (pure (some value) : Render σ (Option Value)) = pure (some value) := by
  simp [settle]

theorem some_settle_bind {α : Type} {x : Render σ α} {f : α → Render σ (Option Value)}
    (h : ∀ a, some <$> settle (f a) = f a) : some <$> settle (x >>= f) = x >>= f := by
  have hsettle : settle (x >>= f) = x >>= fun a => settle (f a) := by simp [settle]
  rw [hsettle, map_bind]
  exact bind_congr h

/-- Only links can end a chain. -/
theorem some_settle_walkBy (h : e.isLink = false) :
    some <$> settle (walkBy w host scope e) = walkBy w host scope e := by
  cases e with
  | number x => exact some_settle_pure _
  | string s => exact some_settle_pure _
  | bool b => exact some_settle_pure _
  | null => exact some_settle_pure _
  | undefined => exact some_settle_pure _
  | root => exact some_settle_pure _
  | ident name => exact some_settle_bind fun _ => some_settle_pure _
  | array items => exact some_settle_bind fun _ => some_settle_pure _
  | object entries => exact some_settle_bind fun _ => some_settle_bind fun _ => some_settle_pure _
  | member holder name optional => cases h
  | index holder key optional => cases h
  | call callee args optional => cases h
  | unary op operand => exact some_settle_bind fun _ => some_settle_pure _
  | await operand => exact some_settle_some _
  | binary op left right =>
    exact some_settle_bind fun _ => some_settle_bind fun _ => some_settle_pure _
  | logical op left right =>
    refine some_settle_bind fun value => ?_
    split
    · exact some_settle_pure value
    · exact some_settle_some _
  | conditional test consequent alternate =>
    refine some_settle_bind fun value => ?_
    split
    · exact some_settle_some _
    · exact some_settle_some _
  | assign target value =>
    cases target with
    | ident name => exact some_settle_bind fun _ => some_settle_some _
    | member holder name optional =>
      exact some_settle_bind fun _ => some_settle_bind fun _ => some_settle_some _
    | index holder key optional =>
      exact some_settle_bind fun _ => some_settle_bind fun _ => some_settle_bind fun _ =>
        some_settle_some _
    | _ => exact some_settle_bind fun _ => rfl

/-- The head of a chain is walked like any other part of it if it is not handed over. -/
theorem chainBy_eq (h : w.value e (walkBy w host scope e) = settle (walkBy w host scope e)) :
    chainBy w e (walkBy w host scope e) = walkBy w host scope e := by
  unfold chainBy
  split
  · rfl
  · next hlink =>
    rw [h]
    exact some_settle_walkBy (Bool.eq_false_iff.2 hlink)

/-! ## Walks that agree -/

section Agreement

variable (hvalue : ∀ e, walkBy w host scope e = walkBy w' host scope e →
  w.value e (walkBy w host scope e) = w'.value e (walkBy w' host scope e))

include hvalue

theorem chainBy_congr (h : walkBy w host scope e = walkBy w' host scope e) :
    chainBy w e (walkBy w host scope e) = chainBy w' e (walkBy w' host scope e) := by
  rw [chainBy, hvalue e h, h]
  rfl

mutual

/-- Two walks agree on a tree if the trees that they hand over have the values that they have here,
and every `await` in the tree does the same. -/
theorem walkBy_congr : (e : Expr) → (e.containsAwait = true → w.await = w'.await) →
    walkBy w host scope e = walkBy w' host scope e
  | .number _, _ => rfl
  | .string _, _ => rfl
  | .bool _, _ => rfl
  | .null, _ => rfl
  | .undefined, _ => rfl
  | .root, _ => rfl
  | .ident _, _ => rfl
  | .array items, hawait => by
    rw [walkBy, walkBy, walkItemsBy_congr items hawait]
  | .object entries, hawait => by
    rw [walkBy, walkBy, walkEntriesBy_congr entries hawait]
  | .member holder name optional, hawait => by
    rw [walkBy, walkBy, chainBy_congr hvalue (walkBy_congr holder hawait)]
  | .index holder key optional, hawait => by
    have hholder := walkBy_congr holder fun h => hawait (by simp [containsAwait, h])
    have hkey := walkBy_congr key fun h => hawait (by simp [containsAwait, h])
    rw [walkBy, walkBy, chainBy_congr hvalue hholder, hvalue key hkey]
  | .call callee args optional, hawait => by
    have hcallee := walkBy_congr callee fun h => hawait (by simp [containsAwait, h])
    have hargs := walkItemsBy_congr args fun h => hawait (by simp [containsAwait, h])
    rw [walkBy, walkBy, chainBy_congr hvalue hcallee, hargs]
  | .unary op operand, hawait => by
    rw [walkBy, walkBy, hvalue operand (walkBy_congr operand hawait)]
  | .await operand, hawait => by
    have hoperand := walkBy_congr operand fun _ => hawait rfl
    rw [walkBy, walkBy, hvalue operand hoperand, hawait rfl]
  | .binary op left right, hawait => by
    have hleft := walkBy_congr left fun h => hawait (by simp [containsAwait, h])
    have hright := walkBy_congr right fun h => hawait (by simp [containsAwait, h])
    rw [walkBy, walkBy, hvalue left hleft, hvalue right hright]
  | .logical op left right, hawait => by
    have hleft := walkBy_congr left fun h => hawait (by simp [containsAwait, h])
    have hright := walkBy_congr right fun h => hawait (by simp [containsAwait, h])
    rw [walkBy, walkBy, hvalue left hleft, hvalue right hright]
  | .conditional test consequent alternate, hawait => by
    have htest := walkBy_congr test fun h => hawait (by simp [containsAwait, h])
    have hconsequent := walkBy_congr consequent fun h => hawait (by simp [containsAwait, h])
    have halternate := walkBy_congr alternate fun h => hawait (by simp [containsAwait, h])
    rw [walkBy, walkBy, hvalue test htest, hvalue consequent hconsequent,
      hvalue alternate halternate]
  | .assign target value, hawait => by
    have hval := hvalue value (walkBy_congr value fun h => hawait (by simp [containsAwait, h]))
    cases target with
    | ident name => rw [walkBy, walkBy, hval]
    | member holder name optional =>
      have hholder := walkBy_congr holder fun h => hawait (by simp [containsAwait, h])
      rw [walkBy, walkBy, hval, hvalue holder hholder]
    | index holder key optional =>
      have hholder := walkBy_congr holder fun h => hawait (by simp [containsAwait, h])
      have hkey := walkBy_congr key fun h => hawait (by simp [containsAwait, h])
      rw [walkBy, walkBy, hval, hvalue holder hholder, hvalue key hkey]
    | _ => simp only [walkBy, hval]

theorem walkItemsBy_congr : (items : List Expr) →
    (anyAwait items = true → w.await = w'.await) →
      walkItemsBy w host scope items = walkItemsBy w' host scope items
  | [], _ => rfl
  | item :: rest, hawait => by
    have hitem := walkBy_congr item fun h => hawait (by simp [anyAwait, h])
    have hrest := walkItemsBy_congr rest fun h => hawait (by simp [anyAwait, h])
    rw [walkItemsBy, walkItemsBy, hvalue item hitem, hrest]

theorem walkEntriesBy_congr : (entries : List (String × Expr)) →
    (anyEntryAwait entries = true → w.await = w'.await) →
      walkEntriesBy w host scope entries = walkEntriesBy w' host scope entries
  | [], _ => rfl
  | (_, e) :: rest, hawait => by
    have he := walkBy_congr e fun h => hawait (by simp [anyEntryAwait, h])
    have hrest := walkEntriesBy_congr rest fun h => hawait (by simp [anyEntryAwait, h])
    rw [walkEntriesBy, walkEntriesBy, hvalue e he, hrest]

end

end Agreement

/-- What an `await` does makes no difference to a tree without one. -/
theorem walkBy_alone (await await' : Render σ Value → Render σ Value)
    (h : e.containsAwait = false) :
    walkBy (.alone await) host scope e = walkBy (.alone await') host scope e := by
  apply walkBy_congr
  · intro other hother
    exact congrArg settle hother
  · intro hawait
    rw [hawait] at h
    cases h

/-- Handing a tree without an `await` over to a walk that hands nothing over. -/
theorem handing_value (await await' : Render σ Value → Render σ Value) (e : Expr)
    (h : walkBy ((Walking.alone await).handing (evalBy (.alone await') host scope)) host scope e =
      walkBy (.alone await) host scope e) :
    evalBy ((Walking.alone await).handing (evalBy (.alone await') host scope)) host scope e =
      evalBy (.alone await) host scope e := by
  unfold evalBy Walking.value Walking.handing
  dsimp only
  split
  · exact congrArg settle h
  · next hnone => exact congrArg settle (walkBy_alone _ _ (Bool.eq_false_iff.2 hnone))

/-- Handing over trees without an `await` makes no difference. -/
theorem walkBy_handing (await await' : Render σ Value → Render σ Value) (e : Expr) :
    walkBy ((Walking.alone await).handing (evalBy (.alone await') host scope)) host scope e =
      walkBy (.alone await) host scope e :=
  walkBy_congr (handing_value await await') e fun _ => rfl

theorem evalBy_handing (await await' : Render σ Value → Render σ Value) (e : Expr) :
    evalBy ((Walking.alone await).handing (evalBy (.alone await') host scope)) host scope e =
      evalBy (.alone await) host scope e :=
  handing_value await await' e (walkBy_handing await await' e)

/-! ## The walk without waiting -/

mutual

/-- The walk without waiting hands nothing over, and fails at an `await`. -/
theorem walk_eq_walkBy : (e : Expr) → walk host scope e = walkBy .straying host scope e
  | .number _ => rfl
  | .string _ => rfl
  | .bool _ => rfl
  | .null => rfl
  | .undefined => rfl
  | .root => rfl
  | .ident _ => rfl
  | .array items => by rw [walk, walkBy, walkItems_eq_walkItemsBy items]
  | .object entries => by rw [walk, walkBy, walkEntries_eq_walkEntriesBy entries]
  | .member holder name optional => by
    rw [walk, walkBy, chainBy_eq rfl, walk_eq_walkBy holder]
  | .index holder key optional => by
    rw [walk, walkBy, chainBy_eq rfl, walk_eq_walkBy holder, walk_eq_walkBy key]
    rfl
  | .call callee args optional => by
    rw [walk, walkBy, chainBy_eq rfl, walk_eq_walkBy callee, walkItems_eq_walkItemsBy args]
  | .unary op operand => by
    rw [walk, walkBy, walk_eq_walkBy operand]
    rfl
  | .await _ => rfl
  | .binary op left right => by
    rw [walk, walkBy, walk_eq_walkBy left, walk_eq_walkBy right]
    rfl
  | .logical op left right => by
    rw [walk, walkBy, walk_eq_walkBy left, walk_eq_walkBy right]
    rfl
  | .conditional test consequent alternate => by
    rw [walk, walkBy, walk_eq_walkBy test, walk_eq_walkBy consequent, walk_eq_walkBy alternate]
    rfl
  | .assign target value => by
    have hvalue := walk_eq_walkBy value
    cases target with
    | ident name =>
      rw [walk, walkBy, hvalue]
      rfl
    | member holder name optional =>
      rw [walk, walkBy, hvalue, walk_eq_walkBy holder]
      rfl
    | index holder key optional =>
      rw [walk, walkBy, hvalue, walk_eq_walkBy holder, walk_eq_walkBy key]
      rfl
    | _ =>
      simp only [walk, walkBy, hvalue]
      rfl

theorem walkItems_eq_walkItemsBy : (items : List Expr) →
    walkItems host scope items = walkItemsBy .straying host scope items
  | [] => rfl
  | item :: rest => by
    rw [walkItems, walkItemsBy, walk_eq_walkBy item, walkItems_eq_walkItemsBy rest]
    rfl

theorem walkEntries_eq_walkEntriesBy : (entries : List (String × Expr)) →
    walkEntries host scope entries = walkEntriesBy .straying host scope entries
  | [] => rfl
  | (_, e) :: rest => by
    rw [walkEntries, walkEntriesBy, walk_eq_walkBy e, walkEntries_eq_walkEntriesBy rest]
    rfl

end

theorem eval_eq_evalBy : eval host scope = evalBy .straying host scope :=
  funext fun e => congrArg settle (walk_eq_walkBy e)

/-! ## The walk with waiting -/

/-- The walk that waits at an `await` and hands trees without one to the walk without waiting. -/
def handingOver (host : Host σ) (wait : PromiseId → Render σ Value) (scope : Scope) : Walking σ :=
  (Walking.waiting wait).handing (eval host scope)

theorem whole_eq_value (wait : PromiseId → Render σ Value) {chain : Render σ (Option Value)} :
    whole host scope e chain = (handingOver host wait scope).value e chain := by
  unfold whole Walking.value handingOver Walking.handing
  dsimp only
  split
  · rfl
  · rfl

theorem walkBy_handingOver (e : Expr) :
    walkBy (handingOver host wait scope) host scope e = walkBy (.waiting wait) host scope e := by
  rw [handingOver, eval_eq_evalBy]
  exact walkBy_handing _ _ e

theorem evalBy_handingOver (e : Expr) :
    evalBy (handingOver host wait scope) host scope e = evalBy (.waiting wait) host scope e := by
  rw [handingOver, eval_eq_evalBy]
  exact evalBy_handing _ _ e

/-- A tree that is no link and has no `await`. -/
theorem some_eval_eq (hlink : e.isLink = false) (h : e.containsAwait = false) :
    some <$> eval host scope e = walkBy (handingOver host wait scope) host scope e := by
  rw [walkBy_handingOver, Walking.waiting, walkBy_alone _ _ h, eval_eq_evalBy]
  exact some_settle_walkBy hlink

theorem chainBy_handingOver (e : Expr) :
    chainBy (handingOver host wait scope) e (walkBy (handingOver host wait scope) host scope e) =
      walkBy (handingOver host wait scope) host scope e :=
  chainBy_eq ((evalBy_handingOver e).trans (congrArg settle (walkBy_handingOver e).symm))

mutual

/-- The walk with waiting waits at an `await` and hands the trees without one to the other walk. -/
theorem walkAwaiting_eq_walkBy : (e : Expr) →
    walkAwaiting host wait scope e = walkBy (handingOver host wait scope) host scope e
  | .number _ => some_eval_eq rfl rfl
  | .string _ => some_eval_eq rfl rfl
  | .bool _ => some_eval_eq rfl rfl
  | .null => some_eval_eq rfl rfl
  | .undefined => some_eval_eq rfl rfl
  | .root => some_eval_eq rfl rfl
  | .ident _ => some_eval_eq rfl rfl
  | .await operand => by
    rw [walkAwaiting, walkBy, whole_eq_value, walkAwaiting_eq_walkBy operand]
    exact (map_bind _ _ _).symm
  | .member holder name optional => by
    rw [walkAwaiting, walkBy, chainBy_handingOver, walkAwaiting_eq_walkBy holder]
  | .index holder key optional => by
    rw [walkAwaiting, walkBy, chainBy_handingOver, walkAwaiting_eq_walkBy holder, whole_eq_value,
      walkAwaiting_eq_walkBy key]
  | .call callee args optional => by
    rw [walkAwaiting, walkBy, chainBy_handingOver, walkAwaiting_eq_walkBy callee,
      walkItemsAwaiting_eq args]
  | .array items => by
    rw [walkAwaiting]
    split
    · rw [walkBy, walkItemsAwaiting_eq items]
    · next h => exact some_eval_eq rfl (Bool.eq_false_iff.2 h)
  | .object entries => by
    rw [walkAwaiting]
    split
    · rw [walkBy, walkEntriesAwaiting_eq entries]
    · next h => exact some_eval_eq rfl (Bool.eq_false_iff.2 h)
  | .unary op operand => by
    rw [walkAwaiting]
    split
    · rw [walkBy, whole_eq_value, walkAwaiting_eq_walkBy operand]
    · next h => exact some_eval_eq rfl (Bool.eq_false_iff.2 h)
  | .binary op left right => by
    rw [walkAwaiting]
    split
    · rw [walkBy, whole_eq_value, whole_eq_value, walkAwaiting_eq_walkBy left,
        walkAwaiting_eq_walkBy right]
    · next h => exact some_eval_eq rfl (Bool.eq_false_iff.2 h)
  | .logical op left right => by
    rw [walkAwaiting]
    split
    · rw [walkBy, whole_eq_value, whole_eq_value, walkAwaiting_eq_walkBy left,
        walkAwaiting_eq_walkBy right]
    · next h => exact some_eval_eq rfl (Bool.eq_false_iff.2 h)
  | .conditional test consequent alternate => by
    rw [walkAwaiting]
    split
    · rw [walkBy, whole_eq_value, whole_eq_value, whole_eq_value, walkAwaiting_eq_walkBy test,
        walkAwaiting_eq_walkBy consequent, walkAwaiting_eq_walkBy alternate]
    · next h => exact some_eval_eq rfl (Bool.eq_false_iff.2 h)
  | .assign target value => by
    have hvalue := walkAwaiting_eq_walkBy value
    cases target with
    | ident name =>
      rw [walkAwaiting]
      split
      · rw [walkBy, whole_eq_value, hvalue]
      · next h => exact some_eval_eq rfl (Bool.eq_false_iff.2 h)
    | member holder name optional =>
      rw [walkAwaiting]
      split
      · rw [walkBy, whole_eq_value, whole_eq_value, hvalue, walkAwaiting_eq_walkBy holder]
      · next h => exact some_eval_eq rfl (Bool.eq_false_iff.2 h)
    | index holder key optional =>
      rw [walkAwaiting]
      split
      · rw [walkBy, whole_eq_value, whole_eq_value, whole_eq_value, hvalue,
          walkAwaiting_eq_walkBy holder, walkAwaiting_eq_walkBy key]
      · next h => exact some_eval_eq rfl (Bool.eq_false_iff.2 h)
    | _ =>
      simp only [walkAwaiting]
      split
      · simp only [walkBy, whole_eq_value wait, hvalue]
      · next h => exact some_eval_eq rfl (Bool.eq_false_iff.2 h)

theorem walkItemsAwaiting_eq : (items : List Expr) → walkItemsAwaiting host wait scope items =
    walkItemsBy (handingOver host wait scope) host scope items
  | [] => rfl
  | item :: rest => by
    rw [walkItemsAwaiting, walkItemsBy, whole_eq_value, walkAwaiting_eq_walkBy item,
      walkItemsAwaiting_eq rest]

theorem walkEntriesAwaiting_eq : (entries : List (String × Expr)) →
    walkEntriesAwaiting host wait scope entries =
      walkEntriesBy (handingOver host wait scope) host scope entries
  | [] => rfl
  | (_, e) :: rest => by
    rw [walkEntriesAwaiting, walkEntriesBy, whole_eq_value, walkAwaiting_eq_walkBy e,
      walkEntriesAwaiting_eq rest]

end

/-! ## The two walks are one -/

theorem walkAwaiting_eq_walkBy_waiting (e : Expr) :
    walkAwaiting host wait scope e = walkBy (.waiting wait) host scope e :=
  (walkAwaiting_eq_walkBy e).trans (walkBy_handingOver e)

theorem evalAwaiting_eq_evalBy (e : Expr) :
    evalAwaiting host wait scope e = evalBy (.waiting wait) host scope e := by
  rw [evalAwaiting, whole_eq_value, walkAwaiting_eq_walkBy]
  exact evalBy_handingOver e

/-- Evaluation with waiting is evaluation by the clauses of the walk without waiting and one more:
`await` evaluates its operand and, if the value is a promise, waits for it. Both are equal as
computations: they end alike, call the same native functions in the same order, and leave the same
store. The same holds of the chains that the walk with waiting visits itself. Without an `await` it
is evaluation without waiting. -/
theorem evaluations_agree (host : Host σ) (wait : PromiseId → Render σ Value) (scope : Scope)
    (e : Expr) :
    evalAwaiting host wait scope e = evalBy (.waiting wait) host scope e ∧
      walkAwaiting host wait scope e = walkBy (.waiting wait) host scope e ∧
        (e.containsAwait = false → evalAwaiting host wait scope e = eval host scope e ∧
          walkAwaiting host wait scope e = walk host scope e) := by
  refine ⟨evalAwaiting_eq_evalBy e, walkAwaiting_eq_walkBy_waiting e, fun h => ?_⟩
  have hwalk : walkBy (.waiting wait) host scope e = walk host scope e :=
    (walkBy_alone _ _ h).trans (walk_eq_walkBy e).symm
  exact ⟨(evalAwaiting_eq_evalBy e).trans (congrArg settle hwalk),
    (walkAwaiting_eq_walkBy_waiting e).trans hwalk⟩

end Expr

end TemplateEngine
