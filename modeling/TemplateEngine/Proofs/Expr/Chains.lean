import Mathlib.Data.List.Induction
import TemplateEngine.Proofs.Expr.Walking
import TemplateEngine.Proofs.Render.Operations
import TemplateEngine.RenderCommand

/-!
# `Expr` · Chains

What an optional link does to the chain behind it.

* **`Link`** is a link without what it stands behind. `Expr.chain` puts links behind an expression,
  each of them optional or not.
* **Ended chains.** An optional link on a missing value ends the chain there, and then no link that
  follows does anything (`exec_walkBy_chain`): neither its key nor its arguments are evaluated, and
  nothing is called.
* **Marks.** On any other value the mark of a link makes no difference to what is done. It shows in
  the texts of errors: an error about a later link names the chain in front of it as it is written.
  `Remarked` says of two outcomes that they differ in nothing else.
-/

namespace TemplateEngine

open Render

variable {σ : Type}

/-- A link of a chain. -/
inductive Link where
  /-- A member with a name. -/
  | member (name : String)
  /-- A member with a computed key. -/
  | index (key : Expr)
  /-- A call. -/
  | call (args : List Expr)

/-- An expression with a link behind it. -/
def Link.behind (holder : Expr) (optional : Bool) : Link → Expr
  | member name => .member holder name optional
  | index key => .index holder key optional
  | call args => .call holder args optional

namespace Expr

/-- An expression with links behind it, each optional or not. -/
def chain (base : Expr) (links : List (Link × Bool)) : Expr :=
  links.foldl (fun holder link => link.1.behind holder link.2) base

@[simp] theorem chain_nil (base : Expr) : base.chain [] = base := rfl

theorem chain_cons (base : Expr) (first : Link × Bool) (rest : List (Link × Bool)) :
    base.chain (first :: rest) = (first.1.behind base first.2).chain rest := rfl

theorem chain_concat (base : Expr) (links : List (Link × Bool)) (last : Link × Bool) :
    base.chain (links ++ [last]) = last.1.behind (base.chain links) last.2 :=
  List.foldl_append

variable {host : Host σ} {scope : Scope} {await : Render σ Value → Render σ Value}

/-! ## One link -/

/-- What a link does with the value in front of it, which the expression `source` gave. -/
def follow (await : Render σ Value → Render σ Value) (host : Host σ) (scope : Scope)
    (source : Expr) (value : Value) : Link → Render σ Value
  | .member name => readMember value name source
  | .index key => do
    let key ← evalBy (.alone await) host scope key
    readMember value key.display source
  | .call args => do
    let args ← walkItemsBy (.alone await) host scope args
    callValue host value args source

theorem walkBy_behind (holder : Expr) (link : Link) (optional : Bool) :
    walkBy (.alone await) host scope (link.behind holder optional) =
      TemplateEngine.link (walkBy (.alone await) host scope holder) optional fun value =>
        follow await host scope holder value link := by
  cases link with
  | member name => rw [Link.behind, walkBy, chainBy_eq rfl]; rfl
  | index key => rw [Link.behind, walkBy, chainBy_eq rfl]; rfl
  | call args => rw [Link.behind, walkBy, chainBy_eq rfl]; rfl

theorem exec_link (chain : Render σ (Option Value)) (optional : Bool)
    (next : Value → Render σ Value) (store : Store σ) :
    exec (TemplateEngine.link chain optional next) store =
      match exec chain store with
      | (.ok none, after) => (.ok none, after)
      | (.ok (some value), after) =>
        if optional && value.isNullish then (.ok none, after)
        else exec (some <$> next value) after
      | (.error stop, after) => (.error stop, after) := by
  unfold TemplateEngine.link
  rw [exec_bind]
  rcases exec chain store with ⟨stop | value, after⟩
  · rfl
  · cases value with
    | none => rfl
    | some value =>
      dsimp only
      split
      · rfl
      · rfl

/-- A chain that goes on has the value of its last link. -/
theorem exec_settle_link {chain : Render σ (Option Value)} {value : Value} {s t : Store σ}
    (h : exec chain s = (.ok (some value), t)) (next : Value → Render σ Value) :
    exec (settle (TemplateEngine.link chain false next)) s = exec (next value) t := by
  unfold settle TemplateEngine.link
  rw [bind_assoc, exec_bind_ok h]
  show exec (next value >>= _ >>= _) t = _
  rw [bind_assoc]
  exact congrArg (exec · t) (bind_pure (next value))

/-! ## Ended chains -/

variable {base : Expr} {s t : Store σ} {value : Value}

/-- The links behind an ended chain do nothing. -/
theorem exec_walkBy_chain (h : exec (walkBy (.alone await) host scope base) s = (.ok none, t))
    (links : List (Link × Bool)) :
    exec (walkBy (.alone await) host scope (base.chain links)) s = (.ok none, t) := by
  induction links generalizing base with
  | nil => exact h
  | cons first rest ih =>
    rw [chain_cons]
    apply ih
    rw [walkBy_behind, exec_link, h]

/-- A value comes from a chain that was ended, or from one that was not. -/
theorem exec_settle_eq_ok {chain : Render σ (Option Value)}
    (h : exec (settle chain) s = (.ok value, t)) :
    (exec chain s = (.ok none, t) ∧ value = .undefined) ∨ exec chain s = (.ok (some value), t) := by
  obtain ⟨result, middle, hchain, hvalue⟩ := exec_bind_eq_ok h
  cases result with
  | none =>
    cases hvalue
    exact .inl ⟨hchain, rfl⟩
  | some value =>
    cases hvalue
    exact .inr hchain

/-- An optional link on a missing value ends the whole chain. -/
theorem exec_evalBy_missing (h : exec (evalBy (.alone await) host scope base) s = (.ok value, t))
    (hvalue : value.isNullish = true) (first : Link) (rest : List (Link × Bool)) :
    exec (evalBy (.alone await) host scope (base.chain ((first, true) :: rest))) s =
      (.ok .undefined, t) := by
  have hfirst : exec (walkBy (.alone await) host scope (first.behind base true)) s =
      (.ok none, t) := by
    rw [walkBy_behind, exec_link]
    rcases exec_settle_eq_ok h with ⟨hended, -⟩ | hgiven
    · rw [hended]
    · rw [hgiven]
      simp [hvalue]
  have hchain : exec (walkBy (.alone await) host scope (base.chain ((first, true) :: rest))) s =
      (.ok none, t) := exec_walkBy_chain hfirst rest
  exact exec_bind_ok hchain _

/-! ## Marks -/

/-- Two outcomes of a chain with the same links, of which the first is optional in the one and not
in the other: they are the same, or they are the same error about a later link, which names the
chain in front of that link. -/
inductive Remarked (base : Expr) (first : Link) (rest : List (Link × Bool)) {α : Type} :
    Except Stop α × Store σ → Except Stop α × Store σ → Prop
  /-- They are the same. -/
  | same (outcome) : Remarked base first rest outcome outcome
  /-- A member of a missing value was read. -/
  | noMember {front : List (Link × Bool)} {link : Link × Bool} (key shown : String)
    (store : Store σ) (h : front ++ [link] <+: rest) :
    Remarked base first rest
      (.error (.raised (.expression (.noMemberOf key shown
        (base.chain ((first, true) :: front)).describe))), store)
      (.error (.raised (.expression (.noMemberOf key shown
        (base.chain ((first, false) :: front)).describe))), store)
  /-- Something that is no function was called. -/
  | notFunction {front : List (Link × Bool)} {link : Link × Bool} (store : Store σ)
    (h : front ++ [link] <+: rest) :
    Remarked base first rest
      (.error (.raised (.expression (.notFunction
        (base.chain ((first, true) :: front)).describe))), store)
      (.error (.raised (.expression (.notFunction
        (base.chain ((first, false) :: front)).describe))), store)

namespace Remarked

variable {first : Link} {rest : List (Link × Bool)} {α β : Type}

/-- The same goes on behind both. -/
theorem bind {x y : Render σ α} (h : Remarked base first rest (exec x s) (exec y s))
    (f : α → Render σ β) : Remarked base first rest (exec (x >>= f) s) (exec (y >>= f) s) := by
  rw [exec_bind, exec_bind]
  generalize exec x s = p at h
  generalize exec y s = q at h
  cases h with
  | same outcome => exact .same _
  | noMember key shown store hfront => exact .noMember key shown store hfront
  | notFunction store hfront => exact .notFunction store hfront

/-- A chain of which more links are there. -/
theorem longer {p q : Except Stop α × Store σ} (h : Remarked base first rest p q)
    (more : List (Link × Bool)) : Remarked base first (rest ++ more) p q := by
  cases h with
  | same outcome => exact .same _
  | noMember key shown store hfront =>
    exact .noMember key shown store (hfront.trans (List.prefix_append _ _))
  | notFunction store hfront =>
    exact .notFunction store (hfront.trans (List.prefix_append _ _))

end Remarked

variable {first : Link} {rest : List (Link × Bool)}

/-- What a link does with a value does not depend on the mark of the first link. -/
theorem remarked_follow (value : Value) (last : Link × Bool) (store : Store σ) :
    Remarked base first (rest ++ [last])
      (exec (follow await host scope (base.chain ((first, true) :: rest)) value last.1) store)
      (exec (follow await host scope (base.chain ((first, false) :: rest)) value last.1)
        store) := by
  have hfront : rest ++ [last] <+: rest ++ [last] := List.prefix_refl _
  have hread : ∀ (key : String) (store : Store σ), Remarked base first (rest ++ [last])
      (exec (readMember value key (base.chain ((first, true) :: rest))) store)
      (exec (readMember value key (base.chain ((first, false) :: rest))) store) := by
    intro key store
    unfold readMember
    rw [exec_bind, exec_bind, exec_withGraph]
    dsimp only
    cases store.graph.memberOf value key with
    | ok member => exact .same _
    | error fault => exact .noMember key value.display store hfront
  obtain ⟨link, optional⟩ := last
  cases link with
  | member name => exact hread name store
  | index key =>
    unfold follow
    rw [exec_bind, exec_bind]
    rcases exec (evalBy (.alone await) host scope key) store with ⟨stop | key, after⟩
    · exact .same _
    · exact hread key.display after
  | call args =>
    unfold follow
    rw [exec_bind, exec_bind]
    rcases exec (walkItemsBy (.alone await) host scope args) store with ⟨stop | args, after⟩
    · exact .same _
    · cases value with
      | function id => exact .same _
      | _ => exact .notFunction after hfront

/-- On a value that is not missing, the mark of the first link shows in errors only. -/
theorem remarked_walkBy (h : exec (walkBy (.alone await) host scope base) s = (.ok (some value), t))
    (hvalue : value.isNullish = false) (rest : List (Link × Bool)) :
    Remarked base first rest
      (exec (walkBy (.alone await) host scope (base.chain ((first, true) :: rest))) s)
      (exec (walkBy (.alone await) host scope (base.chain ((first, false) :: rest))) s) := by
  induction rest using List.reverseRecOn with
  | nil =>
    rw [chain_cons, chain_cons, chain_nil, chain_nil, walkBy_behind, walkBy_behind, exec_link,
      exec_link, h]
    simp only [hvalue, Bool.and_false, Bool.false_eq_true, if_false]
    exact .same _
  | append_singleton rest last ih =>
    rw [← List.cons_append, ← List.cons_append, chain_concat, chain_concat, walkBy_behind,
      walkBy_behind, exec_link, exec_link]
    generalize exec (walkBy (.alone await) host scope (base.chain ((first, true) :: rest))) s = p
      at ih
    generalize exec (walkBy (.alone await) host scope (base.chain ((first, false) :: rest))) s = q
      at ih
    have ih := ih.longer [last]
    cases ih with
    | same =>
      rcases p with ⟨stop | value, after⟩
      · exact .same _
      · cases value with
        | none => exact .same _
        | some value =>
          dsimp only
          split
          · exact .same _
          · exact (remarked_follow value last after).bind fun value => pure (some value)
    | noMember key shown store hfront => exact .noMember key shown store hfront
    | notFunction store hfront => exact .notFunction store hfront

theorem remarked_evalBy (h : exec (evalBy (.alone await) host scope base) s = (.ok value, t))
    (hvalue : value.isNullish = false) (first : Link) (rest : List (Link × Bool)) :
    Remarked base first rest
      (exec (evalBy (.alone await) host scope (base.chain ((first, true) :: rest))) s)
      (exec (evalBy (.alone await) host scope (base.chain ((first, false) :: rest))) s) := by
  rcases exec_settle_eq_ok h with ⟨-, rfl⟩ | hgiven
  · cases hvalue
  · exact (remarked_walkBy hgiven hvalue rest).bind fun value => pure (value.getD .undefined)

/-- How a chain is named depends on how its front is named. -/
theorem describe_chain {front front' : Expr} (h : front.describe = front'.describe)
    (links : List (Link × Bool)) :
    (front.chain links).describe = (front'.chain links).describe := by
  induction links generalizing front front' with
  | nil => exact h
  | cons link rest ih =>
    obtain ⟨link, optional⟩ := link
    rw [chain_cons, chain_cons]
    apply ih
    cases link with
    | member name => exact congrArg (· ++ _ ++ name) h
    | index key => exact congrArg (· ++ "[...]") h
    | call args => exact congrArg (· ++ "(...)") h

/-- The mark of a link without a name is not shown. -/
theorem Remarked.eq {α : Type} {p q : Except Stop α × Store σ} (h : Remarked base first rest p q)
    (hfirst : ∀ name, first ≠ .member name) : p = q := by
  have hdescribe : (first.behind base true).describe = (first.behind base false).describe := by
    cases first with
    | member name => exact absurd rfl (hfirst name)
    | index key => rfl
    | call args => rfl
  cases h with
  | same => rfl
  | noMember key shown store hfront => rw [chain_cons, chain_cons, describe_chain hdescribe]
  | notFunction store hfront => rw [chain_cons, chain_cons, describe_chain hdescribe]

/-! ## Both walks -/

/-- **Optional links.** If the value in front of a chain is missing and the first link is optional,
then the chain is `undefined`, whatever links follow, and the store is left as the evaluation of
that value leaves it: no key and no argument is evaluated, and nothing is called. On any other value
the mark of the first link makes no difference, except that an error about a later link names the
chain in front of it with the mark of a named first link. -/
theorem eval_optional (host : Host σ) (wait : PromiseId → Render σ Value) (scope : Scope)
    {eval : Expr → Render σ Value}
    (heval : eval = Expr.eval host scope ∨ eval = Expr.evalAwaiting host wait scope)
    {base : Expr} {s t : Store σ} {value : Value} (hbase : exec (eval base) s = (.ok value, t))
    (first : Link) (rest : List (Link × Bool)) :
    let marked := base.chain ((first, true) :: rest)
    let unmarked := base.chain ((first, false) :: rest)
    (value.isNullish = true → exec (eval marked) s = (.ok .undefined, t)) ∧
    (value.isNullish = false →
      Remarked base first rest (exec (eval marked) s) (exec (eval unmarked) s) ∧
      ((∀ name, first ≠ .member name) → exec (eval marked) s = exec (eval unmarked) s)) := by
  intro marked unmarked
  obtain ⟨await, rfl⟩ : ∃ await, eval = evalBy (.alone await) host scope := by
    rcases heval with rfl | rfl
    · exact ⟨_, eval_eq_evalBy⟩
    · exact ⟨_, funext evalAwaiting_eq_evalBy⟩
  refine ⟨fun hvalue => exec_evalBy_missing hbase hvalue first rest, fun hvalue => ?_⟩
  have hremarked := remarked_evalBy hbase hvalue first rest
  exact ⟨hremarked, hremarked.eq⟩

/-- A store with one object, which has no members. -/
def bareStore : Store Unit :=
  { Store.fresh .nothing () with graph := ⟨#[.empty], #[], #[]⟩ }

/-- A scope in which that object is the data. -/
def bareScope : Scope := ⟨⟨0⟩, ⟨0⟩, ⟨0⟩⟩

/-- `(x = null)?.(y = 1).z` sets one name, and `({})?.[x = 2]` sets one whether its link is optional
or not. -/
theorem eval_optional_assigning :
    let eval := Expr.eval Host.none bareScope
    let call : Link := .call [.assign (.ident "y") (.number 1)]
    let index : Link := .index (.assign (.ident "x") (.number 2))
    let setting : Expr := .assign (.ident "x") .null
    let set := { bareStore with graph := bareStore.graph.write ⟨0⟩ "x" .null }
    exec (eval setting) bareStore = (.ok .null, set) ∧
    exec (eval (setting.chain [(call, true), (.member "z", false)])) bareStore =
      (.ok .undefined, set) ∧
    exec (eval .root) bareStore = (.ok (.object ⟨0⟩), bareStore) ∧
    exec (eval (Expr.root.chain [(index, true)])) bareStore =
      exec (eval (Expr.root.chain [(index, false)])) bareStore := by
  intro eval call index setting set
  have hsetting : exec (eval setting) bareStore = (.ok .null, set) := rfl
  have hroot : exec (eval .root) bareStore = (.ok (.object ⟨0⟩), bareStore) := rfl
  obtain ⟨hmissing, -⟩ := eval_optional Host.none (fun _ => pure .null) bareScope (.inl rfl)
    hsetting call [(.member "z", false)]
  obtain ⟨-, hgiven⟩ := eval_optional Host.none (fun _ => pure .null) bareScope (.inl rfl)
    hroot index []
  exact ⟨hsetting, hmissing rfl, hroot, (hgiven rfl).2 nofun⟩

/-- `$?.a.b` and `$.a.b` fail alike where there is no `a`, but each names the chain as it is
written. -/
theorem mark_named_in_error :
    let eval := Expr.eval Host.none bareScope
    let chain (optional : Bool) := Expr.root.chain [(.member "a", optional), (.member "b", false)]
    exec (eval .root) bareStore = (.ok (.object ⟨0⟩), bareStore) ∧
    exec (eval (chain true)) bareStore ≠ exec (eval (chain false)) bareStore := by
  intro eval chain
  refine ⟨rfl, fun h => ?_⟩
  have hmarked : (exec (eval (chain true)) bareStore).1 =
      .error (.raised (.expression (.noMemberOf "b" "undefined" "$?.a"))) := rfl
  have hunmarked : (exec (eval (chain false)) bareStore).1 =
      .error (.raised (.expression (.noMemberOf "b" "undefined" "$.a"))) := rfl
  rw [h, hunmarked] at hmarked
  injection hmarked with hmarked
  injection hmarked with hmarked
  injection hmarked with hmarked
  injection hmarked with _ _ hnamed
  exact absurd hnamed (by decide)

end Expr

end TemplateEngine
