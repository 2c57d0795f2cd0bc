import Mathlib.Data.List.Infix
import TemplateEngine.Error

/-!
# Errors in wrappers

What the layers around an error hide, and what they leave to be seen.

* **`wrapped`** is an error in any number of layers (`Wrapper`), the first of which is the outermost
  one. Every error is a leaf in wrappers (`exists_wrapped`).
* **Causes.** A report is followed along the causes that errors name (`report_eq`): a shared error
  has the text and names the cause of the one in it, so that it adds nothing. Behind a file that
  cannot be read stands what the system says of it.
* **`wrapped_unshared`**: a reading of errors that looks through the mark of a shared result, and
  reads a wrapper in the same way around errors that it reads in the same way, looks through all the
  marks of a chain.
* **`wrapped_laws`** puts together what this says of the root cause, the report and the target of a
  redirect.
-/

namespace TemplateEngine.Error

open TemplateEngine.Template

/-! ## Wrappers -/

/-- A layer around an error. -/
inductive Wrapper where
  /-- The expression that failed. -/
  | evaluation (source rooted : String)
  /-- The place in a template. -/
  | template (file : String) (excerpt : Excerpt)
  /-- The mark of a shared result. -/
  | shared

/-- The mark of a shared result. -/
def Wrapper.isShared : Wrapper → Bool
  | .shared => true
  | _ => false

/-- An error in one more layer. -/
def Wrapper.wrap : Wrapper → Error → Error
  | .evaluation source rooted, cause => .evaluation source rooted cause
  | .template file excerpt, cause => .template file excerpt cause
  | .shared, cause => .shared cause

/-- An error in layers, of which the first is the outermost. -/
def wrapped (ws : List Wrapper) (error : Error) : Error := ws.foldr Wrapper.wrap error

/-- An error with no other one in it. -/
def IsLeaf : Error → Prop
  | .evaluation .. | .template .. | .shared _ => False
  | _ => True

/-- An error that is marked as a shared one. -/
def isShared : Error → Bool
  | .shared _ => true
  | _ => false

variable {α : Type} {leaf : Error} {w : Wrapper} {target : String}

theorem Wrapper.shared_or (w : Wrapper) : w = .shared ∨ w.isShared = false := by
  cases w with
  | shared => exact .inl rfl
  | _ => exact .inr rfl

/-- Every error is a leaf in wrappers. -/
theorem exists_wrapped (error : Error) :
    ∃ (ws : List Wrapper) (leaf : Error), leaf.IsLeaf ∧ error = wrapped ws leaf := by
  induction error with
  | evaluation source rooted cause ih =>
    obtain ⟨ws, leaf, hleaf, rfl⟩ := ih
    exact ⟨.evaluation source rooted :: ws, leaf, hleaf, rfl⟩
  | template file excerpt cause ih =>
    obtain ⟨ws, leaf, hleaf, rfl⟩ := ih
    exact ⟨.template file excerpt :: ws, leaf, hleaf, rfl⟩
  | shared cause ih =>
    obtain ⟨ws, leaf, hleaf, rfl⟩ := ih
    exact ⟨.shared :: ws, leaf, hleaf, rfl⟩
  | _ => exact ⟨[], _, by trivial, rfl⟩

/-! ## Causes -/

/-- What lies below an error: another one, or what the system says. -/
inductive Cause where
  /-- An error. -/
  | error (cause : Error)
  /-- A text of the system. -/
  | system (text : String)

/-- What an error names as its cause. A shared error names the cause of the one in it. -/
def cause? : Error → Option Cause
  | .evaluation _ _ cause => some (.error cause)
  | .template _ _ cause => some (.error cause)
  | .shared cause => cause? cause
  | .io text => some (.system text)
  | _ => none

theorem layers_ne_nil (error : Error) : error.layers ≠ [] := by
  induction error with
  | shared cause ih => exact ih
  | _ => exact List.cons_ne_nil _ _

/-- A text in front of a report. -/
theorem intercalate_report (text : String) (cause : Error) :
    String.intercalate "\n\ncaused by: "
        (text :: (cause.layers.map message ++ cause.systemText?.toList)) =
      text ++ "\n\ncaused by: " ++ cause.report := by
  apply String.intercalate_cons_of_ne_nil
  simp [layers_ne_nil]

/-- Behind the text of an error stands the report of its cause. -/
theorem report_eq (error : Error) : error.report =
    match error.cause? with
    | none => error.message
    | some (.error cause) => error.message ++ "\n\ncaused by: " ++ cause.report
    | some (.system text) => error.message ++ "\n\ncaused by: " ++ text := by
  induction error with
  | evaluation source rooted cause => exact intercalate_report _ cause
  | template file excerpt cause => exact intercalate_report _ cause
  | shared cause ih => exact ih
  | io text =>
    exact String.intercalate_cons_cons.trans (congrArg _ String.intercalate_singleton)
  | _ => exact String.intercalate_singleton

theorem report_wrap (hw : w.isShared = false) (cause : Error) :
    (w.wrap cause).report = (w.wrap cause).message ++ "\n\ncaused by: " ++ cause.report := by
  cases w with
  | shared => exact nomatch hw
  | _ => exact report_eq _

/-- The text of a wrapper does not depend on what is in it, unless it is the mark of a shared
result. -/
theorem message_wrap (hw : w.isShared = false) (a b : Error) :
    (w.wrap a).message = (w.wrap b).message := by
  cases w with
  | shared => exact nomatch hw
  | _ => rfl

/-! ## Reports -/

/-- The errors of a chain, from the outermost one to the leaf, other than the shared ones. -/
def shown (ws : List Wrapper) (leaf : Error) : List Error :=
  (ws.tails.map (wrapped · leaf)).filter (!·.isShared)

/-- The texts below a leaf: what the system says of a file that cannot be read. -/
def systemTexts : Error → List String
  | .io text => [text]
  | _ => []

theorem shown_nil (hleaf : leaf.IsLeaf) : shown [] leaf = [leaf] := by
  cases leaf with
  | shared => exact hleaf.elim
  | _ => rfl

theorem shown_cons (hw : w.isShared = false) (ws : List Wrapper) :
    shown (w :: ws) leaf = wrapped (w :: ws) leaf :: shown ws leaf := by
  cases w with
  | shared => exact nomatch hw
  | _ => rfl

theorem shown_ne_nil (hleaf : leaf.IsLeaf) (ws : List Wrapper) : shown ws leaf ≠ [] := by
  induction ws with
  | nil => simp [shown_nil hleaf]
  | cons w ws ih =>
    rcases w.shared_or with rfl | hw
    · exact ih
    · simp [shown_cons hw]

theorem report_leaf (hleaf : leaf.IsLeaf) : leaf.report =
    String.intercalate "\n\ncaused by: " ([leaf].map message ++ leaf.systemTexts) := by
  cases leaf with
  | evaluation | template | shared => exact hleaf.elim
  | _ => rfl

/-- A report has the texts of all errors that are shown, and behind them the one of the system. -/
theorem report_wrapped (ws : List Wrapper) (hleaf : leaf.IsLeaf) :
    (wrapped ws leaf).report = String.intercalate "\n\ncaused by: "
      ((shown ws leaf).map message ++ leaf.systemTexts) := by
  induction ws with
  | nil =>
    rw [shown_nil hleaf]
    exact report_leaf hleaf
  | cons w ws ih =>
    rcases w.shared_or with rfl | hw
    · exact ih
    have hne : (shown ws leaf).map message ++ leaf.systemTexts ≠ [] := by
      simp [shown_ne_nil hleaf]
    calc (wrapped (w :: ws) leaf).report
        = (wrapped (w :: ws) leaf).message ++ "\n\ncaused by: " ++ (wrapped ws leaf).report :=
          report_wrap hw _
      _ = String.intercalate "\n\ncaused by: " ((wrapped (w :: ws) leaf).message ::
            ((shown ws leaf).map message ++ leaf.systemTexts)) := by
          rw [ih, String.intercalate_cons_of_ne_nil hne]
      _ = _ := by rw [shown_cons hw, List.map_cons, List.cons_append]

/-! ## Shared errors -/

/-- The wrappers other than the marks of shared results. -/
def unshared (ws : List Wrapper) : List Wrapper := ws.filter (!·.isShared)

/-- A reading of errors that looks through the mark of a shared result, and reads a wrapper in the
same way around errors that it reads in the same way, looks through all the marks of a chain. -/
theorem wrapped_unshared {f : Error → α} (hshared : ∀ cause, f (.shared cause) = f cause)
    (hwrap : ∀ w : Wrapper, w.isShared = false → ∀ a b, f a = f b → f (w.wrap a) = f (w.wrap b))
    (ws : List Wrapper) (leaf : Error) : f (wrapped (unshared ws) leaf) = f (wrapped ws leaf) := by
  induction ws with
  | nil => rfl
  | cons w ws ih =>
    rcases w.shared_or with rfl | hw
    · exact ih.trans (hshared _).symm
    · have hkept : unshared (w :: ws) = w :: unshared ws := by simp [unshared, hw]
      rw [hkept]
      exact hwrap w hw _ _ ih

theorem report_unshared (ws : List Wrapper) (leaf : Error) :
    (wrapped (unshared ws) leaf).report = (wrapped ws leaf).report := by
  apply wrapped_unshared (f := report)
  · intro cause
    rfl
  · intro w hw a b h
    rw [report_wrap hw, report_wrap hw, h, message_wrap hw a b]

/-! ## Chains -/

theorem rootCause_wrapped (ws : List Wrapper) (hleaf : leaf.IsLeaf) :
    (wrapped ws leaf).rootCause = leaf := by
  induction ws with
  | nil =>
    cases leaf with
    | evaluation | template | shared => exact hleaf.elim
    | _ => rfl
  | cons w ws ih => cases w <;> exact ih

theorem isNotFound_wrapped (ws : List Wrapper) (hleaf : leaf.IsLeaf) :
    (wrapped ws leaf).isNotFound = true ↔ ∃ fault, leaf = .resolution fault := by
  rw [isNotFound, rootCause_wrapped ws hleaf]
  cases leaf <;> simp

theorem redirectTarget?_wrapped (ws : List Wrapper) (hleaf : leaf.IsLeaf) :
    (wrapped ws leaf).redirectTarget? = some target ↔
      leaf = .redirect target ∧ ∀ w ∈ ws, w = .shared := by
  induction ws with
  | nil =>
    cases leaf with
    | evaluation | template | shared => exact hleaf.elim
    | _ => simp [wrapped, redirectTarget?]
  | cons w ws ih =>
    cases w with
    | shared => simpa [wrapped, Wrapper.wrap, redirectTarget?] using ih
    | _ => simp [wrapped, Wrapper.wrap, redirectTarget?]

/-- **Wrappers.** The root cause of a leaf in wrappers is the leaf, and it is that a path names no
template if and only if the leaf says so. Without the marks of shared results, wherever they are,
the report, the root cause, the answer whether a template was not found and the target of a redirect
are the same. The report has the texts of all errors of the chain other than the shared ones, from
the outermost one to the leaf, and behind them what the system says of a file. There is a target if
and only if the leaf is a redirect to it and all wrappers are marks of shared results. -/
theorem wrapped_laws (ws : List Wrapper) (hleaf : leaf.IsLeaf) :
    (wrapped ws leaf).rootCause = leaf ∧
      ((wrapped ws leaf).isNotFound = true ↔ ∃ fault, leaf = .resolution fault) ∧
      ((wrapped (unshared ws) leaf).report = (wrapped ws leaf).report ∧
        (wrapped (unshared ws) leaf).rootCause = (wrapped ws leaf).rootCause ∧
        (wrapped (unshared ws) leaf).isNotFound = (wrapped ws leaf).isNotFound ∧
        (wrapped (unshared ws) leaf).redirectTarget? = (wrapped ws leaf).redirectTarget?) ∧
      (wrapped ws leaf).report = String.intercalate "\n\ncaused by: "
        ((shown ws leaf).map message ++ leaf.systemTexts) ∧
      ∀ target, (wrapped ws leaf).redirectTarget? = some target ↔
        leaf = .redirect target ∧ ∀ w ∈ ws, w = .shared := by
  have hroot : ∀ ws, (wrapped ws leaf).rootCause = leaf := fun ws => rootCause_wrapped ws hleaf
  refine ⟨hroot ws, isNotFound_wrapped ws hleaf, ⟨report_unshared ws leaf, ?_, ?_, ?_⟩,
    report_wrapped ws hleaf, fun target => redirectTarget?_wrapped ws hleaf⟩
  · rw [hroot, hroot]
  · rw [isNotFound, isNotFound, hroot, hroot]
  · apply wrapped_unshared (f := redirectTarget?)
    · intro cause
      rfl
    · intro w hw a b _
      cases w with
      | shared => exact nomatch hw
      | _ => rfl

/-- A file that cannot be read, seen through two shared results, and a redirect behind two more. -/
theorem wrapped_laws_unreadable :
    let ws : List Wrapper := [.shared, .evaluation "x" "$.x", .shared]
    IsLeaf (.io "gone") ∧ (wrapped ws (.io "gone")).rootCause = .io "gone" ∧
      (wrapped ws (.io "gone")).report =
        "Error evaluating \x60x\x60 (evaluated as \x60$.x\x60)\n\ncaused by: IO error: gone" ++
          "\n\ncaused by: gone" ∧
      (wrapped [.shared, .shared] (.redirect "/login")).redirectTarget? = some "/login" := by
  intro ws
  have hleaf : IsLeaf (.io "gone") := trivial
  obtain ⟨hroot, -, -, hreport, -⟩ := wrapped_laws ws hleaf
  obtain ⟨-, -, -, -, htarget⟩ := @wrapped_laws (.redirect "/login") [.shared, .shared] trivial
  refine ⟨hleaf, hroot, hreport.trans ?_, (htarget "/login").2 ⟨rfl, by simp⟩⟩
  decide

end TemplateEngine.Error
