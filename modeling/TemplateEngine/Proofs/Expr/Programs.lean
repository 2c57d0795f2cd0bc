import TemplateEngine.Proofs.Render.Operations
import TemplateEngine.Proofs.Template.Compiled

/-!
# `Expr` · Kept programs

A store keeps the programs of texts. If it keeps what the texts are parsed to, looking a program up
is parsing its text.
-/

namespace TemplateEngine

open Render

variable {σ : Type}

/-- What is kept under a text is its program. -/
def Recent.Parsed (programs : Recent Program) : Prop :=
  ∀ source program, (source, program) ∈ programs.entries → Program.parse source = .ok program

theorem Recent.parsed_empty (size : Nat) : (Recent.empty size).Parsed := nofun

namespace Render

/-- If the programs of texts are kept, looking a program up is parsing its text. -/
theorem lookUp_of_parsed {programs : Recent Program} (h : programs.Parsed) (source : String) :
    (lookUp programs source).1 =
        ((Program.parse source).mapError fun fault => Stop.raised (.expression (.parse fault))) ∧
      (lookUp programs source).2.Parsed := by
  have hparsed : (programs.get? source).2.Parsed := fun other program hmem =>
    h other program (Recent.mem_of_mem_get? hmem)
  have hfound : ∀ program, (programs.get? source).1 = some program →
      Program.parse source = .ok program := fun program hget =>
    h source program (Recent.mem_of_get? hget)
  unfold lookUp
  rcases hget : programs.get? source with ⟨_ | program, programs'⟩ <;>
    rw [hget] at hparsed hfound
  · rcases hparse : Program.parse source with fault | program
    · exact ⟨rfl, hparsed⟩
    · refine ⟨rfl, fun other kept hmem => ?_⟩
      rcases Recent.mem_of_mem_put hmem with hnew | hold
      · cases hnew
        exact hparse
      · exact hparsed other kept hold
  · rw [hfound program rfl]
    exact ⟨rfl, hparsed⟩

/-- A store that keeps the programs of texts gives the program of every text. -/
theorem exec_programOf_parsed {store : Store σ} (h : store.programs.Parsed) (source : String) :
    ∃ programs : Recent Program, programs.Parsed ∧
      exec (programOf source) store =
        (((Program.parse source).mapError fun fault =>
            Stop.raised (.expression (.parse fault))),
          { store with programs := programs }) := by
  obtain ⟨hresult, hparsed⟩ := lookUp_of_parsed h source
  refine ⟨_, hparsed, ?_⟩
  rw [exec_programOf_eq_lookUp, hresult]

end Render

end TemplateEngine
