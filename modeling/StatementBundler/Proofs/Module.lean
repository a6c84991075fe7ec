import Mathlib.Tactic.Common
import StatementBundler.Module

/-!
# Loading modules

A module is loaded exactly if its text can be read and its body can be analysed, and it then carries
what the analysis found (`Module.load_eq_ok_iff`).  Hence whatever holds of every analysis holds of
the modules of a bundle.
-/

namespace StatementBundler

/-- What has to succeed for a module to be loaded, and what it then consists of. -/
lemma Module.load_eq_ok_iff {path : Path} {code : String} {policy : UnsupportedPolicy}
    {m : Module} :
    Module.load path code policy = .ok m ↔
      ∃ program analysis, Program.parse code.toList = .ok program ∧
        analyse program code.toList path.text policy = .ok analysis ∧
        m = ⟨path, code, Digest.ofText code, analysis⟩ := by
  unfold Module.load
  cases parsed : Program.parse code.toList with
  | error => simp [parsed]
  | ok program =>
    cases done : analyse program code.toList path.text policy with
    | error => simp [parsed, bind, Except.bind, done]
    | ok analysis => simp [parsed, bind, Except.bind, pure, Except.pure, done, eq_comm]

end StatementBundler
