import StatementBundler.Proofs.Module
import StatementBundler.Proofs.Program.Tokens

/-!
# The number of statements of a module

A round of `Parser.moduleBody` reads one statement at most, and the rounds are bounded by the text
that is left behind the first token.  Hence the body of a module has at most two more statements
than its text has characters (`Program.parse_length_le`), and the analysis keeps their number
(`Module.of_load`).
-/

namespace StatementBundler

/-! ## Rounds -/

namespace Parser

variable {α β : Type} {before after : State}

/-- Two parsers in a row succeed if the first one does, and the second one does behind it. -/
lemma bind_eq_ok {first : Parser α} {second : α → Parser β} {result : β} :
    (first >>= second) before = .ok result after ↔
      ∃ value middle, first before = .ok value middle ∧ second value middle = .ok result after := by
  change EStateM.bind first second before = _ ↔ _
  unfold EStateM.bind
  cases first before <;> simp

/-- Giving a value reads nothing. -/
lemma pure_eq_ok {value result : β} :
    (pure value : Parser β) before = .ok result after ↔ value = result ∧ before = after := by
  change EStateM.Result.ok value before = _ ↔ _
  simp

/-- Rounds that add at most one each add at most as many as their bound. -/
lemma size_le_of_extendWithin (size : α → ℕ) {step : α → Parser (Option α)} {bound : ℕ}
    {first last : α}
    (each : ∀ {result longer before after}, step result before = .ok (some longer) after →
      size longer ≤ size result + 1)
    (h : extendWithin step bound first before = .ok last after) :
    size last ≤ size first + bound := by
  induction bound generalizing first before with
  | zero =>
    obtain ⟨rfl, -⟩ := pure_eq_ok.mp h
    exact le_rfl
  | succ bound ih =>
    obtain ⟨extended, middle, read, h⟩ := bind_eq_ok.mp h
    cases extended with
    | none =>
      obtain ⟨rfl, -⟩ := pure_eq_ok.mp h
      omega
    | some longer =>
      have here := each read
      have onward := ih h
      omega

/-- The body of a module has at most as many statements as the bound on the tokens that are left. -/
lemma length_le_of_moduleBody {g : Grammar} {body : Program}
    (h : moduleBody g before = .ok body after) : body.length ≤ before.bound := by
  obtain ⟨⟨inDirectives, found⟩, middle, read, h⟩ := bind_eq_ok.mp h
  obtain ⟨rfl, -⟩ := pure_eq_ok.mp h
  obtain ⟨_, _, asked, read⟩ := bind_eq_ok.mp read
  obtain ⟨rfl, rfl⟩ := EStateM.Result.ok.inj asked
  have rounds := size_le_of_extendWithin (fun result => result.2.length) ?_ read
  · simpa using rounds
  · rintro ⟨inDirectives, found⟩ longer before after round
    obtain ⟨_, _, -, round⟩ := bind_eq_ok.mp round
    split at round
    · cases (pure_eq_ok.mp round).1
    · obtain ⟨⟨inDirectives, stmt⟩, _, -, round⟩ := bind_eq_ok.mp round
      obtain ⟨eq, -⟩ := pure_eq_ok.mp round
      obtain rfl := Option.some.inj eq
      cases stmt <;> simp

/-- At the start of a text at most two more tokens are left than it has characters. -/
lemma bound_start_le {text : List Char} (fits : Text.byteLength text < UInt32.size) :
    (State.start text fits).bound ≤ text.length + 2 := by
  have onward :=
    (Cursor.onward_skipHashbang (.ofText text fits)).trans (Cursor.onward_scan _)
  have shorter : (State.start text fits).lexeme.behind.rest.length ≤ text.length :=
    onward.length_le
  exact Nat.add_le_add_right shorter 2

end Parser

/-- A text that was read is short enough, and its statements are what was read of its body. -/
lemma Program.moduleBody_of_parse {text : List Char} {program : Program}
    (h : Program.parse text = .ok program) :
    ∃ grammar fits after, Parser.moduleBody grammar (.start text fits) = .ok program after := by
  unfold Program.parse at h
  split at h
  · rename_i fits
    simp only at h
    split at h
    · rename_i body state read
      have found : body = program := by
        cases fault : state.firstFault? none with
        | none =>
          rw [fault] at h
          exact Except.ok.inj h
        | some offset =>
          rw [fault] at h
          cases h
      exact ⟨_, fits, state, found ▸ read⟩
    · cases h
  · cases h

/-- The body of a module has at most two more statements than its text has characters. -/
theorem Program.parse_length_le {text : List Char} {program : Program}
    (h : Program.parse text = .ok program) : program.length ≤ text.length + 2 := by
  obtain ⟨grammar, fits, after, read⟩ := Program.moduleBody_of_parse h
  exact (Parser.length_le_of_moduleBody read).trans (Parser.bound_start_le fits)

/-! ## Analysed statements -/

/-- The analysis adds one statement for each of a body. -/
lemma length_of_analyseFrom {whole : Excerpt} {file : String} {policy : UnsupportedPolicy}
    {tree : ScopeTree} {analysis result : Analysis} {program : Program}
    (h : analyseFrom whole file policy tree analysis program = .ok result) :
    result.statements.length = analysis.statements.length + program.length := by
  induction program generalizing tree analysis with
  | nil =>
    obtain rfl := Except.ok.inj h
    rfl
  | cons top rest ih =>
    rw [analyseFrom] at h
    split at h
    · split at h
      · cases h
      · rw [ih h]
        simp only [Analysis.putAside, List.length_append, List.length_cons, List.length_nil]
        omega
    · rw [ih h]
      simp only [Analysis.addStatement, Analysis.enterLinks, List.length_append, List.length_cons,
        List.length_nil]
      omega

/-- A module that was loaded is the one under its path, and has at most two more statements than its
text has characters. -/
theorem Module.of_load {path : Path} {code : String} {policy : UnsupportedPolicy} {m : Module}
    (h : Module.load path code policy = .ok m) :
    m.path = path ∧ m.code = code ∧ m.statements.length ≤ code.toList.length + 2 := by
  obtain ⟨program, analysis, parses, done, rfl⟩ := Module.load_eq_ok_iff.mp h
  have length : analysis.statements.length = 0 + program.length := length_of_analyseFrom done
  refine ⟨rfl, rfl, ?_⟩
  change analysis.statements.length ≤ _
  rw [length, Nat.zero_add]
  exact Program.parse_length_le parses

end StatementBundler
