import StatementBundler.Proofs.Analysis.Statements
import StatementBundler.Proofs.Position
import StatementBundler.Proofs.Program.Length

/-!
# Where statements start

A text is read only if its end fits into 32 bits, and no statement starts with the end of its text.
So every statement of a module starts before the last offset of 32 bits (`Program.start_of_parse`),
and the place where it starts can be counted from one (`Module.position_pos`).
-/

namespace StatementBundler

/-! ## Statements of a program -/

namespace Parser

variable {α : Type} {before after : State}

/-- What every round keeps holds in the end if it holds at first. -/
lemma of_extendWithin (Kept : α → Prop) {step : α → Parser (Option α)} {bound : ℕ}
    {first last : α}
    (each : ∀ {result longer before after}, step result before = .ok (some longer) after →
      Kept result → Kept longer)
    (h : extendWithin step bound first before = .ok last after) (start : Kept first) :
    Kept last := by
  induction bound generalizing first before with
  | zero =>
    obtain ⟨rfl, -⟩ := pure_eq_ok.mp h
    exact start
  | succ bound ih =>
    obtain ⟨extended, middle, read, h⟩ := bind_eq_ok.mp h
    cases extended with
    | none =>
      obtain ⟨rfl, -⟩ := pure_eq_ok.mp h
      exact start
    | some longer => exact ih h (each read start)

/-- A statement starts where its first token does. -/
lemma start_of_topLevel {g : Grammar} {inDirectives still : Bool} {top : TopLevel}
    (h : topLevel g inDirectives before = .ok (still, some top) after) :
    top.span.start = before.token.span.start := by
  obtain ⟨token, state, asked, h⟩ := bind_eq_ok.mp h
  obtain ⟨rfl, rfl⟩ := EStateM.Result.ok.inj asked
  obtain ⟨stmt, state, -, h⟩ := bind_eq_ok.mp h
  obtain ⟨span, state', spanned, h⟩ := bind_eq_ok.mp h
  obtain ⟨rfl, rfl⟩ := EStateM.Result.ok.inj spanned
  split at h
  · cases (pure_eq_ok.mp h).1
  · obtain ⟨same, -⟩ := pure_eq_ok.mp h
    obtain rfl := Option.some.inj (Prod.mk.inj same).2
    rfl

/-- The statements of a body start before the last offset of 32 bits. -/
lemma start_of_moduleBody {g : Grammar} {body : Program}
    (h : moduleBody g before = .ok body after) :
    ∀ top ∈ body, top.span.start + 1 < UInt32.size := by
  obtain ⟨⟨inDirectives, found⟩, middle, read, h⟩ := bind_eq_ok.mp h
  obtain ⟨rfl, -⟩ := pure_eq_ok.mp h
  obtain ⟨_, _, asked, read⟩ := bind_eq_ok.mp read
  obtain ⟨rfl, rfl⟩ := EStateM.Result.ok.inj asked
  have kept := of_extendWithin
    (fun result => ∀ top ∈ result.2, top.span.start + 1 < UInt32.size) ?_ read
    fun _ none => nomatch none
  · simpa using kept
  · rintro ⟨inDirectives, found⟩ longer before after round already
    obtain ⟨token, state, asked, round⟩ := bind_eq_ok.mp round
    obtain ⟨rfl, rfl⟩ := EStateM.Result.ok.inj asked
    split at round
    · cases (pure_eq_ok.mp round).1
    · rename_i notEnd
      obtain ⟨⟨still, stmt⟩, state, topLevel, round⟩ := bind_eq_ok.mp round
      obtain ⟨same, -⟩ := pure_eq_ok.mp round
      obtain rfl := Option.some.inj same
      intro top stands
      rcases List.mem_append.mp stands with new | old
      · obtain rfl := Option.mem_toList.mp new
        rw [start_of_topLevel topLevel]
        exact before.lexeme.inside.resolve_left notEnd
      · exact already top old

end Parser

/-- Every statement of a program that was read starts before the last offset of 32 bits. -/
theorem Program.start_of_parse {text : List Char} {program : Program}
    (h : Program.parse text = .ok program) :
    ∀ top ∈ program, top.span.start + 1 < UInt32.size := by
  obtain ⟨grammar, fits, after, read⟩ := Program.moduleBody_of_parse h
  exact Parser.start_of_moduleBody read

/-! ## Statements of a module -/

/-- A part of a whole text does not start later than asked. -/
lemma Excerpt.start_snip_whole_le (text : List Char) (start stop : ℕ) :
    ((whole text).snip start stop).start ≤ start := by
  unfold snip whole clamp
  simp

/-- The place where a statement of a loaded module starts has a line and a column. -/
theorem Module.position_pos {path : Path} {code : String} {policy : UnsupportedPolicy} {m : Module}
    {index : ℕ} {statement : Statement} (load : Module.load path code policy = .ok m)
    (found : m.statements[index]? = some statement) :
    0 < (m.position statement.excerpt.start).line ∧
      0 < (m.position statement.excerpt.start).column := by
  obtain ⟨program, analysis, parses, done, rfl⟩ := Module.load_eq_ok_iff.mp load
  obtain ⟨top, inside, analysed⟩ := exists_topLevel done found
  have short := Program.start_of_parse parses top inside
  have clipped := Excerpt.start_snip_whole_le code.toList top.span.start top.span.stop
  rw [← analysed.excerpt_eq] at clipped
  exact Position.ofOffset_pos _ (by omega)

end StatementBundler
