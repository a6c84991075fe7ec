import StatementBundler.Proofs.Program.Composition
import StatementBundler.Proofs.Renaming

/-!
# Renamed trees

`Stmt.renamed` puts new names into the tree of a statement: every identifier that has a new name is
called by it, whatever it denotes.  A shorthand property whose name changes is written out as a
property with its key, which is no identifier, and the new name for its value.

The edits for the new names are one for each identifier that changes (`renameEdits_eq`), and the
identifiers of the renamed tree are those of the tree, renamed (`Stmt.identifiers_renamed`).  The
outline of the renamed tree is the renamed outline (`Stmt.outline_renamed`), as long as `arguments`,
which functions bind without an identifier, has no new name.
-/

namespace StatementBundler

/-! ## Names and identifiers -/

/-- What a name is called after some names were replaced. -/
def Table.newName (replacements : Table String) (name : String) : String :=
  (replacements.find? name).getD name

variable (replacements : Table String)

/-- An identifier under new names. -/
def Ident.renamed (id : Ident) : Ident :=
  ⟨replacements.newName id.name, id.span⟩

/-- An identifier under new names; one that changes is no longer the key of a property. -/
def Occurrence.renamed (occurrence : Occurrence) : Occurrence :=
  match replacements.find? occurrence.name with
  | none => occurrence
  | some new => .plain ⟨new, occurrence.ident.span⟩

/-- An import under new names; what is imported stays. -/
def ImportBinding.renamed : ImportBinding → ImportBinding
  | .named imported binding => .named imported (binding.renamed replacements)
  | .default binding => .default (binding.renamed replacements)
  | .namespace binding => .namespace (binding.renamed replacements)

/-- A shorthand under new names: if its name changes, it becomes a property with that key.  `wrap`
puts what stands for the value into its default, if there is one. -/
def Pattern.writtenOut (short bare : Ident → Pattern) (wrap : Pattern → Pattern) (id : Ident) :
    Pattern :=
  match replacements.find? id.name with
  | none => wrap (short id)
  | some new => .property none (wrap (bare ⟨new, id.span⟩))

/-- A variable as a target. -/
def Pattern.variable (id : Ident) : Pattern :=
  .target (.name id)

/-! ## Trees -/

mutual

/-- An expression under new names. -/
def Expr.renamed : Expr → Expr
  | .name id => .name (id.renamed replacements)
  | .shorthand id =>
    match replacements.find? id.name with
    | none => .shorthand id
    | some new => .operation .property id.span [.name ⟨new, id.span⟩]
  | .atom span => .atom span
  | .operation op span operands => .operation op span (Expr.renamedAll operands)
  | .member span object => .member span object.renamed
  | .index span object property => .index span object.renamed property.renamed
  | .paren span inner => .paren span inner.renamed
  | .assign span plain target value => .assign span plain target.renamed value.renamed
  | .update span target => .update span target.renamed
  | .function span id params body =>
    .function span (id.map (Ident.renamed replacements)) (Pattern.renamedAll params)
      (Stmt.renamedAll body)
  | .arrow span params body => .arrow span (Pattern.renamedAll params) (Stmt.renamedAll body)
  | .class span decorators id members =>
    .class span (Expr.renamedAll decorators) (id.map (Ident.renamed replacements))
      (Expr.renamedAll members)
  | .staticBlock span body => .staticBlock span (Stmt.renamedAll body)

/-- A pattern under new names. -/
def Pattern.renamed : Pattern → Pattern
  | .binding id => .binding (id.renamed replacements)
  | .shorthandBinding id =>
    .writtenOut replacements .shorthandBinding .binding (fun bare => bare) id
  | .shorthandTarget id => .writtenOut replacements .shorthandTarget .variable (fun bare => bare) id
  | .withDefault (.shorthandBinding id) value =>
    .writtenOut replacements .shorthandBinding .binding (.withDefault · value.renamed) id
  | .withDefault (.shorthandTarget id) value =>
    .writtenOut replacements .shorthandTarget .variable (.withDefault · value.renamed) id
  | .withDefault pattern value => .withDefault pattern.renamed value.renamed
  | .target expr => .target expr.renamed
  | .array parts => .array (Pattern.renamedAll parts)
  | .object parts => .object (Pattern.renamedAll parts)
  | .property key value => .property (Expr.renamedOption key) value.renamed
  | .rest pattern => .rest pattern.renamed

def Declarator.renamed : Declarator → Declarator
  | .mk pattern value => .mk pattern.renamed (Expr.renamedOption value)

def SwitchCase.renamed : SwitchCase → SwitchCase
  | .mk test body => .mk (Expr.renamedOption test) (Stmt.renamedAll body)

/-- A statement under new names. -/
def Stmt.renamed : Stmt → Stmt
  | .empty => .empty
  | .expression expr => .expression expr.renamed
  | .block body => .block (Stmt.renamedAll body)
  | .conditional test arms => .conditional test.renamed (Stmt.renamedAll arms)
  | .whileLoop test body => .whileLoop test.renamed body.renamed
  | .doLoop body test => .doLoop body.renamed test.renamed
  | .forLoop first test update body =>
    .forLoop (Stmt.renamedOption first) (Expr.renamedOption test) (Expr.renamedOption update)
      body.renamed
  | .forEach left iterated body => .forEach left.renamed iterated.renamed body.renamed
  | .assigned pattern => .assigned pattern.renamed
  | .switch subject cases => .switch subject.renamed (SwitchCase.renamedAll cases)
  | .labelled body => .labelled body.renamed
  | .tryBlocks parts => .tryBlocks (Stmt.renamedAll parts)
  | .handler param body => .handler (Pattern.renamedOption param) (Stmt.renamedAll body)
  | .variables kind declarators => .variables kind (Declarator.renamedAll declarators)
  | .function id params body =>
    .function (id.map (Ident.renamed replacements)) (Pattern.renamedAll params)
      (Stmt.renamedAll body)
  | .class decorators id members =>
    .class (Expr.renamedAll decorators) (id.map (Ident.renamed replacements))
      (Expr.renamedAll members)
  | .importFrom source bindings =>
    .importFrom source (bindings.map (ImportBinding.renamed replacements))
  | .exportDeclaration start declaration => .exportDeclaration start declaration.renamed
  | .exportOther shape contents => .exportOther shape (Stmt.renamedAll contents)

def Expr.renamedAll : List Expr → List Expr
  | [] => []
  | expr :: rest => expr.renamed :: Expr.renamedAll rest

def Pattern.renamedAll : List Pattern → List Pattern
  | [] => []
  | pattern :: rest => pattern.renamed :: Pattern.renamedAll rest

def Declarator.renamedAll : List Declarator → List Declarator
  | [] => []
  | declarator :: rest => declarator.renamed :: Declarator.renamedAll rest

def SwitchCase.renamedAll : List SwitchCase → List SwitchCase
  | [] => []
  | case :: rest => case.renamed :: SwitchCase.renamedAll rest

def Stmt.renamedAll : List Stmt → List Stmt
  | [] => []
  | stmt :: rest => stmt.renamed :: Stmt.renamedAll rest

def Expr.renamedOption : Option Expr → Option Expr
  | none => none
  | some expr => some expr.renamed

def Pattern.renamedOption : Option Pattern → Option Pattern
  | none => none
  | some pattern => some pattern.renamed

def Stmt.renamedOption : Option Stmt → Option Stmt
  | none => none
  | some stmt => some stmt.renamed

end

/-! ## Outlines -/

mutual

/-- A piece under new names. -/
def Outline.renamed : Outline → Outline
  | .reference occurrence => .reference (occurrence.renamed replacements)
  | .binding occurrence => .binding (occurrence.renamed replacements)
  | .write name => .write (replacements.newName name)
  | .declaration name kind => .declaration (replacements.newName name) kind
  | .scope form own names body =>
    .scope form (own.map replacements.newName) (names.map replacements.newName)
      (renamedIn body)

/-- Several pieces under new names. -/
def renamedIn : List Outline → List Outline
  | [] => []
  | outline :: rest => outline.renamed :: renamedIn rest

end

variable {replacements}

@[simp] lemma Occurrence.name_renamed (occurrence : Occurrence) :
    (occurrence.renamed replacements).name = replacements.newName occurrence.name := by
  unfold Occurrence.renamed Table.newName
  cases replacements.find? occurrence.name <;> rfl

lemma Occurrence.renamed_plain (id : Ident) :
    (Occurrence.plain id).renamed replacements = .plain (id.renamed replacements) := by
  unfold Occurrence.renamed Ident.renamed Table.newName
  change (match replacements.find? id.name with | none => _ | some new => _) = _
  cases replacements.find? id.name <;> rfl

lemma Occurrence.renamed_shorthand (id : Ident) :
    (Occurrence.shorthand id).renamed replacements =
      match replacements.find? id.name with
      | none => .shorthand id
      | some new => .plain ⟨new, id.span⟩ :=
  rfl

lemma renamedIn_append (first second : List Outline) :
    renamedIn replacements (first ++ second) =
      renamedIn replacements first ++ renamedIn replacements second := by
  induction first with
  | nil => rfl
  | cons piece first ih => rw [List.cons_append, renamedIn, ih, renamedIn, List.cons_append]

lemma renamedIn_scope (form : ScopeForm) (own : Option String) (names : List String)
    (body : List Outline) :
    renamedIn replacements [.scope form own names body] =
      [.scope form (own.map replacements.newName) (names.map replacements.newName)
        (renamedIn replacements body)] :=
  rfl

mutual

/-- The identifiers of a renamed piece are those of the piece, renamed. -/
lemma Outline.occurrences_renamed (outline : Outline) :
    (outline.renamed replacements).occurrences =
      outline.occurrences.map (Occurrence.renamed replacements) := by
  match outline with
  | .reference _ | .binding _ | .write _ | .declaration _ _ => rfl
  | .scope _ _ _ body => exact occurrencesAll_renamedIn body

lemma occurrencesAll_renamedIn (outlines : List Outline) :
    occurrencesAll (renamedIn replacements outlines) =
      (occurrencesAll outlines).map (Occurrence.renamed replacements) := by
  match outlines with
  | [] => rfl
  | outline :: rest =>
    rw [renamedIn, occurrencesAll, outline.occurrences_renamed, occurrencesAll_renamedIn rest,
      occurrencesAll, List.map_append]

end

mutual

/-- A renamed head binds the renamed names. -/
lemma Outline.boundNames_renamed (outline : Outline) :
    (outline.renamed replacements).boundNames = outline.boundNames.map replacements.newName := by
  match outline with
  | .binding occurrence => simp [Outline.renamed, Outline.boundNames]
  | .reference _ | .write _ | .declaration _ _ | .scope .function _ _ _ | .scope .arrow _ _ _ => rfl
  | .scope .staticBlock _ _ body | .scope .block _ _ body => exact boundNamesAll_renamedIn body

lemma boundNamesAll_renamedIn (outlines : List Outline) :
    boundNamesAll (renamedIn replacements outlines) =
      (boundNamesAll outlines).map replacements.newName := by
  match outlines with
  | [] => rfl
  | outline :: rest =>
    rw [renamedIn, boundNamesAll, outline.boundNames_renamed, boundNamesAll_renamedIn rest,
      boundNamesAll, List.map_append]

end

/-! ## Outlines of renamed trees -/

lemma newName_eq_self {name : String} (kept : replacements.find? name = none) :
    replacements.newName name = name := by
  rw [Table.newName, kept, Option.getD_none]

/-- The root of a renamed chain of members is the renamed root. -/
lemma Expr.root?_renamed (expr : Expr) :
    (expr.renamed replacements).root? = expr.root?.map replacements.newName := by
  match expr with
  | .name _ => rw [Expr.renamed]; rfl
  | .member _ object => rw [Expr.renamed]; exact object.root?_renamed
  | .index _ object _ => rw [Expr.renamed]; exact object.root?_renamed
  | .paren _ inner => rw [Expr.renamed]; exact inner.root?_renamed
  | .shorthand id =>
    rw [Expr.renamed]
    cases replacements.find? id.name <;> rfl
  | .atom _ | .operation _ _ _ | .assign _ _ _ _ | .update _ _ | .function _ _ _ _ | .arrow _ _ _
  | .class _ _ _ _ | .staticBlock _ _ => rw [Expr.renamed]; rfl

/-- Nothing is written to a shorthand, written out or not. -/
lemma Pattern.root?_writtenOut {short bare : Ident → Pattern} {wrap : Pattern → Pattern}
    {id : Ident} (nothing : (wrap (short id)).root? = none) :
    (Pattern.writtenOut replacements short bare wrap id).root? = none := by
  unfold Pattern.writtenOut
  cases replacements.find? id.name with
  | none => exact nothing
  | some new => rfl

/-- A pattern with a default under new names, unless it is a shorthand. -/
lemma Pattern.renamed_withDefault {pattern : Pattern} {value : Expr}
    (long : ∀ id, pattern ≠ .shorthandBinding id) (long' : ∀ id, pattern ≠ .shorthandTarget id) :
    (Pattern.withDefault pattern value).renamed replacements =
      .withDefault (pattern.renamed replacements) (value.renamed replacements) := by
  rw [Pattern.renamed]
  · exact long
  · exact long'

lemma Pattern.root?_renamed (pattern : Pattern) :
    (pattern.renamed replacements).root? = pattern.root?.map replacements.newName := by
  match pattern with
  | .target expr => rw [Pattern.renamed]; exact expr.root?_renamed
  | .shorthandBinding _ | .shorthandTarget _ | .withDefault (.shorthandBinding _) _
  | .withDefault (.shorthandTarget _) _ => rw [Pattern.renamed]; exact Pattern.root?_writtenOut rfl
  | .binding _ | .array _ | .object _ | .property _ _ | .rest _ => rw [Pattern.renamed]; rfl
  | .withDefault (.binding _) _ | .withDefault (.target _) _ | .withDefault (.array _) _
  | .withDefault (.object _) _ | .withDefault (.property _ _) _ | .withDefault (.withDefault _ _) _
  | .withDefault (.rest _) _ =>
    rw [Pattern.renamed_withDefault (by simp) (by simp)]; rfl

lemma renamedIn_writes (pattern : Pattern) :
    (pattern.renamed replacements).writes = renamedIn replacements pattern.writes := by
  rw [Pattern.writes, Pattern.writes, pattern.root?_renamed]
  cases pattern.root? <;> rfl

lemma renamedIn_ownName (id : Option Ident) :
    renamedIn replacements (ownName id) = ownName (id.map (Ident.renamed replacements)) := by
  cases id with
  | none => rfl
  | some own => exact congrArg (fun bound => [Outline.binding bound]) (Occurrence.renamed_plain own)

lemma renamedIn_declarations (names : List String) (kind : VariableKind) :
    renamedIn replacements (names.map (.declaration · kind)) =
      (names.map replacements.newName).map (.declaration · kind) := by
  induction names with
  | nil => rfl
  | cons name names ih => exact congrArg (_ :: ·) ih

lemma renamedIn_ownDeclaration (id : Option Ident) (kind : VariableKind) :
    renamedIn replacements (ownDeclaration id kind) =
      ownDeclaration (id.map (Ident.renamed replacements)) kind := by
  cases id <;> rfl

lemma ImportBinding.ident_renamed (binding : ImportBinding) :
    (binding.renamed replacements).ident = binding.ident.renamed replacements := by
  cases binding <;> rfl

lemma renamedIn_bindings (bindings : List ImportBinding) :
    renamedIn replacements (bindings.map fun binding => .binding (.plain binding.ident)) =
      (bindings.map (ImportBinding.renamed replacements)).map
        fun binding => .binding (.plain binding.ident) := by
  induction bindings with
  | nil => rfl
  | cons binding rest ih =>
    rw [List.map_cons, renamedIn, ih, Outline.renamed, Occurrence.renamed_plain,
      ← binding.ident_renamed]
    rfl

/-- A shorthand that is written out has the outline of the shorthand, renamed. -/
lemma Pattern.outline_writtenOut {short bare : Ident → Pattern} {wrap : Pattern → Pattern}
    {id : Ident} {piece : Occurrence → Outline} {behind : List Outline}
    (renames : ∀ occurrence : Occurrence,
      (piece occurrence).renamed replacements = piece (occurrence.renamed replacements))
    (ofShort : (wrap (short id)).outline = piece (.shorthand id) :: behind)
    (ofBare : ∀ id, (wrap (bare id)).outline = piece (.plain id) :: behind) :
    (Pattern.writtenOut replacements short bare wrap id).outline =
      (piece (.shorthand id)).renamed replacements :: behind := by
  rw [renames, Occurrence.renamed_shorthand, Pattern.writtenOut]
  cases replacements.find? id.name with
  | none => exact ofShort
  | some new =>
    change (Pattern.property none (wrap (bare ⟨new, id.span⟩))).outline = _
    rw [Pattern.outline, Expr.outlineOption, List.nil_append, ofBare]

/-- A pattern with a default, unless it is a shorthand, is renamed part by part. -/
lemma Pattern.outline_withDefault_renamed {pattern : Pattern} {value : Expr}
    (long : ∀ id, pattern ≠ .shorthandBinding id) (long' : ∀ id, pattern ≠ .shorthandTarget id)
    (h : (pattern.renamed replacements).outline = renamedIn replacements pattern.outline)
    (h' : (value.renamed replacements).outline = renamedIn replacements value.outline) :
    ((Pattern.withDefault pattern value).renamed replacements).outline =
      renamedIn replacements (Pattern.withDefault pattern value).outline := by
  rw [Pattern.renamed_withDefault long long', Pattern.outline, Pattern.outline,
    renamedIn_append, h, h']

/-- The scope of a class expression binds its renamed name. -/
lemma renamedIn_classScope (id : Option Ident) (decorators members : List Outline) :
    renamedIn replacements (classScope id decorators members) =
      classScope (id.map (Ident.renamed replacements)) (renamedIn replacements decorators)
        (renamedIn replacements members) := by
  cases id with
  | none => exact renamedIn_append _ _
  | some own =>
    rw [classScope, renamedIn_scope, renamedIn_append, renamedIn_append,
      renamedIn_ownName]
    rfl

/-- The scope of a function binds the renamed names, and `arguments` as before. -/
lemma renamedIn_functionScope (kept : replacements.find? "arguments" = none)
    (id : Option Ident) (extra : List String) (params body : List Outline) :
    renamedIn replacements [functionScope id extra params body] =
      [functionScope (id.map (Ident.renamed replacements)) (extra.map replacements.newName)
        (renamedIn replacements params) (renamedIn replacements body)] := by
  have own : id.map (replacements.newName ·.name) =
      (id.map (Ident.renamed replacements)).map (·.name) := by
    cases id <;> rfl
  rw [functionScope, functionScope, renamedIn_scope, renamedIn_append, renamedIn_append,
    renamedIn_ownName, boundNamesAll_renamedIn, List.map_append, List.map_cons,
    newName_eq_self kept, Option.map_map, ← own]
  rfl

mutual

/-- The outline of a renamed expression is the renamed outline. -/
lemma Expr.outline_renamed (kept : replacements.find? "arguments" = none) :
    (expr : Expr) → (expr.renamed replacements).outline = renamedIn replacements expr.outline
  | .name id => by
    rw [Expr.renamed, Expr.outline, Expr.outline, ← Occurrence.renamed_plain]
    rfl
  | .shorthand id => by
    rw [Expr.renamed, Expr.outline, renamedIn, Outline.renamed, Occurrence.renamed_shorthand]
    cases replacements.find? id.name with
    | none => rfl
    | some new => simp [Expr.outline, Expr.outlineAll, renamedIn]
  | .atom _ => by
    rw [Expr.renamed, Expr.outline]
    rfl
  | .operation _ _ operands => by
    rw [Expr.renamed, Expr.outline, Expr.outline, Expr.outlineAll_renamed kept operands]
  | .member _ object => by
    rw [Expr.renamed, Expr.outline, Expr.outline, object.outline_renamed kept]
  | .index _ object property => by
    rw [Expr.renamed, Expr.outline, Expr.outline, renamedIn_append, object.outline_renamed kept,
      property.outline_renamed kept]
  | .paren _ inner => by
    rw [Expr.renamed, Expr.outline, Expr.outline, inner.outline_renamed kept]
  | .assign _ _ target value => by
    rw [Expr.renamed, Expr.outline, Expr.outline, renamedIn_append, renamedIn_append,
      renamedIn_writes, target.outline_renamed kept, value.outline_renamed kept]
  | .update _ target => by
    rw [Expr.renamed, Expr.outline, Expr.outline, renamedIn_append, renamedIn_writes,
      target.outline_renamed kept]
  | .function _ id params body => by
    have extra : (id.map (Ident.renamed replacements)).toList.map (·.name) =
        (id.toList.map (·.name)).map replacements.newName := by
      cases id <;> rfl
    rw [Expr.renamed, Expr.outline, Expr.outline, renamedIn_functionScope kept, extra,
      Pattern.outlineAll_renamed kept params, Stmt.outlineAll_renamed kept body]
  | .arrow _ params body => by
    rw [Expr.renamed, Expr.outline, Expr.outline, renamedIn_scope,
      renamedIn_append, ← boundNamesAll_renamedIn, Pattern.outlineAll_renamed kept params,
      Stmt.outlineAll_renamed kept body]
    rfl
  | .class _ decorators id members => by
    rw [Expr.renamed, Expr.outline, Expr.outline, renamedIn_classScope,
      Expr.outlineAll_renamed kept decorators, Expr.outlineAll_renamed kept members]
  | .staticBlock _ body => by
    rw [Expr.renamed, Expr.outline, Expr.outline, Stmt.outlineAll_renamed kept body]
    rfl

/-- The outline of a renamed pattern is the renamed outline. -/
lemma Pattern.outline_renamed (kept : replacements.find? "arguments" = none) :
    (pattern : Pattern) →
      (pattern.renamed replacements).outline = renamedIn replacements pattern.outline
  | .binding id => by
    rw [Pattern.renamed, Pattern.outline, Pattern.outline, ← Occurrence.renamed_plain]
    rfl
  | .shorthandBinding id => by
    rw [Pattern.renamed, Pattern.outline]
    exact Pattern.outline_writtenOut (fun _ => rfl) (by rw [Pattern.outline]; rfl) fun _ => by
      rw [Pattern.outline]; rfl
  | .shorthandTarget id => by
    rw [Pattern.renamed, Pattern.outline]
    exact Pattern.outline_writtenOut (fun _ => rfl) (by rw [Pattern.outline]; rfl) fun _ => by
      rw [Pattern.variable, Pattern.outline, Expr.outline]; rfl
  | .withDefault left value => by
    have left' := left.outline_renamed kept
    have value' := value.outline_renamed kept
    cases left with
    | shorthandBinding id =>
      rw [Pattern.renamed, Pattern.outline, Pattern.outline, renamedIn_append, ← value']
      exact Pattern.outline_writtenOut (fun _ => rfl)
        (by rw [Pattern.outline, Pattern.outline]; rfl) fun _ => by
          rw [Pattern.outline, Pattern.outline]; rfl
    | shorthandTarget id =>
      rw [Pattern.renamed, Pattern.outline, Pattern.outline, renamedIn_append, ← value']
      exact Pattern.outline_writtenOut (fun _ => rfl)
        (by rw [Pattern.outline, Pattern.outline]; rfl) fun _ => by
          rw [Pattern.variable, Pattern.outline, Pattern.outline, Expr.outline]; rfl
    | _ => exact Pattern.outline_withDefault_renamed (by simp) (by simp) left' value'
  | .target expr => by
    rw [Pattern.renamed, Pattern.outline, Pattern.outline, expr.outline_renamed kept]
  | .array parts | .object parts => by
    rw [Pattern.renamed, Pattern.outline, Pattern.outline, Pattern.outlineAll_renamed kept parts]
  | .property key value => by
    rw [Pattern.renamed, Pattern.outline, Pattern.outline, renamedIn_append,
      Expr.outlineOption_renamed kept key, value.outline_renamed kept]
  | .rest pattern => by
    rw [Pattern.renamed, Pattern.outline, Pattern.outline, pattern.outline_renamed kept]

/-- The outline of a renamed statement is the renamed outline. -/
theorem Stmt.outline_renamed (kept : replacements.find? "arguments" = none) :
    (stmt : Stmt) → (stmt.renamed replacements).outline = renamedIn replacements stmt.outline
  | .empty => by
    rw [Stmt.renamed, Stmt.outline]
    rfl
  | .expression expr => by
    rw [Stmt.renamed, Stmt.outline, Stmt.outline, expr.outline_renamed kept]
  | .block body => by
    rw [Stmt.renamed, Stmt.outline, Stmt.outline, Stmt.outlineAll_renamed kept body]
    rfl
  | .conditional test arms => by
    rw [Stmt.renamed, Stmt.outline, Stmt.outline, renamedIn_append, test.outline_renamed kept,
      Stmt.outlineAll_renamed kept arms]
  | .whileLoop test body => by
    rw [Stmt.renamed, Stmt.outline, Stmt.outline, renamedIn_append, test.outline_renamed kept,
      body.outline_renamed kept]
  | .doLoop body test => by
    rw [Stmt.renamed, Stmt.outline, Stmt.outline, renamedIn_append, body.outline_renamed kept,
      test.outline_renamed kept]
  | .forLoop first test update body => by
    rw [Stmt.renamed, Stmt.outline, Stmt.outline, renamedIn_scope,
      renamedIn_append, renamedIn_append, renamedIn_append, Stmt.outlineOption_renamed kept first,
      Expr.outlineOption_renamed kept test, Expr.outlineOption_renamed kept update,
      body.outline_renamed kept]
    rfl
  | .forEach left iterated body => by
    rw [Stmt.renamed, Stmt.outline, Stmt.outline, renamedIn_scope,
      renamedIn_append, renamedIn_append, left.outline_renamed kept, iterated.outline_renamed kept,
      body.outline_renamed kept]
    rfl
  | .assigned pattern => by
    rw [Stmt.renamed, Stmt.outline, Stmt.outline, pattern.outline_renamed kept]
  | .switch subject cases => by
    rw [Stmt.renamed, Stmt.outline, Stmt.outline, renamedIn_append, subject.outline_renamed kept,
      SwitchCase.outlineAll_renamed kept cases]
    rfl
  | .labelled body | .exportDeclaration _ body => by
    rw [Stmt.renamed, Stmt.outline, Stmt.outline, body.outline_renamed kept]
  | .tryBlocks parts | .exportOther _ parts => by
    rw [Stmt.renamed, Stmt.outline, Stmt.outline, Stmt.outlineAll_renamed kept parts]
  | .handler param body => by
    rw [Stmt.renamed, Stmt.outline, Stmt.outline, renamedIn_scope,
      renamedIn_append, ← boundNamesAll_renamedIn, Pattern.outlineOption_renamed kept param,
      Stmt.outlineAll_renamed kept body]
    rfl
  | .variables kind declarators => by
    rw [Stmt.renamed, Stmt.outline, Stmt.outline, renamedIn_append, renamedIn_declarations,
      ← boundNamesAll_renamedIn, Declarator.headOutlineAll_renamed kept declarators,
      Declarator.outlineAll_renamed kept declarators]
  | .function id params body => by
    rw [Stmt.renamed, Stmt.outline, Stmt.outline, renamedIn_append, renamedIn_ownDeclaration,
      renamedIn_functionScope kept, Pattern.outlineAll_renamed kept params,
      Stmt.outlineAll_renamed kept body]
    rfl
  | .class decorators id members => by
    rw [Stmt.renamed, Stmt.outline, Stmt.outline, renamedIn_append, renamedIn_append,
      renamedIn_append, renamedIn_ownDeclaration, renamedIn_ownName,
      Expr.outlineAll_renamed kept decorators,
      Expr.outlineAll_renamed kept members]
  | .importFrom _ bindings => by
    rw [Stmt.renamed, Stmt.outline, Stmt.outline, renamedIn_bindings]

lemma Expr.outlineAll_renamed (kept : replacements.find? "arguments" = none) : (exprs : List Expr) →
    Expr.outlineAll (Expr.renamedAll replacements exprs) =
      renamedIn replacements (Expr.outlineAll exprs)
  | [] => rfl
  | expr :: rest => by
    rw [Expr.renamedAll, Expr.outlineAll, Expr.outlineAll, renamedIn_append,
      expr.outline_renamed kept, Expr.outlineAll_renamed kept rest]

lemma Pattern.outlineAll_renamed (kept : replacements.find? "arguments" = none) :
    (patterns : List Pattern) →
    Pattern.outlineAll (Pattern.renamedAll replacements patterns) =
      renamedIn replacements (Pattern.outlineAll patterns)
  | [] => rfl
  | pattern :: rest => by
    rw [Pattern.renamedAll, Pattern.outlineAll, Pattern.outlineAll, renamedIn_append,
      pattern.outline_renamed kept, Pattern.outlineAll_renamed kept rest]

lemma Declarator.outlineAll_renamed (kept : replacements.find? "arguments" = none) :
    (declarators : List Declarator) →
    Declarator.outlineAll (Declarator.renamedAll replacements declarators) =
      renamedIn replacements (Declarator.outlineAll declarators)
  | [] => rfl
  | .mk pattern value :: rest => by
    rw [Declarator.renamedAll, Declarator.renamed, Declarator.outlineAll, Declarator.outlineAll,
      Declarator.outline, Declarator.outline, renamedIn_append, renamedIn_append,
      pattern.outline_renamed kept, Expr.outlineOption_renamed kept value,
      Declarator.outlineAll_renamed kept rest]

lemma Declarator.headOutlineAll_renamed (kept : replacements.find? "arguments" = none) :
    (declarators : List Declarator) →
    Declarator.headOutlineAll (Declarator.renamedAll replacements declarators) =
      renamedIn replacements (Declarator.headOutlineAll declarators)
  | [] => rfl
  | .mk pattern value :: rest => by
    rw [Declarator.renamedAll, Declarator.renamed, Declarator.headOutlineAll,
      Declarator.headOutlineAll, Declarator.headOutline, Declarator.headOutline, renamedIn_append,
      pattern.outline_renamed kept, Declarator.headOutlineAll_renamed kept rest]

lemma SwitchCase.outlineAll_renamed (kept : replacements.find? "arguments" = none) :
    (cases : List SwitchCase) →
    SwitchCase.outlineAll (SwitchCase.renamedAll replacements cases) =
      renamedIn replacements (SwitchCase.outlineAll cases)
  | [] => rfl
  | .mk test body :: rest => by
    rw [SwitchCase.renamedAll, SwitchCase.renamed, SwitchCase.outlineAll, SwitchCase.outlineAll,
      SwitchCase.outline, SwitchCase.outline, renamedIn_append, renamedIn_append,
      Expr.outlineOption_renamed kept test, Stmt.outlineAll_renamed kept body,
      SwitchCase.outlineAll_renamed kept rest]

lemma Stmt.outlineAll_renamed (kept : replacements.find? "arguments" = none) : (stmts : List Stmt) →
    Stmt.outlineAll (Stmt.renamedAll replacements stmts) =
      renamedIn replacements (Stmt.outlineAll stmts)
  | [] => rfl
  | stmt :: rest => by
    rw [Stmt.renamedAll, Stmt.outlineAll, Stmt.outlineAll, renamedIn_append,
      stmt.outline_renamed kept, Stmt.outlineAll_renamed kept rest]

lemma Expr.outlineOption_renamed (kept : replacements.find? "arguments" = none) :
    (expr : Option Expr) →
    Expr.outlineOption (Expr.renamedOption replacements expr) =
      renamedIn replacements (Expr.outlineOption expr)
  | none => rfl
  | some expr => expr.outline_renamed kept

lemma Pattern.outlineOption_renamed (kept : replacements.find? "arguments" = none) :
    (pattern : Option Pattern) →
    Pattern.outlineOption (Pattern.renamedOption replacements pattern) =
      renamedIn replacements (Pattern.outlineOption pattern)
  | none => rfl
  | some pattern => pattern.outline_renamed kept

lemma Stmt.outlineOption_renamed (kept : replacements.find? "arguments" = none) :
    (stmt : Option Stmt) →
    Stmt.outlineOption (Stmt.renamedOption replacements stmt) =
      renamedIn replacements (Stmt.outlineOption stmt)
  | none => rfl
  | some stmt => stmt.outline_renamed kept

end

/-! ## Identifiers of renamed trees -/

/-- The identifiers of a renamed statement are those of the statement, renamed. -/
lemma Stmt.identifiers_renamed (kept : replacements.find? "arguments" = none) (stmt : Stmt) :
    (stmt.renamed replacements).identifiers =
      stmt.identifiers.map (Occurrence.renamed replacements) := by
  rw [← Stmt.occurrences_outline, ← Stmt.occurrences_outline, stmt.outline_renamed kept,
    occurrencesAll_renamedIn]

/-- What the edits for new names do to identifiers: those that differ from the renamed ones are
respelled under their new names, where they stand.  No name may get itself for a new name, since it
would be put in although nothing changes. -/
lemma renameEdits_eq {identifiers : List Occurrence}
    (changes : ∀ occurrence ∈ identifiers,
      replacements.find? occurrence.name ≠ some occurrence.name) :
    renameEdits replacements identifiers =
      ((identifiers.zip (identifiers.map (Occurrence.renamed replacements))).filter
        fun (old, new) => old ≠ new).map
          fun (old, new) => ⟨old.ident.span.start, old.ident.span.stop,
            old.respelled new.name⟩ := by
  induction identifiers with
  | nil => rfl
  | cons occurrence rest ih =>
    obtain ⟨here, changes⟩ := List.forall_mem_cons.mp changes
    have onward := ih changes
    have name : (occurrence.renamed replacements).name = replacements.newName occurrence.name :=
      occurrence.name_renamed
    rw [renameEdits] at onward ⊢
    rw [List.map_cons, List.zip_cons_cons, List.filter_cons, List.filterMap_cons, onward,
      Occurrence.edit?]
    cases found : replacements.find? occurrence.name with
    | none =>
      have same : occurrence.renamed replacements = occurrence := by
        unfold Occurrence.renamed
        rw [found]
      simp [same]
    | some new =>
      have changed : occurrence ≠ occurrence.renamed replacements := by
        intro same
        rw [← same, Table.newName, found] at name
        exact here (found.trans (congrArg some name.symm))
      rw [Table.newName, found] at name
      simp [changed, name, Occurrence.respelled]

end StatementBundler
