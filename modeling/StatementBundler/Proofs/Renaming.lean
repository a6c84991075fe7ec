import StatementBundler.Proofs.Excerpt
import StatementBundler.Proofs.Program.Identifiers

/-!
# Renamed statements

`TopLevel.rewritten` tells character by character how a statement is written under new names:
without the `export` before a declaration, with the identifiers that have new names respelled, and
otherwise as it stands.  A shorthand property is respelled with its key before the new name.

That is what an excerpt of the statement shows once the edits for the `export` and for the new names
were put into it (`TopLevel.IsPlaced.render_applyEdits`), if the places of the identifiers can be
trusted: every identifier takes up at least one character of the statement, and no two of them have
one in common.  Otherwise one edit might supersede another.
-/

namespace StatementBundler

variable {text : List Char} {start stop : ℕ} {top : TopLevel} {occurrence : Occurrence}
variable {identifiers : List Occurrence} {replacements : Table String} {edit : Edit}
variable {newName? : String → Option String}

/-! ## Places -/

namespace Occurrence

/-- The character at an offset belongs to the identifier. -/
def Covers (occurrence : Occurrence) (offset : ℕ) : Prop :=
  occurrence.ident.span.start ≤ offset ∧ offset < occurrence.ident.span.stop

instance (occurrence : Occurrence) (offset : ℕ) : Decidable (occurrence.Covers offset) :=
  inferInstanceAs (Decidable (_ ∧ _))

/-- Neither of two identifiers reaches into the other. -/
def Apart (first second : Occurrence) : Prop :=
  first.ident.span.stop ≤ second.ident.span.start ∨ second.ident.span.stop ≤ first.ident.span.start

instance (first second : Occurrence) : Decidable (first.Apart second) :=
  inferInstanceAs (Decidable (_ ∨ _))

/-- The identifier takes up characters of a text, at least one, between two offsets. -/
structure LiesIn (occurrence : Occurrence) (text : List Char) (start stop : ℕ) : Prop where
  start_le : start ≤ occurrence.ident.span.start
  nonempty : occurrence.ident.span.start < occurrence.ident.span.stop
  le_stop : occurrence.ident.span.stop ≤ stop
  starts : Text.isBoundary occurrence.ident.span.start text
  stops : Text.isBoundary occurrence.ident.span.stop text

lemma liesIn_iff : occurrence.LiesIn text start stop ↔
    start ≤ occurrence.ident.span.start ∧ occurrence.ident.span.start < occurrence.ident.span.stop ∧
      occurrence.ident.span.stop ≤ stop ∧ Text.isBoundary occurrence.ident.span.start text ∧
      Text.isBoundary occurrence.ident.span.stop text :=
  ⟨fun ⟨h₁, h₂, h₃, h₄, h₅⟩ => ⟨h₁, h₂, h₃, h₄, h₅⟩,
    fun ⟨h₁, h₂, h₃, h₄, h₅⟩ => ⟨h₁, h₂, h₃, h₄, h₅⟩⟩

instance : Decidable (occurrence.LiesIn text start stop) :=
  decidable_of_iff _ liesIn_iff.symm

end Occurrence

namespace TopLevel

/-- Where a statement starts without the `export` before a declaration. -/
def bareStart (top : TopLevel) : ℕ :=
  match top.stmt with
  | .exportDeclaration start _ => start
  | _ => top.span.start

/-- The places of a statement and of its identifiers can be trusted. -/
structure IsPlaced (top : TopLevel) (text : List Char) : Prop where
  start_le : top.span.start ≤ top.bareStart
  le_stop : top.bareStart ≤ top.span.stop
  starts : Text.isBoundary top.span.start text
  bare : Text.isBoundary top.bareStart text
  stops : Text.isBoundary top.span.stop text
  lie : ∀ occurrence ∈ top.stmt.identifiers, occurrence.LiesIn text top.bareStart top.span.stop
  apart : top.stmt.identifiers.Pairwise Occurrence.Apart

lemma isPlaced_iff : top.IsPlaced text ↔
    top.span.start ≤ top.bareStart ∧ top.bareStart ≤ top.span.stop ∧
      Text.isBoundary top.span.start text ∧ Text.isBoundary top.bareStart text ∧
      Text.isBoundary top.span.stop text ∧
      (∀ occurrence ∈ top.stmt.identifiers, occurrence.LiesIn text top.bareStart top.span.stop) ∧
      top.stmt.identifiers.Pairwise Occurrence.Apart :=
  ⟨fun ⟨h₁, h₂, h₃, h₄, h₅, h₆, h₇⟩ => ⟨h₁, h₂, h₃, h₄, h₅, h₆, h₇⟩,
    fun ⟨h₁, h₂, h₃, h₄, h₅, h₆, h₇⟩ => ⟨h₁, h₂, h₃, h₄, h₅, h₆, h₇⟩⟩

instance : Decidable (top.IsPlaced text) :=
  decidable_of_iff _ isPlaced_iff.symm

end TopLevel

/-! ## Spellings -/

/-- How an identifier is spelled under a new name; a shorthand property keeps its key. -/
def Occurrence.respelled (occurrence : Occurrence) (new : String) : String :=
  if occurrence.isShorthand then occurrence.name ++ ": " ++ new else new

/-- What is written for a character under new names for some identifiers.  The first character of an
identifier with a new name stands for all of it. -/
def written (newName? : String → Option String) (identifiers : List Occurrence)
    (place : ℕ × Char) : List Char :=
  match identifiers.find? (·.Covers place.1) with
  | none => [place.2]
  | some occurrence =>
    match newName? occurrence.name with
    | none => [place.2]
    | some new =>
      if place.1 = occurrence.ident.span.start then (occurrence.respelled new).toList else []

/-- The text of a statement under new names, without the `export` before a declaration. -/
def TopLevel.rewritten (newName? : String → Option String) (text : List Char) (top : TopLevel) :
    List Char :=
  (Text.between top.bareStart top.span.stop text).flatMap (written newName? top.stmt.identifiers)

/-- No character belongs to two identifiers that keep apart. -/
lemma find?_covers {offset : ℕ} (apart : identifiers.Pairwise Occurrence.Apart)
    (member : occurrence ∈ identifiers) (covered : occurrence.Covers offset) :
    identifiers.find? (·.Covers offset) = some occurrence := by
  induction identifiers with
  | nil => cases member
  | cons first rest ih =>
    obtain ⟨here, apart⟩ := List.pairwise_cons.mp apart
    rcases List.mem_cons.mp member with rfl | member
    · rw [List.find?_cons_of_pos (by simpa using covered)]
    · have free : ¬ first.Covers offset := by
        have keeps := here occurrence member
        simp only [Occurrence.Covers, Occurrence.Apart] at covered keeps ⊢
        omega
      rw [List.find?_cons_of_neg (by simpa using free), ih apart member]

/-- A character is written as it is, unless it belongs to an identifier with a new name. -/
lemma written_eq_self {place : ℕ × Char}
    (kept : ∀ occurrence ∈ identifiers,
      occurrence.Covers place.1 → newName? occurrence.name = none) :
    written newName? identifiers place = [place.2] := by
  unfold written
  cases found : identifiers.find? (·.Covers place.1) with
  | none => rfl
  | some occurrence =>
    have covered : occurrence.Covers place.1 := by simpa using List.find?_some found
    simp only [kept occurrence (List.mem_of_find?_eq_some found) covered]

/-- For the characters of an identifier with a new name its new spelling is written. -/
lemma flatMap_written {new : String} (apart : identifiers.Pairwise Occurrence.Apart)
    (member : occurrence ∈ identifiers) (lies : occurrence.LiesIn text start stop)
    (renamed : newName? occurrence.name = some new) :
    (Text.between occurrence.ident.span.start occurrence.ident.span.stop text).flatMap
        (written newName? identifiers) = (occurrence.respelled new).toList := by
  obtain ⟨c, others, characters, behind⟩ :=
    Text.exists_between_eq_cons lies.starts lies.stops lies.nonempty
  have first := find?_covers apart member ⟨le_rfl, lies.nonempty⟩
  have silent : others.flatMap (written newName? identifiers) = [] := by
    rw [List.flatMap_eq_nil_iff]
    intro place inside
    obtain ⟨after, before⟩ := behind place inside
    have found := find?_covers apart member ⟨after.le, before⟩
    simp only [written, found, renamed, if_neg after.ne']
  rw [characters, List.flatMap_cons, silent, List.append_nil]
  simp only [written, first, renamed, if_true]

/-! ## Edits -/

/-- The edits of some identifiers are those for the identifiers with new names. -/
lemma mem_renameEdits : edit ∈ renameEdits replacements identifiers ↔
    ∃ occurrence ∈ identifiers, ∃ new, replacements.find? occurrence.name = some new ∧
      edit = ⟨occurrence.ident.span.start, occurrence.ident.span.stop,
        occurrence.respelled new⟩ := by
  simp only [renameEdits, List.mem_filterMap, Occurrence.edit?, Option.map_eq_some_iff,
    Occurrence.respelled, @eq_comm _ edit]

namespace TopLevel

/-- The edit that leaves out the `export` before a declaration. -/
def bareEdits (top : TopLevel) : List Edit :=
  match top.stmt with
  | .exportDeclaration start _ => [⟨top.span.start, start, ""⟩]
  | _ => []

/-- Either the statement is cut where it starts without an `export`, or it has none. -/
lemma bareEdits_eq (top : TopLevel) :
    top.bareEdits = [⟨top.span.start, top.bareStart, ""⟩] ∨
      top.bareEdits = [] ∧ top.bareStart = top.span.start := by
  unfold bareEdits bareStart
  cases top.stmt <;> simp

lemma eq_of_mem_bareEdits (member : edit ∈ top.bareEdits) :
    edit = ⟨top.span.start, top.bareStart, ""⟩ := by
  rcases top.bareEdits_eq with same | ⟨same, -⟩ <;> rw [same] at member
  · exact List.mem_singleton.mp member
  · cases member

/-- The edits that a statement needs under new names. -/
def edits (replacements : Table String) (top : TopLevel) : List Edit :=
  top.bareEdits ++ renameEdits replacements top.stmt.identifiers

/-- All of the edits lie between characters of the statement. -/
lemma IsPlaced.fits (placed : top.IsPlaced text) (member : edit ∈ top.edits replacements) :
    edit.Fits text top.span.start top.span.stop := by
  rcases List.mem_append.mp member with member | member
  · obtain rfl := eq_of_mem_bareEdits member
    exact ⟨le_rfl, placed.start_le, placed.le_stop, placed.starts, placed.bare⟩
  · obtain ⟨occurrence, inside, _, -, rfl⟩ := mem_renameEdits.mp member
    have lies := placed.lie occurrence inside
    exact ⟨placed.start_le.trans lies.start_le, lies.nonempty.le, lies.le_stop, lies.starts,
      lies.stops⟩

/-- The edits keep apart. -/
lemma IsPlaced.pairwise_edits (placed : top.IsPlaced text) :
    (top.edits replacements).Pairwise Edit.Apart := by
  refine List.pairwise_append.mpr ⟨?_, ?_, fun first member second member' => ?_⟩
  · rcases top.bareEdits_eq with same | ⟨same, -⟩ <;> rw [same]
    · exact List.pairwise_singleton _ _
    · exact .nil
  · refine placed.apart.filterMap _ fun first second apart edit given edit' given' => ?_
    simp only [Occurrence.edit?, Option.map_eq_some_iff] at given given'
    obtain ⟨_, -, rfl⟩ := given
    obtain ⟨_, -, rfl⟩ := given'
    exact apart
  · obtain rfl := eq_of_mem_bareEdits member
    obtain ⟨occurrence, inside, _, -, rfl⟩ := mem_renameEdits.mp member'
    exact .inl (placed.lie occurrence inside).start_le

/-- The excerpt of a statement has the bounds of the statement. -/
lemma IsPlaced.snip_whole (placed : top.IsPlaced text) :
    (Excerpt.whole text).snip top.span.start top.span.stop =
      ⟨text, top.span.start, top.span.stop, []⟩ := by
  have order := placed.start_le.trans placed.le_stop
  have inside : top.span.stop ≤ Text.byteLength text :=
    Text.add_byteLength_dropBytes placed.stops ▸ Nat.le_add_right _ _
  simp only [Excerpt.snip, Excerpt.whole, Excerpt.clamp_eq (Nat.zero_le _) (order.trans inside),
    Excerpt.clamp_eq order inside, List.filter_nil]

/-! ## What is shown -/

/-- What is shown for a character of a statement: nothing for the `export` before a declaration. -/
def shown (newName? : String → Option String) (top : TopLevel) (place : ℕ × Char) : List Char :=
  if place.1 < top.bareStart then [] else written newName? top.stmt.identifiers place

/-- Nothing is shown for the `export`. -/
lemma flatMap_shown_bare :
    (Text.between start top.bareStart text).flatMap (top.shown newName?) = [] := by
  rw [List.flatMap_eq_nil_iff]
  exact fun place inside => if_pos (Text.mem_between.mp inside).2.2

/-- What stands behind the `export` is shown as it is written under new names. -/
lemma flatMap_shown_of_le (behind : top.bareStart ≤ start) :
    (Text.between start stop text).flatMap (top.shown newName?) =
      (Text.between start stop text).flatMap (written newName? top.stmt.identifiers) := by
  refine List.flatMap_congr fun place inside => if_neg ?_
  exact (behind.trans (Text.mem_between.mp inside).2.1).not_gt

/-- A character that no edit covers is shown as it is. -/
lemma shown_eq_self {place : ℕ × Char} (behind : top.span.start ≤ place.1)
    (free : ∀ edit ∈ top.edits replacements, ¬ (edit.start ≤ place.1 ∧ place.1 < edit.stop)) :
    top.shown replacements.find? place = [place.2] := by
  have bare : ¬ place.1 < top.bareStart := by
    rcases top.bareEdits_eq with same | ⟨-, same⟩
    · have member : ⟨top.span.start, top.bareStart, ""⟩ ∈ top.edits replacements :=
        List.mem_append_left _ (same ▸ List.mem_singleton_self _)
      exact fun early => free _ member ⟨behind, early⟩
    · rw [same]
      exact behind.not_gt
  refine (if_neg bare).trans (written_eq_self fun occurrence inside covered => ?_)
  cases renamed : replacements.find? occurrence.name with
  | none => rfl
  | some new =>
    have member := mem_renameEdits.mpr ⟨occurrence, inside, new, renamed, rfl⟩
    exact absurd covered (free _ (List.mem_append_right _ member))

/-- For the characters that an edit covers its content is shown. -/
lemma IsPlaced.flatMap_shown (placed : top.IsPlaced text) (member : edit ∈ top.edits replacements) :
    (Text.between edit.start edit.stop text).flatMap (top.shown replacements.find?) =
      edit.content.toList := by
  rcases List.mem_append.mp member with member | member
  · obtain rfl := eq_of_mem_bareEdits member
    exact flatMap_shown_bare
  · obtain ⟨occurrence, inside, new, renamed, rfl⟩ := mem_renameEdits.mp member
    have lies := placed.lie occurrence inside
    exact (flatMap_shown_of_le lies.start_le).trans
      (flatMap_written placed.apart inside lies renamed)

/-- The excerpt of a statement can be shown under the edits for new names, and shows the statement
as it is written under them. -/
lemma IsPlaced.render_applyEdits (placed : top.IsPlaced text) (replacements : Table String) :
    let excerpt := ((Excerpt.whole text).snip top.span.start top.span.stop).applyEdits
      (top.edits replacements)
    excerpt.isIntact ∧ excerpt.render = top.rewritten replacements.find? text := by
  have fits : ∀ edit ∈ top.edits replacements, edit.Fits text top.span.start top.span.stop :=
    fun _ => placed.fits
  have apart : (top.edits replacements).Pairwise Edit.Apart := placed.pairwise_edits
  have order := placed.start_le.trans placed.le_stop
  intro excerpt
  have edited : excerpt = ⟨text, top.span.start, top.span.stop, top.edits replacements⟩ := by
    simp only [excerpt, placed.snip_whole]
    exact Excerpt.applyEdits_eq fits apart
  rw [edited]
  refine ⟨Excerpt.isIntact_of_fits placed.starts placed.stops fits, ?_⟩
  calc Excerpt.render ⟨text, top.span.start, top.span.stop, top.edits replacements⟩
      = (Text.between top.span.start top.span.stop text).flatMap (top.shown replacements.find?) :=
        Excerpt.render_eq placed.starts order fits apart (fun _ => shown_eq_self)
          fun _ => placed.flatMap_shown
    _ = (Text.between top.span.start top.bareStart text).flatMap (top.shown replacements.find?) ++
          (Text.between top.bareStart top.span.stop text).flatMap
            (top.shown replacements.find?) := by
        rw [← List.flatMap_append, Text.between_append placed.start_le placed.le_stop]
    _ = top.rewritten replacements.find? text := by
        rw [flatMap_shown_bare, flatMap_shown_of_le le_rfl, List.nil_append, rewritten]

end TopLevel

end StatementBundler
