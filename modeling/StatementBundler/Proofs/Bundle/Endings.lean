import StatementBundler.Proofs.Bundle.Growth

/-!
# How operations end

An operation on a bundle gives a value or stops, and leaves a bundle behind in either case.
`BundleM.Ends op bundle given stopped` says both at once: if the operation gives a value, `given`
holds of the value and of the bundle left behind, and if it stops, `stopped` holds of the stop and
of that bundle.  The endings of a composed operation follow from those of its parts, one lemma for
each way to compose (`ends_bind` and those around it).
-/

namespace StatementBundler

namespace BundleM

variable {α β : Type} {op : BundleM α} {bundle : Bundle}
variable {given given' : α → Bundle → Prop} {stopped stopped' : Stop → Bundle → Prop}

/-- An operation that is run on a bundle gives a value and leaves a bundle of which `given` holds,
or stops and leaves a bundle of which `stopped` holds. -/
def Ends (op : BundleM α) (bundle : Bundle) (given : α → Bundle → Prop)
    (stopped : Stop → Bundle → Prop) : Prop :=
  match op bundle with
  | .ok value after => given value after
  | .error stop after => stopped stop after

/-! ## Endings and outcomes -/

lemma ends_iff :
    Ends op bundle given stopped ↔
      (∀ value after, op bundle = .ok value after → given value after) ∧
        ∀ stop after, op bundle = .error stop after → stopped stop after := by
  unfold Ends
  cases op bundle <;> simp

/-- What a value that was given satisfies. -/
lemma Ends.of_ok {value : α} {after : Bundle} (h : Ends op bundle given stopped)
    (done : op bundle = .ok value after) : given value after :=
  (ends_iff.mp h).1 value after done

/-- What a stop satisfies. -/
lemma Ends.of_error {stop : Stop} {after : Bundle} (h : Ends op bundle given stopped)
    (done : op bundle = .error stop after) : stopped stop after :=
  (ends_iff.mp h).2 stop after done

/-- An ending implies any other that follows from it and from the way the operation ran. -/
lemma Ends.mono (h : Ends op bundle given stopped)
    (weaker : ∀ value after, op bundle = .ok value after → given value after → given' value after)
    (weaker' : ∀ stop after, op bundle = .error stop after → stopped stop after →
      stopped' stop after) : Ends op bundle given' stopped' :=
  ends_iff.mpr ⟨fun _ _ done => weaker _ _ done (h.of_ok done),
    fun _ _ done => weaker' _ _ done (h.of_error done)⟩

/-! ## Endings of composed operations -/

/-- The second of two operations begins where the first one ends, unless that stops. -/
lemma ends_bind {next : α → BundleM β} {given : β → Bundle → Prop} :
    Ends (op >>= next) bundle given stopped ↔
      Ends op bundle (fun value after => Ends (next value) after given stopped) stopped := by
  change (match EStateM.bind op next bundle with
    | .ok value after => given value after
    | .error stop after => stopped stop after) ↔ _
  unfold EStateM.bind Ends
  cases op bundle <;> rfl

/-- Two operations in a row may be replaced by others that do the same one by one. -/
lemma bind_congr {op' : BundleM α} {next next' : α → BundleM β} {bundle' : Bundle}
    (same : op bundle = op' bundle')
    (onward : ∀ value after, op bundle = .ok value after → next value after = next' value after) :
    (op >>= next) bundle = (op' >>= next') bundle' := by
  change EStateM.bind op next bundle = EStateM.bind op' next' bundle'
  unfold EStateM.bind
  rw [← same]
  cases done : op bundle with
  | ok value after => exact onward value after done
  | error => rfl

/-- An operation goes on with the value that another one gives before it. -/
lemma bind_of_eq_ok {next : α → BundleM β} {value : α} {after : Bundle}
    (done : op bundle = .ok value after) : (op >>= next) bundle = next value after := by
  change EStateM.bind op next bundle = _
  unfold EStateM.bind
  rw [done]

/-- An operation stops if another one stops before it. -/
lemma bind_of_eq_error {next : α → BundleM β} {stop : Stop} {after : Bundle}
    (done : op bundle = .error stop after) : (op >>= next) bundle = .error stop after := by
  change EStateM.bind op next bundle = _
  unfold EStateM.bind
  rw [done]

/-- Two operations in a row stop where the first one does, or where the second one does behind
it. -/
lemma bind_eq_error {next : α → BundleM β} {stop : Stop} {after : Bundle} :
    (op >>= next) bundle = .error stop after ↔ op bundle = .error stop after ∨
      ∃ value middle, op bundle = .ok value middle ∧ next value middle = .error stop after := by
  cases done : op bundle with
  | ok value middle => simp [bind_of_eq_ok done]
  | error stop' middle => simp [bind_of_eq_error done]

lemma ends_pure {value : α} : Ends (pure value) bundle given stopped ↔ given value bundle :=
  Iff.rfl

lemma ends_throw {stop : Stop} : Ends (throw stop) bundle given stopped ↔ stopped stop bundle :=
  Iff.rfl

lemma ends_get {given : Bundle → Bundle → Prop} :
    Ends get bundle given stopped ↔ given bundle bundle :=
  Iff.rfl

/-- Asking for a module gives it if it is there, and changes nothing. -/
lemma ends_moduleOf {id : ModuleId} {given : Module → Bundle → Prop} :
    Ends (moduleOf id) bundle given stopped ↔
      (∀ m, bundle.module? id = some m → given m bundle) ∧
        (bundle.module? id = none → stopped .unknownId bundle) := by
  simp only [moduleOf, ends_bind, ends_get]
  cases bundle.module? id with
  | none => simp [known, ends_throw]
  | some m => simp [known, ends_pure]

end BundleM

end StatementBundler
