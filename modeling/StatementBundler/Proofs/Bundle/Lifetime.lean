import StatementBundler.Proofs.Demand.Success

/-!
# The life of a bundle

A bundle may be built again and again.  A build that succeeds leaves its outcome behind, which is
given from then on.  A build that fails leaves the modules that it has loaded and the marks of the
statements that it has included.  If the entry could not be loaded, that is nothing, and the next
build fails in the same way.  Otherwise the build has stopped at a root of the entry that was not
included before, and the root stays included (`Opens.of_error`).  The next build passes over it, so
sooner or later a build succeeds, and gives a text without the statements that were included in
vain.  Failures persist, and outcomes are whole, exactly if it never comes to that
(`failures_persist_iff`).

A build that would follow imports without an end counts as one that fails.
-/

namespace StatementBundler

namespace Text

/-- Nothing is cut off from a text that is short enough. -/
lemma shownWithin_of_le {limit : ℕ} {text : List Char} (h : byteLength text ≤ limit) :
    shownWithin limit text = text := by
  induction text generalizing limit with
  | nil => rfl
  | cons c cs ih =>
    have positive := c.utf8Size_pos
    rw [byteLength] at h
    rw [shownWithin, if_neg (by omega), if_pos (by omega), ih (by omega)]

end Text

/-- A sink that takes a text shows it. -/
lemma Sink.shown_of_takes {sink : Sink} {text : List Char} (h : sink.takes text) :
    sink.shown text = text := by
  unfold Sink.shown
  split
  · rfl
  · rename_i limit limited
    rw [Sink.takes, limited, Option.all_some, decide_eq_true_eq] at h
    exact Text.shownWithin_of_le h

namespace Bundle

variable {bundle after final : Bundle} {output : Output} {stop : Stop}
variable {id : ModuleId} {m entry : Module}

/-! ## Calls -/

/-- A call that builds a bundle, and writes nothing or writes to a sink that takes every text. -/
inductive Call where
  | run
  | build (sink : Sink) (takesAll : ∀ text, sink.takes text)

namespace Call

/-- What a call writes if it succeeds. -/
def written (call : Call) (output : Output) : String :=
  match call with
  | run => ""
  | build _ _ => output.code

/-- Makes a call. -/
def make : Call → Bundle → Delivery × Bundle
  | run, bundle =>
    match Bundle.run bundle with
    | .error stop after => (⟨"", .error stop⟩, after)
    | .ok output after => (⟨"", .ok output⟩, after)
  | build sink _, bundle => bundle.build sink

/-- A call fails if the run of the bundle does, and writes nothing then. -/
lemma make_of_error (call : Call) (stops : Bundle.run bundle = .error stop after) :
    call.make bundle = (⟨"", .error stop⟩, after) := by
  cases call with
  | run => rw [make, stops]
  | build sink takesAll => rw [make, Bundle.build, stops]

/-- A call gives the outcome of the run of the bundle if that succeeds. -/
lemma make_of_ok (call : Call) (done : Bundle.run bundle = .ok output after) :
    call.make bundle = (⟨call.written output, .ok output⟩, after) := by
  cases call with
  | run => rw [make, done, written]
  | build sink takesAll =>
    rw [make, Bundle.build, done]
    simp only [takesAll, if_true, Sink.shown_of_takes (takesAll _), String.ofList_toList, written]

end Call

/-- Makes calls one after the other; what each of them leaves behind stands beside it. -/
def history : List Call → Bundle → List (Call × Delivery)
  | [], _ => []
  | call :: calls, bundle =>
    (call, (call.make bundle).1) :: history calls (call.make bundle).2

/-- A call has failed, and has written nothing. -/
structure Delivery.Failed (delivery : Delivery) : Prop where
  stopped : delivery.outcome.isOk = false
  untouched : delivery.written = ""

/-- Once a call fails, all later calls do. -/
def FailuresPersist (bundle : Bundle) : Prop :=
  ∀ calls, (history calls bundle).Pairwise fun earlier later =>
    earlier.2.outcome.isOk = false → later.2.Failed

/-- Every call that succeeds gives and writes what the first run of the bundle would give. -/
def DeliversWhole (bundle : Bundle) : Prop :=
  ∀ calls call delivery output, (call, delivery) ∈ history calls bundle →
    delivery.outcome = .ok output →
    (∃ final, run bundle = .ok output final) ∧ delivery.written = call.written output

/-- The first run of the bundle succeeds, or the entry cannot be loaded. -/
def Settled (bundle : Bundle) : Prop :=
  (∃ output final, run bundle = .ok output final) ∨
    ∃ cause, bundle.read (bundle.resolve bundle.entryPath.text none) none = .error cause

/-! ## Runs that repeat -/

/-- A bundle that has an outcome gives it again. -/
lemma run_of_output (given : bundle.output = some output) : run bundle = .ok output bundle := by
  refine (BundleM.bind_of_eq_ok (BundleM.get_eq_ok.mpr ⟨rfl, rfl⟩)).trans ?_
  simp only [given]
  rfl

/-- A run that succeeds leaves its outcome behind. -/
lemma output_of_run (done : run bundle = .ok output final) : final.output = some output := by
  cases first : bundle.output with
  | some given =>
    obtain ⟨rfl, rfl⟩ := EStateM.Result.ok.inj ((run_of_output first).symm.trans done)
    exact first
  | none =>
    obtain ⟨id, fetched, listed, expanded, -, -, rfl⟩ := stages_of_run first done
    rfl

/-- All calls give the outcome of the first run if that succeeds. -/
lemma history_of_run (done : run bundle = .ok output final) (calls : List Call) :
    history calls bundle = calls.map fun call => (call, ⟨call.written output, .ok output⟩) := by
  induction calls generalizing bundle final with
  | nil => rfl
  | cons call calls ih =>
    rw [history, call.make_of_ok done, ih (run_of_output (output_of_run done)), List.map_cons]

/-- All calls fail in the same way if the first run fails and changes nothing. -/
lemma history_of_stuck (stuck : run bundle = .error stop bundle) (calls : List Call) :
    history calls bundle = calls.map fun call => (call, ⟨"", .error stop⟩) := by
  induction calls with
  | nil => rfl
  | cons call calls ih => rw [history, call.make_of_error stuck, ih, List.map_cons]

/-! ## Runs that fail -/

/-- A run stops where the entry cannot be fetched. -/
lemma run_of_fetch_error (first : bundle.output = none)
    (stops : fetch bundle.entryPath.text none bundle = .error stop after) :
    run bundle = .error stop after := by
  refine (BundleM.bind_of_eq_ok (BundleM.get_eq_ok.mpr ⟨rfl, rfl⟩)).trans ?_
  simp only [first]
  refine (BundleM.bind_of_eq_ok (BundleM.get_eq_ok.mpr ⟨rfl, rfl⟩)).trans ?_
  exact BundleM.bind_of_eq_error stops

/-- A run stops where the expansion of the entry does. -/
lemma run_of_expandAll_error {fetched : Bundle} (first : bundle.output = none)
    (hfetch : fetch bundle.entryPath.text none bundle = .ok id fetched)
    (stops : expandAll id fetched = .error stop after) : run bundle = .error stop after := by
  refine (BundleM.bind_of_eq_ok (BundleM.get_eq_ok.mpr ⟨rfl, rfl⟩)).trans ?_
  simp only [first]
  refine (BundleM.bind_of_eq_ok (BundleM.get_eq_ok.mpr ⟨rfl, rfl⟩)).trans ?_
  refine (BundleM.bind_of_eq_ok hfetch).trans ?_
  exact BundleM.bind_of_eq_error stops

/-- A statement whose expansion stops was not included, and is now. -/
lemma marked_of_expand_error {s : StatementId} {statement : Statement}
    (loaded : bundle.module? s.module = some m) (known : bundle.statement? s = some statement)
    (stops : expand s bundle = .error stop after) :
    s ∉ bundle.included ∧ s ∈ after.included := by
  rw [expand_eq] at stops
  by_cases old : s ∈ bundle.included
  · rw [expandOnce_included loaded known old] at stops
    cases stops
  rw [expandOnce_new loaded known old] at stops
  let marked : Bundle := { bundle with included := s :: bundle.included }
  have brings : Agree (bring expand s m statement) (bring expand s m statement) marked _ :=
    bring_agree loaded ((statement?_eq loaded).symm.trans known) fun t other last there steps => by
      rw [← steps.supply_eq]
      exact (expand_proceeds there).agree
  have steps : Steps marked after := (brings.proceeds.of_error stops).1
  exact ⟨old, steps.included_subset List.mem_cons_self⟩

/-- A list of visits that stops has stopped at one of its members, behind the steps of those that
succeeded. -/
lemma exists_of_gather_error {α : Type} {visit : α → BundleM (List StatementId)} {items : List α}
    (each : ∀ item ∈ items, ∀ middle last listed, Steps bundle middle →
      visit item middle = .ok listed last → Steps middle last)
    (stops : gather visit items bundle = .error stop after) :
    ∃ item ∈ items, ∃ middle, Steps bundle middle ∧ visit item middle = .error stop after := by
  induction items generalizing bundle with
  | nil => cases stops
  | cons item items ih =>
    rcases BundleM.bind_eq_error.mp stops with stopped | ⟨listed, middle, visited, stops⟩
    · exact ⟨item, List.mem_cons_self, bundle, .refl _, stopped⟩
    rcases BundleM.bind_eq_error.mp stops with stopped | ⟨more, last, -, stops⟩
    · have steps := each item List.mem_cons_self _ _ _ (.refl _) visited
      obtain ⟨item', member, last, steps', stopped⟩ :=
        ih (fun item inside middle last listed onward =>
          each item (List.mem_cons_of_mem _ inside) middle last listed (steps.trans onward)) stopped
      exact ⟨item', List.mem_cons_of_mem _ member, last, steps.trans steps', stopped⟩
    · cases stops

/-- The expansion of a module stops at one of its roots. -/
lemma exists_expand_error (loaded : bundle.module? id = some m)
    (stops : expandAll id bundle = .error stop after) :
    ∃ index statement middle, m.statements[index]? = some statement ∧ statement.kind.isRoot ∧
      Steps bundle middle ∧ expand ⟨id, index⟩ middle = .error stop after := by
  have stops' := (BundleM.bind_of_eq_ok (moduleOf_loaded loaded)).symm.trans stops
  obtain ⟨⟨statement, index⟩, member, middle, steps, stopped⟩ :=
    exists_of_gather_error (fun item _ other _ _ steps visited =>
      (root_proceeds (steps.grows.module? loaded)).of_ok visited) stops'
  simp only at stopped
  split at stopped
  · rename_i isRoot
    exact ⟨index, statement, middle, List.mem_zipIdx_iff_getElem?.mp member, isRoot, steps, stopped⟩
  · cases stopped

/-- If the expansion of a module stops, then it has included a root that was not included. -/
lemma exists_root_of_expandAll_error (loaded : bundle.module? id = some m)
    (stops : expandAll id bundle = .error stop after) :
    ∃ s ∈ m.roots id, s ∉ bundle.included ∧ s ∈ after.included := by
  obtain ⟨index, statement, middle, found, isRoot, steps, stopped⟩ :=
    exists_expand_error loaded stops
  have there := steps.grows.module? loaded
  obtain ⟨new, old⟩ := marked_of_expand_error there ((statement?_eq there).trans found) stopped
  exact ⟨_, Module.mem_roots found isRoot, fun known => new (steps.included_subset known), old⟩

/-! ## Lives -/

/-- The bundle has no outcome yet, and its entry can be loaded and gets the number `id`. -/
structure Opens (bundle : Bundle) (id : ModuleId) (entry : Module) : Prop where
  first : bundle.output = none
  fetches : ∃ fetched, fetch bundle.entryPath.text none bundle = .ok id fetched ∧
    fetched.module? id = some entry

/-- The roots of the entry that are not included yet. -/
def missingRoots (bundle : Bundle) (id : ModuleId) (entry : Module) : List StatementId :=
  (entry.roots id).filter (· ∉ bundle.included)

/-- Fewer roots are missing once one more is included. -/
lemma missingRoots_length_lt {s : StatementId} (stay : bundle.included ⊆ after.included)
    (root : s ∈ entry.roots id) (new : s ∉ bundle.included) (old : s ∈ after.included) :
    (after.missingRoots id entry).length < (bundle.missingRoots id entry).length := by
  have fewer : after.missingRoots id entry =
      (bundle.missingRoots id entry).filter (· ∉ after.included) := by
    rw [missingRoots, missingRoots, List.filter_filter]
    refine List.filter_congr fun t _ => ?_
    have missed : t ∉ after.included → t ∉ bundle.included := fun h known => h (stay known)
    simpa using missed
  rw [fewer, List.length_filter_lt_length_iff_exists]
  exact ⟨s, List.mem_filter.mpr ⟨root, decide_eq_true new⟩, by simpa using old⟩

/-- A bundle whose entry is loaded opens. -/
lemma opens_of_indexOf? (first : bundle.output = none)
    (known : bundle.indexOf? (bundle.resolve bundle.entryPath.text none) = some id)
    (loaded : bundle.module? id = some entry) : bundle.Opens id entry :=
  ⟨first, bundle, fetchFrom_known known, loaded⟩

/-- If a run of a bundle fails whose entry can be loaded, then fewer roots are missing, and the
entry can still be loaded. -/
lemma Opens.of_error (opens : bundle.Opens id entry) (stops : run bundle = .error stop after) :
    after.Opens id entry ∧
      (after.missingRoots id entry).length < (bundle.missingRoots id entry).length := by
  obtain ⟨first, fetched, hfetch, loaded⟩ := opens
  have loading := fetchFrom_ends.of_ok hfetch
  cases hexpand : expandAll id fetched with
  | ok listed expanded =>
    obtain ⟨output, final, done⟩ := exists_run_eq_ok first hfetch hexpand
    cases done.symm.trans stops
  | error stop' after' =>
    obtain ⟨rfl, rfl⟩ :=
      EStateM.Result.error.inj ((run_of_expandAll_error first hfetch hexpand).symm.trans stops)
    have steps := ((expandAll_proceeds loaded).of_error hexpand).1
    have all : Steps bundle after' := loading.steps.trans steps
    obtain ⟨s, root, new, old⟩ := exists_root_of_expandAll_error loaded hexpand
    constructor
    · refine opens_of_indexOf? ?_ ?_ (steps.grows.module? loaded)
      · rw [all.advances.frame]
        exact first
      · have same : after'.resolve after'.entryPath.text none =
            bundle.resolve bundle.entryPath.text none := by
          rw [all.advances.frame]
          rfl
        rw [same]
        exact steps.grows.indexOf? loading.indexOf?
    · exact missingRoots_length_lt all.included_subset root
        (fun known => new (loading.steps.included_subset known)) old

/-- Among more calls than roots are missing there is one that succeeds, if the entry can be
loaded. -/
lemma Opens.exists_isOk (opens : bundle.Opens id entry) (calls : List Call)
    (enough : (bundle.missingRoots id entry).length < calls.length) :
    ∃ made ∈ history calls bundle, made.2.outcome.isOk := by
  induction calls generalizing bundle with
  | nil => exact absurd enough (Nat.not_lt_zero _)
  | cons call calls ih =>
    cases ran : run bundle with
    | ok output final =>
      exact ⟨_, List.mem_cons_self, by rw [call.make_of_ok ran]; rfl⟩
    | error stop after =>
      obtain ⟨opens', fewer⟩ := opens.of_error ran
      rw [List.length_cons] at enough
      obtain ⟨made, member, succeeds⟩ := ih opens' (by omega)
      refine ⟨made, List.mem_cons_of_mem _ ?_, succeeds⟩
      rwa [call.make_of_error ran]

/-- A fresh bundle that is settled gives the same at every call. -/
lemma Settled.history_eq (fresh : bundle.IsFresh) (settled : bundle.Settled) :
    (∃ output final, run bundle = .ok output final ∧ ∀ calls, history calls bundle =
      calls.map fun call => (call, ⟨call.written output, .ok output⟩)) ∨
    ∃ stop, ∀ calls, history calls bundle = calls.map fun call => (call, ⟨"", .error stop⟩) := by
  rcases settled with ⟨output, final, done⟩ | ⟨cause, unread⟩
  · exact Or.inl ⟨output, final, done, history_of_run done⟩
  · cases hfetch : fetch bundle.entryPath.text none bundle with
    | ok id fetched =>
      obtain ⟨-, entry, -, read⟩ := entry_of_fetch fresh hfetch
      cases read.symm.trans unread
    | error stop after =>
      obtain rfl := (fetchFrom_ends.of_error hfetch).same
      exact Or.inr ⟨stop, history_of_stuck (run_of_fetch_error fresh.output hfetch)⟩

/-- The entry of a bundle that is not settled can be loaded, though the first run fails. -/
lemma exists_opens_of_not_settled (fresh : bundle.IsFresh) (unsettled : ¬ bundle.Settled) :
    ∃ id entry stop after, bundle.Opens id entry ∧ run bundle = .error stop after := by
  rw [Settled, not_or] at unsettled
  obtain ⟨fails, readable⟩ := unsettled
  cases ran : run bundle with
  | ok output final => exact absurd ⟨output, final, ran⟩ fails
  | error stop after =>
    cases hfetch : fetch bundle.entryPath.text none bundle with
    | error stop' after' =>
      obtain ⟨cause, -, unread⟩ := (fetchFrom_ends.of_error hfetch).cause
      exact absurd ⟨cause, unread⟩ readable
    | ok id fetched =>
      obtain ⟨-, entry, loaded, -⟩ := entry_of_fetch fresh hfetch
      exact ⟨id, entry, stop, after, ⟨fresh.output, fetched, hfetch, loaded⟩, rfl⟩

/-- The failures of a fresh bundle persist exactly if it is settled. -/
lemma failuresPersist_iff (fresh : bundle.IsFresh) : bundle.FailuresPersist ↔ bundle.Settled := by
  constructor
  · intro persist
    by_contra unsettled
    obtain ⟨id, entry, stop, after, opens, ran⟩ := exists_opens_of_not_settled fresh unsettled
    obtain ⟨opens', -⟩ := opens.of_error ran
    -- Behind the call that fails there are calls enough for one to succeed.
    let calls : List Call := List.replicate ((after.missingRoots id entry).length + 1) .run
    obtain ⟨made, member, succeeds⟩ := opens'.exists_isOk calls (by simp [calls])
    have persists := persist (.run :: calls)
    rw [history, Call.run.make_of_error ran, List.pairwise_cons] at persists
    have failed := persists.1 made member rfl
    simp [failed.stopped] at succeeds
  · rintro settled calls
    obtain ⟨output, -, -, whole⟩ | ⟨stop, same⟩ := settled.history_eq fresh
    · rw [whole, List.pairwise_map]
      exact List.pairwise_of_forall fun _ _ stopped => by cases stopped
    · rw [same, List.pairwise_map]
      exact List.pairwise_of_forall fun _ _ _ => ⟨rfl, rfl⟩

/-- The outcomes of a fresh bundle are whole exactly if it is settled. -/
lemma deliversWhole_iff (fresh : bundle.IsFresh) : bundle.DeliversWhole ↔ bundle.Settled := by
  constructor
  · intro whole
    by_contra unsettled
    obtain ⟨id, entry, stop, after, opens, ran⟩ := exists_opens_of_not_settled fresh unsettled
    let calls : List Call := List.replicate ((bundle.missingRoots id entry).length + 1) .run
    obtain ⟨⟨call, delivery⟩, member, succeeds⟩ := opens.exists_isOk calls (by simp [calls])
    cases outcome : delivery.outcome with
    | error => simp [outcome, Except.isOk, Except.toBool] at succeeds
    | ok output =>
      obtain ⟨⟨final, done⟩, -⟩ := whole _ _ _ _ member outcome
      cases ran.symm.trans done
  · rintro settled calls call delivery output member outcome
    obtain ⟨given, final, done, whole⟩ | ⟨stop, same⟩ := settled.history_eq fresh
    · rw [whole] at member
      obtain ⟨_, -, eq⟩ := List.mem_map.mp member
      obtain ⟨rfl, rfl⟩ := Prod.mk.inj eq
      obtain rfl := Except.ok.inj outcome
      exact ⟨⟨final, done⟩, rfl⟩
    · rw [same] at member
      obtain ⟨_, -, eq⟩ := List.mem_map.mp member
      obtain ⟨rfl, rfl⟩ := Prod.mk.inj eq
      cases outcome

/-- The failures of a fresh bundle persist, and its outcomes are whole, exactly if its first run
succeeds or its entry cannot be loaded.  If the entry can be loaded, then among more calls than it
has roots there is one that succeeds. -/
theorem failures_persist_iff (fresh : bundle.IsFresh) :
    (bundle.FailuresPersist ↔ bundle.Settled) ∧ (bundle.DeliversWhole ↔ bundle.Settled) ∧
    ∀ id fetched entry, fetch bundle.entryPath.text none bundle = .ok id fetched →
      fetched.module? id = some entry → ∀ calls, (entry.roots id).length < calls.length →
        ∃ made ∈ history calls bundle, made.2.outcome.isOk := by
  refine ⟨failuresPersist_iff fresh, deliversWhole_iff fresh, ?_⟩
  intro id fetched entry hfetch loaded calls enough
  have opens : bundle.Opens id entry := ⟨fresh.output, fetched, hfetch, loaded⟩
  exact opens.exists_isOk calls ((List.length_filter_le _ _).trans_lt enough)

/-- An entry with two statements that read names which nobody provides. -/
def twoGapsBundle : Bundle :=
  ofVirtualModules
    { entry := "m.js", virtualModules := [⟨"m.js", "log(a);log(b)"⟩], globals := ["log"] }

/-- What fetching and running the example gives. -/
lemma run_twoGapsBundle :
    (BundleM.value? (run twoGapsBundle)).isNone ∧
      (twoGapsBundle.read (twoGapsBundle.resolve twoGapsBundle.entryPath.text none) none).isOk ∧
      BundleM.value? (fetch twoGapsBundle.entryPath.text none twoGapsBundle) = some 0 ∧
      ((BundleM.left (fetch twoGapsBundle.entryPath.text none twoGapsBundle)).module? 0).any
        fun entry => (entry.roots 0).length = 2 := by
  decide +kernel

/-- The example fails at first and is built at the third call at the latest. -/
theorem failures_persist_iff_twoGapsBundle :
    twoGapsBundle.IsFresh ∧ ¬ twoGapsBundle.Settled ∧ ¬ twoGapsBundle.FailuresPersist ∧
      ¬ twoGapsBundle.DeliversWhole ∧
      ∃ made ∈ history [.run, .run, .run] twoGapsBundle, made.2.outcome.isOk := by
  obtain ⟨fails, readable, fetches, roots⟩ := run_twoGapsBundle
  have fresh : twoGapsBundle.IsFresh := isFresh_ofVirtualModules _
  obtain ⟨entry, loaded, roots⟩ := (Option.any_eq_true _ _).mp roots
  have unsettled : ¬ twoGapsBundle.Settled := by
    rintro (⟨output, final, done⟩ | ⟨cause, unread⟩)
    · rw [done] at fails
      cases fails
    · rw [unread] at readable
      cases readable
  obtain ⟨persist, whole, recovers⟩ := failures_persist_iff fresh
  refine ⟨fresh, unsettled, unsettled ∘ persist.mp, unsettled ∘ whole.mp, ?_⟩
  refine recovers 0 _ entry (BundleM.eq_ok_of_value? fetches) loaded _ ?_
  simp [of_decide_eq_true roots]

/-- An entry whose only statement reads a name that nobody provides. -/
def gapBundle : Bundle :=
  ofVirtualModules
    { entry := "m.js", virtualModules := [⟨"m.js", "console.log(missing);"⟩] }

/-- Two calls that write to a sink without a limit. -/
def twoBuilds : List Call :=
  List.replicate 2 (.build {} fun _ => rfl)

/-- The first of two builds fails; the second one succeeds without a statement and writes
nothing. -/
theorem not_failuresPersist_gapBundle :
    gapBundle.IsFresh ∧
      (history twoBuilds gapBundle).map (fun made => made.2.outcome.toOption.map (·.code)) =
        [none, some ""] ∧
      ¬ gapBundle.FailuresPersist ∧ ¬ gapBundle.DeliversWhole := by
  have outcomes : (history twoBuilds gapBundle).map
      (fun made => made.2.outcome.toOption.map (·.code)) = [none, some ""] := by
    decide +kernel
  have fails : (BundleM.value? (run gapBundle)).isNone := by decide +kernel
  obtain ⟨first, second, made⟩ : ∃ first second, history twoBuilds gapBundle = [first, second] :=
    ⟨_, _, rfl⟩
  obtain ⟨failed, succeeded⟩ : first.2.outcome.toOption.map (·.code) = none ∧
      second.2.outcome.toOption.map (·.code) = some "" := by
    simpa [made] using outcomes
  have stopped : first.2.outcome.isOk = false := by
    cases outcome : first.2.outcome with
    | error => rfl
    | ok => simp [outcome, Except.toOption] at failed
  obtain ⟨output, given⟩ : ∃ output, second.2.outcome = .ok output := by
    cases outcome : second.2.outcome with
    | error => simp [outcome, Except.toOption] at succeeded
    | ok output => exact ⟨output, rfl⟩
  refine ⟨isFresh_ofVirtualModules _, outcomes, fun persist => ?_, fun whole => ?_⟩
  · have persists := persist twoBuilds
    rw [made] at persists
    have failed' := (List.pairwise_cons.mp persists).1 second List.mem_cons_self stopped
    simpa [given, Except.isOk, Except.toBool] using failed'.stopped
  · obtain ⟨⟨final, done⟩, -⟩ := whole twoBuilds second.1 second.2 output (made ▸ by simp) given
    rw [done] at fails
    cases fails

end Bundle

end StatementBundler
