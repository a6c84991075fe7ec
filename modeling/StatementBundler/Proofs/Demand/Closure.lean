import Mathlib.Order.Bounds.Basic
import StatementBundler.Proofs.Bundle.Build

/-!
# The included statements are a closure

A fresh bundle is asked, request by request, to load modules and to include statements.  If no
request fails, the included statements are the least set that contains what was asked for and is
closed under demands, and the answers list each of them exactly once (`included_isLeast`).

Demands are those of the bundle in the end, where all modules that were needed are loaded: every
name that an included statement reads has a meaning there.  The proof puts the traversals of the
single requests together to one, whose emitted things are reached from what was asked for
(`Traversal.reached`) and closed under demands (`Traversal.closed`).
-/

namespace StatementBundler

/-! ## Requests -/

/-- What a bundle can be asked to do. -/
inductive Request where
  /-- Load the module that a specifier means. -/
  | fetch (specifier : String) (importer : Option ModuleId)
  /-- Include all statements of a module that are bundled without being demanded. -/
  | expandAll (id : ModuleId)
  /-- Include a statement. -/
  | expand (id : StatementId)
  /-- Include the statement that a name of a module means. -/
  | define (id : ModuleId) (name : String)

/-- Does what is asked for, and lists what was included for it. -/
def Request.perform : Request → BundleM (List StatementId)
  | .fetch specifier importer => do
    let _ ← Bundle.fetch specifier importer
    return []
  | .expandAll id => Bundle.expandAll id
  | .expand id => Bundle.expand id
  | .define id name => Bundle.define id name

namespace Bundle

variable {bundle final first second : Bundle} {requests : List Request} {request : Request}
variable {listed asked : List StatementId}

/-- The statements that a request is about. -/
inductive Asks (bundle : Bundle) : Request → List StatementId → Prop where
  | fetch {specifier : String} {importer : Option ModuleId} :
      Asks bundle (.fetch specifier importer) []
  | expandAll {id : ModuleId} {m : Module} (loaded : bundle.module? id = some m) :
      Asks bundle (.expandAll id) (m.roots id)
  | expand {id : StatementId} : Asks bundle (.expand id) [id]
  | define {id : ModuleId} {name : String} {meaning : Option StatementId}
      (means : bundle.Means id name meaning) : Asks bundle (.define id name) meaning.toList

/-- A request goes on to be about the same statements. -/
lemma Grows.asks (h : Grows first second) (asks : first.Asks request asked) :
    second.Asks request asked := by
  cases asks with
  | fetch => exact .fetch
  | expandAll loaded => exact .expandAll (h.module? loaded)
  | expand => exact .expand
  | define means => exact .define (h.means means)

/-- What a request is about is unique. -/
lemma Asks.unique {asked' : List StatementId} (h : bundle.Asks request asked)
    (h' : bundle.Asks request asked') : asked = asked' := by
  cases h with
  | fetch =>
    cases h'
    rfl
  | expandAll loaded =>
    obtain _ | loaded' := h'
    rw [Option.some.inj (loaded.symm.trans loaded')]
  | expand =>
    cases h'
    rfl
  | define means =>
    obtain _ | _ | _ | means' := h'
    rw [means.unique means']

/-- Doing what is asked for explores the statements that the request is about. -/
lemma perform_explores (h : request.perform first = .ok listed second) :
    ∃ asked, second.Asks request asked ∧ Explores first second asked listed := by
  cases request with
  | fetch specifier importer =>
    obtain ⟨_, _, fetched, h⟩ := BundleM.bind_eq_ok.mp h
    obtain ⟨rfl, rfl⟩ := BundleM.pure_eq_ok.mp h
    obtain ⟨advances, same⟩ := fetch_advances fetched
    exact ⟨[], .fetch, .none advances same⟩
  | expandAll id =>
    obtain ⟨m, loaded, explores⟩ := expandAll_explores h
    exact ⟨m.roots id, .expandAll (explores.advances.grows.module? loaded), explores⟩
  | expand id => exact ⟨[id], .expand, expand_explores h⟩
  | define id name =>
    obtain ⟨meaning, means, explores⟩ := define_explores h
    exact ⟨meaning.toList, .define means, explores⟩

/-! ## The closure -/

/-- A set of statements contains what some requests are about and all that its members demand. -/
structure IsClosure (bundle : Bundle) (requests : List Request) (closure : Set StatementId) :
    Prop where
  asked : ∀ request ∈ requests, ∀ asked, bundle.Asks request asked → ∀ s ∈ asked, s ∈ closure
  demanded : ∀ s ∈ closure, ∀ t, bundle.Needs s t → t ∈ closure

/-- Whatever is reached from a closure by demands belongs to it. -/
lemma IsClosure.mem_of_reached {closure : Set StatementId} {s t : StatementId}
    (h : bundle.IsClosure requests closure) (hs : s ∈ closure)
    (reached : Relation.ReflTransGen (Demands bundle.DemandsOf) s t) : t ∈ closure := by
  induction reached with
  | refl => exact hs
  | tail _ step ih => exact h.demanded _ ih _ (needs_of_demands step)

/-- After any requests to a fresh bundle none of which fails, the included statements are the least
set that contains what was asked for and is closed under demands.  The answers list every included
statement once and nothing else, and every name that an included statement reads has a meaning. -/
theorem included_isLeast (fresh : bundle.IsFresh)
    (done : gather Request.perform requests bundle = .ok listed final) :
    IsLeast {closure | final.IsClosure requests closure} {s | final.isIncluded s} ∧
      listed.Nodup ∧ (∀ s, s ∈ listed ↔ final.isIncluded s) ∧
      ∀ s, final.isIncluded s → ∃ statement, final.statement? s = some statement ∧
        ∀ name ∈ statement.names.dependsOn, ∃ meaning, final.Means s.module name meaning := by
  obtain ⟨asked, asks, explores⟩ := gather_explores Asks id (fun grows => grows.asks)
    perform_explores done
  have traversal := explores.traversal
  rw [fresh.included] at traversal
  have member : ∀ s, s ∈ listed ↔ final.isIncluded s := by
    intro s
    simpa [isIncluded] using (traversal.mem_final_iff (s := s)).symm
  refine ⟨⟨⟨fun request inRequests found about s hs => ?_, fun s hs t needs => ?_⟩,
    fun closure h s hs => ?_⟩, traversal.nodup_listed List.nodup_nil, member, fun s hs => ?_⟩
  · -- What was asked for was to be visited.
    obtain ⟨found', inAsked, about'⟩ := exists_mem_of_forall₂ asks inRequests
    obtain rfl := about.unique about'
    have visited := traversal.todo_subset (List.mem_flatMap.mpr ⟨found, inAsked, hs⟩)
    simpa [isIncluded] using visited
  · -- What an included statement demands was visited as well.
    obtain ⟨_, _, demands, -⟩ := traversal.closed ((member s).mpr hs)
    have visited := traversal.mem_final_of_demands (demandsOf_deterministic final)
      ((member s).mpr hs) (demands.demands_iff.mpr needs)
    simpa [isIncluded] using visited
  · -- Every included statement is reached from what was asked for.
    obtain ⟨r, inAsked, -, path⟩ := traversal.reached ((member s).mpr hs)
    obtain ⟨found, inFound, inR⟩ := List.mem_flatMap.mp inAsked
    obtain ⟨request, inRequests, about⟩ := exists_mem_of_forall₂ asks.flip inFound
    exact h.mem_of_reached (h.asked request inRequests found about r inR)
      (Relation.ReflTransGen.mono (fun _ _ step => step.1) _ _ path)
  · obtain ⟨_, _, demands, -⟩ := traversal.closed ((member s).mpr hs)
    exact demands.means

/-- An entry that imports a function, which reads itself and a variable, and a later statement that
writes to the variable and reads the function in turn. -/
def cyclicBundle : Bundle :=
  ofVirtualModules
    { entry := "m.js"
      virtualModules :=
        [⟨"m.js", "import{a}from'a';a()"⟩,
          ⟨"a.js", "export function a(){b}var b;b=a;var c"⟩] }

/-- The function is asked for by its name in the entry, and then the entry as a whole.  All but the
last variable and the import is included, the variable and what is written to it first. -/
theorem included_isLeast_cyclicBundle :
    let requests : List Request := [.fetch "m.js" none, .define 0 "a", .expandAll 0]
    let listed : List StatementId := [⟨1, 1⟩, ⟨1, 2⟩, ⟨1, 0⟩, ⟨0, 1⟩]
    cyclicBundle.IsFresh ∧
      ∃ final, gather Request.perform requests cyclicBundle = .ok listed final ∧
        IsLeast {closure | final.IsClosure requests closure} {s | final.isIncluded s} ∧
        listed.Nodup ∧ (∀ s, s ∈ listed ↔ final.isIncluded s) ∧
        ∀ s, final.isIncluded s → ∃ statement, final.statement? s = some statement ∧
          ∀ name ∈ statement.names.dependsOn, ∃ meaning, final.Means s.module name meaning := by
  intro requests listed
  have fresh : cyclicBundle.IsFresh := isFresh_ofVirtualModules _
  have done := BundleM.eq_ok_of_value? (by decide +kernel :
    BundleM.value? (gather Request.perform requests cyclicBundle) = some listed)
  exact ⟨fresh, _, done, included_isLeast fresh done⟩

end Bundle

end StatementBundler
