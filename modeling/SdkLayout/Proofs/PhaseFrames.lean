import SdkLayout.Api.Builder
import SdkLayout.Pipeline.Phase

/-!
# What a phase leaves alone

Phases share one state, can run in any order and again, and can fail halfway. Each has findings of
its own (`Phase.fillings`), and whatever becomes of a phase, the state it leaves differs from the
one it found in these findings alone, and in diagnostics that are added at the end
(`Context.ChangesOnly`). A phase that fails does not even fill in its own findings. The one
exception is validation: it builds the reference graph before the lints run, and keeps it when they
report errors.

Frames compose (`ChangesOnly.trans`). So after any phases whatsoever, failed ones included, a
finding that none of them fills in is what it was (`attemptAll_changesOnly`).
-/

namespace SdkLayout

/-- What planning finds out: one finding for each result in its state. -/
inductive Finding where
  | graph
  | corrected
  | cycles
  | registry
  | tree
  | plan
  deriving DecidableEq

/-! ### Frames -/

/-- A state that differs from `c` at most in the given findings and in later diagnostics. -/
structure Context.ChangesOnly (own : List Finding) (c d : Context) : Prop where
  config : d.config = c.config
  api : d.api = c.api
  /-- Diagnostics are only added, and only at the end. -/
  diagnostics : c.diagnostics <+: d.diagnostics
  graph : .graph ∉ own → d.graph = c.graph
  corrected : .corrected ∉ own → d.corrected = c.corrected
  cycles : .cycles ∉ own → d.cycles = c.cycles
  registry : .registry ∉ own → d.registry = c.registry
  tree : .tree ∉ own → d.tree = c.tree
  plan : .plan ∉ own → d.plan = c.plan

namespace Context.ChangesOnly

variable {own more : List Finding} {c d e : Context}

theorem refl (own : List Finding) (c : Context) : c.ChangesOnly own c := by
  constructor <;> simp

theorem report (own : List Finding) (diagnostics : List Diagnostic) (c : Context) :
    c.ChangesOnly own (c.report diagnostics) := by
  constructor <;> simp [Context.report]

/-- Two frames one after the other: what neither changes is what it was. -/
theorem trans (h : c.ChangesOnly own d) (h' : d.ChangesOnly more e) :
    c.ChangesOnly (own ++ more) e where
  config := h'.config.trans h.config
  api := h'.api.trans h.api
  diagnostics := h.diagnostics.trans h'.diagnostics
  graph hn := (h'.graph fun hm => hn (List.mem_append_right _ hm)).trans
    (h.graph fun hm => hn (List.mem_append_left _ hm))
  corrected hn := (h'.corrected fun hm => hn (List.mem_append_right _ hm)).trans
    (h.corrected fun hm => hn (List.mem_append_left _ hm))
  cycles hn := (h'.cycles fun hm => hn (List.mem_append_right _ hm)).trans
    (h.cycles fun hm => hn (List.mem_append_left _ hm))
  registry hn := (h'.registry fun hm => hn (List.mem_append_right _ hm)).trans
    (h.registry fun hm => hn (List.mem_append_left _ hm))
  tree hn := (h'.tree fun hm => hn (List.mem_append_right _ hm)).trans
    (h.tree fun hm => hn (List.mem_append_left _ hm))
  plan hn := (h'.plan fun hm => hn (List.mem_append_right _ hm)).trans
    (h.plan fun hm => hn (List.mem_append_left _ hm))

end Context.ChangesOnly

/-- A phase that fills in the given findings makes this of a state. -/
structure Framed (own : List Finding) (c : Context)
    (outcome : Context × Except PlanningError Unit) : Prop where
  changes : c.ChangesOnly own outcome.1
  /-- A failure changes at most the reference graph. -/
  failed : ∀ e, outcome.2 = .error e → c.ChangesOnly [.graph] outcome.1

namespace Framed

variable {own : List Finding} {c d : Context} {answer : Except PlanningError Unit}

theorem unchanged : Framed own c (c, answer) :=
  ⟨.refl own c, fun _ _ => .refl _ c⟩

theorem succeeded (h : c.ChangesOnly own d) : Framed own c (d, .ok ()) :=
  ⟨h, fun _ failed => absurd failed (by simp)⟩

/-- What changes at most the reference graph may fail. -/
theorem of_graph (h : c.ChangesOnly [.graph] d) : Framed [.graph] c (d, answer) :=
  ⟨h, fun _ _ => h⟩

end Framed

/-! ### One phase -/

namespace Phase

theorem runValidate_framed (lints : List Lint) (c : Context) :
    Framed [.graph] c (runValidate lints c) := by
  unfold runValidate
  split
  · exact .unchanged
  split
  · exact .of_graph (.report _ _ c)
  -- The graph is there before the lints are counted, so this may be a failure as well.
  · refine .of_graph ?_
    constructor <;> simp [Context.report]

theorem runResolveCycles_framed (c : Context) :
    Framed [.corrected, .cycles] c (runResolveCycles c) := by
  unfold runResolveCycles
  split
  · exact .unchanged
  · refine .succeeded ?_
    constructor <;> simp [Context.report]

theorem collectNames_framed (c : Context) : Framed [.registry] c (collectNames.run c) := by
  refine .succeeded ?_
  constructor <;> simp

theorem runNormalize_framed (c : Context) : Framed [.tree] c (runNormalize c) := by
  unfold runNormalize
  split
  · exact .unchanged
  · refine .succeeded ?_
    constructor <;> simp [Context.report]

theorem runPlace_framed (c : Context) : Framed [.plan] c (runPlace c) := by
  unfold runPlace
  split
  · exact .unchanged
  · exact .unchanged
  split
  · exact .unchanged
  · refine .succeeded ?_
    constructor <;> simp [Context.report]

/-- The phases of every run, each with the findings that it fills in. -/
def fillings : List (Phase × List Finding) :=
  [(validate, [.graph]), (resolveCycles, [.corrected, .cycles]), (collectNames, [.registry]),
    (normalize, [.tree]), (place, [.plan])]

example : fillings.map Prod.fst = builtin := rfl

theorem run_framed {p : Phase} {own : List Finding} (h : (p, own) ∈ fillings) (c : Context) :
    Framed own c (p.run c) := by
  simp only [fillings, List.mem_cons, Prod.mk.injEq, List.not_mem_nil, or_false] at h
  obtain ⟨rfl, rfl⟩ | ⟨rfl, rfl⟩ | ⟨rfl, rfl⟩ | ⟨rfl, rfl⟩ | ⟨rfl, rfl⟩ := h
  · exact runValidate_framed Lint.standard c
  · exact runResolveCycles_framed c
  · exact collectNames_framed c
  · exact runNormalize_framed c
  · exact runPlace_framed c

/-! ### Phases in any order -/

/-- The state after some phases, each of which runs whatever became of those before it. -/
def attemptAll (phases : List Phase) (c : Context) : Context :=
  phases.foldl (fun c p => (p.run c).1) c

/-- A finding that none of the phases fills in is what it was. -/
theorem attemptAll_changesOnly {steps : List (Phase × List Finding)}
    (known : ∀ s ∈ steps, s ∈ fillings) (c : Context) :
    c.ChangesOnly (steps.flatMap Prod.snd) (attemptAll (steps.map Prod.fst) c) := by
  induction steps generalizing c with
  | nil => exact .refl _ c
  | cons s rest ih =>
    -- The rest starts from the state that the first phase left, whether it failed or not.
    have first := (run_framed (known s List.mem_cons_self) c).changes
    exact first.trans (ih (fun t ht => known t (List.mem_cons_of_mem s ht)) _)

/-- **Phases leave each other's findings alone.** Start from any state and run any phases on it, in
any order and as often as you like, whether they succeed or fail: the state reached has changed in
nothing but their findings and in further diagnostics. In particular the configuration and the API
are the same. In the state reached the same holds of any one phase, and if this phase fails, all
results of earlier phases are there as they were. -/
theorem attempt_framed (c : Context) {steps : List (Phase × List Finding)}
    (known : ∀ s ∈ steps, s ∈ fillings) {p : Phase} {own : List Finding}
    (h : (p, own) ∈ fillings) :
    c.ChangesOnly (steps.flatMap Prod.snd) (attemptAll (steps.map Prod.fst) c) ∧
      Framed own (attemptAll (steps.map Prod.fst) c)
        (p.run (attemptAll (steps.map Prod.fst) c)) :=
  ⟨attemptAll_changesOnly known c, run_framed h _⟩

/-- An API with a reference between packages, for which validation asks for an import path. -/
def splitApi : Api :=
  Api.empty (.ofIdentifier "acme")
    |>.addObject "A" (.ofIdentifiers ["x"] none) ["B"]
    |>.addObject "B" (.ofIdentifiers ["y"] none) []

theorem attempt_framed_splitApi :
    -- The first of the two phases fails: nothing can be placed before names are collected.
    let c := attemptAll [place, collectNames] (.new .default splitApi)
    c.registry.isSome ∧ (∃ e, (validate.run c).2 = .error e) ∧
      (Context.new .default splitApi).ChangesOnly [.plan, .registry] c ∧
      Framed [.graph] c (validate.run c) := by
  have known : ∀ s ∈ [(place, [Finding.plan]), (collectNames, [Finding.registry])],
      s ∈ fillings := by
    simp [fillings]
  have own : (validate, [Finding.graph]) ∈ fillings := by simp [fillings]
  exact ⟨rfl, ⟨_, rfl⟩, attempt_framed (.new .default splitApi) known own⟩

end Phase

end SdkLayout
