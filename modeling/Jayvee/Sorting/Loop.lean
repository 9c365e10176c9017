import Jayvee.Ast.Pipeline

/-! # Kahn's algorithm as `getBlocksInTopologicalSorting` runs it

The `while` loop keeps the sorted output, a stack of ready blocks and the pipes
not yet visited. One pass pops a block, emits it, marks its outgoing pipes
visited and pushes each child none of whose ingoing pipes is left. The loop
runs on fuel; `visitNode_cons` states once what a pass does.
-/

namespace Jayvee

/-- The variables of the `while` loop; the stack `currentNodes` has its top at the head. -/
structure SortState (β : Type) where
  sortedNodes : List β
  currentNodes : List β
  unvisitedEdges : List (PipeWrapper β)

variable {β : Type} [DecidableEq β]

section Loop

variable (getMetaInformation : β → Option BlockMetaInformation)
  (pipeline : PipelineDefinition β)

/-- One pass of the `for` loop over the children of `node`: remove every pipe
`node → childNode` from the unvisited ones, then push `childNode` if none of its
ingoing pipes is still unvisited. -/
def visitChild (node : β) (s : SortState β) (childNode : β) : SortState β :=
  let unvisitedEdges :=
    ((collectIngoingPipes pipeline childNode).filter (·.from == node)).foldl
      (fun unvisitedEdges e => unvisitedEdges.filter fun edge => !(edge == e))
      s.unvisitedEdges
  let notRemovedEdges := (collectIngoingPipes pipeline childNode).filter fun e =>
    unvisitedEdges.any fun edge => edge == e
  if notRemovedEdges.length = 0 then
    { s with currentNodes := childNode :: s.currentNodes, unvisitedEdges }
  else
    { s with unvisitedEdges }

/-- One pass of the `while` loop; `none` once the stack is empty. -/
def visitNode (s : SortState β) : Option (SortState β) :=
  match s.currentNodes with
  | [] => none
  | node :: currentNodes =>
    some ((collectChildren pipeline node).foldl (visitChild pipeline node)
      { s with sortedNodes := s.sortedNodes ++ [node], currentNodes })

/-- The `while` loop, for at most `fuel` passes; `none` when the fuel runs out. -/
def runLoop : Nat → SortState β → Option (SortState β)
  | 0, _ => none
  | fuel + 1, s =>
    match visitNode pipeline s with
    | none => some s
    | some s' => runLoop fuel s'

def initialState : SortState β :=
  ⟨[], (collectStartingBlocks getMetaInformation pipeline).reverse, collectAllPipes pipeline⟩

/-- The loop followed by the final assertion that every pipe was visited. -/
def getBlocksInTopologicalSorting (fuel : Nat) : Option (Except String (List β)) :=
  (runLoop pipeline fuel (initialState getMetaInformation pipeline)).map fun s =>
    if s.unvisitedEdges.length = 0 then .ok s.sortedNodes
    else .error ("The pipeline " ++ pipeline.name ++ " is expected to have no cycles")

def Ready (unvisitedEdges : List (PipeWrapper β)) (node c : β) : Prop :=
  ∀ e ∈ collectAllPipes pipeline, e.to = c → e ∈ unvisitedEdges → e.from = node

instance (unvisitedEdges : List (PipeWrapper β)) (node c : β) :
    Decidable (Ready pipeline unvisitedEdges node c) :=
  inferInstanceAs (Decidable (∀ e ∈ collectAllPipes pipeline, _))

end Loop

variable {pipeline : PipelineDefinition β}

theorem foldl_filter_not_beq (l u : List (PipeWrapper β)) :
    l.foldl (fun u e => u.filter fun edge => !(edge == e)) u =
      u.filter fun edge => !decide (edge ∈ l) := by
  induction l generalizing u with
  | nil => simp
  | cons e l ih =>
    rw [List.foldl_cons, ih, List.filter_filter]
    congr 1
    funext edge
    by_cases h : edge = e <;> simp [h]

theorem ready_filter {u : List (PipeWrapper β)} {node c : β} (P : PipeWrapper β → Prop)
    [DecidablePred P] :
    Ready pipeline (u.filter fun e => !decide (e ∈ collectAllPipes pipeline ∧ e.from = node ∧ P e))
      node c ↔ Ready pipeline u node c := by
  simp only [Ready, List.mem_filter, Bool.not_eq_true', decide_eq_false_iff_not]
  constructor
  · intro h e he hc hu
    by_contra hn
    exact hn (h e he hc ⟨hu, fun h' => hn h'.2.1⟩)
  · intro h e he hc hu
    exact h e he hc hu.1

theorem visitChild_eq (node : β) (s : SortState β) (c : β) :
    visitChild pipeline node s c =
      { s with
        currentNodes :=
          if Ready pipeline s.unvisitedEdges node c then c :: s.currentNodes else s.currentNodes
        unvisitedEdges := s.unvisitedEdges.filter fun e =>
          !decide (e ∈ collectAllPipes pipeline ∧ e.from = node ∧ e.to = c) } := by
  have hu : ((collectIngoingPipes pipeline c).filter (·.from == node)).foldl
      (fun u e => u.filter fun edge => !(edge == e)) s.unvisitedEdges =
      s.unvisitedEdges.filter fun e =>
        !decide (e ∈ collectAllPipes pipeline ∧ e.from = node ∧ e.to = c) := by
    rw [foldl_filter_not_beq]
    congr 1
    funext e
    simp only [List.mem_filter, mem_collectIngoingPipes, beq_iff_eq]
    congr 1
    exact decide_eq_decide.mpr
      ⟨fun ⟨⟨h₁, h₂⟩, h₃⟩ => ⟨h₁, h₃, h₂⟩, fun ⟨h₁, h₃, h₂⟩ => ⟨⟨h₁, h₂⟩, h₃⟩⟩
  have hr : ((collectIngoingPipes pipeline c).filter fun e =>
      (s.unvisitedEdges.filter fun e =>
        !decide (e ∈ collectAllPipes pipeline ∧ e.from = node ∧ e.to = c)).any
          fun edge => edge == e).length = 0 ↔ Ready pipeline s.unvisitedEdges node c := by
    simp only [List.length_eq_zero, List.filter_eq_nil_iff, mem_collectIngoingPipes,
      List.any_eq_true, List.mem_filter, beq_iff_eq, Ready]
    constructor
    · intro h e he hc hu
      by_contra hn
      exact h e ⟨he, hc⟩ ⟨e, ⟨hu, by simp [hn]⟩, rfl⟩
    · rintro h e ⟨he, hc⟩ ⟨e', ⟨hu, hn⟩, rfl⟩
      simp [he, hc, h e' he hc hu] at hn
  unfold visitChild
  simp only [hu]
  split_ifs with h₁ h₂ h₂
  · rfl
  · exact absurd (hr.mp h₁) h₂
  · exact absurd (hr.mpr h₂) h₁
  · rfl

theorem foldl_visitChild (node : β) (cs : List β) (s : SortState β) :
    cs.foldl (visitChild pipeline node) s =
      { s with
        currentNodes :=
          (cs.filter fun c => Ready pipeline s.unvisitedEdges node c).reverse ++ s.currentNodes
        unvisitedEdges := s.unvisitedEdges.filter fun e =>
          !decide (e ∈ collectAllPipes pipeline ∧ e.from = node ∧ e.to ∈ cs) } := by
  induction cs generalizing s with
  | nil => simp
  | cons c cs ih =>
    rw [List.foldl_cons, ih, visitChild_eq]
    simp only [ready_filter, List.filter_filter, List.filter_cons, List.mem_cons]
    congr 1
    · split_ifs <;> simp_all
    · congr 1
      funext e
      by_cases hp : e ∈ collectAllPipes pipeline <;> by_cases hf : e.from = node <;>
        simp [hp, hf, Bool.and_comm]

theorem visitNode_eq_none {s : SortState β} :
    visitNode pipeline s = none ↔ s.currentNodes = [] := by
  unfold visitNode
  split <;> simp_all

theorem visitNode_cons {s : SortState β} {node : β} {rest : List β}
    (h : s.currentNodes = node :: rest) :
    visitNode pipeline s = some
      { sortedNodes := s.sortedNodes ++ [node]
        currentNodes := ((collectChildren pipeline node).filter fun c =>
          Ready pipeline s.unvisitedEdges node c).reverse ++ rest
        unvisitedEdges := s.unvisitedEdges.filter fun e =>
          !decide (e ∈ collectAllPipes pipeline ∧ e.from = node) } := by
  unfold visitNode
  simp only [h, foldl_visitChild]
  congr 3
  funext e
  congr 1
  refine decide_eq_decide.mpr ⟨fun h => ⟨h.1, h.2.1⟩, fun ⟨he, hf⟩ => ⟨he, hf, ?_⟩⟩
  rw [mem_collectChildren, ← hf]
  exact he

theorem exists_of_visitNode_eq_some {s s' : SortState β} (h : visitNode pipeline s = some s') :
    ∃ node rest, s.currentNodes = node :: rest ∧
      s' = { sortedNodes := s.sortedNodes ++ [node]
             currentNodes := ((collectChildren pipeline node).filter fun c =>
               Ready pipeline s.unvisitedEdges node c).reverse ++ rest
             unvisitedEdges := s.unvisitedEdges.filter fun e =>
               !decide (e ∈ collectAllPipes pipeline ∧ e.from = node) } := by
  cases hc : s.currentNodes with
  | nil => simp [visitNode_eq_none.mpr hc] at h
  | cons node rest =>
    exact ⟨node, rest, rfl, Option.some.inj ((visitNode_cons hc).symm.trans h).symm⟩

/-- An invariant of one pass holds at the end of every run, which ends on an empty stack. -/
theorem runLoop_invariant (Inv : SortState β → Prop)
    (hstep : ∀ s s', Inv s → visitNode pipeline s = some s' → Inv s')
    {fuel : Nat} {s t : SortState β} (hs : Inv s) (h : runLoop pipeline fuel s = some t) :
    Inv t ∧ t.currentNodes = [] := by
  induction fuel generalizing s with
  | zero => cases h
  | succ n ih =>
    rw [runLoop] at h
    cases hv : visitNode pipeline s with
    | none =>
      rw [hv, Option.some.injEq] at h
      exact h ▸ ⟨hs, visitNode_eq_none.mp hv⟩
    | some s' =>
      rw [hv] at h
      exact ih (hstep s s' hs hv) h

variable {getMetaInformation : β → Option BlockMetaInformation}

theorem getBlocksInTopologicalSorting_eq_ok {fuel : Nat} {L : List β} :
    getBlocksInTopologicalSorting getMetaInformation pipeline fuel = some (.ok L) ↔
      ∃ t, runLoop pipeline fuel (initialState getMetaInformation pipeline) = some t ∧
        t.unvisitedEdges = [] ∧ t.sortedNodes = L := by
  simp only [getBlocksInTopologicalSorting, Option.map_eq_some', List.length_eq_zero]
  refine exists_congr fun t => and_congr_right fun _ => ?_
  split_ifs with h <;> simp [h]

theorem getBlocksInTopologicalSorting_eq_error {fuel : Nat} {message : String} :
    getBlocksInTopologicalSorting getMetaInformation pipeline fuel = some (.error message) ↔
      ∃ t, runLoop pipeline fuel (initialState getMetaInformation pipeline) = some t ∧
        t.unvisitedEdges ≠ [] ∧
        message = "The pipeline " ++ pipeline.name ++ " is expected to have no cycles" := by
  simp only [getBlocksInTopologicalSorting, Option.map_eq_some', List.length_eq_zero]
  refine exists_congr fun t => and_congr_right fun _ => ?_
  split_ifs with h <;> simp [h, eq_comm]

end Jayvee
