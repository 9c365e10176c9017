import Mathlib.Logic.Hydra
import Mathlib.Data.Finset.Card
import Jayvee.Sorting.Loop

/-! # Termination of the sort loop

The stack can grow and a block can be pushed more than once, so no count of
blocks decreases. Every pushed block, though, has only finite chains of
ancestors, and a pass replaces the popped block by some of its children. On
such blocks the child relation is well founded, because the pipes are finitely
many, and the stack, read as a multiset, decreases in the multiset extension
of that relation.
-/

namespace Jayvee

open Relation

variable {β : Type} [DecidableEq β]
  {getMetaInformation : β → Option BlockMetaInformation} {pipeline : PipelineDefinition β}

variable (pipeline) in
/-- `c` is a child of `n` whose chains of ancestors are all finite. -/
def Descends (c n : β) : Prop := Pipe pipeline n c ∧ Acc (Pipe pipeline) c

theorem Acc.not_self {α : Type} {r : α → α → Prop} {a : α} (h : Acc r a) : ¬ r a a := by
  induction h with
  | intro x _ ih => exact fun hx => ih x hx hx

omit [DecidableEq β] in
theorem not_transGen_descends_self {c : β} : ¬ TransGen (Descends pipeline) c c := fun h =>
  have hacc : Acc (Pipe pipeline) c := (TransGen.head'_iff.mp h).choose_spec.1.2
  Acc.not_self hacc.transGen (h.mono fun _ _ hd => hd.1).swap

instance : IsIrrefl β (Descends pipeline) := ⟨fun _ h => Acc.not_self h.2 h.1⟩

variable (pipeline) in
/-- The pipe targets below `n` along `Descends`, the measure a pass decreases. -/
def targetsBelow (n : β) [DecidablePred fun c => TransGen (Descends pipeline) c n] : Finset β :=
  ((collectAllPipes pipeline).map (·.to)).toFinset.filter fun c => TransGen (Descends pipeline) c n

/-- Below a block lie fewer pipe targets than below its parent, so `Descends` is
well founded. -/
theorem descends_wellFounded : WellFounded (Descends pipeline) := by
  classical
  refine Subrelation.wf (fun {c n} h => ?_) (measure fun n => (targetsBelow pipeline n).card).wf
  show (targetsBelow pipeline c).card < (targetsBelow pipeline n).card
  have hc : c ∈ targetsBelow pipeline n := Finset.mem_filter.mpr
    ⟨List.mem_toFinset.mpr (List.mem_map.mpr ⟨⟨n, c⟩, h.1, rfl⟩), .single h⟩
  refine Finset.card_lt_card ⟨fun d hd => ?_, fun hsub => ?_⟩
  · obtain ⟨hd, hdc⟩ := Finset.mem_filter.mp hd
    exact Finset.mem_filter.mpr ⟨hd, hdc.tail h⟩
  · exact not_transGen_descends_self (Finset.mem_filter.mp (hsub hc)).2

variable (pipeline) in
/-- What the loop keeps so that every stacked block has finite ancestor chains. -/
structure TerminationInvariant (s : SortState β) : Prop where
  current : ∀ b ∈ s.currentNodes, Acc (Pipe pipeline) b
  sorted : ∀ b ∈ s.sortedNodes, Acc (Pipe pipeline) b
  visited : ∀ e ∈ collectAllPipes pipeline, e ∉ s.unvisitedEdges → e.from ∈ s.sortedNodes

omit [DecidableEq β] in
theorem TerminationInvariant.initial (hsrc : NoPipeIntoSource getMetaInformation pipeline) :
    TerminationInvariant pipeline (initialState getMetaInformation pipeline) where
  current b hb := by
    simp only [initialState, List.mem_reverse, mem_collectStartingBlocks] at hb
    exact ⟨b, fun a hab => absurd hb.2 (hsrc a b hab)⟩
  sorted b hb := by simp [initialState] at hb
  visited e he hu := absurd he (by simpa [initialState] using hu)

theorem TerminationInvariant.step {s s' : SortState β}
    (hinv : TerminationInvariant pipeline s) (h : visitNode pipeline s = some s') :
    TerminationInvariant pipeline s' ∧
      CutExpand (Descends pipeline) (s'.currentNodes : Multiset β) s.currentNodes := by
  obtain ⟨node, rest, hcur, rfl⟩ := exists_of_visitNode_eq_some h
  have hnode : Acc (Pipe pipeline) node := hinv.current node (by simp [hcur])
  have hpushed : ∀ c ∈ (collectChildren pipeline node).filter
      (fun c => Ready pipeline s.unvisitedEdges node c), Descends pipeline c node := by
    intro c hc
    obtain ⟨hpipe, hready⟩ := List.mem_filter.mp hc
    refine ⟨mem_collectChildren.mp hpipe, ⟨c, fun a hac => ?_⟩⟩
    by_cases hu : ⟨a, c⟩ ∈ s.unvisitedEdges
    · obtain rfl : a = node := of_decide_eq_true hready ⟨a, c⟩ hac rfl hu
      exact hnode
    · exact hinv.sorted a (hinv.visited _ hac hu)
  refine ⟨⟨fun b hb => ?_, fun b hb => ?_, fun e he hu => ?_⟩, ?_⟩
  · rcases List.mem_append.mp hb with hb | hb
    · exact (hpushed b (List.mem_reverse.mp hb)).2
    · exact hinv.current b (by simp [hcur, hb])
  · rcases List.mem_append.mp hb with hb | hb
    · exact hinv.sorted b hb
    · exact List.mem_singleton.mp hb ▸ hnode
  · simp only [List.mem_filter, not_and, Bool.not_eq_true', decide_eq_false_iff_not,
      not_not] at hu
    by_cases hs : e ∈ s.unvisitedEdges
    · exact List.mem_append_right _
        (List.mem_singleton.mpr (not_not.mp fun hn => hu hs fun _ => hn))
    · exact List.mem_append_left _ (hinv.visited e he hs)
  · refine ⟨_, node, fun c hc => hpushed c (List.mem_reverse.mp (Multiset.mem_coe.mp hc)), ?_⟩
    rw [hcur, ← Multiset.coe_add, ← Multiset.cons_coe, add_comm, Multiset.singleton_add,
      Multiset.cons_add, add_comm]

theorem runLoop_terminates_of_acc {s : SortState β} (hinv : TerminationInvariant pipeline s)
    (hacc : Acc (CutExpand (Descends pipeline)) (s.currentNodes : Multiset β)) :
    ∃ fuel t, runLoop pipeline fuel s = some t := by
  generalize hm : (s.currentNodes : Multiset β) = m at hacc
  induction hacc generalizing s with
  | intro m _ ih =>
    cases hv : visitNode pipeline s with
    | none => exact ⟨1, s, by simp [runLoop, hv]⟩
    | some s' =>
      obtain ⟨hinv', hcut⟩ := hinv.step hv
      obtain ⟨fuel, t, ht⟩ := ih _ (hm ▸ hcut) hinv' rfl
      exact ⟨fuel + 1, t, by simp [runLoop, hv, ht]⟩

/-- When no pipe ends at a source block, the `while` loop of the sort stops after
finitely many passes, on every pipe graph: cyclic ones, ones with repeated pipes
and ones with blocks of several ingoing pipes included. -/
theorem getBlocksInTopologicalSorting_loop_terminates
    (hsrc : NoPipeIntoSource getMetaInformation pipeline) :
    ∃ fuel t, runLoop pipeline fuel (initialState getMetaInformation pipeline) = some t :=
  runLoop_terminates_of_acc (TerminationInvariant.initial hsrc)
    (acc_of_singleton fun b _ => (descends_wellFounded.apply b).cutExpand)

theorem getBlocksInTopologicalSorting_loop_terminates_extractor :
    NoPipeIntoSource extractorMetaInformation twoBlockPipeline ∧
      ∃ fuel t,
        runLoop twoBlockPipeline fuel (initialState extractorMetaInformation twoBlockPipeline) =
          some t :=
  ⟨noPipeIntoSource_extractor,
    getBlocksInTopologicalSorting_loop_terminates noPipeIntoSource_extractor⟩

end Jayvee
