import Jayvee.Sorting.Termination
import Jayvee.Validation.BlockDefinition

/-! # The cycle assertion

A block on a cycle never has all of its ingoing pipes visited, so on a cyclic
pipeline the assertion at the end of the sort fails. The converse does not
hold: a block that declares an input but has no ingoing pipe, which the check
only warns about, is never stacked, and the pipes leaving it stay unvisited in
an acyclic pipeline.
-/

namespace Jayvee

open Relation

variable {β : Type} [DecidableEq β]
  {getMetaInformation : β → Option BlockMetaInformation} {pipeline : PipelineDefinition β}

omit [DecidableEq β] in
theorem TerminationInvariant.unvisited_ne_nil {t : SortState β}
    (hinv : TerminationInvariant pipeline t) (hcyc : HasCycle pipeline) :
    t.unvisitedEdges ≠ [] := by
  intro hnil
  obtain ⟨b, hb⟩ := hcyc
  obtain ⟨c, hbc, -⟩ := TransGen.head'_iff.mp hb
  have hsorted : b ∈ t.sortedNodes := hinv.visited ⟨b, c⟩ hbc (by simp [hnil])
  exact Acc.not_self (hinv.sorted b hsorted).transGen hb

/-- On a cyclic pipeline without pipes into source blocks the sort never returns
a list, and it fails its assertion once the loop has run out. -/
theorem getBlocksInTopologicalSorting_fails_of_hasCycle
    (hsrc : NoPipeIntoSource getMetaInformation pipeline) (hcyc : HasCycle pipeline) :
    (∀ fuel L, getBlocksInTopologicalSorting getMetaInformation pipeline fuel ≠ some (.ok L)) ∧
      ∃ fuel, getBlocksInTopologicalSorting getMetaInformation pipeline fuel =
        some (.error ("The pipeline " ++ pipeline.name ++ " is expected to have no cycles")) := by
  have hend : ∀ {fuel t}, runLoop pipeline fuel (initialState getMetaInformation pipeline) =
      some t → t.unvisitedEdges ≠ [] := fun ht =>
    (runLoop_invariant _ (fun _ _ hs h => (hs.step h).1) (TerminationInvariant.initial hsrc)
      ht).1.unvisited_ne_nil hcyc
  refine ⟨fun fuel L h => ?_, ?_⟩
  · obtain ⟨t, ht, hnil, -⟩ := getBlocksInTopologicalSorting_eq_ok.mp h
    exact hend ht hnil
  · obtain ⟨fuel, t, ht⟩ := runLoop_terminates_of_acc (TerminationInvariant.initial hsrc)
      (acc_of_singleton fun b _ => (descends_wellFounded.apply b).cutExpand)
    exact ⟨fuel, getBlocksInTopologicalSorting_eq_error.mpr ⟨t, ht, hend ht, rfl⟩⟩

def danglingInputMetaInformation (_ : Nat) : Option BlockMetaInformation :=
  some ⟨"TableInterpreter", .sheet, .table, []⟩

def cyclicPipeline : PipelineDefinition Nat := ⟨"c", [0, 1, 2], [⟨[0, 1, 2, 1]⟩], by decide⟩

theorem pipe_cyclicPipeline {a b : Nat} :
    Pipe cyclicPipeline a b ↔ a = 0 ∧ b = 1 ∨ a = 1 ∧ b = 2 ∨ a = 2 ∧ b = 1 := by
  simp [Pipe, collectAllPipes, cyclicPipeline, createSemanticPipes]

theorem getBlocksInTopologicalSorting_fails_of_hasCycle_cyclic :
    NoPipeIntoSource extractorMetaInformation cyclicPipeline ∧ HasCycle cyclicPipeline ∧
      (∀ fuel L, getBlocksInTopologicalSorting extractorMetaInformation cyclicPipeline fuel ≠
        some (.ok L)) ∧
      ∃ fuel, getBlocksInTopologicalSorting extractorMetaInformation cyclicPipeline fuel =
        some (.error "The pipeline c is expected to have no cycles") :=
  have hsrc : NoPipeIntoSource extractorMetaInformation cyclicPipeline := by
    rintro a b h ⟨m, hm, hi⟩
    obtain ⟨-, rfl⟩ | ⟨-, rfl⟩ | ⟨-, rfl⟩ := pipe_cyclicPipeline.mp h <;> cases hm <;>
      exact absurd hi (by decide)
  have hcyc : HasCycle cyclicPipeline :=
    ⟨1, .tail (.single (pipe_cyclicPipeline.mpr (.inr (.inl ⟨rfl, rfl⟩))))
      (pipe_cyclicPipeline.mpr (.inr (.inr ⟨rfl, rfl⟩)))⟩
  ⟨hsrc, hcyc, getBlocksInTopologicalSorting_fails_of_hasCycle hsrc hcyc⟩

/-- The check accepts the pipeline (block `0` only draws a warning for its
missing input), the pipeline is acyclic, and yet the sort fails its cycle
assertion: the pipe `0 -> 1` is never visited. -/
theorem getBlocksInTopologicalSorting_dangling_input :
    ValidatorAccepts danglingInputMetaInformation (fun _ => "TableInterpreter")
        twoBlockPipeline ∧
      PipesWithin twoBlockPipeline ∧ ¬ HasCycle twoBlockPipeline ∧
      getBlocksInTopologicalSorting danglingInputMetaInformation twoBlockPipeline 1 =
        some (.error "The pipeline p is expected to have no cycles") := by
  refine ⟨by decide, pipesWithin_twoBlockPipeline, fun ⟨b, hb⟩ => ?_, rfl⟩
  obtain ⟨c, hbc, -⟩ := TransGen.head'_iff.mp hb
  obtain ⟨d, -, hdb⟩ := TransGen.tail'_iff.mp hb
  have h₀ := (pipe_twoBlockPipeline.mp hbc).1
  have h₁ := (pipe_twoBlockPipeline.mp hdb).2
  omega

end Jayvee
