import Jayvee.Sorting.Outcome
import Jayvee.Validation.BlockDefinition

/-! # Sorting a checked pipeline

The block-definition check reports an error for a pipe into a block without
input and for a second pipe into a block, so on a pipeline it accepts the sort
ends. What the check lets through with a warning alone decides the outcome: a
block with an input but no ingoing pipe is never stacked. The sort returns the
blocks exactly when every pipe leaves a block whose chains of ancestors are
finite and on none of whose ancestors the check warns of a missing input pipe.
-/

namespace Jayvee

open Relation

variable {β : Type} [DecidableEq β] {getMetaInformation : β → Option BlockMetaInformation}
  {blockTypeName : β → String} {pipeline : PipelineDefinition β}

/-- The warning `checkPipesOfBlock` gives a block with an input and no ingoing
pipe. -/
def missingInputWarning (block : β) : Diagnostic (BlockDiagnosticInfo β) :=
  ⟨.warning, "A pipe should be connected to the input of this block", .block block "name"⟩

omit [DecidableEq β] in
theorem missingInputWarning_mem_foldl_accept_error {α : Type} (block : β) (l : List α)
    (message : String) (node : α → BlockDiagnosticInfo β)
    (context : ValidationContext (BlockDiagnosticInfo β)) :
    missingInputWarning block ∈
        (l.foldl (fun context a => context.accept .error message (node a)) context).diagnostics ↔
      missingInputWarning block ∈ context.diagnostics := by
  simp [foldl_accept_diagnostics, missingInputWarning]

theorem mem_checkPipesOfBlock_input (m : BlockMetaInformation) (block : β)
    (context : ValidationContext (BlockDiagnosticInfo β)) :
    missingInputWarning block ∈ (checkPipesOfBlock pipeline m block .input context).diagnostics ↔
      missingInputWarning block ∈ context.diagnostics ∨
        m.hasInput = true ∧ collectIngoingPipes pipeline block = [] := by
  unfold checkPipesOfBlock
  cases hi : m.hasInput
  · simp [hi, missingInputWarning_mem_foldl_accept_error]
  · by_cases hmany : 1 < (collectIngoingPipes pipeline block).length
    · have hne : collectIngoingPipes pipeline block ≠ [] := List.ne_nil_of_length_pos (by omega)
      simp [hmany, hne, missingInputWarning_mem_foldl_accept_error]
    · simp only [hi, hmany, reduceCtorEq, false_and, or_false, Bool.not_true, Bool.false_eq_true,
        and_false, ↓reduceIte, List.length_eq_zero]
      split_ifs with hnil <;> simp [hnil, missingInputWarning, PipeEnd.value]

theorem mem_checkPipesOfBlock_output (m : BlockMetaInformation) (block : β)
    (context : ValidationContext (BlockDiagnosticInfo β)) :
    missingInputWarning block ∈ (checkPipesOfBlock pipeline m block .output context).diagnostics ↔
      missingInputWarning block ∈ context.diagnostics := by
  unfold checkPipesOfBlock
  cases m.hasOutput
  · simp [missingInputWarning_mem_foldl_accept_error]
  · simp only [reduceCtorEq, false_and, or_false, Bool.not_true, Bool.false_eq_true, and_false,
      ↓reduceIte, false_or]
    split_ifs <;> simp [missingInputWarning, PipeEnd.value]

theorem mem_validateBlockDefinition_missingInputWarning (block : β) :
    missingInputWarning block ∈ (validateBlockDefinition getMetaInformation blockTypeName pipeline
        block .empty).diagnostics ↔
      ∃ m, getMetaInformation block = some m ∧ m.hasInput = true ∧
        ∀ a, ¬ Pipe pipeline a block := by
  have hnil : collectIngoingPipes pipeline block = [] ↔ ∀ a, ¬ Pipe pipeline a block := by
    rw [← List.map_eq_nil_iff, ← collectParents, List.eq_nil_iff_forall_not_mem]
    simp only [mem_collectParents]
  unfold validateBlockDefinition checkBlockType
  cases getMetaInformation block with
  | none => simp [ValidationContext.hasErrorOccurred, missingInputWarning]
  | some m =>
    simp [ValidationContext.hasErrorOccurred, mem_checkPipesOfBlock_output,
      mem_checkPipesOfBlock_input, hnil]

theorem starting_iff_not_missingInputWarning {r : β} (hr : r ∈ pipeline.blocks)
    {m : BlockMetaInformation} (hm : getMetaInformation r = some m) :
    ((∀ c, ¬ Pipe pipeline c r) → r ∈ collectStartingBlocks getMetaInformation pipeline) ↔
      missingInputWarning r ∉ (validateBlockDefinition getMetaInformation blockTypeName pipeline r
        .empty).diagnostics := by
  rw [mem_validateBlockDefinition_missingInputWarning, mem_collectStartingBlocks]
  cases hi : m.hasInput <;> simp [IsSource, hm, hr, hi]

/-- On a pipeline the check accepts, whose pipes name its own blocks, the sort
ends; wherever it ends, it returns the blocks exactly when every pipe leaves a
block whose chains of ancestors are finite and on none of whose ancestors the
check warns that no pipe is connected to its input. -/
theorem getBlocksInTopologicalSorting_ok_iff_no_warning
    (hv : ValidatorAccepts getMetaInformation blockTypeName pipeline)
    (hw : PipesWithin pipeline) :
    (∃ fuel result, getBlocksInTopologicalSorting getMetaInformation pipeline fuel = some result) ∧
      ∀ fuel result, getBlocksInTopologicalSorting getMetaInformation pipeline fuel = some result →
        ((∃ L, result = .ok L) ↔ ∀ a b, Pipe pipeline a b →
          Acc (Pipe pipeline) a ∧ ∀ r, ReflTransGen (Pipe pipeline) r a →
            missingInputWarning r ∉ (validateBlockDefinition getMetaInformation blockTypeName
              pipeline r .empty).diagnostics) := by
  have hsrc := hv.noPipeIntoSource hw
  refine ⟨getBlocksInTopologicalSorting_terminates hsrc, fun fuel result h => ?_⟩
  rw [getBlocksInTopologicalSorting_ok_iff_emittable hsrc (hv.collectAllPipes_nodup hw) h]
  refine forall_congr' fun a => forall_congr' fun b => forall_congr' fun hab => ?_
  rw [emittable_iff hsrc]
  refine and_congr_right fun _ => forall_congr' fun r => forall_congr' fun hr => ?_
  have hblock : r ∈ pipeline.blocks := by
    rcases hr.cases_head with rfl | ⟨c, hrc, -⟩
    · exact (hw r b hab).1
    · exact (hw r c hrc).1
  obtain ⟨m, hm, -⟩ := (validateBlockDefinition_no_error_iff r).mp (hv r hblock)
  exact starting_iff_not_missingInputWarning hblock hm

theorem getBlocksInTopologicalSorting_ok_iff_no_warning_httpExtractor :
    ValidatorAccepts extractorMetaInformation (fun _ => "HttpExtractor") twoBlockPipeline ∧
      PipesWithin twoBlockPipeline ∧
      (∃ fuel result, getBlocksInTopologicalSorting extractorMetaInformation twoBlockPipeline
        fuel = some result) ∧
      ∀ fuel result,
        getBlocksInTopologicalSorting extractorMetaInformation twoBlockPipeline fuel = some result →
          ((∃ L, result = .ok L) ↔ ∀ a b, Pipe twoBlockPipeline a b →
            Acc (Pipe twoBlockPipeline) a ∧ ∀ r, ReflTransGen (Pipe twoBlockPipeline) r a →
              missingInputWarning r ∉ (validateBlockDefinition extractorMetaInformation
                (fun _ => "HttpExtractor") twoBlockPipeline r .empty).diagnostics) :=
  have hv : ValidatorAccepts extractorMetaInformation (fun _ => "HttpExtractor")
      twoBlockPipeline := by decide
  ⟨hv, pipesWithin_twoBlockPipeline,
    getBlocksInTopologicalSorting_ok_iff_no_warning hv pipesWithin_twoBlockPipeline⟩

end Jayvee
