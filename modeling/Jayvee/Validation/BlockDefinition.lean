import Jayvee.Ast.Pipeline

/-! # The block-definition check

`validateBlockDefinition` reports an unknown block type, pipes into a block
without input or out of a block without output, and more than one ingoing pipe;
a missing pipe is only a warning. The check reports no error on a block exactly
when its type resolves and its pipes fit the type's declared input and output.
-/

namespace Jayvee

variable {β : Type} [DecidableEq β]

inductive PipeEnd
  | input | output
  deriving DecidableEq, Repr

def PipeEnd.value : PipeEnd → String
  | .input => "input"
  | .output => "output"

inductive BlockDiagnosticInfo (β : Type)
  | pipeTo (pipe : PipeWrapper β)
  | pipeFrom (pipe : PipeWrapper β)
  | block (block : β) (property : String)

section Check

variable (getMetaInformation : β → Option BlockMetaInformation)
  (blockTypeName : β → String) (pipeline : PipelineDefinition β)

/-- `blockTypeName block` is the text `block?.type?.name ?? ''` prints. -/
def checkBlockType (block : β) (context : ValidationContext (BlockDiagnosticInfo β)) :
    ValidationContext (BlockDiagnosticInfo β) :=
  match getMetaInformation block with
  | none => context.accept .error ("Unknown block type '" ++ blockTypeName block ++ "'")
      (.block block "type")
  | some _ => context

def checkPipesOfBlock (blockMetaInf : BlockMetaInformation) (block : β) (whatToCheck : PipeEnd)
    (context : ValidationContext (BlockDiagnosticInfo β)) :
    ValidationContext (BlockDiagnosticInfo β) :=
  let pipes := match whatToCheck with
    | .input => collectIngoingPipes pipeline block
    | .output => collectOutgoingPipes pipeline block
  if (whatToCheck = .input ∧ !blockMetaInf.hasInput) ∨
      (whatToCheck = .output ∧ !blockMetaInf.hasOutput) then
    pipes.foldl (fun context pipe => context.accept .error
      ("Blocks of type " ++ blockMetaInf.type ++ " do not have an " ++ whatToCheck.value)
      (if whatToCheck = .input then .pipeTo pipe else .pipeFrom pipe)) context
  else if pipes.length > 1 ∧ whatToCheck = .input then
    pipes.foldl (fun context pipe => context.accept .error
      ("At most one pipe can be connected to the " ++ whatToCheck.value ++ " of a " ++
        blockMetaInf.type) (.pipeTo pipe)) context
  else if pipes.length = 0 then
    context.accept .warning
      ("A pipe should be connected to the " ++ whatToCheck.value ++ " of this block")
      (.block block "name")
  else context

/-- After an error the pipes are not checked; `getOrFailMetaInformation` then
always finds the type, since an unresolved type is an error. -/
def validateBlockDefinition (block : β) (context : ValidationContext (BlockDiagnosticInfo β)) :
    ValidationContext (BlockDiagnosticInfo β) :=
  let context := checkBlockType getMetaInformation blockTypeName block context
  if context.hasErrorOccurred then context
  else match getMetaInformation block with
    | none => context
    | some blockMetaInf =>
      checkPipesOfBlock pipeline blockMetaInf block .output
        (checkPipesOfBlock pipeline blockMetaInf block .input context)

/-- The check reports no error on any block of the pipeline. -/
def ValidatorAccepts : Prop :=
  ∀ block ∈ pipeline.blocks,
    ¬ HasError (validateBlockDefinition getMetaInformation blockTypeName pipeline block
      .empty).diagnostics

instance : Decidable (ValidatorAccepts getMetaInformation blockTypeName pipeline) :=
  inferInstanceAs (Decidable (∀ block ∈ pipeline.blocks, _))

end Check

variable {getMetaInformation : β → Option BlockMetaInformation} {blockTypeName : β → String}
  {pipeline : PipelineDefinition β}

theorem foldl_accept_diagnostics {N α : Type} (l : List α) (severity : Severity)
    (message : String) (node : α → N) (context : ValidationContext N) :
    (l.foldl (fun context a => context.accept severity message (node a)) context).diagnostics =
      context.diagnostics ++ l.map fun a => ⟨severity, message, node a⟩ := by
  induction l generalizing context with
  | nil => simp
  | cons a l ih => simp [ih]

omit [DecidableEq β] in
theorem hasError_foldl_accept {N α : Type} (l : List α) (message : String) (node : α → N)
    (context : ValidationContext N) :
    HasError (l.foldl (fun context a => context.accept .error message (node a))
      context).diagnostics ↔ HasError context.diagnostics ∨ l ≠ [] := by
  rw [foldl_accept_diagnostics]
  cases l <;> simp [HasError, or_and_right, exists_or]

theorem hasError_checkPipesOfBlock (m : BlockMetaInformation) (block : β) (whatToCheck : PipeEnd)
    (context : ValidationContext (BlockDiagnosticInfo β)) :
    HasError (checkPipesOfBlock pipeline m block whatToCheck context).diagnostics ↔
      HasError context.diagnostics ∨
        match whatToCheck with
        | .input => (m.hasInput = false ∧ collectIngoingPipes pipeline block ≠ []) ∨
            (m.hasInput = true ∧ 1 < (collectIngoingPipes pipeline block).length)
        | .output => m.hasOutput = false ∧ collectOutgoingPipes pipeline block ≠ [] := by
  unfold checkPipesOfBlock
  cases whatToCheck
  case input =>
    cases hi : m.hasInput
    · simp [hi, hasError_foldl_accept]
    · by_cases hlen : 1 < (collectIngoingPipes pipeline block).length
      · have hne : collectIngoingPipes pipeline block ≠ [] := List.ne_nil_of_length_pos (by omega)
        simp [hi, hlen, hne, hasError_foldl_accept]
      · simp [hi, hlen]
        split_ifs <;> simp
  case output =>
    cases ho : m.hasOutput
    · simp [ho, hasError_foldl_accept]
    · simp [ho]
      split_ifs <;> simp

/-- No error on a block: its type resolves, no pipe enters it unless it has an
input, at most one does, and no pipe leaves it unless it has an output. -/
theorem validateBlockDefinition_no_error_iff (block : β) :
    ¬ HasError (validateBlockDefinition getMetaInformation blockTypeName pipeline block
      .empty).diagnostics ↔
      ∃ m, getMetaInformation block = some m ∧
        (m.hasInput = false → collectIngoingPipes pipeline block = []) ∧
        (collectIngoingPipes pipeline block).length ≤ 1 ∧
        (m.hasOutput = false → collectOutgoingPipes pipeline block = []) := by
  unfold validateBlockDefinition checkBlockType
  cases hm : getMetaInformation block with
  | none => simp [ValidationContext.hasErrorOccurred]
  | some m =>
    simp only [ValidationContext.hasErrorOccurred, ValidationContext.empty_diagnostics,
      List.any_nil, Bool.false_eq_true, ↓reduceIte, hasError_checkPipesOfBlock, hasError_nil,
      false_or, not_or, Option.some.injEq, exists_eq_left']
    cases hi : m.hasInput <;> cases (collectIngoingPipes pipeline block) with
    | nil => simp
    | cons e l => cases l <;> simp

variable (pipeline) in
/-- Pipe statements name blocks of their own pipeline: the scope of a pipe's
block references is the enclosing pipeline. -/
def PipesWithin : Prop := ∀ a b, Pipe pipeline a b → a ∈ pipeline.blocks ∧ b ∈ pipeline.blocks

theorem pipesWithin_twoBlockPipeline : PipesWithin twoBlockPipeline := fun _ _ h => by
  obtain ⟨rfl, rfl⟩ := pipe_twoBlockPipeline.mp h
  decide

theorem ValidatorAccepts.noPipeIntoSource
    (hv : ValidatorAccepts getMetaInformation blockTypeName pipeline)
    (hw : PipesWithin pipeline) : NoPipeIntoSource getMetaInformation pipeline := by
  rintro a b hab ⟨m, hm, hi⟩
  obtain ⟨m', hm', hin, -⟩ := (validateBlockDefinition_no_error_iff b).mp (hv b (hw a b hab).2)
  cases hm.symm.trans hm'
  have he : ⟨a, b⟩ ∈ collectIngoingPipes pipeline b := mem_collectIngoingPipes.mpr ⟨hab, rfl⟩
  simp [hin hi] at he

theorem ValidatorAccepts.collectAllPipes_nodup
    (hv : ValidatorAccepts getMetaInformation blockTypeName pipeline)
    (hw : PipesWithin pipeline) : (collectAllPipes pipeline).Nodup := by
  rw [List.nodup_iff_count_le_one]
  intro e
  by_contra hcount
  have he : e ∈ collectAllPipes pipeline := List.count_pos_iff.mp (by omega)
  obtain ⟨-, -, -, hlen, -⟩ := (validateBlockDefinition_no_error_iff e.to).mp
    (hv e.to (hw e.from e.to he).2)
  have hcount' : (collectAllPipes pipeline).count e =
      (collectIngoingPipes pipeline e.to).count e :=
    (List.count_filter (p := fun (semanticPipe : PipeWrapper β) => semanticPipe.to == e.to)
      (by simp)).symm
  exact hcount (hcount' ▸ (List.count_le_length e _).trans hlen)

end Jayvee
