import Mathlib.Logic.Relation
import Mathlib.Data.List.Nodup
import Jayvee.Ast.Basic

/-! # Pipelines as graphs

Blocks are compared by identity, so a block is any value of a type with
decidable equality, and its block type is found through a registry lookup
`getMetaInformation`. Pipes are recomputed from the pipe statements on every
call, exactly as `collectAllPipes` does.
-/

namespace Jayvee

inductive AttributeType
  | string | int | layout
  deriving DecidableEq, Repr

structure AttributeSpecification where
  type : AttributeType
  deriving DecidableEq, Repr

/-- Modelled from the spec: the block meta information of the meta-information registry is
not in the source. A block type declares an input type and an output type, `none` for a
source or a sink, and a specification for each of its attributes. -/
structure BlockMetaInformation where
  type : String
  inputType : IOType
  outputType : IOType
  attributes : List (String × AttributeSpecification)

namespace BlockMetaInformation

def hasInput (m : BlockMetaInformation) : Bool := m.inputType != .none

def hasOutput (m : BlockMetaInformation) : Bool := m.outputType != .none

def getAttributeSpecification (m : BlockMetaInformation) (name : String) :
    Option AttributeSpecification :=
  m.attributes.lookup name

end BlockMetaInformation

/-- A semantic pipe (`PipeWrapper`); `equals` compares the two endpoints, which is the
derived equality. -/
structure PipeWrapper (β : Type) where
  «from» : β
  «to» : β
  deriving DecidableEq, Repr

structure PipeDefinition (β : Type) where
  blocks : List β

/-- A pipeline: its blocks are distinct AST nodes, listed once each. -/
structure PipelineDefinition (β : Type) where
  name : String
  blocks : List β
  pipes : List (PipeDefinition β)
  blocks_nodup : blocks.Nodup

/-- Modelled from the spec: `createSemanticPipes` of `pipe-wrapper.ts` is not in the source;
a chained statement `a -> b -> c` desugars into the edges `a → b` and `b → c`. -/
def createSemanticPipes {β : Type} : List β → List (PipeWrapper β)
  | a :: b :: rest => ⟨a, b⟩ :: createSemanticPipes (b :: rest)
  | _ => []

inductive PipeKind
  | outgoing | ingoing
  deriving DecidableEq, Repr

variable {β : Type}

def collectStartingBlocks (getMetaInformation : β → Option BlockMetaInformation)
    (pipeline : PipelineDefinition β) : List β :=
  pipeline.blocks.filter fun block =>
    match getMetaInformation block with
    | none => false
    | some blockMetaInf => !blockMetaInf.hasInput

def IsSource (getMetaInformation : β → Option BlockMetaInformation) (block : β) : Prop :=
  ∃ m, getMetaInformation block = some m ∧ m.hasInput = false

@[simp] theorem mem_collectStartingBlocks {getMetaInformation : β → Option BlockMetaInformation}
    {pipeline : PipelineDefinition β} {b : β} :
    b ∈ collectStartingBlocks getMetaInformation pipeline ↔
      b ∈ pipeline.blocks ∧ IsSource getMetaInformation b := by
  unfold collectStartingBlocks IsSource
  cases h : getMetaInformation b <;> simp [h]

theorem collectStartingBlocks_nodup (getMetaInformation : β → Option BlockMetaInformation)
    (pipeline : PipelineDefinition β) :
    (collectStartingBlocks getMetaInformation pipeline).Nodup :=
  pipeline.blocks_nodup.filter _

variable [DecidableEq β]

section Collect

variable (pipeline : PipelineDefinition β)

def collectAllPipes : List (PipeWrapper β) :=
  pipeline.pipes.flatMap fun pipe => createSemanticPipes pipe.blocks

/-- Every block's container is `pipeline`, so its pipes are those of `pipeline`. -/
def collectPipes (block : β) (kind : PipeKind) : List (PipeWrapper β) :=
  (collectAllPipes pipeline).filter fun semanticPipe =>
    match kind with
    | .outgoing => semanticPipe.from == block
    | .ingoing => semanticPipe.to == block

def collectOutgoingPipes (block : β) : List (PipeWrapper β) :=
  collectPipes pipeline block .outgoing

def collectIngoingPipes (block : β) : List (PipeWrapper β) :=
  collectPipes pipeline block .ingoing

def collectChildren (block : β) : List β :=
  (collectOutgoingPipes pipeline block).map (·.to)

def collectParents (block : β) : List β :=
  (collectIngoingPipes pipeline block).map (·.from)

end Collect

section Graph

variable {pipeline : PipelineDefinition β}

/-- `a → b` is a semantic pipe of the pipeline. -/
def Pipe (pipeline : PipelineDefinition β) (a b : β) : Prop :=
  ⟨a, b⟩ ∈ collectAllPipes pipeline

/-- No pipe ends at a block whose type declares no input. -/
def NoPipeIntoSource (getMetaInformation : β → Option BlockMetaInformation)
    (pipeline : PipelineDefinition β) : Prop :=
  ∀ a b, Pipe pipeline a b → ¬ IsSource getMetaInformation b

/-- The graph of semantic pipes has a directed cycle. -/
def HasCycle (pipeline : PipelineDefinition β) : Prop :=
  ∃ b, Relation.TransGen (Pipe pipeline) b b

def ReachableFromStart (getMetaInformation : β → Option BlockMetaInformation)
    (pipeline : PipelineDefinition β) (b : β) : Prop :=
  ∃ s ∈ collectStartingBlocks getMetaInformation pipeline,
    Relation.ReflTransGen (Pipe pipeline) s b

@[simp] theorem mem_collectOutgoingPipes {b : β} {e : PipeWrapper β} :
    e ∈ collectOutgoingPipes pipeline b ↔ e ∈ collectAllPipes pipeline ∧ e.from = b := by
  simp [collectOutgoingPipes, collectPipes]

@[simp] theorem mem_collectIngoingPipes {b : β} {e : PipeWrapper β} :
    e ∈ collectIngoingPipes pipeline b ↔ e ∈ collectAllPipes pipeline ∧ e.to = b := by
  simp [collectIngoingPipes, collectPipes]

@[simp] theorem mem_collectChildren {b c : β} :
    c ∈ collectChildren pipeline b ↔ Pipe pipeline b c := by
  constructor
  · simp only [collectChildren, List.mem_map, mem_collectOutgoingPipes]
    rintro ⟨⟨a, c⟩, ⟨he, rfl⟩, rfl⟩
    exact he
  · intro h
    exact List.mem_map.mpr ⟨⟨b, c⟩, mem_collectOutgoingPipes.mpr ⟨h, rfl⟩, rfl⟩

@[simp] theorem mem_collectParents {b c : β} :
    b ∈ collectParents pipeline c ↔ Pipe pipeline b c := by
  constructor
  · simp only [collectParents, List.mem_map, mem_collectIngoingPipes]
    rintro ⟨⟨b, c⟩, ⟨he, rfl⟩, rfl⟩
    exact he
  · intro h
    exact List.mem_map.mpr ⟨⟨b, c⟩, mem_collectIngoingPipes.mpr ⟨h, rfl⟩, rfl⟩

theorem collectChildren_nodup (hnodup : (collectAllPipes pipeline).Nodup) (b : β) :
    (collectChildren pipeline b).Nodup := by
  refine List.Nodup.map_on ?_ (hnodup.filter _)
  rintro ⟨a, c⟩ he ⟨a', c'⟩ he' (rfl : c = c')
  simp only [collectOutgoingPipes, collectPipes, List.mem_filter, beq_iff_eq] at he he'
  rw [he.2, he'.2]

end Graph

def twoBlockPipeline : PipelineDefinition Nat := ⟨"p", [0, 1], [⟨[0, 1]⟩], by decide⟩

theorem pipe_twoBlockPipeline {a b : Nat} : Pipe twoBlockPipeline a b ↔ a = 0 ∧ b = 1 := by
  simp [Pipe, collectAllPipes, twoBlockPipeline, createSemanticPipes]

def extractorMetaInformation : Nat → Option BlockMetaInformation
  | 0 => some ⟨"HttpExtractor", .none, .file, []⟩
  | _ => some ⟨"TextFileInterpreter", .file, .textFile, []⟩

theorem noPipeIntoSource_extractor :
    NoPipeIntoSource extractorMetaInformation twoBlockPipeline := by
  rintro a b h ⟨m, hm, hi⟩
  obtain ⟨rfl, rfl⟩ := pipe_twoBlockPipeline.mp h
  cases hm
  exact absurd hi (by decide)

end Jayvee
