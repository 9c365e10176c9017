import Jayvee.Sorting.Order
import Jayvee.Sorting.Termination

/-! # When the sort succeeds

The loop emits exactly the emittable blocks: the starting blocks, and a block
with ingoing pipes once the sources of all of them are emittable. The final
assertion therefore holds exactly when every pipe leaves an emittable block. A
block is emittable exactly when its chains of ancestors are finite and each of
its ancestors without an ingoing pipe is a starting block: the assertion fails
on a cycle above a pipe, and as well below a block that declares an input but
has no ingoing pipe.
-/

namespace Jayvee

open Relation

variable {β : Type} [DecidableEq β]
  {getMetaInformation : β → Option BlockMetaInformation} {pipeline : PipelineDefinition β}

variable (getMetaInformation pipeline) in
/-- The blocks Kahn's algorithm can emit. -/
inductive Emittable : β → Prop
  | start {b : β} : b ∈ collectStartingBlocks getMetaInformation pipeline → Emittable b
  | child {b : β} : (∃ a, Pipe pipeline a b) → (∀ a, Pipe pipeline a b → Emittable a) →
      Emittable b

theorem emittable_step {s s' : SortState β} (hinv : KahnInvariant getMetaInformation pipeline s)
    (he : ∀ b ∈ s.reached, Emittable getMetaInformation pipeline b)
    (h : visitNode pipeline s = some s') :
    ∀ b ∈ s'.reached, Emittable getMetaInformation pipeline b := by
  obtain ⟨node, rest, hcur, rfl⟩ := exists_of_visitNode_eq_some h
  have hold : ∀ b, b ∈ s.sortedNodes ∨ b = node ∨ b ∈ rest →
      Emittable getMetaInformation pipeline b := fun b hb =>
    he b (by simpa [SortState.reached, hcur] using hb)
  intro b hb
  simp only [SortState.reached, List.mem_append, List.mem_singleton, List.mem_reverse,
    List.mem_filter, mem_collectChildren, decide_eq_true_eq] at hb
  rcases hb with (hb | rfl) | ⟨hpipe, hready⟩ | hb
  · exact hold b (.inl hb)
  · exact hold b (.inr (.inl rfl))
  · exact .child ⟨node, hpipe⟩ fun a ha =>
      hold a ((((ready_iff_parents hinv.unvisited).mp hready a ha)).imp_right .inl)
  · exact hold b (.inr (.inr hb))

theorem runLoop_sortedNodes (hsrc : NoPipeIntoSource getMetaInformation pipeline)
    (hnodup : (collectAllPipes pipeline).Nodup) {fuel : Nat} {t : SortState β}
    (h : runLoop pipeline fuel (initialState getMetaInformation pipeline) = some t) :
    KahnInvariant getMetaInformation pipeline t ∧
      ∀ b, b ∈ t.sortedNodes ↔ Emittable getMetaInformation pipeline b := by
  obtain ⟨⟨hinv, he⟩, hempty⟩ := runLoop_invariant
    (fun s => KahnInvariant getMetaInformation pipeline s ∧
      ∀ b ∈ s.reached, Emittable getMetaInformation pipeline b)
    (fun _ _ hs h => ⟨hs.1.step hnodup h, emittable_step hs.1 hs.2 h⟩)
    ⟨KahnInvariant.initial hsrc, fun b hb =>
      .start (by simpa [SortState.reached, initialState] using hb)⟩ h
  have hreached : t.reached = t.sortedNodes := by simp [SortState.reached, hempty]
  refine ⟨hinv, fun b => ⟨fun hb => he b (hreached ▸ hb), fun hb => ?_⟩⟩
  induction hb with
  | start hs => exact hreached ▸ hinv.starting _ hs
  | child hex _ ih => exact hreached ▸ hinv.complete _ hex ih

theorem getBlocksInTopologicalSorting_ok_iff_emittable
    (hsrc : NoPipeIntoSource getMetaInformation pipeline)
    (hnodup : (collectAllPipes pipeline).Nodup) {fuel : Nat} {result : Except String (List β)}
    (h : getBlocksInTopologicalSorting getMetaInformation pipeline fuel = some result) :
    (∃ L, result = .ok L) ↔ ∀ a b, Pipe pipeline a b → Emittable getMetaInformation pipeline a := by
  simp only [getBlocksInTopologicalSorting, Option.map_eq_some'] at h
  obtain ⟨t, ht, rfl⟩ := h
  obtain ⟨hinv, hsorted⟩ := runLoop_sortedNodes hsrc hnodup ht
  have hvisited : t.unvisitedEdges = [] ↔
      ∀ a b, Pipe pipeline a b → Emittable getMetaInformation pipeline a := by
    simp only [List.eq_nil_iff_forall_not_mem, hinv.unvisited, not_and, not_not, hsorted]
    exact ⟨fun h a b hab => h ⟨a, b⟩ hab, fun h e he => h e.from e.to he⟩
  rw [← hvisited, ← List.length_eq_zero]
  split_ifs with hlen <;> simp [hlen]

omit [DecidableEq β] in
/-- A block is emittable exactly when its chains of ancestors are finite and each
of its ancestors without an ingoing pipe is a starting block. -/
theorem emittable_iff (hsrc : NoPipeIntoSource getMetaInformation pipeline) {b : β} :
    Emittable getMetaInformation pipeline b ↔
      Acc (Pipe pipeline) b ∧ ∀ r, ReflTransGen (Pipe pipeline) r b →
        (∀ c, ¬ Pipe pipeline c r) → r ∈ collectStartingBlocks getMetaInformation pipeline := by
  constructor
  · intro hb
    induction hb with
    | @start b hs =>
      have hnone : ∀ c, ¬ Pipe pipeline c b := fun c hc =>
        hsrc c b hc (mem_collectStartingBlocks.mp hs).2
      refine ⟨⟨b, fun c hc => absurd hc (hnone c)⟩, fun r hr hroot => ?_⟩
      rcases hr.cases_tail with rfl | ⟨c, -, hc⟩
      · exact hs
      · exact absurd hc (hnone c)
    | @child b hex _ ih =>
      refine ⟨⟨b, fun a ha => (ih a ha).1⟩, fun r hr hroot => ?_⟩
      rcases hr.cases_tail with rfl | ⟨c, hrc, hc⟩
      · exact absurd hex.choose_spec (hroot _)
      · exact (ih c hc).2 r hrc hroot
  · rintro ⟨hacc, hroots⟩
    induction hacc with
    | intro b _ ih =>
      by_cases hex : ∃ a, Pipe pipeline a b
      · exact .child hex fun a ha => ih a ha fun r hr hroot => hroots r (hr.tail ha) hroot
      · exact .start (hroots b .refl fun c hc => hex ⟨c, hc⟩)

theorem getBlocksInTopologicalSorting_terminates
    (hsrc : NoPipeIntoSource getMetaInformation pipeline) :
    ∃ fuel result,
      getBlocksInTopologicalSorting getMetaInformation pipeline fuel = some result := by
  obtain ⟨fuel, t, ht⟩ := runLoop_terminates_of_acc (TerminationInvariant.initial hsrc)
    (acc_of_singleton fun b _ => (descends_wellFounded.apply b).cutExpand)
  exact ⟨fuel, _, by rw [getBlocksInTopologicalSorting, ht]; rfl⟩

/-- Without pipes into source blocks and without repeated pipes, the sort ends,
and wherever it ends it returns the blocks exactly when, above the source of
every pipe, all chains of ancestors are finite and every ancestor without an
ingoing pipe is a starting block; otherwise it fails its assertion. -/
theorem getBlocksInTopologicalSorting_ok_iff
    (hsrc : NoPipeIntoSource getMetaInformation pipeline)
    (hnodup : (collectAllPipes pipeline).Nodup) :
    (∃ fuel result, getBlocksInTopologicalSorting getMetaInformation pipeline fuel = some result) ∧
      ∀ fuel result, getBlocksInTopologicalSorting getMetaInformation pipeline fuel = some result →
        ((∃ L, result = .ok L) ↔ ∀ a b, Pipe pipeline a b →
          Acc (Pipe pipeline) a ∧ ∀ r, ReflTransGen (Pipe pipeline) r a →
            (∀ c, ¬ Pipe pipeline c r) → r ∈ collectStartingBlocks getMetaInformation pipeline) := by
  refine ⟨getBlocksInTopologicalSorting_terminates hsrc, fun fuel result h => ?_⟩
  rw [getBlocksInTopologicalSorting_ok_iff_emittable hsrc hnodup h]
  simp only [emittable_iff hsrc]

theorem getBlocksInTopologicalSorting_ok_iff_extractor :
    NoPipeIntoSource extractorMetaInformation twoBlockPipeline ∧
      (collectAllPipes twoBlockPipeline).Nodup ∧
      (∃ fuel result,
        getBlocksInTopologicalSorting extractorMetaInformation twoBlockPipeline fuel = some result) ∧
      ∀ fuel result,
        getBlocksInTopologicalSorting extractorMetaInformation twoBlockPipeline fuel = some result →
          ((∃ L, result = .ok L) ↔ ∀ a b, Pipe twoBlockPipeline a b →
            Acc (Pipe twoBlockPipeline) a ∧ ∀ r, ReflTransGen (Pipe twoBlockPipeline) r a →
              (∀ c, ¬ Pipe twoBlockPipeline c r) →
                r ∈ collectStartingBlocks extractorMetaInformation twoBlockPipeline) :=
  have hnodup : (collectAllPipes twoBlockPipeline).Nodup := by decide
  ⟨noPipeIntoSource_extractor, hnodup,
    getBlocksInTopologicalSorting_ok_iff noPipeIntoSource_extractor hnodup⟩

end Jayvee
