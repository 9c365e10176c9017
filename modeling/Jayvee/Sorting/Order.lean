import Jayvee.Sorting.Loop

/-! # The order the sort returns

Without pipes into source blocks and without repeated pipes, every pass of the
loop keeps Kahn's invariant: emitted and stacked blocks are distinct and
reachable, a pipe is visited exactly when its source was emitted, and a block
is emitted after all of its parents. Once the assertion has seen every pipe
visited, the output is a topological order of the reachable blocks.
-/

namespace Jayvee

variable {β : Type} [DecidableEq β]
  {getMetaInformation : β → Option BlockMetaInformation} {pipeline : PipelineDefinition β}

def SortState.reached (s : SortState β) : List β := s.sortedNodes ++ s.currentNodes

variable (getMetaInformation pipeline) in
/-- Kahn's invariant, between two passes of the `while` loop. -/
structure KahnInvariant (s : SortState β) : Prop where
  nodup : s.reached.Nodup
  unvisited : ∀ e, e ∈ s.unvisitedEdges ↔ e ∈ collectAllPipes pipeline ∧ e.from ∉ s.sortedNodes
  reachable : ∀ b ∈ s.reached, ReachableFromStart getMetaInformation pipeline b
  parents : ∀ a b, Pipe pipeline a b → b ∈ s.reached → a ∈ s.sortedNodes
  order : ∀ a b, Pipe pipeline a b → b ∈ s.sortedNodes → [a, b].Sublist s.sortedNodes
  starting : ∀ b ∈ collectStartingBlocks getMetaInformation pipeline, b ∈ s.reached
  complete : ∀ b, (∃ a, Pipe pipeline a b) → (∀ a, Pipe pipeline a b → a ∈ s.sortedNodes) →
    b ∈ s.reached

theorem ready_iff_parents {U : List (PipeWrapper β)} {S : List β}
    (hu : ∀ e, e ∈ U ↔ e ∈ collectAllPipes pipeline ∧ e.from ∉ S) {node c : β} :
    Ready pipeline U node c ↔ ∀ a, Pipe pipeline a c → a ∈ S ∨ a = node := by
  constructor
  · intro h a ha
    by_cases has : a ∈ S
    · exact .inl has
    · exact .inr (h ⟨a, c⟩ ha rfl ((hu _).mpr ⟨ha, has⟩))
  · rintro h ⟨a, c'⟩ he rfl hU
    exact (h a he).resolve_left ((hu _).mp hU).2

omit [DecidableEq β] in
theorem KahnInvariant.initial (hsrc : NoPipeIntoSource getMetaInformation pipeline) :
    KahnInvariant getMetaInformation pipeline (initialState getMetaInformation pipeline) where
  nodup := by simpa [SortState.reached, initialState] using collectStartingBlocks_nodup _ _
  unvisited := by simp [initialState]
  reachable b hb := ⟨b, by simpa [SortState.reached, initialState] using hb, .refl⟩
  parents a b hab hb := by
    simp only [SortState.reached, initialState, List.nil_append, List.mem_reverse,
      mem_collectStartingBlocks] at hb
    exact absurd hb.2 (hsrc a b hab)
  order a b _ hb := by simp [initialState] at hb
  starting b hb := by simpa [SortState.reached, initialState] using hb
  complete b := by
    rintro ⟨a, hab⟩ h
    simpa [initialState] using h a hab

theorem KahnInvariant.step (hnodup : (collectAllPipes pipeline).Nodup) {s s' : SortState β}
    (hinv : KahnInvariant getMetaInformation pipeline s) (h : visitNode pipeline s = some s') :
    KahnInvariant getMetaInformation pipeline s' := by
  obtain ⟨node, rest, hcur, rfl⟩ := exists_of_visitNode_eq_some h
  have hready : ∀ c, Ready pipeline s.unvisitedEdges node c ↔
      ∀ a, Pipe pipeline a c → a ∈ s.sortedNodes ∨ a = node := fun _ =>
    ready_iff_parents hinv.unvisited
  have hold : (s.sortedNodes ++ node :: rest).Nodup := hcur ▸ hinv.nodup
  have hnode : node ∉ s.sortedNodes := fun hn => (List.nodup_append.mp hold).2.2 hn (by simp)
  have hmem : ∀ x, x ∈ (s.sortedNodes ++ [node]) ++ (((collectChildren pipeline node).filter
      fun c => Ready pipeline s.unvisitedEdges node c).reverse ++ rest) ↔
      x ∈ s.reached ∨
        Pipe pipeline node x ∧ ∀ a, Pipe pipeline a x → a ∈ s.sortedNodes ∨ a = node := by
    intro x
    simp only [SortState.reached, hcur, List.mem_append, List.mem_cons, List.mem_singleton,
      List.mem_reverse, List.mem_filter, mem_collectChildren, decide_eq_true_eq, hready,
      List.not_mem_nil, or_false, false_or, or_assoc, or_comm, or_left_comm]
  have hfresh : ∀ x, Pipe pipeline node x → x ∉ s.reached := fun x hx hr =>
    hnode (hinv.parents node x hx hr)
  constructor
  · have hperm : List.Perm ((s.sortedNodes ++ [node]) ++ (((collectChildren pipeline node).filter
        fun c => Ready pipeline s.unvisitedEdges node c).reverse ++ rest))
        ((s.sortedNodes ++ node :: rest) ++ ((collectChildren pipeline node).filter
        fun c => Ready pipeline s.unvisitedEdges node c).reverse) := by
      simpa only [List.append_assoc, List.singleton_append] using
        ((List.perm_append_comm).cons node).append_left s.sortedNodes
    refine hperm.nodup_iff.mpr (List.nodup_append.mpr ⟨hold, ?_, ?_⟩)
    · exact List.nodup_reverse.mpr ((collectChildren_nodup hnodup node).filter _)
    · intro x hx hx'
      simp only [List.mem_reverse, List.mem_filter, mem_collectChildren] at hx'
      exact hfresh x hx'.1 (by simpa [SortState.reached, hcur] using hx)
  · intro e
    simp only [List.mem_filter, hinv.unvisited, Bool.not_eq_true', decide_eq_false_iff_not,
      List.mem_append, List.mem_singleton]
    by_cases he : e ∈ collectAllPipes pipeline <;> simp [he]
  · intro b hb
    rcases (hmem b).mp hb with hb | ⟨hnb, -⟩
    · exact hinv.reachable b hb
    · obtain ⟨s₀, hs₀, hr⟩ := hinv.reachable node (by simp [SortState.reached, hcur])
      exact ⟨s₀, hs₀, hr.tail hnb⟩
  · intro a b hab hb
    simp only [List.mem_append, List.mem_singleton]
    rcases (hmem b).mp hb with hb | ⟨-, hpar⟩
    · exact .inl (hinv.parents a b hab hb)
    · exact hpar a hab
  · intro a b hab hb
    rcases List.mem_append.mp hb with hb | hb
    · exact (hinv.order a b hab hb).trans (List.sublist_append_left _ _)
    · obtain rfl : b = node := List.mem_singleton.mp hb
      have ha := hinv.parents a b hab (by simp [SortState.reached, hcur])
      exact (List.singleton_sublist.mpr ha).append (List.Sublist.refl [b])
  · intro b hb
    exact (hmem b).mpr (.inl (hinv.starting b hb))
  · intro b hex hpar
    by_cases hall : ∀ a, Pipe pipeline a b → a ∈ s.sortedNodes
    · exact (hmem b).mpr (.inl (hinv.complete b hex hall))
    · push_neg at hall
      obtain ⟨a, hab, has⟩ := hall
      have ha : a = node := by simpa [has] using hpar a hab
      refine (hmem b).mpr (.inr ⟨ha ▸ hab, fun a' ha' => ?_⟩)
      simpa using hpar a' ha'

/-- Whenever the sort returns a list `L`, `L` lists each block reachable from a
starting block exactly once, and the source of every pipe into a block of `L`
stands in `L` before that block. -/
theorem getBlocksInTopologicalSorting_topological
    (hsrc : NoPipeIntoSource getMetaInformation pipeline)
    (hnodup : (collectAllPipes pipeline).Nodup) {fuel : Nat} {L : List β}
    (h : getBlocksInTopologicalSorting getMetaInformation pipeline fuel = some (.ok L)) :
    L.Nodup ∧ (∀ b, b ∈ L ↔ ReachableFromStart getMetaInformation pipeline b) ∧
      ∀ a b, Pipe pipeline a b → b ∈ L → [a, b].Sublist L := by
  obtain ⟨t, hrun, hvisited, rfl⟩ := getBlocksInTopologicalSorting_eq_ok.mp h
  obtain ⟨hinv, hempty⟩ := runLoop_invariant _ (fun _ _ hs => hinv_step hs)
    (KahnInvariant.initial hsrc) hrun
  have hreached : t.reached = t.sortedNodes := by simp [SortState.reached, hempty]
  have hsorted : ∀ a b, Pipe pipeline a b → a ∈ t.sortedNodes := fun a b hab => by
    by_contra ha
    simpa [hvisited] using (hinv.unvisited ⟨a, b⟩).mpr ⟨hab, ha⟩
  refine ⟨hreached ▸ hinv.nodup, fun b => ⟨fun hb => hinv.reachable b (hreached ▸ hb), ?_⟩,
    hinv.order⟩
  rintro ⟨s₀, hs₀, hr⟩
  induction hr with
  | refl => exact hreached ▸ hinv.starting s₀ hs₀
  | tail _ hyz _ =>
    exact hreached ▸ hinv.complete _ ⟨_, hyz⟩ fun a hab => hsorted a _ hab
where
  hinv_step {s s' : SortState β} (hs : KahnInvariant getMetaInformation pipeline s)
      (h : visitNode pipeline s = some s') : KahnInvariant getMetaInformation pipeline s' :=
    hs.step hnodup h

theorem getBlocksInTopologicalSorting_topological_extractor :
    NoPipeIntoSource extractorMetaInformation twoBlockPipeline ∧
      (collectAllPipes twoBlockPipeline).Nodup ∧
      getBlocksInTopologicalSorting extractorMetaInformation twoBlockPipeline 3 =
        some (.ok [0, 1]) ∧
      ([0, 1] : List Nat).Nodup ∧
      (∀ b, b ∈ [0, 1] ↔ ReachableFromStart extractorMetaInformation twoBlockPipeline b) ∧
      ∀ a b, Pipe twoBlockPipeline a b → b ∈ [0, 1] → [a, b].Sublist [0, 1] :=
  have hnodup : (collectAllPipes twoBlockPipeline).Nodup := by decide
  have hrun : getBlocksInTopologicalSorting extractorMetaInformation twoBlockPipeline 3 =
      some (.ok [0, 1]) := rfl
  ⟨noPipeIntoSource_extractor, hnodup, hrun,
    getBlocksInTopologicalSorting_topological noPipeIntoSource_extractor hnodup hrun⟩

end Jayvee
