import Mathlib.Logic.Relation
import Mathlib.Data.List.Basic
import Mathlib.Algebra.Order.BigOperators.Group.List
import Mathlib.Algebra.Order.Ring.Nat

/-!
# Reachability by a worklist

`closure` pops nodes from a stack of pending nodes, keeps each node it has not met and pushes its
successors. On a graph with finitely many edges it stops after one step for each edge and each
node pushed at the start (`closure_isSome`), cycles or not, and what it returns is the reflexive
and transitive closure of the edges (`mem_closure_iff`).
-/

namespace RoboticsRuntime.Theory

variable {α : Type} [DecidableEq α] {succ : α → List α}

/-- The edge relation of a successor function. -/
def Edge (succ : α → List α) (a b : α) : Prop := b ∈ succ a

/-- The worklist loop: `none` when the fuel runs out with nodes still pending. -/
def closure (succ : α → List α) : ℕ → List α → List α → Option (List α)
  | _, [], cached => some cached
  | 0, _ :: _, _ => none
  | fuel + 1, node :: pending, cached =>
    if node ∈ cached then closure succ fuel pending cached
    else closure succ fuel (succ node ++ pending) (node :: cached)

/-! ### Termination -/

/-- The edges that leave nodes not yet kept. -/
def openEdges (succ : α → List α) (nodes cached : List α) : ℕ :=
  (nodes.map fun node => if node ∈ cached then 0 else (succ node).length).sum

theorem openEdges_cons_le (succ : α → List α) (nodes cached : List α) (node : α) :
    openEdges succ nodes (node :: cached) ≤ openEdges succ nodes cached := by
  refine List.sum_le_sum fun k _ => ?_
  by_cases hk : k ∈ cached <;> by_cases he : k = node <;> simp [hk, he]

/-- Keeping a node closes its edges. -/
theorem openEdges_cons_add (succ : α → List α) {nodes cached : List α} {node : α}
    (hn : node ∈ nodes) (hc : node ∉ cached) :
    openEdges succ nodes (node :: cached) + (succ node).length ≤ openEdges succ nodes cached := by
  induction nodes with
  | nil => exact absurd hn List.not_mem_nil
  | cons k nodes ih =>
    simp only [openEdges, List.map_cons, List.sum_cons] at ih ⊢
    by_cases hk : k = node
    · subst hk
      have := openEdges_cons_le succ nodes cached k
      simp only [openEdges] at this
      rw [if_pos List.mem_cons_self, if_neg hc]
      omega
    · have := ih (by simpa [Ne.symm hk] using hn)
      simp only [List.mem_cons, hk, false_or] at this ⊢
      omega

/-- A finite number of edges is enough fuel: every step pops a node, and a node is pushed only
along an edge that was open before. -/
theorem closure_isSome {nodes : List α} (hs : ∀ a, a ∉ nodes → succ a = []) :
    ∀ {fuel : ℕ} {pending cached : List α},
      pending.length + openEdges succ nodes cached ≤ fuel →
        ∃ r, closure succ fuel pending cached = some r := by
  intro fuel
  induction fuel with
  | zero =>
    intro pending cached h
    cases pending with
    | nil => exact ⟨cached, by simp [closure]⟩
    | cons => simp only [List.length_cons] at h; omega
  | succ fuel ih =>
    intro pending cached h
    cases pending with
    | nil => exact ⟨cached, by simp [closure]⟩
    | cons node pending =>
      simp only [List.length_cons] at h
      by_cases hc : node ∈ cached
      · simp only [closure, if_pos hc]
        exact ih (by omega)
      · simp only [closure, if_neg hc]
        refine ih ?_
        rw [List.length_append]
        by_cases hn : node ∈ nodes
        · have := openEdges_cons_add succ hn hc
          omega
        · have := openEdges_cons_le succ nodes cached node
          simp only [hs node hn, List.length_nil]
          omega

/-! ### Correctness -/

/-- What a finished loop has kept: the nodes kept before and those pending, nothing that they do
not reach, and with each new node its successors. -/
structure Explored (succ : α → List α) (pending cached r : List α) : Prop where
  cached_mem : ∀ a ∈ cached, a ∈ r
  pending_mem : ∀ a ∈ pending, a ∈ r
  origin : ∀ a ∈ r, a ∈ cached ∨ ∃ p ∈ pending, Relation.ReflTransGen (Edge succ) p a
  closed : ∀ a ∈ r, a ∉ cached → ∀ b ∈ succ a, b ∈ r

theorem closure_explored :
    ∀ {fuel : ℕ} {pending cached r : List α}, closure succ fuel pending cached = some r →
      Explored succ pending cached r := by
  intro fuel pending cached
  induction fuel, pending, cached using closure.induct succ with
  | case1 fuel cached =>
    intro r h
    simp only [closure, Option.some.injEq] at h
    subst h
    exact ⟨fun _ h => h, fun _ h => absurd h List.not_mem_nil, fun _ h => .inl h,
      fun _ h h' => absurd h h'⟩
  | case2 node pending cached => intro r h; simp [closure] at h
  | case3 fuel node pending cached hc ih =>
    intro r h
    simp only [closure, if_pos hc] at h
    obtain ⟨h1, h2, h3, h4⟩ := ih h
    refine ⟨h1, List.forall_mem_cons.2 ⟨h1 _ hc, h2⟩, fun a ha => ?_, h4⟩
    rcases h3 a ha with h | ⟨p, hp, h⟩
    · exact .inl h
    · exact .inr ⟨p, List.mem_cons_of_mem _ hp, h⟩
  | case4 fuel node pending cached hc ih =>
    intro r h
    simp only [closure, if_neg hc] at h
    obtain ⟨h1, h2, h3, h4⟩ := ih h
    have hnode := h1 node List.mem_cons_self
    refine ⟨fun a ha => h1 a (List.mem_cons_of_mem _ ha),
      List.forall_mem_cons.2 ⟨hnode, fun a ha => h2 a (List.mem_append_right _ ha)⟩,
      fun a ha => ?_, fun a ha hac b hb => ?_⟩
    · rcases h3 a ha with h | ⟨p, hp, h⟩
      · rcases List.mem_cons.1 h with rfl | h
        · exact .inr ⟨a, List.mem_cons_self, .refl⟩
        · exact .inl h
      · rcases List.mem_append.1 hp with hp | hp
        · exact .inr ⟨node, List.mem_cons_self, .head hp h⟩
        · exact .inr ⟨p, List.mem_cons_of_mem _ hp, h⟩
    · by_cases han : a = node
      · subst han
        exact h2 b (List.mem_append_left _ hb)
      · exact h4 a ha (by simp [han, hac]) b hb

/-- Started at one node, the loop returns exactly the nodes reachable from it. -/
theorem mem_closure_iff {fuel : ℕ} {source : α} {r : List α}
    (h : closure succ fuel [source] [] = some r) (a : α) :
    a ∈ r ↔ Relation.ReflTransGen (Edge succ) source a := by
  obtain ⟨-, h2, h3, h4⟩ := closure_explored h
  constructor
  · intro ha
    rcases h3 a ha with h | ⟨p, hp, h⟩
    · exact absurd h List.not_mem_nil
    · rwa [List.mem_singleton.1 hp] at h
  · intro ha
    induction ha with
    | refl => exact h2 _ List.mem_cons_self
    | tail _ hb ih => exact h4 _ ih List.not_mem_nil _ hb

end RoboticsRuntime.Theory
