import Mathlib.Algebra.BigOperators.Group.List.Basic
import Mathlib.Algebra.Ring.Nat
import RoboticsRuntime.Contracts.Canonical
import RoboticsRuntime.Verify.JsonRoundTrip

/-!
# Round trips of canonical documents

The check before writing and the check after reading count the same nodes, in different orders: both
accept a document when every level and every leaf of it is in order and its totals are within the
limits, and neither the totals nor the levels change when dictionaries are sorted.
-/

namespace RoboticsRuntime.Contracts
open Theory Python PyValue

variable {φ : Type} {py : Interpreter φ}

/-! ## What a document costs -/

mutual

/-- The nodes of a document, among them the keys. -/
def nodes : PyValue φ → ℕ
  | .scalar _ => 1
  | .list items => 1 + nodesList items
  | .dict items => 1 + nodesItems items
termination_by structural value => value

def nodesList : List (PyValue φ) → ℕ
  | [] => 0
  | item :: items => nodes item + nodesList items
termination_by structural items => items

def nodesItems : PyValue.Items φ → ℕ
  | [] => 0
  | (_, value) :: items => 1 + nodes value + nodesItems items
termination_by structural items => items

end

/-- The lower bound of the bytes of an object without parts. -/
def leafSize (py : Interpreter φ) (value : PyScalar φ) : ℕ :=
  (checkScalar py [] value).toOption.getD 0

mutual

/-- The lower bound of the bytes of a document. -/
def leavesSize (py : Interpreter φ) : PyValue φ → ℕ
  | .scalar value => leafSize py value
  | .list items => leavesSizeList py items
  | .dict items => leavesSizeItems py items
termination_by structural value => value

def leavesSizeList (py : Interpreter φ) : List (PyValue φ) → ℕ
  | [] => 0
  | item :: items => leavesSize py item + leavesSizeList py items
termination_by structural items => items

def leavesSizeItems (py : Interpreter φ) : PyValue.Items φ → ℕ
  | [] => 0
  | (key, value) :: items => leafSize py (.str key.name) + leavesSize py value + leavesSizeItems py items
termination_by structural items => items

end

theorem nodesList_eq_sum (items : List (PyValue φ)) : nodesList items = (items.map nodes).sum := by
  induction items with
  | nil => rfl
  | cons item items ih => rw [nodesList, ih, List.map_cons, List.sum_cons]

theorem nodesItems_eq_sum (items : PyValue.Items φ) :
    nodesItems items = (items.map fun entry => 1 + nodes entry.2).sum := by
  induction items with
  | nil => rfl
  | cons entry items ih => rw [nodesItems, ih, List.map_cons, List.sum_cons]

theorem leavesSizeList_eq_sum (items : List (PyValue φ)) :
    leavesSizeList py items = (items.map (leavesSize py)).sum := by
  induction items with
  | nil => rfl
  | cons item items ih => rw [leavesSizeList, ih, List.map_cons, List.sum_cons]

theorem leavesSizeItems_eq_sum (items : PyValue.Items φ) : leavesSizeItems py items =
    (items.map fun entry => leafSize py (.str entry.1.name) + leavesSize py entry.2).sum := by
  induction items with
  | nil => rfl
  | cons entry items ih => rw [leavesSizeItems, ih, List.map_cons, List.sum_cons]

/-- Every leaf of a document can be written. -/
def LeafOk (py : Interpreter φ) (value : PyScalar φ) : Prop := ∃ size, checkScalar py [] value = .ok size

/-- What the check asks of the parts of a document, apart from its totals. -/
inductive Passes (py : Interpreter φ) : ℕ → PyValue φ → Prop where
  | scalar {depth : ℕ} {value : PyScalar φ} : depth ≤ maxDocumentDepth → LeafOk py value →
      Passes py depth (.scalar value)
  | list {depth : ℕ} {items : List (PyValue φ)} : depth ≤ maxDocumentDepth →
      (∀ item ∈ items, Passes py (depth + 1) item) → Passes py depth (.list items)
  | dict {depth : ℕ} {items : PyValue.Items φ} : depth ≤ maxDocumentDepth →
      (∀ entry ∈ items, ∃ name, entry.1 = .str name ∧ depth + 1 ≤ maxDocumentDepth ∧
        LeafOk py (.str name)) →
      (∀ entry ∈ items, Passes py (depth + 1) entry.2) → Passes py depth (.dict items)

theorem passes_scalar {depth : ℕ} {value : PyScalar φ} : Passes py depth (.scalar value) ↔
    depth ≤ maxDocumentDepth ∧ LeafOk py value :=
  ⟨fun h => by cases h; exact ⟨‹_›, ‹_›⟩, fun h => .scalar h.1 h.2⟩

theorem passes_list {depth : ℕ} {items : List (PyValue φ)} : Passes py depth (.list items) ↔
    depth ≤ maxDocumentDepth ∧ ∀ item ∈ items, Passes py (depth + 1) item :=
  ⟨fun h => by cases h; exact ⟨‹_›, ‹_›⟩, fun h => .list h.1 h.2⟩

theorem passes_dict {depth : ℕ} {items : PyValue.Items φ} : Passes py depth (.dict items) ↔
    depth ≤ maxDocumentDepth ∧
      (∀ entry ∈ items, ∃ name, entry.1 = .str name ∧ depth + 1 ≤ maxDocumentDepth ∧
        LeafOk py (.str name)) ∧
      ∀ entry ∈ items, Passes py (depth + 1) entry.2 :=
  ⟨fun h => by cases h; exact ⟨‹_›, ‹_›, ‹_›⟩, fun h => .dict h.1 h.2.1 h.2.2⟩

/-! ## What the check accepts -/

/-- A budget within the limits. -/
def Budget.Within (budget : Budget) : Prop :=
  budget.nodes ≤ maxDocumentNodes ∧ budget.bytes ≤ maxDocumentBytes

/-- A check that accepts what is in order, and spends a fixed part of the budget. -/
def Spends (check : Budget → Except DocumentFailure Budget) (p : Prop) (nodes bytes : ℕ) : Prop :=
  ∀ budget budget', budget.Within → (check budget = .ok budget' ↔
    p ∧ budget' = ⟨budget.nodes + nodes, budget.bytes + bytes⟩ ∧ budget'.Within)

theorem Spends.ok : Spends .ok True 0 0 := by
  intro budget budget' h
  simp only [Except.ok.injEq, true_and, Nat.add_zero]
  constructor
  · rintro rfl
    exact ⟨rfl, h⟩
  · rintro ⟨rfl, -⟩
    rfl

theorem Spends.bind {check check' : Budget → Except DocumentFailure Budget} {p q : Prop}
    {n m k l : ℕ} (h : Spends check p n k) (h' : Spends check' q m l) :
    Spends (fun budget => check budget >>= check') (p ∧ q) (n + m) (k + l) := by
  intro budget budget' hb
  simp only [bind_eq_ok]
  constructor
  · rintro ⟨between, hbetween, hlast⟩
    obtain ⟨hp, rfl, hwithin⟩ := (h _ _ hb).1 hbetween
    obtain ⟨hq, rfl, hwithin'⟩ := (h' _ _ hwithin).1 hlast
    exact ⟨⟨hp, hq⟩, by simp only [Nat.add_assoc], hwithin'⟩
  · rintro ⟨⟨hp, hq⟩, rfl, hwithin⟩
    have hbetween : Budget.Within ⟨budget.nodes + n, budget.bytes + k⟩ := by
      obtain ⟨hn, hk⟩ := hwithin
      exact ⟨by dsimp only at hn ⊢; omega, by dsimp only at hk ⊢; omega⟩
    exact ⟨_, (h _ _ hb).2 ⟨hp, rfl, hbetween⟩,
      (h' _ _ hbetween).2 ⟨hq, by simp only [Nat.add_assoc], hwithin⟩⟩

theorem Spends.congr {check : Budget → Except DocumentFailure Budget} {p q : Prop} {n m k l : ℕ}
    (h : Spends check p n k) (hp : p ↔ q) (hn : n = m) (hk : k = l) : Spends check q m l := by
  subst hn hk
  rw [propext hp] at h
  exact h

theorem countNode_eq_ok {path : Path} {depth count count' : ℕ} :
    countNode path depth count = .ok count' ↔
      depth ≤ maxDocumentDepth ∧ count + 1 ≤ maxDocumentNodes ∧ count' = count + 1 := by
  rw [countNode]
  split_ifs with h
  · simp only [false_iff]
    omega
  · simp only [Except.ok.injEq]
    omega

theorem Spends.count {check : Budget → Except DocumentFailure Budget} {p : Prop} {n k : ℕ}
    (h : Spends check p n k) (path : Path) (depth : ℕ) :
    Spends (fun budget => countNode path depth budget.nodes >>= fun nodes =>
      check { budget with nodes }) (depth ≤ maxDocumentDepth ∧ p) (1 + n) k := by
  intro budget budget' hb
  simp only [bind_eq_ok, countNode_eq_ok]
  constructor
  · rintro ⟨_, ⟨hdepth, hcount, rfl⟩, hrest⟩
    obtain ⟨hp, rfl, hwithin⟩ := (h ⟨budget.nodes + 1, budget.bytes⟩ _ ⟨hcount, hb.2⟩).1 hrest
    exact ⟨⟨hdepth, hp⟩, by simp only [Nat.add_assoc], hwithin⟩
  · rintro ⟨⟨hdepth, hp⟩, rfl, hwithin⟩
    have hcount : budget.nodes + 1 ≤ maxDocumentNodes := by
      have := hwithin.1
      dsimp only at this
      omega
    exact ⟨_, ⟨hdepth, hcount, rfl⟩,
      (h ⟨budget.nodes + 1, budget.bytes⟩ _ ⟨hcount, hb.2⟩).2 ⟨hp, by simp only [Nat.add_assoc], hwithin⟩⟩

/-- Where a string stands does not matter to whether it is accepted. -/
theorem checkString_eq_ok {value : PyStr} {path : Path} {key : Bool} {size : ℕ} :
    checkString value path key = .ok size ↔ value.length ≤ maxDocumentBytes ∧
      ∃ encoded, encodeUtf8 value = some encoded ∧ encoded.size ≤ maxDocumentBytes ∧
        size = encoded.size := by
  simp only [checkString, bind_eq_ok, exists_const, require_eq_ok, demand_eq_ok, Except.ok.injEq,
    @eq_comm _ size]

theorem checkInteger_eq_ok {value : ℤ} {path : Path} {size : ℕ} :
    checkInteger py value path = .ok size ↔ bitLength value ≤ 4 * maxDocumentBytes ∧
      ∃ spelling, py.intRepr value = some spelling ∧ spelling.length ≤ maxDocumentBytes ∧
        size = spelling.length := by
  simp only [checkInteger, bind_eq_ok, exists_const, require_eq_ok, demand_eq_ok, Except.ok.injEq,
    @eq_comm _ size]

theorem checkScalar_path (path : Path) {value : PyScalar φ} {size : ℕ} :
    checkScalar py path value = .ok size ↔ checkScalar py [] value = .ok size := by
  cases value with
  | str => simp only [checkScalar, checkString_eq_ok]
  | int => simp only [checkScalar, checkInteger_eq_ok]
  | float value => cases value <;> simp [checkScalar]
  | none | bool | other => simp [checkScalar]

theorem spends_checkLeaf (path : Path) (value : PyScalar φ) :
    Spends (checkLeaf py path value) (LeafOk py value) 0 (leafSize py value) := by
  intro budget budget' hb
  simp only [checkLeaf, bind_eq_ok, exists_const, require_eq_ok, checkScalar_path path,
    Except.ok.injEq]
  have hsize : ∀ {size}, checkScalar py [] value = .ok size → leafSize py value = size :=
    fun h => by rw [leafSize, h]; rfl
  constructor
  · rintro ⟨size, hok, hbytes, rfl⟩
    rw [hsize hok]
    exact ⟨⟨size, hok⟩, rfl, hb.1, hbytes⟩
  · rintro ⟨⟨size, hok⟩, rfl, hwithin⟩
    rw [hsize hok] at hwithin ⊢
    exact ⟨size, hok, hwithin.2, rfl⟩

theorem checkKey_eq_ok {path : Path} {key : Key} {name : PyStr} :
    checkKey path key = .ok name ↔ key = .str name ∧ ∃ size, checkString name path true = .ok size := by
  cases key with
  | other => simp [checkKey]
  | str other =>
    simp only [checkKey, bind_eq_ok, Except.ok.injEq, Key.str.injEq]
    constructor
    · rintro ⟨size, h, rfl⟩
      exact ⟨rfl, size, h⟩
    · rintro ⟨rfl, size, h⟩
      exact ⟨size, h, rfl⟩

theorem spends_checkItems {items : List (PyValue φ)} {depth : ℕ}
    (h : ∀ item ∈ items, ∀ path, Spends (fun budget => checkValue py path (depth + 1) budget item)
      (Passes py (depth + 1) item) (nodes item) (leavesSize py item)) (path : Path) (index : ℕ) :
    Spends (fun budget => checkItems py path index depth budget items)
      (∀ item ∈ items, Passes py (depth + 1) item) (nodesList items) (leavesSizeList py items) := by
  induction items generalizing index with
  | nil =>
    simp only [checkItems]
    exact Spends.ok.congr (iff_of_true trivial nofun) rfl rfl
  | cons item items ih =>
    obtain ⟨hitem, hitems⟩ := List.forall_mem_cons.1 h
    simp only [checkItems]
    exact ((hitem _).bind (ih hitems (index + 1))).congr List.forall_mem_cons.symm rfl rfl

theorem leafOk_of_checkString {name : PyStr} {path : Path} :
    (∃ size, checkString name path true = .ok size) ↔ LeafOk py (.str name) := by
  simp only [LeafOk, checkScalar, checkString_eq_ok]

/-- The key of an item is a node of its own, after which the value is checked. -/
theorem spends_checkMembers {items : PyValue.Items φ} {depth : ℕ}
    (h : ∀ entry ∈ items, ∀ path, Spends
      (fun budget => checkValue py path (depth + 1) budget entry.2)
      (Passes py (depth + 1) entry.2) (nodes entry.2) (leavesSize py entry.2)) (path : Path) :
    Spends (fun budget => checkMembers py path depth budget items)
      ((∀ entry ∈ items, ∃ name, entry.1 = .str name ∧ depth + 1 ≤ maxDocumentDepth ∧
        LeafOk py (.str name)) ∧ ∀ entry ∈ items, Passes py (depth + 1) entry.2)
      (nodesItems items) (leavesSizeItems py items) := by
  induction items with
  | nil =>
    simp only [checkMembers]
    exact Spends.ok.congr (iff_of_true trivial ⟨nofun, nofun⟩) rfl rfl
  | cons entry items ih =>
    obtain ⟨key, value⟩ := entry
    obtain ⟨hvalue, hitems⟩ := List.forall_mem_cons.1 h
    intro budget budget' hb
    cases key with
    | other => simp [checkMembers, checkKey, bind, Except.bind]
    | str name =>
      have hrest := ((@spends_checkLeaf φ py (path ++ [.key (.str name)]) (.str name)).bind
        ((hvalue (path ++ [.key (.str name)])).bind (ih hitems))).count
          (path ++ [.key (.str name)]) (depth + 1)
      have hkey : ∀ {name'}, checkKey path (.str name) = .ok name' ↔
          name = name' ∧ LeafOk py (.str name) := by
        intro name'
        rw [checkKey_eq_ok, Key.str.injEq]
        constructor
        · rintro ⟨rfl, h⟩
          exact ⟨rfl, leafOk_of_checkString.1 h⟩
        · rintro ⟨rfl, h⟩
          exact ⟨rfl, leafOk_of_checkString.2 h⟩
      simp only [checkMembers]
      rw [bind_eq_ok]
      simp only [hkey, List.forall_mem_cons, Key.str.injEq, exists_eq_left']
      constructor
      · rintro ⟨_, ⟨rfl, hleaf⟩, hcheck⟩
        obtain ⟨⟨hdepth, -, hvalue, hitems⟩, rfl, hwithin⟩ := (hrest _ _ hb).1 hcheck
        refine ⟨⟨⟨⟨hdepth, hleaf⟩, hitems.1⟩, hvalue, hitems.2⟩, ?_, hwithin⟩
        simp only [nodesItems, leavesSizeItems, Key.name]
        congr 1 <;> omega
      · rintro ⟨⟨⟨⟨hdepth, hleaf⟩, hkeys⟩, hvalue, hvalues⟩, rfl, hwithin⟩
        refine ⟨name, ⟨rfl, hleaf⟩, (hrest _ _ hb).2
          ⟨⟨hdepth, hleaf, hvalue, hkeys, hvalues⟩, ?_, hwithin⟩⟩
        simp only [nodesItems, leavesSizeItems, Key.name]
        congr 1 <;> omega

/-- The check accepts a document that passes, and counts its nodes and its leaves. -/
theorem spends_checkValue (value : PyValue φ) : ∀ (path : Path) (depth : ℕ),
    Spends (fun budget => checkValue py path depth budget value) (Passes py depth value)
      (nodes value) (leavesSize py value) := by
  induction value using parts_induction with
  | scalar value =>
    intro path depth
    simp only [checkValue]
    refine ((spends_checkLeaf path value).count path depth).congr passes_scalar.symm ?_ ?_
    · rw [nodes]
    · rw [leavesSize]
  | list items ih =>
    intro path depth
    simp only [checkValue]
    have hitems := spends_checkItems (fun item hm path => ih item hm path (depth + 1)) path 0
    refine (hitems.count path depth).congr passes_list.symm ?_ ?_
    · rw [nodes]
    · rw [leavesSize]
  | dict items ih =>
    intro path depth
    simp only [checkValue]
    have hitems := spends_checkMembers (fun entry hm path => ih entry hm path (depth + 1)) path
    refine (hitems.count path depth).congr passes_dict.symm ?_ ?_
    · rw [nodes]
    · rw [leavesSize]

/-! ## What the reader accepts -/

theorem ensureFinite_of_leafOk {value : PyScalar φ} (h : LeafOk py value) (path : Path) :
    ensureFinite path value = .ok () := by
  obtain ⟨size, h⟩ := h
  cases value with
  | float value => cases value <;> first | rfl | cases h
  | none | bool | int | str | other => rfl

theorem countNode_of_le {path : Path} {depth count : ℕ} (hdepth : depth ≤ maxDocumentDepth)
    (hcount : count + 1 ≤ maxDocumentNodes) : countNode path depth count = .ok (count + 1) :=
  countNode_eq_ok.2 ⟨hdepth, hcount, rfl⟩

/-- The reader accepts a value at a level, and counts its nodes. -/
def Accepts (depth : ℕ) (value : PyValue φ) : Prop := ∀ {path : Path} {count : ℕ},
  count + nodes value ≤ maxDocumentNodes →
    jsonValue path depth count value = .ok (value, count + nodes value)

theorem jsonItems_of_accepts {items : List (PyValue φ)} {depth : ℕ}
    (h : ∀ item ∈ items, Accepts (depth + 1) item) {path : Path} {index count : ℕ}
    (hcount : count + nodesList items ≤ maxDocumentNodes) :
    jsonItems path index depth count items = .ok (items, count + nodesList items) := by
  induction items generalizing index count with
  | nil => rfl
  | cons item items ih =>
    obtain ⟨hitem, hitems⟩ := List.forall_mem_cons.1 h
    rw [nodesList, ← Nat.add_assoc] at hcount ⊢
    rw [jsonItems, hitem (by omega)]
    simp only [bind, Except.bind, ih hitems hcount]

theorem jsonMembers_of_accepts {items : PyValue.Items φ} {depth : ℕ}
    (h : ∀ entry ∈ items, depth + 1 ≤ maxDocumentDepth ∧ Accepts (depth + 1) entry.2)
    (hnodup : (items.map (·.1)).Nodup) {path : Path} {result : List Key} {count : ℕ}
    (hfresh : ∀ entry ∈ items, entry.1 ∉ result)
    (hcount : count + nodesItems items ≤ maxDocumentNodes) :
    jsonMembers path result depth count items = .ok (items, count + nodesItems items) := by
  induction items generalizing result count with
  | nil => rfl
  | cons entry items ih =>
    obtain ⟨key, value⟩ := entry
    obtain ⟨⟨hlevel, hvalue⟩, hitems⟩ := List.forall_mem_cons.1 h
    obtain ⟨hnot, hfresh⟩ := List.forall_mem_cons.1 hfresh
    obtain ⟨hfirst, hnodup⟩ := List.nodup_cons.1 hnodup
    have hfresh' : ∀ entry ∈ items, entry.1 ∉ key :: result := by
      intro entry hm he
      rcases List.mem_cons.1 he with he | he
      · exact hfirst (List.mem_map.2 ⟨entry, hm, he⟩)
      · exact hfresh entry hm he
    rw [nodesItems, ← Nat.add_assoc, ← Nat.add_assoc] at hcount ⊢
    rw [jsonMembers, require_of hnot]
    simp only [bind, Except.bind, countNode_of_le hlevel (show count + 1 ≤ maxDocumentNodes by omega),
      hvalue (show count + 1 + nodes value ≤ maxDocumentNodes by omega),
      ih hitems hnodup hfresh' hcount]

/-- The reader counts the nodes that the writer has counted, and leaves a document as it is. -/
theorem accepts_of_passes (value : PyValue φ) : ∀ {depth : ℕ}, value.WellFormed →
    Passes py depth value → Accepts depth value := by
  induction value using parts_induction with
  | scalar value =>
    intro depth _ hpasses path count hcount
    obtain ⟨hdepth, hleaf⟩ := passes_scalar.1 hpasses
    rw [nodes] at hcount ⊢
    rw [jsonValue, countNode_of_le hdepth hcount]
    simp only [bind, Except.bind, ensureFinite_of_leafOk hleaf]
  | list items ih =>
    intro depth hwf hpasses path count hcount
    obtain ⟨hdepth, hpasses⟩ := passes_list.1 hpasses
    have hitems : ∀ item ∈ items, Accepts (depth + 1) item := by
      cases hwf with
      | list hwf => exact fun item hm => ih item hm (hwf item hm) (hpasses item hm)
    rw [nodes, ← Nat.add_assoc] at hcount ⊢
    rw [jsonValue, countNode_of_le hdepth (by omega)]
    simp only [bind, Except.bind, jsonItems_of_accepts hitems hcount]
  | dict items ih =>
    intro depth hwf hpasses path count hcount
    obtain ⟨hdepth, hkeys, hpasses⟩ := passes_dict.1 hpasses
    cases hwf with
    | dict hnodup hwf =>
      have hitems : ∀ entry ∈ items, depth + 1 ≤ maxDocumentDepth ∧ Accepts (depth + 1) entry.2 := by
        intro entry hm
        obtain ⟨_, -, hlevel, -⟩ := hkeys entry hm
        exact ⟨hlevel, ih entry hm (hwf entry hm) (hpasses entry hm)⟩
      rw [nodes, ← Nat.add_assoc] at hcount ⊢
      rw [jsonValue, countNode_of_le hdepth (by omega)]
      simp only [bind, Except.bind,
        jsonMembers_of_accepts hitems hnodup (fun _ _ => List.not_mem_nil) hcount]

/-! ## Sorted documents -/

theorem nodes_inOrder (value : PyValue φ) : nodes (inOrder value) = nodes value := by
  induction value using parts_induction with
  | scalar value => rw [inOrder]
  | list items ih =>
    rw [inOrder_list, nodes, nodes, nodesList_eq_sum, nodesList_eq_sum, List.map_map]
    congr 2
    exact List.map_congr_left ih
  | dict items ih =>
    rw [inOrder_dict, nodes, nodes, nodesItems_eq_sum, nodesItems_eq_sum, List.map_map]
    congr 1
    rw [((sortItems_perm items).map _).sum_nat]
    congr 1
    exact List.map_congr_left fun entry hm => congrArg (1 + ·) (ih entry hm)

theorem leavesSize_inOrder (value : PyValue φ) :
    leavesSize py (inOrder value) = leavesSize py value := by
  induction value using parts_induction with
  | scalar value => rw [inOrder]
  | list items ih =>
    rw [inOrder_list, leavesSize, leavesSize, leavesSizeList_eq_sum, leavesSizeList_eq_sum,
      List.map_map]
    congr 1
    exact List.map_congr_left ih
  | dict items ih =>
    rw [inOrder_dict, leavesSize, leavesSize, leavesSizeItems_eq_sum, leavesSizeItems_eq_sum,
      List.map_map]
    rw [((sortItems_perm items).map _).sum_nat]
    congr 1
    exact List.map_congr_left fun entry hm => congrArg (leafSize py _ + ·) (ih entry hm)

theorem passes_inOrder {value : PyValue φ} {depth : ℕ} (h : Passes py depth value) :
    Passes py depth (inOrder value) := by
  induction h with
  | scalar hdepth hleaf =>
    rw [inOrder]
    exact .scalar hdepth hleaf
  | list hdepth _ ih =>
    rw [inOrder_list]
    exact .list hdepth (List.forall_mem_map.2 ih)
  | dict hdepth hkeys _ ih =>
    rw [inOrder_dict]
    exact .dict hdepth (List.forall_mem_map.2 fun entry hm => hkeys entry (mem_sortBy.1 hm))
      (List.forall_mem_map.2 fun entry hm => ih entry (mem_sortBy.1 hm))

theorem wellFormed_inOrder {value : PyValue φ} (h : value.WellFormed) :
    (inOrder value).WellFormed := by
  induction h with
  | scalar =>
    rw [inOrder]
    exact .scalar
  | list _ ih =>
    rw [inOrder_list]
    exact .list (List.forall_mem_map.2 ih)
  | dict hnodup _ ih =>
    rw [inOrder_dict]
    refine .dict ?_ (List.forall_mem_map.2 fun entry hm => ih entry (mem_sortBy.1 hm))
    rw [List.map_map]
    exact ((sortBy_perm _ _).map _).nodup_iff.2 hnodup

/-- A sorted document has the spelling of the document. -/
theorem encode_inOrder (value : PyValue φ) : encode py (inOrder value) = encode py value := by
  induction value using parts_induction with
  | scalar value => rw [inOrder]
  | list items ih =>
    refine Option.ext fun s => ?_
    rw [inOrder_list, encode_list, encode_list, List.map_map, List.forall_mem_map]
    refine and_congr (forall₂_congr fun item hm => by rw [ih item hm]) ?_
    rw [List.map_congr_left (g := spelling py) fun item hm => by
      rw [Function.comp_apply, spelling, ih item hm, spelling]]
  | dict items ih =>
    refine Option.ext fun s => ?_
    rw [inOrder_dict, encode_dict, encode_dict, List.forall_mem_map]
    have hsort : (sortItems ((sortItems items).map fun entry => (entry.1, inOrder entry.2))).map
        (itemSpelling py) = (sortItems items).map (itemSpelling py) := by
      rw [sortItems, map_sortBy, List.map_map]
      dsimp only
      rw [sortItems, sortBy_sortBy]
      refine List.map_congr_left fun entry hm => ?_
      rw [Function.comp_apply, itemSpelling, itemSpelling, spelling, ih entry (mem_sortBy.1 hm),
        spelling]
    rw [hsort]
    refine and_congr ?_ Iff.rfl
    constructor
    · intro h entry hm
      rw [← ih entry hm]
      exact h entry (mem_sortBy.2 hm)
    · intro h entry hm
      rw [ih entry (mem_sortBy.1 hm)]
      exact h entry (mem_sortBy.1 hm)

theorem identical_inOrder {value : PyValue φ} (h : value.WellFormed) :
    Identical value (inOrder value) := by
  induction h with
  | scalar =>
    rw [inOrder]
    exact .scalar
  | @list items _ ih =>
    rw [inOrder_list]
    refine .list (List.length_map _).symm fun pair hm => ?_
    rw [← List.map_id items, List.map_map, List.zip_map', List.mem_map] at hm
    obtain ⟨item, hitem, rfl⟩ := hm
    exact ih item hitem
  | @dict items hnodup _ ih =>
    rw [inOrder_dict]
    refine .dict (fun key => ?_) fun key value other hvalue hother => ?_
    · rw [List.map_map]
      exact mem_keys_sortItems.symm
    · obtain ⟨entry, hm, he⟩ := List.mem_map.1 hother
      obtain ⟨rfl, rfl⟩ := Prod.mk.inj he
      have hsame : (entry.1, value) = entry := List.inj_on_of_nodup_map hnodup hvalue
        (mem_sortBy.1 hm) rfl
      rw [← hsame]
      exact ih _ hvalue

/-- Documents with one sorted form are identical. -/
theorem identical_of_inOrder_eq (value : PyValue φ) : ∀ {other : PyValue φ}, other.WellFormed →
    inOrder value = inOrder other → Identical value other := by
  induction value using parts_induction with
  | scalar value =>
    intro other _ h
    cases other with
    | scalar other =>
      rw [inOrder, inOrder] at h
      cases h
      exact .scalar
    | list => rw [inOrder, inOrder_list] at h; cases h
    | dict => rw [inOrder, inOrder_dict] at h; cases h
  | list items ih =>
    intro other hwf h
    cases other with
    | scalar => rw [inOrder, inOrder_list] at h; cases h
    | dict => rw [inOrder_list, inOrder_dict] at h; cases h
    | list others =>
      rw [inOrder_list, inOrder_list] at h
      have hmaps := PyValue.list.inj h
      have hwf : ∀ item ∈ others, item.WellFormed := by cases hwf; assumption
      have hlength : items.length = others.length := by
        simpa only [List.length_map] using congrArg List.length hmaps
      refine .list hlength fun pair hm => ?_
      obtain ⟨i, hi, rfl⟩ := List.mem_iff_getElem.1 hm
      rw [List.length_zip] at hi
      have hget : inOrder items[i] = inOrder others[i] := by
        have := List.getElem_of_eq hmaps (i := i) (by rw [List.length_map]; omega)
        simpa only [List.getElem_map] using this
      rw [List.getElem_zip]
      exact ih _ (List.getElem_mem _) (hwf _ (List.getElem_mem _)) hget
  | dict items ih =>
    intro other hwf h
    cases other with
    | scalar => rw [inOrder, inOrder_dict] at h; cases h
    | list => rw [inOrder_list, inOrder_dict] at h; cases h
    | dict others =>
      rw [inOrder_dict, inOrder_dict] at h
      have hmaps := PyValue.dict.inj h
      obtain ⟨hnodup, hwf⟩ : (others.map (·.1)).Nodup ∧ ∀ entry ∈ others, entry.2.WellFormed := by
        cases hwf
        exact ⟨‹_›, ‹_›⟩
      refine .dict (fun key => ?_) fun key value other hvalue hother => ?_
      · have hkeys : (sortItems items).map Prod.fst = (sortItems others).map Prod.fst := by
          have := congrArg (List.map Prod.fst) hmaps
          rwa [List.map_map, List.map_map] at this
        rw [← mem_keys_sortItems, hkeys, mem_keys_sortItems]
      · have hm : (key, inOrder value) ∈
            (sortItems others).map fun entry => (entry.1, inOrder entry.2) :=
          hmaps ▸ List.mem_map.2 ⟨_, mem_sortBy.2 hvalue, rfl⟩
        obtain ⟨entry, hentry, he⟩ := List.mem_map.1 hm
        obtain ⟨hkey, heq⟩ := Prod.mk.inj he
        have hentry := mem_sortBy.1 hentry
        have hsame : entry = (key, other) :=
          List.inj_on_of_nodup_map hnodup hentry hother hkey
        rw [hsame] at heq
        exact ih _ hvalue (hwf _ hother) heq.symm

/-! ## Main result -/

theorem decodeUtf8_encodeUtf8 {s : PyStr} {bytes : ByteArray} (h : encodeUtf8 s = some bytes) :
    decodeUtf8 bytes = some s := by
  simp only [encodeUtf8, bind, Option.bind_eq_some_iff, Option.some.injEq] at h
  obtain ⟨chars, hchars, rfl⟩ := h
  have hs : chars.map CodePoint.scalar = s := by
    induction s generalizing chars with
    | nil =>
      cases hchars
      rfl
    | cons c s ih =>
      simp only [List.mapM_cons, bind, pure, Option.bind_eq_some_iff, Option.some.injEq] at hchars
      obtain ⟨char, hc, others, hothers, rfl⟩ := hchars
      cases c with
      | surrogate => cases hc
      | scalar c =>
        cases hc
        rw [List.map_cons, ih others hothers]
  rw [decodeUtf8, String.toUTF8_eq_toByteArray, String.fromUTF8?, dif_pos (String.isValidUTF8 _),
    Option.map_some, text, String.fromUTF8]
  rw [show (⟨(String.ofList chars).toByteArray, _⟩ : String) = String.ofList chars from rfl,
    String.toList_ofList, hs]

/-- What `dumps_canonical` has checked of a document that it writes. -/
theorem dumpsCanonical_eq_ok {document : PyValue φ} {bytes : ByteArray} :
    dumpsCanonical py document = .ok bytes ↔
      (Passes py 1 document ∧ nodes document ≤ maxDocumentNodes ∧
        leavesSize py document ≤ maxDocumentBytes) ∧
      ∃ encoded, encode py document = some encoded ∧ encodeUtf8 encoded = some bytes ∧
        bytes.size ≤ maxDocumentBytes := by
  have hcheck := fun budget => @spends_checkValue φ py document [] 1 ⟨0, 0⟩ budget
    ⟨Nat.zero_le _, Nat.zero_le _⟩
  simp only [dumpsCanonical, bind_eq_ok, exists_const, require_eq_ok, demand_eq_ok, hcheck,
    Except.ok.injEq, Nat.zero_add]
  constructor
  · rintro ⟨_, ⟨hpasses, rfl, hnodes, hbytes⟩, encoded, hencoded, _, hutf8, hsize, rfl⟩
    exact ⟨⟨hpasses, hnodes, hbytes⟩, encoded, hencoded, hutf8, hsize⟩
  · rintro ⟨⟨hpasses, hnodes, hbytes⟩, encoded, hencoded, hutf8, hsize⟩
    exact ⟨_, ⟨hpasses, rfl, hnodes, hbytes⟩, encoded, hencoded, bytes, hutf8, hsize, rfl⟩

/-- A document that was written is read in the order of its keys. -/
theorem loadsMapping_of_dumpsCanonical (hpy : py.Lawful) {items : PyValue.Items φ}
    {bytes : ByteArray} (hwf : (dict items).WellFormed)
    (h : dumpsCanonical py (dict items) = .ok bytes)
    (yaml : PyStr → Except DocumentFailure (PyValue φ)) (sourceName : String) {suffix : String}
    (hsuffix : suffix ∉ [".yaml", ".yml"]) :
    ∃ document, inOrder (dict items) = dict document ∧
      loadsMapping py yaml sourceName suffix (.bytes bytes) = .ok document := by
  obtain ⟨⟨hpasses, hnodes, -⟩, encoded, hencoded, hutf8, hsize⟩ := dumpsCanonical_eq_ok.1 h
  have hloads := loads_encode hpy hencoded
  have haccepts : jsonValue [] 1 0 (inOrder (dict items)) = _ :=
    accepts_of_passes _ (wellFormed_inOrder hwf) (passes_inOrder hpasses)
      (by rw [nodes_inOrder]; omega)
  refine ⟨_, inOrder_dict items, ?_⟩
  rw [inOrder_dict] at hloads haccepts
  have hjson : useJson suffix encoded = true := by
    obtain ⟨-, rfl⟩ := encode_dict.1 hencoded
    rw [useJson, Bool.or_eq_true, Bool.and_eq_true, Bool.or_eq_true]
    exact .inr ⟨decide_eq_true hsuffix, .inl rfl⟩
  simp only [loadsMapping, checkSize, Source.decode, require_of hsize, decodeUtf8_encodeUtf8 hutf8,
    hjson, hloads, haccepts, demand, bind, Except.bind, if_true]

/-- What `dumps_canonical` writes, `loads_mapping` reads as an identical document, which is written
to the same bytes; and documents with the same bytes are identical. -/
theorem dumpsCanonical_roundTrip (hpy : py.Lawful) (value : PyValue φ) (bytes : ByteArray)
    (hwf : value.WellFormed) (h : dumpsCanonical py value = .ok bytes) :
    (∀ items, value = dict items → ∀ yaml sourceName suffix, suffix ∉ [".yaml", ".yml"] →
      ∃ document, loadsMapping py yaml sourceName suffix (.bytes bytes) = .ok document ∧
        Identical value (dict document) ∧ dumpsCanonical py (dict document) = .ok bytes) ∧
    ∀ other : PyValue φ, other.WellFormed → dumpsCanonical py other = .ok bytes →
      Identical value other := by
  refine ⟨?_, fun other hother h' => ?_⟩
  · rintro items rfl yaml sourceName suffix hsuffix
    obtain ⟨document, hdocument, hloads⟩ :=
      loadsMapping_of_dumpsCanonical hpy hwf h yaml sourceName hsuffix
    refine ⟨document, hloads, hdocument ▸ identical_inOrder hwf, ?_⟩
    obtain ⟨⟨hpasses, hnodes, hbytes⟩, hencoded⟩ := dumpsCanonical_eq_ok.1 h
    rw [← hdocument, dumpsCanonical_eq_ok, nodes_inOrder, leavesSize_inOrder, encode_inOrder]
    exact ⟨⟨passes_inOrder hpasses, hnodes, hbytes⟩, hencoded⟩
  · obtain ⟨-, encoded, hencoded, hutf8, -⟩ := dumpsCanonical_eq_ok.1 h
    obtain ⟨-, encoded', hencoded', hutf8', -⟩ := dumpsCanonical_eq_ok.1 h'
    have hsame : encoded = encoded' := by
      have := (decodeUtf8_encodeUtf8 hutf8).symm.trans (decodeUtf8_encodeUtf8 hutf8')
      exact Option.some.inj this
    subst hsame
    have hloads := (loads_encode hpy hencoded).symm.trans (loads_encode hpy hencoded')
    exact identical_of_inOrder_eq value hother (Option.some.inj hloads)

/-! ### A document with a negative zero -/

/-- An interpreter whose floats are the two zeros. -/
def zeros : Interpreter Bool where
  repr negative := text (if negative then "-0.0" else "0.0")
  float s := .finite (s.head? = some minus)
  intMaxStrDigits := 4300

theorem zeros_lawful : zeros.Lawful where
  literal negative := by
    cases negative with
    | false => exact ⟨⟨text "0", text ".0", []⟩, rfl, .inl (by decide), rfl⟩
    | true => exact ⟨⟨text "-0", text ".0", []⟩, rfl, .inl (by decide), rfl⟩
  inverse negative := by cases negative <;> rfl

def zerosDocument : PyValue.Items Bool :=
  [(.str (text "reset"), .list [.scalar (.float (.finite true)), .scalar (.int (-7)), .scalar .none]),
    (.str (text "mode"), .scalar (.str (text "a\n\"b\"")))]

theorem zerosDocument_wellFormed : (dict zerosDocument).WellFormed := by
  refine .dict (by decide) ?_
  simp only [zerosDocument, List.forall_mem_cons]
  refine ⟨.list ?_, .scalar, nofun⟩
  simp only [List.forall_mem_cons]
  exact ⟨.scalar, .scalar, .scalar, nofun⟩

theorem dumpsCanonical_roundTrip_zeros : ∃ bytes document,
    dumpsCanonical zeros (dict zerosDocument) = .ok bytes ∧
      loadsMapping zeros (fun _ => .error .encoder) "document" "" (.bytes bytes) = .ok document ∧
      Identical (dict zerosDocument) (dict document) := by
  obtain ⟨bytes, hbytes, -⟩ := exists_ok_of_any (x := dumpsCanonical zeros (dict zerosDocument))
    (p := fun _ => true) (by decide +kernel)
  obtain ⟨document, hloads, hidentical, -⟩ := (dumpsCanonical_roundTrip zeros_lawful _ bytes
    zerosDocument_wellFormed hbytes).1 zerosDocument rfl (fun _ => .error .encoder) "document" ""
    (by decide)
  exact ⟨bytes, document, hbytes, hloads, hidentical⟩

end RoboticsRuntime.Contracts
