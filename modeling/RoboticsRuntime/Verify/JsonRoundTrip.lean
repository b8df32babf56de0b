import RoboticsRuntime.Verify.JsonText

/-!
# Reading back a nested object

The spelling of an object is read as the object with its dictionaries in the order of their keys. It
is an induction on the object: its parts are read one after the other, with the fuel that their
length is.
-/

namespace RoboticsRuntime.Python
open Theory

variable {φ ι : Type} {py : Interpreter φ}

/-! ## Spellings of containers -/

/-- The characters of a key. -/
def Key.name : Key → PyStr
  | .str name => name
  | .other _ => []

/-- What keys are sorted by. -/
def Key.codes (key : Key) : List ℕ := key.name.map CodePoint.ord

/-- The items of a dictionary in the order of their keys. -/
def sortItems (items : PyValue.Items φ) : PyValue.Items φ := sortBy (fun entry => entry.1.codes) items

theorem sortItems_perm (items : PyValue.Items φ) : (sortItems items).Perm items :=
  sortBy_perm _ items

theorem mem_keys_sortItems {items : PyValue.Items φ} {key : Key} :
    key ∈ (sortItems items).map Prod.fst ↔ key ∈ items.map Prod.fst :=
  ((sortItems_perm items).map Prod.fst).mem_iff

mutual

/-- The object with every dictionary in the order of its keys. -/
def inOrder : PyValue φ → PyValue φ
  | .scalar value => .scalar value
  | .list items => .list (inOrderList items)
  | .dict items => .dict (sortItems (inOrderItems items))
termination_by structural value => value

def inOrderList : List (PyValue φ) → List (PyValue φ)
  | [] => []
  | item :: items => inOrder item :: inOrderList items
termination_by structural items => items

def inOrderItems : PyValue.Items φ → PyValue.Items φ
  | [] => []
  | (key, value) :: items => (key, inOrder value) :: inOrderItems items
termination_by structural items => items

end

theorem inOrder_list (items : List (PyValue φ)) : inOrder (.list items) = .list (items.map inOrder) := by
  rw [inOrder]
  congr 1
  induction items with
  | nil => rfl
  | cons item items ih => rw [inOrderList, ih, List.map_cons]

theorem inOrder_dict (items : PyValue.Items φ) : inOrder (.dict items) =
    .dict ((sortItems items).map fun entry => (entry.1, inOrder entry.2)) := by
  have hitems : inOrderItems items = items.map fun entry => (entry.1, inOrder entry.2) := by
    induction items with
    | nil => rfl
    | cons entry items ih => rw [inOrderItems, ih, List.map_cons]
  rw [inOrder, hitems, sortItems, map_sortBy]
  rfl

/-- The spelling of an object that has one. -/
def spelling (py : Interpreter φ) (value : PyValue φ) : PyStr := (encode py value).getD []

/-- The spelling of an item of a dictionary. -/
def itemSpelling (py : Interpreter φ) (entry : Key × PyValue φ) : PyStr :=
  encodeMember (entry.1.name, spelling py entry.2)

theorem encode_eq_some (value : PyValue φ) {s : PyStr} :
    encode py value = some s ↔ (encode py value).isSome ∧ spelling py value = s := by
  cases h : encode py value <;> simp [spelling, h]

theorem encode_list {items : List (PyValue φ)} {s : PyStr} : encode py (.list items) = some s ↔
    (∀ item ∈ items, (encode py item).isSome) ∧
      s = openBracket :: ([comma].intercalate (items.map (spelling py)) ++ [closeBracket]) := by
  have hitems : ∀ chunks, encodeItems py items = some chunks ↔
      (∀ item ∈ items, (encode py item).isSome) ∧ chunks = items.map (spelling py) := by
    induction items with
    | nil => exact fun _ => ⟨fun h => ⟨nofun, (Option.some.inj h).symm⟩, fun h => by rw [h.2]; rfl⟩
    | cons item items ih =>
      intro chunks
      simp only [encodeItems, bind, Option.bind_eq_some_iff, ih, encode_eq_some item,
        List.forall_mem_cons, List.map_cons, Option.some.injEq]
      constructor
      · rintro ⟨_, ⟨hitem, rfl⟩, _, ⟨hitems, rfl⟩, rfl⟩
        exact ⟨⟨hitem, hitems⟩, rfl⟩
      · rintro ⟨⟨hitem, hitems⟩, rfl⟩
        exact ⟨_, ⟨hitem, rfl⟩, _, ⟨hitems, rfl⟩, rfl⟩
  simp only [encode, bind, Option.bind_eq_some_iff, hitems, Option.some.injEq]
  constructor
  · rintro ⟨_, ⟨h, rfl⟩, rfl⟩
    exact ⟨h, rfl⟩
  · rintro ⟨h, rfl⟩
    exact ⟨_, ⟨h, rfl⟩, rfl⟩

theorem encode_dict {items : PyValue.Items φ} {s : PyStr} : encode py (.dict items) = some s ↔
    (∀ entry ∈ items, (∃ name, entry.1 = .str name) ∧ (encode py entry.2).isSome) ∧
      s = openBrace :: ([comma].intercalate ((sortItems items).map (itemSpelling py)) ++
        [closeBrace]) := by
  have hitems : ∀ members, encodeMembers py items = some members ↔
      (∀ entry ∈ items, (∃ name, entry.1 = .str name) ∧ (encode py entry.2).isSome) ∧
        members = items.map fun entry => (entry.1.name, spelling py entry.2) := by
    induction items with
    | nil => exact fun _ => ⟨fun h => ⟨nofun, (Option.some.inj h).symm⟩, fun h => by rw [h.2]; rfl⟩
    | cons entry items ih =>
      intro members
      obtain ⟨key, value⟩ := entry
      cases key with
      | other => simp [encodeMembers]
      | str name =>
        simp only [encodeMembers, bind, Option.bind_eq_some_iff, ih, encode_eq_some value,
          List.forall_mem_cons, List.map_cons, Option.some.injEq]
        constructor
        · rintro ⟨_, ⟨hvalue, rfl⟩, _, ⟨hitems, rfl⟩, rfl⟩
          exact ⟨⟨⟨⟨name, rfl⟩, hvalue⟩, hitems⟩, rfl⟩
        · rintro ⟨⟨⟨-, hvalue⟩, hitems⟩, rfl⟩
          exact ⟨_, ⟨hvalue, rfl⟩, _, ⟨hitems, rfl⟩, rfl⟩
  have hsort : (sortMembers (items.map fun entry => (entry.1.name, spelling py entry.2))).map
      encodeMember = (sortItems items).map (itemSpelling py) := by
    rw [sortMembers, map_sortBy, List.map_map]
    rfl
  simp only [encode, bind, Option.bind_eq_some_iff, hitems, Option.some.injEq]
  constructor
  · rintro ⟨_, ⟨h, rfl⟩, rfl⟩
    exact ⟨h, by rw [hsort]⟩
  · rintro ⟨h, rfl⟩
    exact ⟨_, ⟨h, rfl⟩, by rw [hsort]⟩

/-! ## Parts of containers -/

/-- The decoder reads a text as an object. -/
structure Reads (py : Interpreter φ) (s : PyStr) (value : PyValue φ) : Prop where
  scan : ∀ {rest fuel}, Delimited rest → s.length ≤ fuel →
    scanOnce py fuel (s ++ rest) = some (value, rest)
  start : ∃ c tail, s = c :: tail ∧ ValueStart c

theorem skip_append {s : PyStr} (h : ∃ c tail, s = c :: tail ∧ c.isBlank = false) (rest : PyStr) :
    skip (s ++ rest) = s ++ rest := by
  obtain ⟨c, tail, rfl, hc⟩ := h
  exact skip_cons hc _

theorem intercalate_start {l : List ι} (hne : l ≠ []) {f : ι → PyStr} {P : CodePoint → Prop}
    (h : ∀ i ∈ l, ∃ c tail, f i = c :: tail ∧ P c) :
    ∃ c tail, [comma].intercalate (l.map f) = c :: tail ∧ P c := by
  cases l with
  | nil => exact absurd rfl hne
  | cons i l =>
    obtain ⟨c, tail, hi, hc⟩ := h i List.mem_cons_self
    cases l with
    | nil => exact ⟨c, tail, by simp [hi], hc⟩
    | cons j l => exact ⟨c, _, by rw [List.map_cons, List.map_cons, List.intercalate_cons_cons, hi]; rfl, hc⟩

/-- The items of an array are read one after the other. -/
theorem scanItems_intercalate {l : List ι} (hne : l ≠ []) {f : ι → PyStr} {g : ι → PyValue φ}
    (h : ∀ i ∈ l, Reads py (f i) (g i)) {rest : PyStr} {fuel : ℕ}
    (hfuel : ([comma].intercalate (l.map f)).length < fuel) :
    scanItems py fuel ([comma].intercalate (l.map f) ++ closeBracket :: rest) =
      some (l.map g, rest) := by
  induction l generalizing fuel with
  | nil => exact absurd rfl hne
  | cons i l ih =>
    obtain ⟨fuel, rfl⟩ : ∃ fuel', fuel = fuel' + 1 := ⟨fuel - 1, by omega⟩
    have hi := h i List.mem_cons_self
    cases l with
    | nil =>
      simp only [List.map_cons, List.map_nil, List.intercalate_singleton] at hfuel ⊢
      have hdelim : Delimited (closeBracket :: rest) := delimited_cons.2 (by decide)
      rw [scanItems]
      simp only [hi.scan hdelim (show _ ≤ fuel by omega), bind, Option.bind_some,
        skip_of_delimited hdelim, if_true]
    | cons j l =>
      have hrest := @ih (List.cons_ne_nil _ _) (fun k hk => h k (List.mem_cons_of_mem _ hk)) fuel
      have hskip := skip_append (intercalate_start (List.cons_ne_nil j l) fun k hk => by
        obtain ⟨c, tail, hc, hstart⟩ := (h k (List.mem_cons_of_mem _ hk)).start
        exact ⟨c, tail, hc, hstart.1⟩)
      rw [List.map_cons, List.map_cons, List.intercalate_cons_cons] at hfuel ⊢
      rw [← List.map_cons] at hfuel ⊢
      rw [List.length_append, List.length_append, List.length_singleton] at hfuel
      rw [List.append_assoc, List.append_assoc, List.singleton_append]
      have hdelim : Delimited (comma ::
          ([comma].intercalate ((j :: l).map f) ++ closeBracket :: rest)) :=
        delimited_cons.2 (by decide)
      rw [scanItems]
      simp only [hi.scan hdelim (show _ ≤ fuel by omega), bind, Option.bind_some,
        skip_of_delimited hdelim, hskip, hrest (show _ < fuel by omega), if_true,
        show comma ≠ closeBracket by decide, if_false]
      rfl

/-- What `scanMembers` does after the value of a member. -/
def afterMember (py : Interpreter φ) (fuel : ℕ) (entry : Key × PyValue φ) :
    PyStr → Option (PyValue.Items φ × PyStr)
  | [] => none
  | c :: rest =>
    if c = closeBrace then some ([entry], rest)
    else if c = comma then (scanMembers py fuel (skip rest)).map fun read =>
      (entry :: read.1, read.2)
    else none

/-- A member is read up to its value, whatever follows. -/
theorem scanMembers_member {name s : PyStr} {value : PyValue φ} (h : Reads py s value)
    {rest : PyStr} (hdelim : Delimited rest) {fuel : ℕ}
    (hfuel : (encodeMember (name, s)).length ≤ fuel) :
    scanMembers py (fuel + 1) (encodeMember (name, s) ++ rest) =
      afterMember py fuel (.str name, value) rest := by
  have hcolon := after_append [colon] (s ++ rest)
  have hvalue := skip_append (by
    obtain ⟨c, tail, hc, hstart⟩ := h.start
    exact ⟨c, tail, hc, hstart.1⟩) rest
  have hlength : s.length ≤ fuel := by
    simp only [encodeMember, List.length_append, List.length_cons] at hfuel
    omega
  have hquote := after_append [quote] (name.flatMap escape ++ [quote] ++ colon :: (s ++ rest))
  have hname := scanString_encodeString name (colon :: (s ++ rest))
  rw [scanMembers, encodeMember, encodeString]
  simp only [List.cons_append, List.append_assoc, List.nil_append] at hquote hcolon hname ⊢
  simp only [hquote, hname, hcolon, skip_cons (show colon.isBlank = false by decide), hvalue,
    h.scan hdelim hlength, skip_of_delimited hdelim, bind, Option.bind_some]
  cases rest with
  | nil => rfl
  | cons c rest =>
    simp only [afterMember]
    cases scanMembers py fuel (skip rest) <;> rfl

/-- The items of an object are read one after the other. -/
theorem scanMembers_intercalate {l : List ι} (hne : l ≠ []) {name : ι → PyStr} {f : ι → PyStr}
    {g : ι → PyValue φ} (h : ∀ i ∈ l, Reads py (f i) (g i)) {rest : PyStr} {fuel : ℕ}
    (hfuel : ([comma].intercalate (l.map fun i => encodeMember (name i, f i))).length < fuel) :
    scanMembers py fuel
      ([comma].intercalate (l.map fun i => encodeMember (name i, f i)) ++ closeBrace :: rest) =
        some (l.map fun i => (.str (name i), g i), rest) := by
  induction l generalizing fuel with
  | nil => exact absurd rfl hne
  | cons i l ih =>
    obtain ⟨fuel, rfl⟩ : ∃ fuel', fuel = fuel' + 1 := ⟨fuel - 1, by omega⟩
    have hi := h i List.mem_cons_self
    cases l with
    | nil =>
      simp only [List.map_cons, List.map_nil, List.intercalate_singleton] at hfuel ⊢
      rw [scanMembers_member hi (delimited_cons.2 (by decide)) (by omega)]
      rfl
    | cons j l =>
      have hrest := @ih (List.cons_ne_nil _ _) (fun k hk => h k (List.mem_cons_of_mem _ hk)) fuel
      have hskip := skip_append (intercalate_start (List.cons_ne_nil j l)
        (f := fun i => encodeMember (name i, f i)) (P := fun c => c.isBlank = false)
        fun k hk => ⟨quote, _, rfl, by decide⟩)
      rw [List.map_cons, List.map_cons, List.intercalate_cons_cons] at hfuel ⊢
      rw [← List.map_cons (f := fun i => encodeMember (name i, f i))] at hfuel ⊢
      rw [List.length_append, List.length_append, List.length_singleton] at hfuel
      rw [List.append_assoc, List.append_assoc, List.singleton_append,
        scanMembers_member hi (delimited_cons.2 (by decide)) (by omega)]
      simp only [afterMember, show comma ≠ closeBrace by decide, if_false, if_true, hskip,
        hrest (show _ < fuel by omega), Option.map_some]
      rfl

/-! ## Objects -/

theorem reads_scalar (hpy : py.Lawful) {value : PyScalar φ} {s : PyStr}
    (hs : encodeScalar py value = some s) : Reads py s (.scalar value) := by
  by_cases hstr : ∃ v, value = .str v
  · obtain ⟨v, rfl⟩ := hstr
    cases hs
    refine ⟨fun {rest fuel} _ hlength => ?_, quote, _, rfl, by decide, by decide, by decide⟩
    obtain ⟨fuel, rfl⟩ : ∃ fuel', fuel = fuel' + 1 :=
      ⟨fuel - 1, by simp only [encodeString, List.length_cons] at hlength; omega⟩
    rw [encodeString, List.cons_append, scanOnce, if_pos rfl, scanString_encodeString]
    rfl
  · have hspells := spells_encodeScalar hpy hs fun v hv => hstr ⟨v, hv⟩
    obtain ⟨c, tail, rfl, hstart, hquote, hbrace, hbracket⟩ := hspells.start
    refine ⟨fun {rest fuel} hdelim hlength => ?_, c, tail, rfl, hstart⟩
    obtain ⟨fuel, rfl⟩ : ∃ fuel', fuel = fuel' + 1 :=
      ⟨fuel - 1, by simp only [List.length_cons] at hlength; omega⟩
    rw [List.cons_append, scanOnce, if_neg hquote, if_neg hbrace, if_neg hbracket,
      ← List.cons_append, hspells.scan hdelim]
    rfl

theorem reads_list {l : List ι} {f : ι → PyStr} {g : ι → PyValue φ}
    (h : ∀ i ∈ l, Reads py (f i) (g i)) :
    Reads py (openBracket :: ([comma].intercalate (l.map f) ++ [closeBracket]))
      (.list (l.map g)) := by
  refine ⟨fun {rest fuel} _ hlength => ?_, openBracket, _, rfl, by decide, by decide, by decide⟩
  simp only [List.length_cons, List.length_append, List.length_nil] at hlength
  obtain ⟨fuel, rfl⟩ : ∃ fuel', fuel = fuel' + 1 := ⟨fuel - 1, by omega⟩
  rw [List.cons_append, List.append_assoc, List.singleton_append, scanOnce, if_neg (by decide),
    if_neg (by decide), if_pos rfl]
  by_cases hne : l = []
  · subst hne
    have hskip : skip (closeBracket :: rest) = closeBracket :: rest := skip_cons (by decide) rest
    simp [hskip]
  · obtain ⟨c, tail, hc, hstart⟩ := intercalate_start hne fun i hi => (h i hi).start
    rw [skip_append ⟨c, tail, hc, hstart.1⟩, if_neg, scanItems_intercalate hne h (by omega)]
    · rfl
    · rw [hc, List.cons_append, List.head?_cons]
      exact fun he => hstart.2.1 (Option.some.inj he)

theorem reads_dict {l : List ι} {name f : ι → PyStr} {g : ι → PyValue φ}
    (h : ∀ i ∈ l, Reads py (f i) (g i)) :
    Reads py (openBrace :: ([comma].intercalate (l.map fun i => encodeMember (name i, f i)) ++
      [closeBrace])) (.dict (l.map fun i => (.str (name i), g i))) := by
  refine ⟨fun {rest fuel} _ hlength => ?_, openBrace, _, rfl, by decide, by decide, by decide⟩
  simp only [List.length_cons, List.length_append, List.length_nil] at hlength
  obtain ⟨fuel, rfl⟩ : ∃ fuel', fuel = fuel' + 1 := ⟨fuel - 1, by omega⟩
  rw [List.cons_append, List.append_assoc, List.singleton_append, scanOnce, if_neg (by decide),
    if_pos rfl]
  by_cases hne : l = []
  · subst hne
    have hskip : skip (closeBrace :: rest) = closeBrace :: rest := skip_cons (by decide) rest
    simp [hskip]
  · obtain ⟨c, tail, hc, hquote⟩ := intercalate_start hne
      (f := fun i => encodeMember (name i, f i)) (P := fun c => c = quote) fun i _ =>
        ⟨quote, _, rfl, rfl⟩
    rw [skip_append ⟨c, tail, hc, by rw [hquote]; decide⟩, if_neg,
      scanMembers_intercalate hne h (by omega)]
    · rfl
    · rw [hc, List.cons_append, List.head?_cons, hquote]
      decide

/-- Every spelling is read as the object that it spells, in order. -/
theorem reads_encode (hpy : py.Lawful) (value : PyValue φ) :
    ∀ {s}, encode py value = some s → Reads py s (inOrder value) := by
  induction value using PyValue.parts_induction with
  | scalar value =>
    intro s hs
    rw [encode] at hs
    exact reads_scalar hpy hs
  | list items ih =>
    intro s hs
    obtain ⟨hitems, rfl⟩ := encode_list.1 hs
    rw [inOrder_list]
    exact reads_list fun item hm => ih item hm ((encode_eq_some item).2 ⟨hitems item hm, rfl⟩)
  | dict items ih =>
    intro s hs
    obtain ⟨hitems, rfl⟩ := encode_dict.1 hs
    have hread : ∀ entry ∈ sortItems items,
        Reads py (spelling py entry.2) (inOrder entry.2) := fun entry hm => by
      have hm := mem_sortBy.1 hm
      exact ih entry hm ((encode_eq_some entry.2).2 ⟨(hitems entry hm).2, rfl⟩)
    have hnames : (sortItems items).map (fun entry => (entry.1, inOrder entry.2)) =
        (sortItems items).map fun entry => (.str entry.1.name, inOrder entry.2) := by
      refine List.map_congr_left fun entry hm => ?_
      obtain ⟨name, hname⟩ := (hitems entry (mem_sortBy.1 hm)).1
      rw [hname]
      rfl
    rw [inOrder_dict, hnames]
    exact reads_dict hread

/-- `json.loads` reads back what the encoder wrote. -/
theorem loads_encode (hpy : py.Lawful) {value : PyValue φ} {s : PyStr}
    (hs : encode py value = some s) : loads py s = some (inOrder value) := by
  have hreads := reads_encode hpy value hs
  obtain ⟨c, tail, hc, hstart⟩ := hreads.start
  have hscan := hreads.scan delimited_nil (Nat.le_succ s.length)
  rw [List.append_nil] at hscan
  have hmark : s.head? ≠ some (.scalar '\ufeff') := by
    rw [hc, List.head?_cons]
    exact fun he => hstart.2.2 (Option.some.inj he)
  rw [loads, if_neg hmark]
  have hskip := skip_append ⟨c, tail, hc, hstart.1⟩ []
  have hend : skip [] = [] := rfl
  rw [List.append_nil] at hskip
  rw [hskip]
  simp only [hscan, bind, Option.bind_some, hend, if_true]

end RoboticsRuntime.Python
