import RoboticsRuntime.Verify.CanonicalRoundTrip

/-!
# The canonical form of a document

Documents that are identical node by node are written to the same bytes, in whatever order their
members were inserted: digests of canonical documents compare the documents.
-/

namespace RoboticsRuntime.Contracts
open Theory Python PyValue

variable {φ : Type} {py : Interpreter φ}

/-! ## Keys -/

theorem ord_injective : Function.Injective CodePoint.ord := by
  intro a b h
  cases a with
  | scalar c =>
    cases b with
    | scalar d => exact congrArg CodePoint.scalar (Char.toNat_inj.1 h)
    | surrogate offset =>
      have hvalid : c.toNat < 0xd800 ∨ 0xdfff < c.toNat ∧ c.toNat < 0x110000 := c.valid
      have hc : c.toNat = 0xd800 + offset := h
      omega
  | surrogate offset =>
    cases b with
    | scalar d =>
      have hvalid : d.toNat < 0xd800 ∨ 0xdfff < d.toNat ∧ d.toNat < 0x110000 := d.valid
      have hd : 0xd800 + offset = d.toNat := h
      omega
    | surrogate offset' =>
      have hoffset : 0xd800 + (offset : ℕ) = 0xd800 + offset' := h
      exact congrArg CodePoint.surrogate (Fin.ext (by omega))

/-- The items have keys that are strings. -/
def StringKeys (items : PyValue.Items φ) : Prop := ∀ entry ∈ items, ∃ name, entry.1 = .str name

/-- Different strings are sorted by different codes. -/
theorem StringKeys.distinct {items : PyValue.Items φ} (hkeys : StringKeys items)
    (hnodup : (items.map (·.1)).Nodup) : Distinct (fun entry => Key.codes entry.1) items := by
  refine (List.Nodup.of_map _ hnodup).map_on fun entry hentry other hother h => ?_
  obtain ⟨name, hname⟩ := hkeys entry hentry
  obtain ⟨name', hname'⟩ := hkeys other hother
  rw [hname, hname'] at h
  have hsame : name = name' := ord_injective.list_map h
  exact List.inj_on_of_nodup_map hnodup hentry hother (by rw [hname, hname', hsame])

/-! ## Identical documents -/

/-- An identical dictionary has an identical value under each key. -/
theorem exists_identical {items others : PyValue.Items φ}
    (h : Identical (.dict items) (.dict others)) {other : Key × PyValue φ}
    (hother : other ∈ others) :
    ∃ entry ∈ items, entry.1 = other.1 ∧ Identical entry.2 other.2 := by
  cases h with
  | dict hkeys hvalues =>
    obtain ⟨entry, hentry, hkey⟩ := List.mem_map.1 ((hkeys other.1).2 (List.mem_map_of_mem hother))
    refine ⟨entry, hentry, hkey, hvalues other.1 entry.2 other.2 ?_ hother⟩
    rw [← hkey]
    exact hentry

/-- An identical dictionary has an identical value for each of its items. -/
theorem exists_identical_of_mem {items others : PyValue.Items φ}
    (h : Identical (.dict items) (.dict others)) {entry : Key × PyValue φ}
    (hentry : entry ∈ items) :
    ∃ other ∈ others, entry.1 = other.1 ∧ Identical entry.2 other.2 := by
  cases h with
  | dict hkeys hvalues =>
    obtain ⟨other, hother, hkey⟩ :=
      List.mem_map.1 ((hkeys entry.1).1 (List.mem_map_of_mem hentry))
    refine ⟨other, hother, hkey.symm, hvalues entry.1 entry.2 other.2 hentry ?_⟩
    rw [← hkey]
    exact hother

/-- An item with its value in order. -/
def itemInOrder (entry : Key × PyValue φ) : Key × PyValue φ := (entry.1, inOrder entry.2)

theorem inOrder_dict_eq (items : PyValue.Items φ) :
    inOrder (.dict items) = .dict (sortItems (items.map itemInOrder)) := by
  rw [inOrder_dict, sortItems, sortItems, map_sortBy]
  rfl

theorem keys_itemInOrder (items : PyValue.Items φ) :
    (items.map itemInOrder).map (·.1) = items.map (·.1) := by
  rw [List.map_map]
  rfl

/-- Items in order are sorted to one list when they are the same items. -/
theorem sortItems_eq {items others : PyValue.Items φ} (hkeys : StringKeys items)
    (hnodup : (items.map (·.1)).Nodup) (hnodup' : (others.map (·.1)).Nodup)
    (hsame : ∀ entry ∈ items, ∃ other ∈ others, itemInOrder other = itemInOrder entry)
    (hsame' : ∀ other ∈ others, ∃ entry ∈ items, itemInOrder entry = itemInOrder other) :
    sortItems (items.map itemInOrder) = sortItems (others.map itemInOrder) := by
  rw [← keys_itemInOrder] at hnodup hnodup'
  have hkeys : StringKeys (items.map itemInOrder) := List.forall_mem_map.2 hkeys
  refine sortBy_eq_of_perm (hkeys.distinct hnodup) ((List.perm_ext_iff_of_nodup
    (hnodup.of_map _) (hnodup'.of_map _)).2 fun item => ⟨fun hitem => ?_, fun hitem => ?_⟩)
  · obtain ⟨entry, hentry, rfl⟩ := List.mem_map.1 hitem
    exact List.mem_map.2 (hsame entry hentry)
  · obtain ⟨other, hother, rfl⟩ := List.mem_map.1 hitem
    exact List.mem_map.2 (hsame' other hother)

/-- A document that is identical to one that passes has its sorted form, and passes. -/
theorem inOrder_eq_of_identical (value : PyValue φ) : ∀ {other : PyValue φ} {depth : ℕ},
    Passes py depth value → value.WellFormed → other.WellFormed → Identical value other →
    inOrder value = inOrder other ∧ Passes py depth other := by
  induction value using parts_induction with
  | scalar value =>
    intro other depth hpasses _ _ h
    cases h
    exact ⟨rfl, hpasses⟩
  | list items ih =>
    intro other depth hpasses hwf hwf' h
    obtain ⟨hdepth, hitems⟩ := passes_list.1 hpasses
    cases h with
    | @list _ others hlength hpairs =>
      have hwf : ∀ item ∈ items, item.WellFormed := by cases hwf; assumption
      have hwf' : ∀ item ∈ others, item.WellFormed := by cases hwf'; assumption
      have hget (i : ℕ) (hi : i < items.length) (hi' : i < others.length) :
          inOrder items[i] = inOrder others[i] ∧ Passes py (depth + 1) others[i] := by
        refine ih _ (List.getElem_mem hi) (hitems _ (List.getElem_mem hi))
          (hwf _ (List.getElem_mem hi)) (hwf' _ (List.getElem_mem hi')) ?_
        refine hpairs (items[i], others[i]) (List.mem_iff_getElem.2 ⟨i, ?_, List.getElem_zip⟩)
        rw [List.length_zip]
        omega
      constructor
      · rw [inOrder_list, inOrder_list]
        congr 1
        refine List.ext_getElem (by simpa using hlength) fun i hi hi' => ?_
        rw [List.getElem_map, List.getElem_map]
        exact (hget i (by simpa using hi) (by simpa using hi')).1
      · refine passes_list.2 ⟨hdepth, fun item hitem => ?_⟩
        obtain ⟨i, hi, rfl⟩ := List.mem_iff_getElem.1 hitem
        exact (hget i (by omega) hi).2
  | dict items ih =>
    intro other depth hpasses hwf hwf' h
    obtain ⟨hdepth, hnames, hitems⟩ := passes_dict.1 hpasses
    obtain ⟨hnodup, hwf⟩ : (items.map (·.1)).Nodup ∧ ∀ entry ∈ items, entry.2.WellFormed := by
      cases hwf
      exact ⟨‹_›, ‹_›⟩
    have hkeys : StringKeys items := fun entry hentry =>
      let ⟨name, hname, _⟩ := hnames entry hentry
      ⟨name, hname⟩
    cases other with
    | scalar => cases h
    | list => cases h
    | dict others =>
      obtain ⟨hnodup', hwf'⟩ :
          (others.map (·.1)).Nodup ∧ ∀ entry ∈ others, entry.2.WellFormed := by
        cases hwf'
        exact ⟨‹_›, ‹_›⟩
      have hvalue {entry other : Key × PyValue φ} (hentry : entry ∈ items) (hother : other ∈ others)
          (hidentical : Identical entry.2 other.2) :=
        ih entry hentry (hitems entry hentry) (hwf entry hentry) (hwf' other hother) hidentical
      constructor
      · rw [inOrder_dict_eq, inOrder_dict_eq]
        congr 1
        refine sortItems_eq hkeys hnodup hnodup' (fun entry hentry => ?_) fun other hother => ?_
        · obtain ⟨other, hother, hkey, hidentical⟩ := exists_identical_of_mem h hentry
          exact ⟨other, hother,
            Prod.ext hkey.symm (hvalue hentry hother hidentical).1.symm⟩
        · obtain ⟨entry, hentry, hkey, hidentical⟩ := exists_identical h hother
          exact ⟨entry, hentry, Prod.ext hkey (hvalue hentry hother hidentical).1⟩
      · refine passes_dict.2 ⟨hdepth, fun other hother => ?_, fun other hother => ?_⟩
        · obtain ⟨entry, hentry, hkey, -⟩ := exists_identical h hother
          exact hkey ▸ hnames entry hentry
        · obtain ⟨entry, hentry, -, hidentical⟩ := exists_identical h hother
          exact (hvalue hentry hother hidentical).2

/-! ## Main result -/

/-- A document is written to the bytes of every document that it is identical to. -/
theorem dumpsCanonical_identical {value other : PyValue φ} {bytes : ByteArray}
    (hwf : value.WellFormed) (hwf' : other.WellFormed) (hidentical : Identical value other)
    (h : dumpsCanonical py value = .ok bytes) : dumpsCanonical py other = .ok bytes := by
  obtain ⟨⟨hpasses, hnodes, hbytes⟩, hencoded⟩ := dumpsCanonical_eq_ok.1 h
  obtain ⟨hsame, hpasses'⟩ := inOrder_eq_of_identical value hpasses hwf hwf' hidentical
  rw [← nodes_inOrder, hsame, nodes_inOrder] at hnodes
  rw [← leavesSize_inOrder, hsame, leavesSize_inOrder] at hbytes
  rw [← encode_inOrder, hsame, encode_inOrder] at hencoded
  exact dumpsCanonical_eq_ok.2 ⟨⟨hpasses', hnodes, hbytes⟩, hencoded⟩

/-- The members of the document are inserted in the other order. -/
theorem dumpsCanonical_identical_zeros : ∃ bytes,
    dumpsCanonical zeros (dict zerosDocument) = .ok bytes ∧
      dumpsCanonical zeros (inOrder (dict zerosDocument)) = .ok bytes := by
  have h : ((dumpsCanonical zeros (dict zerosDocument)).toOption.any fun _ => true) = true := by
    decide +kernel
  obtain ⟨bytes, hbytes, -⟩ := exists_ok_of_any h
  exact ⟨bytes, hbytes, dumpsCanonical_identical zerosDocument_wellFormed
    (wellFormed_inOrder zerosDocument_wellFormed) (identical_inOrder zerosDocument_wellFormed)
    hbytes⟩

end RoboticsRuntime.Contracts
