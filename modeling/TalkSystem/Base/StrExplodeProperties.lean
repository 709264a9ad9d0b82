import TalkSystem.Base.StrExplode
import TalkSystem.Machine.Splitting

/-!
# What `CStrExplode` splits

The second loop cuts only behind a byte that belongs to an item, the first
counts every separator. They agree when no item is empty.
-/

set_option autoImplicit false

namespace TalkSystem.Base.CStrExplode

variable {seperator : UInt8}

/-! ## The cuts of the second loop -/

/-- The items the second loop cuts off, and what is left at the end. -/
def cuts (seperator : UInt8) (item : Bytes) : Bytes → List Bytes × Bytes
  | [] => ([], item)
  | byte :: str =>
      if item ≠ [] ∧ byte = seperator then
        (item :: (cuts seperator [] str).1, (cuts seperator [] str).2)
      else
        cuts seperator (item ++ [byte]) str

/-- What is left is an item if it has a length. -/
def lastItem (item : Bytes) : List Bytes := if itemLen item ≠ 0 then [item] else []

def items (seperator : UInt8) (item str : Bytes) : List Bytes :=
  (cuts seperator item str).1 ++ lastItem (cuts seperator item str).2

theorem lastItem_pos {item : Bytes} (more : itemLen item ≠ 0) : lastItem item = [item] :=
  if_pos more

theorem lastItem_zero {item : Bytes} (nothing : ¬ itemLen item ≠ 0) : lastItem item = [] :=
  if_neg nothing

@[simp] theorem items_nil (item : Bytes) : items seperator item [] = lastItem item := rfl

theorem cuts_at {item : Bytes} {byte : UInt8} (ends : item ≠ [] ∧ byte = seperator)
    (str : Bytes) :
    cuts seperator item (byte :: str) =
      (item :: (cuts seperator [] str).1, (cuts seperator [] str).2) := if_pos ends

theorem cuts_within {item : Bytes} {byte : UInt8} (goes_on : ¬ (item ≠ [] ∧ byte = seperator))
    (str : Bytes) :
    cuts seperator item (byte :: str) = cuts seperator (item ++ [byte]) str := if_neg goes_on

theorem items_at {item : Bytes} {byte : UInt8} (ends : item ≠ [] ∧ byte = seperator)
    (str : Bytes) :
    items seperator item (byte :: str) = item :: items seperator [] str := by
  simp only [items, cuts_at ends, List.cons_append]

theorem items_within {item : Bytes} {byte : UInt8} (goes_on : ¬ (item ≠ [] ∧ byte = seperator))
    (str : Bytes) :
    items seperator item (byte :: str) = items seperator (item ++ [byte]) str := by
  simp only [items, cuts_within goes_on]

/-- What a slot holds: a length of `2 ^ 32` and more is cut to a `uint32_t`. -/
def copied (item : Bytes) : Bytes := item.take (itemLen item)

/-- A list of slots of which the first have been assigned. -/
def assigned (done : List Bytes) (free : Nat) : ItemList :=
  done.map some ++ List.replicate free none

theorem assigned_length (done : List Bytes) (free : Nat) :
    (assigned done free).length = done.length + free := by
  simp [assigned]

theorem assign_assigned {done : List Bytes} {free : Nat} {item : Bytes}
    (room : itemLen item + 1 < 2 ^ 32) :
    assign (assigned done (free + 1)) done.length item =
      some (assigned (done ++ [copied item]) free) := by
  rw [assign, if_pos ⟨room, by rw [assigned_length]; omega⟩, assigned,
    List.set_append_right _ _ (by simp)]
  simp [assigned, copied, List.replicate_succ]

theorem assign_some {done : List Bytes} {free : Nat} {item : Bytes} {list : ItemList}
    (assigns : assign (assigned done free) done.length item = some list) :
    itemLen item + 1 < 2 ^ 32 ∧ ∃ left, free = left + 1 ∧
      list = assigned (done ++ [copied item]) left := by
  by_cases possible : itemLen item + 1 < 2 ^ 32 ∧ done.length < (assigned done free).length
  · obtain ⟨room, inside⟩ := possible
    rw [assigned_length] at inside
    obtain ⟨left, rfl⟩ := Nat.exists_eq_add_one.mpr (show 0 < free by omega)
    rw [assign_assigned room] at assigns
    exact ⟨room, left, rfl, (Option.some.inj assigns).symm⟩
  · rw [assign, if_neg possible] at assigns
    cases assigns

/-- What a run that ends has assigned. -/
theorem fill_some {done : List Bytes} {free : Nat} {item str : Bytes} {list : ItemList}
    (early : done.length < 2 ^ 31)
    (fills : fill seperator (assigned done free) done.length item str = some list) :
    (∀ cut ∈ items seperator item str, itemLen cut + 1 < 2 ^ 32) ∧
      done.length + (cuts seperator item str).1.length < 2 ^ 31 ∧
      ∃ left, list = assigned (done ++ (items seperator item str).map copied) left := by
  induction str generalizing done free item with
  | nil =>
      rw [fill] at fills
      by_cases more : itemLen item ≠ 0
      · rw [if_pos more] at fills
        obtain ⟨room, left, -, rfl⟩ := assign_some fills
        rw [items_nil, lastItem_pos more]
        exact ⟨by simpa using room, early, left, rfl⟩
      · rw [if_neg more] at fills
        obtain rfl := Option.some.inj fills
        rw [items_nil, lastItem_zero more]
        exact ⟨by simp, early, free, by simp⟩
  | cons byte str ih =>
      rw [fill] at fills
      by_cases ends : item ≠ [] ∧ byte = seperator
      · rw [if_pos ends] at fills
        obtain ⟨next, assigns, fills⟩ := Option.bind_eq_some_iff.mp fills
        obtain ⟨room, left, rfl, rfl⟩ := assign_some assigns
        by_cases fits : done.length + 1 < 2 ^ 31
        · rw [if_pos fits] at fills
          have size : (done ++ [copied item]).length = done.length + 1 := by simp
          rw [← size] at fits fills
          obtain ⟨rooms, small, left, rfl⟩ := ih fits fills
          rw [items_at ends, cuts_at ends]
          refine ⟨List.forall_mem_cons.mpr ⟨room, rooms⟩, ?_, left, by simp⟩
          rw [size] at small
          rw [List.length_cons]
          omega
        · rw [if_neg fits] at fills
          cases fills
      · rw [if_neg ends] at fills
        rw [items_within ends, cuts_within ends]
        exact ih early fills

/-- A run ends if every item has room and there are slots enough. -/
theorem fill_of_room {done : List Bytes} {free : Nat} {item str : Bytes}
    (rooms : ∀ cut ∈ items seperator item str, itemLen cut + 1 < 2 ^ 32)
    (small : done.length + (cuts seperator item str).1.length < 2 ^ 31) :
    fill seperator (assigned done (free + (items seperator item str).length)) done.length item
      str = some (assigned (done ++ (items seperator item str).map copied) free) := by
  induction str generalizing done item with
  | nil =>
      rw [fill]
      by_cases more : itemLen item ≠ 0
      · rw [items_nil, lastItem_pos more] at rooms ⊢
        rw [if_pos more]
        exact assign_assigned (rooms item List.mem_cons_self)
      · rw [items_nil, lastItem_zero more, if_neg more]
        simp
  | cons byte str ih =>
      rw [fill]
      by_cases ends : item ≠ [] ∧ byte = seperator
      · rw [items_at ends] at rooms ⊢
        rw [cuts_at ends, List.length_cons] at small
        have size : (done ++ [copied item]).length = done.length + 1 := by simp
        have rest := @ih (done ++ [copied item]) []
          (fun cut member => rooms cut (List.mem_cons_of_mem item member)) (by omega)
        rw [size] at rest
        rw [if_pos ends, List.length_cons, ← Nat.add_assoc,
          assign_assigned (rooms item List.mem_cons_self)]
        simp only [Option.bind_eq_bind, Option.bind_some]
        rw [if_pos (by omega), rest]
        simp
      · rw [items_within ends] at rooms ⊢
        rw [cuts_within ends] at small
        rw [if_neg ends]
        exact ih rooms small

/-! ## How much is cut off -/

theorem cuts_length (item str : Bytes) :
    item.length + str.length = (cuts seperator item str).1.flatten.length +
      (cuts seperator item str).1.length + (cuts seperator item str).2.length := by
  induction str generalizing item with
  | nil => simp [cuts]
  | cons byte str ih =>
      by_cases ends : item ≠ [] ∧ byte = seperator
      · have rest := ih []
        rw [cuts_at ends]
        simp only [List.length_cons, List.length_nil, List.flatten_cons,
          List.length_append] at rest ⊢
        omega
      · have rest := ih (item ++ [byte])
        rw [cuts_within ends]
        simp only [List.length_append, List.length_cons, List.length_nil] at rest ⊢
        omega

theorem cuts_ne_nil {item str cut : Bytes} (member : cut ∈ (cuts seperator item str).1) :
    cut ≠ [] := by
  induction str generalizing item with
  | nil => simp [cuts] at member
  | cons byte str ih =>
      by_cases ends : item ≠ [] ∧ byte = seperator
      · rw [cuts_at ends] at member
        rcases List.mem_cons.mp member with rfl | later
        · exact ends.1
        · exact ih later
      · rw [cuts_within ends] at member
        exact ih member

theorem itemLen_le (item : Bytes) : itemLen item ≤ item.length := Nat.mod_le _ _

theorem copied_length (item : Bytes) : (copied item).length = itemLen item := by
  rw [copied, List.length_take]
  exact Nat.min_eq_left (itemLen_le item)

theorem copied_eq {item : Bytes} (whole : itemLen item = item.length) : copied item = item := by
  rw [copied, whole, List.take_length]

theorem flatten_copied_le (items : List Bytes) :
    (items.map copied).flatten.length ≤ items.flatten.length := by
  induction items with
  | nil => exact Nat.le_refl _
  | cons item items ih =>
      have part := itemLen_le item
      simp only [List.map_cons, List.flatten_cons, List.length_append, copied_length]
      omega

/-- No bytes are missing in all only if none are missing in any item. -/
theorem whole_of_flatten {items : List Bytes}
    (whole : items.flatten.length ≤ (items.map copied).flatten.length) :
    ∀ item ∈ items, itemLen item = item.length := by
  induction items with
  | nil => simp
  | cons item items ih =>
      have part := itemLen_le item
      have parts := flatten_copied_le items
      simp only [List.map_cons, List.flatten_cons, List.length_append, copied_length] at whole
      refine List.forall_mem_cons.mpr ⟨by omega, ih (by omega)⟩

/-! ## Splitting -/

/-- Every slot has been assigned, and the items are the string cut at its
separators. -/
def Splits (str : Bytes) (seperator : UInt8) : Prop :=
  ∃ items : List Bytes, new str seperator = some (items.map some) ∧
    (∀ item ∈ items, seperator ∉ item) ∧ [seperator].intercalate items = str

/-- No leading, trailing or doubled separator, and sizes that a `uint32_t` and
an `int` can hold. -/
structure Splittable (str : Bytes) (seperator : UInt8) : Prop where
  nonempty : ∀ item ∈ str.splitOn seperator, item ≠ []
  sizes : ∀ item ∈ str.splitOn seperator, item.length + 1 < 2 ^ 32
  count : (str.splitOn seperator).length ≤ 2 ^ 31

theorem new_nil : new [] seperator = some [none] := rfl

theorem splits_iff {str : Bytes} :
    Splits str seperator ↔ new str seperator = some ((str.splitOn seperator).map some) := by
  constructor
  · rintro ⟨items, built, free, rfl⟩
    have more : items ≠ [] := by
      rintro rfl
      cases built.symm.trans new_nil
    rw [List.splitOn_intercalate seperator free more]
    exact built
  · intro built
    exact ⟨_, built, fun item member => Splitting.separator_not_mem member,
      List.intercalate_splitOn seperator⟩

theorem assigned_eq {words done : List Bytes} {free : Nat}
    (same : assigned done free = words.map some) : words = done ∧ free = 0 := by
  have no_free : free = 0 := by
    by_contra some_free
    have member : none ∈ assigned done free := by
      simp [assigned, some_free]
    rw [same] at member
    simp at member
  subst no_free
  rw [assigned, List.replicate_zero, List.append_nil] at same
  exact ⟨(List.map_injective_iff.mpr (fun _ _ => Option.some.inj) same).symm, rfl⟩

theorem map_copied {items : List Bytes} (whole : ∀ item ∈ items, itemLen item = item.length) :
    items.map copied = items := by
  have same : items.map copied = items.map id :=
    List.map_congr_left fun item member => copied_eq (whole item member)
  rw [same, List.map_id]

/-- If the slots hold all bytes, what is left at the end is an item and no item
has been cut short. -/
theorem items_eq_of_joined {str : Bytes} (more : (items seperator [] str).map copied ≠ [])
    (joined : [seperator].intercalate ((items seperator [] str).map copied) = str) :
    (∀ item ∈ items seperator [] str, item ≠ [] ∧ itemLen item = item.length) ∧
      (items seperator [] str).length = (cuts seperator [] str).1.length + 1 := by
  have total : ([seperator].intercalate ((items seperator [] str).map copied)).length + 1 = _ :=
    Splitting.length_intercalate more
  have cut : ([] : Bytes).length + str.length =
      (cuts seperator [] str).1.flatten.length + _ + (cuts seperator [] str).2.length :=
    cuts_length [] str
  rw [joined, List.length_map] at total
  rw [List.length_nil] at cut
  by_cases last_more : itemLen (cuts seperator [] str).2 ≠ 0
  · have shape : items seperator [] str =
        (cuts seperator [] str).1 ++ [(cuts seperator [] str).2] := by
      rw [items, lastItem_pos last_more]
    have sizes : (items seperator [] str).flatten.length =
        (cuts seperator [] str).1.flatten.length + (cuts seperator [] str).2.length := by
      simp [shape]
    have count : (items seperator [] str).length = (cuts seperator [] str).1.length + 1 := by
      simp [shape]
    have whole : ∀ item ∈ items seperator [] str, itemLen item = item.length :=
      whole_of_flatten (by omega)
    refine ⟨fun item member => ⟨?_, whole item member⟩, count⟩
    rw [shape] at member
    rcases List.mem_append.mp member with earlier | last
    · exact cuts_ne_nil earlier
    · rw [List.mem_singleton] at last
      rintro rfl
      rw [← last] at last_more
      exact last_more rfl
  · have shape : items seperator [] str = (cuts seperator [] str).1 := by
      rw [items, lastItem_zero last_more, List.append_nil]
    have part := flatten_copied_le (items seperator [] str)
    rw [shape] at part total
    omega

theorem Splits.splittable {str : Bytes} (splits : Splits str seperator) :
    Splittable str seperator := by
  have built := splits_iff.mp splits
  have joined : [seperator].intercalate (str.splitOn seperator) = str :=
    List.intercalate_splitOn seperator
  have more := List.splitOn_ne_nil seperator str
  have start : fill seperator (assigned [] (itemCnt seperator str)) ([] : List Bytes).length []
      str = some ((str.splitOn seperator).map some) := built
  obtain ⟨rooms, small, left, slots⟩ := fill_some (by decide) start
  obtain ⟨words, -⟩ := assigned_eq slots.symm
  rw [List.nil_append] at words
  rw [words] at joined more
  obtain ⟨whole, count⟩ := items_eq_of_joined more joined
  have same : str.splitOn seperator = items seperator [] str :=
    words.trans (map_copied fun item member => (whole item member).2)
  refine ⟨?_, ?_, ?_⟩
  · rw [same]
    exact fun item member => (whole item member).1
  · rw [same]
    intro item member
    rw [← (whole item member).2]
    exact rooms item member
  · rw [same, count]
    rw [List.length_nil] at small
    omega

/-! ## Strings without empty items -/

theorem itemCnt_eq (str : Bytes) : itemCnt seperator str = (1 + str.count seperator) % 2 ^ 32 := by
  have counts (cnt : Nat) (small : cnt < 2 ^ 32) :
      str.foldl (fun cnt byte => if byte = seperator then (cnt + 1) % 2 ^ 32 else cnt) cnt =
        (cnt + str.count seperator) % 2 ^ 32 := by
    induction str generalizing cnt with
    | nil => exact (Nat.mod_eq_of_lt small).symm
    | cons byte str ih =>
        rw [List.foldl_cons, List.count_cons]
        by_cases cut : byte = seperator
        · rw [if_pos cut, ih _ (Nat.mod_lt _ (by decide))]
          simp only [cut, beq_self_eq_true, if_true]
          omega
        · rw [if_neg cut, ih cnt small, if_neg (by simpa using cut), Nat.add_zero]
  exact counts 1 (by decide)

theorem cuts_free {part : Bytes} (free : seperator ∉ part) (item str : Bytes) :
    cuts seperator item (part ++ str) = cuts seperator (item ++ part) str := by
  induction part generalizing item with
  | nil => simp
  | cons byte part ih =>
      obtain ⟨different, free⟩ := List.ne_and_not_mem_of_not_mem_cons free
      rw [List.cons_append, cuts_within fun ends => different ends.2.symm, ih free]
      simp

/-- The second loop finds every item of a string that has no empty ones. -/
theorem cuts_intercalate {words : List Bytes} (more : words ≠ [])
    (nonempty : ∀ word ∈ words, word ≠ []) (free : ∀ word ∈ words, seperator ∉ word) :
    cuts seperator [] ([seperator].intercalate words) =
      (words.dropLast, words.getLast more) := by
  induction words with
  | nil => exact (more rfl).elim
  | cons first words ih =>
      have first_free := free first List.mem_cons_self
      cases words with
      | nil =>
          have alone := cuts_free first_free [] []
          rw [List.append_nil, List.nil_append] at alone
          rw [List.intercalate_singleton, alone]
          rfl
      | cons second words =>
          have rest := ih (by simp)
            (fun word member => nonempty word (List.mem_cons_of_mem first member))
            (fun word member => free word (List.mem_cons_of_mem first member))
          have ends : [] ++ first ≠ [] ∧ seperator = seperator := ⟨nonempty first (by simp), rfl⟩
          rw [List.intercalate_cons_cons, List.append_assoc, List.singleton_append,
            cuts_free first_free, cuts_at ends, rest]
          rfl

theorem Splittable.splits {str : Bytes} (splittable : Splittable str seperator) :
    Splits str seperator := by
  have free : ∀ item ∈ str.splitOn seperator, seperator ∉ item :=
    fun item member => Splitting.separator_not_mem member
  have joined : [seperator].intercalate (str.splitOn seperator) = str :=
    List.intercalate_splitOn seperator
  have more := List.splitOn_ne_nil seperator str
  have found := cuts_intercalate more splittable.nonempty free
  rw [joined] at found
  have whole : ∀ item ∈ str.splitOn seperator, itemLen item = item.length := by
    intro item member
    have size := splittable.sizes item member
    exact Nat.mod_eq_of_lt (by omega)
  have last := List.getLast_mem more
  have last_more : itemLen ((str.splitOn seperator).getLast more) ≠ 0 := by
    rw [whole _ last]
    exact fun none_left => splittable.nonempty _ last (List.length_eq_zero_iff.mp none_left)
  have all : items seperator [] str = str.splitOn seperator := by
    rw [items, found, lastItem_pos last_more, List.dropLast_append_getLast]
  have count := Splitting.count_intercalate more free
  rw [joined] at count
  have slots : itemCnt seperator str = 0 + (items seperator [] str).length := by
    have small := splittable.count
    rw [itemCnt_eq, all, Nat.mod_eq_of_lt (by omega)]
    omega
  have room : ∀ cut ∈ items seperator [] str, itemLen cut + 1 < 2 ^ 32 := by
    rw [all]
    intro item member
    rw [whole item member]
    exact splittable.sizes item member
  have small : ([] : List Bytes).length + (cuts seperator [] str).1.length < 2 ^ 31 := by
    have bound := splittable.count
    have pieces := List.length_pos_iff.mpr more
    rw [found, List.length_dropLast, List.length_nil]
    omega
  have fills : fill seperator (assigned [] (0 + (items seperator [] str).length)) 0 [] str = _ :=
    fill_of_room room small
  rw [← slots, all, map_copied whole] at fills
  rw [splits_iff, new]
  simpa [assigned] using fills

theorem explode_splits_iff (str : Bytes) (seperator : UInt8) :
    Splits str seperator ↔ Splittable str seperator :=
  ⟨Splits.splittable, Splittable.splits⟩

/-- The instance list `"a,"`: there are two slots, and nothing is assigned to
the second. -/
theorem explode_splits_trailing :
    ¬ ∀ (str : Bytes) (seperator : UInt8), seperator ≠ 0 → 0 ∉ str → Splits str seperator := by
  intro holds
  have built := splits_iff.mp (holds (ascii "a,") 44 (by decide) (by decide))
  have slots : new (ascii "a,") 44 = some [some (ascii "a"), none] := by decide
  rw [slots] at built
  revert built
  decide

end TalkSystem.Base.CStrExplode
