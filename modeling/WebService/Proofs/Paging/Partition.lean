import Mathlib.Algebra.Order.Floor.Div
import WebService.Proofs.Paging

/-!
Pages divide a list: one after the other they give all of its items, each once and in order. What a
page shows is found by exact arithmetic, however large its number is.
-/
namespace WebService.Paging

variable {α : Type} {items : List α} {page size length k n : Nat}

/-! The count of pages -/

/-- The pages of a given size that so many items fill. -/
def PageCount.of (length size : Nat) : PageCount := ⟨length / size, length % size⟩

namespace PageCount

theorem fullPages_mul_add :
    (of length size).fullPages * size + (of length size).remainder = length :=
  Nat.div_add_mod' length size

theorem pages_eq_ceilDiv (hpos : 0 < size) : (of length size).pages = length ⌈/⌉ size := by
  have hsum : length / size * size + length % size = length := Nat.div_add_mod' length size
  have hlt : length % size < size := Nat.mod_lt length hpos
  have hsucc : (length / size + 1) * size = length / size * size + size := Nat.succ_mul _ _
  have hsucc' : (length / size + 1 + 1) * size = (length / size + 1) * size + size :=
    Nat.succ_mul _ _
  rw [Nat.ceilDiv_eq_add_pred_div]
  by_cases hrest : 0 < length % size
  · have hpages : (of length size).pages = length / size + 1 := if_pos hrest
    rw [hpages, eq_comm]
    apply Nat.div_eq_of_lt_le
    · omega
    · omega
  · have hpages : (of length size).pages = length / size := if_neg hrest
    rw [hpages, eq_comm]
    apply Nat.div_eq_of_lt_le
    · omega
    · omega

theorem length_le_pages_mul (hpos : 0 < size) : length ≤ (of length size).pages * size := by
  rw [pages_eq_ceilDiv hpos, Nat.mul_comm]
  exact (ceilDiv_le_iff_le_smul hpos).mp le_rfl

/-- There are no more pages than items, as no page is empty. -/
theorem pages_le_length (hpos : 0 < size) : (of length size).pages ≤ length := by
  rw [pages_eq_ceilDiv hpos, ceilDiv_le_iff_le_smul hpos, smul_eq_mul]
  exact Nat.le_mul_of_pos_left length hpos

end PageCount

/-! The items of a page -/

theorem getElem?_part (h : items.length ≤ Number.maxUInt64) (i : Nat) :
    (part page size items)[i]? = if i < size then items[page * size + i]? else none := by
  rw [part_of_length_le h, List.getElem?_take, List.getElem?_drop]

theorem length_part (h : items.length ≤ Number.maxUInt64) :
    (part page size items).length = min size (items.length - page * size) := by
  rw [part_of_length_le h, List.length_take, List.length_drop]

theorem part_of_pages_le (h : items.length ≤ Number.maxUInt64) (hpos : 0 < size)
    (hpage : (PageCount.of items.length size).pages ≤ page) : part page size items = [] := by
  have hmul := Nat.mul_le_mul_right size hpage
  have hall : items.length ≤ (PageCount.of items.length size).pages * size :=
    PageCount.length_le_pages_mul hpos
  rw [← List.length_eq_zero_iff, length_part h]
  omega

/-- Only the page behind the full ones is shorter than the others. -/
theorem length_part_of_lt (h : items.length ≤ Number.maxUInt64) (hpos : 0 < size)
    (hpage : page < (PageCount.of items.length size).pages) :
    (part page size items).length =
      if page < (PageCount.of items.length size).fullPages then size
      else (PageCount.of items.length size).remainder := by
  have hsum : (PageCount.of items.length size).fullPages * size +
      (PageCount.of items.length size).remainder = items.length := PageCount.fullPages_mul_add
  have hlt : (PageCount.of items.length size).remainder < size := Nat.mod_lt _ hpos
  rw [length_part h]
  unfold PageCount.pages at hpage
  split
  · rename_i hfull
    have hmul := Nat.mul_le_mul_right size hfull
    rw [Nat.succ_mul] at hmul
    omega
  · rename_i hrest
    have hlast : page = (PageCount.of items.length size).fullPages := by
      split at hpage <;> omega
    rw [hlast]
    omega

theorem flatten_parts (h : items.length ≤ Number.maxUInt64) :
    ((List.range n).map fun k => part k size items).flatten = items.take (n * size) := by
  induction n with
  | zero => simp
  | succ n ih =>
    rw [List.range_succ, List.map_append, List.flatten_append, ih, Nat.succ_mul, List.take_add,
      List.map_singleton, List.flatten_singleton, part_of_length_le h]

theorem getElem?_map_range_eq_some_iff {β : Type} {f : Nat → β} {b : β} :
    ((List.range n).map f)[k]? = some b ↔ k < n ∧ b = f k := by
  rw [List.getElem?_map]
  by_cases hk : k < n
  · simp [hk, eq_comm]
  · simp [hk]

namespace Browser

/-- The items of a list can be counted in a word. Its pages are counted without a page being lost or
too much, the items are divided among them in order, and the page of any number holds the items that
exact arithmetic gives it, of which there are none behind the last page. -/
theorem pages_partition (b : Browser) (request : Request) (items : List α) (size : Nat)
    (hlength : items.length ≤ Number.maxUInt64) (hsize : b.size request = .ok size) :
    ∃ count, b.pages request items = .ok count ∧ 0 < size ∧
      count.fullPages * size + count.remainder = items.length ∧ count.remainder < size ∧
      count.pages = items.length ⌈/⌉ size ∧ count.pages ≤ Number.maxUInt64 ∧
      (∀ asking : Nat → Request,
        (∀ k < count.pages, b.size (asking k) = .ok size ∧ b.page (asking k) = .ok k) →
        ∃ parts : List (List α), parts.length = count.pages ∧ parts.flatten = items ∧
          ∀ k part, parts[k]? = some part → b.browse (asking k) items = .ok part ∧
            part.length = if k < count.fullPages then size else count.remainder) ∧
      ∀ page, b.page request = .ok page → skipped page size ≤ Number.maxUInt64 ∧
        ∃ shown, b.browse request items = .ok shown ∧
          (∀ i, shown[i]? = if i < size then items[page * size + i]? else none) ∧
          (count.pages ≤ page → shown = []) := by
  obtain ⟨-, hpos⟩ := size_eq_ok_iff.mp hsize
  refine ⟨.of items.length size, pages_of_ok hsize, hpos, PageCount.fullPages_mul_add,
    Nat.mod_lt _ hpos, PageCount.pages_eq_ceilDiv hpos,
    Nat.le_trans (PageCount.pages_le_length hpos) hlength, ?_, ?_⟩
  · intro asking hasking
    refine ⟨(List.range (PageCount.of items.length size).pages).map fun k => part k size items,
      ?_, ?_, ?_⟩
    · rw [List.length_map, List.length_range]
    · rw [flatten_parts hlength, List.take_of_length_le (PageCount.length_le_pages_mul hpos)]
    · intro k shown hshown
      obtain ⟨hk, rfl⟩ := getElem?_map_range_eq_some_iff.mp hshown
      obtain ⟨hsize, hpage⟩ := hasking k hk
      exact ⟨browse_of_ok hsize hpage, length_part_of_lt hlength hpos hk⟩
  · intro page hpage
    exact ⟨Nat.min_le_right _ _, part page size items, browse_of_ok hsize hpage,
      getElem?_part hlength, part_of_pages_le hlength hpos⟩

/-- Ten items in pages of three; the last page that a number can name shows nothing. -/
theorem pages_partition_of_ten :
    let b : Browser := {}
    let asking (page : Nat) : Request := Request.new .get ("/?size=3&page=" ++ toString page)
    b.size (asking 0) = .ok 3 ∧ b.pages (asking 0) (List.range 10) = .ok ⟨3, 1⟩ ∧
      (∃ parts : List (List Nat), parts.length = 4 ∧ parts.flatten = List.range 10) ∧
      b.page (asking 18446744073709551615) = .ok 18446744073709551615 ∧
      b.browse (asking 18446744073709551615) (List.range 10) = .ok [] := by
  intro b asking
  have hasking : ∀ k < 4, b.size (asking k) = .ok 3 ∧ b.page (asking k) = .ok k := by decide
  have hcount : ∀ page, b.size (asking page) = .ok 3 →
      b.pages (asking page) (List.range 10) = .ok ⟨3, 1⟩ := fun _ => pages_of_ok
  have hsize : b.size (asking 18446744073709551615) = .ok 3 := by rfl
  have hpage : b.page (asking 18446744073709551615) = .ok 18446744073709551615 := by rfl
  obtain ⟨count, hfirst, -, -, -, -, -, hparts, -⟩ :=
    pages_partition b (asking 0) (List.range 10) 3 (by decide) (hasking 0 (by decide)).1
  obtain ⟨count', hlast, -, -, -, -, -, -, hshown⟩ :=
    pages_partition b (asking 18446744073709551615) (List.range 10) 3 (by decide) hsize
  cases (hcount 0 (hasking 0 (by decide)).1).symm.trans hfirst
  cases (hcount _ hsize).symm.trans hlast
  obtain ⟨parts, hlength, hflatten, -⟩ := hparts asking hasking
  obtain ⟨-, shown, hbrowse, -, hnothing⟩ := hshown _ hpage
  rw [hnothing (by decide)] at hbrowse
  exact ⟨(hasking 0 (by decide)).1, hfirst, ⟨parts, hlength, hflatten⟩, hpage, hbrowse⟩

end Browser

end WebService.Paging
