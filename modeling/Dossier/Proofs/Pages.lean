import Dossier.Service.Reading
import Dossier.Settings.Variables

/-!
# Pages

What page of a list a request gets. The page number and the size of a page are numbers of 32 bits,
and so is the offset, which stops at the greatest of them instead of going beyond; requests are
integers of any size, negative ones included.

**Sizes.** With settings that variables have gone through, a page holds at least one record and at
most the maximum (`ListRequest.pageSize_le`).

**Slices.** As long as there are not more records than numbers of 32 bits, the stopped offset makes
no difference (`ListRequest.slice_offset`), and each page goes on where the one before has ended
(`take_succ_pages`).
-/

namespace Dossier

/-! ## Sizes -/

theorem PageSettings.one_le_maxLimit (p : PageSettings) : 1 ≤ p.clamped.maxLimit :=
  Nat.le_max_right ..

/-- Variables leave page sizes in order, whatever they say. -/
theorem Settings.one_le_maxLimit (s : Settings) (given : Dict String String) :
    1 ≤ (s.override given).pages.maxLimit :=
  PageSettings.one_le_maxLimit _

namespace ListRequest

variable (r : ListRequest)

theorem one_le_pageNumber : 1 ≤ r.pageNumber := by
  unfold pageNumber
  cases r.page with
  | none => exact Nat.le_refl 1
  | some page =>
    dsimp only
    by_cases hpage : 1 ≤ page
    · rw [if_pos hpage]
      have hnat : 1 ≤ page.toNat := by omega
      exact Nat.le_min.2 ⟨hnat, by decide⟩
    · exact Nat.le_of_eq (if_neg hpage).symm

theorem pageNumber_of_lt {r : ListRequest} {n : Nat} (hr : r.page = some (n + 1 : Int))
    (hn : n + 1 < bound) :
    r.pageNumber = n + 1 := by
  have hpos : (1 : Int) ≤ n + 1 := by omega
  have hnat : ((n : Int) + 1).toNat = n + 1 := by omega
  have hle : n + 1 ≤ bound - 1 := by omega
  simp only [pageNumber, hr]
  rw [if_pos hpos, hnat, Nat.min_eq_left hle]

theorem one_le_pageSize (pages : PageSettings) : 1 ≤ r.pageSize pages := Nat.le_max_right ..

theorem pageSize_le {pages : PageSettings} (h : 1 ≤ pages.maxLimit) :
    r.pageSize pages ≤ pages.maxLimit :=
  Nat.max_le.2 ⟨Nat.min_le_right .., h⟩

/-! ## Slices -/

/-- The records of a list on a page, counted without bounds. -/
def slice {α : Type} (number limit : Nat) (rows : List α) : List α :=
  (rows.drop ((number - 1) * limit)).take limit

/-- **An offset that stops at its bound cuts off nothing** of a list that stays below it. -/
theorem slice_offset {α : Type} (pages : PageSettings) {rows : List α} (h : rows.length < bound) :
    (rows.drop (r.offset pages)).take (r.pageSize pages) =
      slice r.pageNumber (r.pageSize pages) rows := by
  unfold slice offset
  by_cases hstop : (r.pageNumber - 1) * r.pageSize pages ≤ bound - 1
  · rw [Nat.min_eq_left hstop]
  · have hpast : rows.length ≤ (r.pageNumber - 1) * r.pageSize pages := by omega
    have hend : rows.length ≤ bound - 1 := by omega
    rw [Nat.min_eq_right (by omega), List.drop_of_length_le hend, List.drop_of_length_le hpast]

end ListRequest

/-- One page more of the first part of a list. -/
theorem take_succ_pages {α : Type} (limit : Nat) (rows : List α) (n : Nat) :
    rows.take ((n + 1) * limit) =
      rows.take (n * limit) ++ ListRequest.slice (n + 1) limit rows := by
  rw [Nat.succ_mul, List.take_add]
  rfl

/-- **The number of pages is the least that has room for all records.** -/
theorem Page.count_le_iff {p : Page} (h : 1 ≤ p.limit) (n : Nat) :
    p.count ≤ n ↔ p.total ≤ n * p.limit := by
  unfold Page.count
  rw [Nat.div_le_iff_le_mul_add_pred h, Nat.mul_comm n p.limit]
  omega

end Dossier
