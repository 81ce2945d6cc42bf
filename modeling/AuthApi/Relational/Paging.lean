import Mathlib.Data.List.Sort
import Mathlib.Data.List.Perm.Basic

/-! # Pages of a sorted list

A query sorted by a key that rows may share leaves the order of tied rows open, and every query
chooses it anew. The pages of such queries make up the rows exactly when no page boundary runs
through tied rows that a reader can tell apart.
-/

namespace Relational

variable {α β κ : Type*} [LinearOrder κ] {key : α → κ} {render : α → β} {rows first second : List α}

/-- The rows from the largest key to the smallest, tied rows in any order. -/
structure Descending (key : α → κ) (rows sorted : List α) : Prop where
  perm : sorted.Perm rows
  ordered : sorted.Pairwise fun larger smaller => key smaller ≤ key larger

/-- The rows whose key exceeds the bound. -/
def above (key : α → κ) (bound : κ) (rows : List α) : List α := rows.filter fun row => bound < key row

def tied (key : α → κ) (bound : κ) (rows : List α) : List α := rows.filter fun row => key row = bound

def below (key : α → κ) (bound : κ) (rows : List α) : List α := rows.filter fun row => key row < bound

theorem mem_above {bound : κ} {row : α} : row ∈ above key bound rows ↔ row ∈ rows ∧ bound < key row := by
  simp [above]

theorem mem_tied {bound : κ} {row : α} : row ∈ tied key bound rows ↔ row ∈ rows ∧ key row = bound := by
  simp [tied]

theorem mem_below {bound : κ} {row : α} : row ∈ below key bound rows ↔ row ∈ rows ∧ key row < bound := by
  simp [below]

/-- A sorted list has the larger keys first, then the tied rows, then the smaller keys. -/
theorem ordered_split (bound : κ) (ordered : first.Pairwise fun larger smaller => key smaller ≤ key larger) :
    above key bound first ++ (tied key bound first ++ below key bound first) = first := by
  induction first with
  | nil => rfl
  | cons row rest ih =>
    obtain ⟨largest, ordered⟩ := List.pairwise_cons.mp ordered
    have ih := ih ordered
    have none {bound' : κ} (reached : key row ≤ bound') : above key bound' rest = [] := by
      apply List.filter_eq_nil_iff.mpr
      intro other member
      simpa using (largest other member).trans reached
    rcases lt_trichotomy bound (key row) with larger | same | smaller
    · simp only [above, tied, below, List.filter_cons, larger, larger.ne', larger.not_gt, decide_true,
        decide_false, if_true, Bool.false_eq_true, if_false, List.cons_append]
      exact congrArg (row :: ·) ih
    · have alone := none same.ge
      rw [alone, List.nil_append] at ih
      simp only [above, tied, below, List.filter_cons, same, lt_self_iff_false, decide_true, decide_false,
        if_true, Bool.false_eq_true, if_false, List.cons_append] at alone ih ⊢
      rw [alone, List.nil_append, ih]
    · have alone := none smaller.le
      have untied : tied key bound rest = [] := by
        apply List.filter_eq_nil_iff.mpr
        intro other member
        simpa using ((largest other member).trans_lt smaller).ne
      rw [alone, untied, List.nil_append, List.nil_append] at ih
      simp only [above, tied, below, List.filter_cons, smaller.not_gt, smaller.ne, smaller, decide_true,
        decide_false, if_true, Bool.false_eq_true, if_false] at alone untied ih ⊢
      rw [alone, untied, ih]
      rfl

theorem Descending.split (sorted : Descending key rows first) (bound : κ) :
    above key bound first ++ (tied key bound first ++ below key bound first) = first :=
  ordered_split bound sorted.ordered

theorem Descending.above_perm (sorted : Descending key rows first) (bound : κ) :
    (above key bound first).Perm (above key bound rows) := sorted.perm.filter _

theorem Descending.tied_perm (sorted : Descending key rows first) (bound : κ) :
    (tied key bound first).Perm (tied key bound rows) := sorted.perm.filter _

/-- Two sorts of the rows show the same keys in the same order. -/
theorem Descending.keys_eq (left : Descending key rows first) (right : Descending key rows second) :
    first.map key = second.map key := by
  apply @List.Perm.eq_of_pairwise κ fun larger smaller => smaller ≤ larger
  · intro larger smaller _ _ down up
    exact le_antisymm up down
  · exact List.pairwise_map.mpr left.ordered
  · exact List.pairwise_map.mpr right.ordered
  · exact (left.perm.trans right.perm.symm).map key

/-- A boundary after the first `count` rows runs through the rows tied at the key. -/
def Straddles (key : α → κ) (rows : List α) (count : ℕ) (bound : κ) : Prop :=
  (above key bound rows).length < count ∧
    count < (above key bound rows).length + (tied key bound rows).length

/-- The tied rows that a boundary runs through all look the same. -/
def TiesAlike (key : α → κ) (render : α → β) (rows : List α) (count : ℕ) : Prop :=
  ∀ bound, Straddles key rows count bound →
    ∀ row ∈ tied key bound rows, ∀ other ∈ tied key bound rows, render row = render other

/-- Every boundary within the rows comes after the first row with some key and not after the last. -/
theorem Descending.reaches (sorted : Descending key rows first) {count : ℕ} (positive : 0 < count)
    (within : count ≤ rows.length) : ∃ bound, (above key bound rows).length < count ∧
      count ≤ (above key bound rows).length + (tied key bound rows).length := by
  have inside : count - 1 < first.length := by
    have same := sorted.perm.length_eq
    omega
  obtain ⟨row, found⟩ : ∃ row, first[count - 1]? = some row := ⟨_, List.getElem?_eq_getElem inside⟩
  refine ⟨key row, ?_⟩
  rw [← sorted.split (key row)] at found
  rw [← (sorted.above_perm (key row)).length_eq, ← (sorted.tied_perm (key row)).length_eq]
  constructor
  · by_contra early
    rw [List.getElem?_append_left (by omega)] at found
    exact lt_irrefl _ (mem_above.mp (List.mem_of_getElem? found)).2
  · by_contra late
    rw [List.getElem?_append_right (by omega), List.getElem?_append_right (by omega)] at found
    exact lt_irrefl _ (mem_below.mp (List.mem_of_getElem? found)).2

/-- Rows that look the same look the same in any order. -/
theorem map_eq_of_alike (same : first.Perm second)
    (alike : ∀ row ∈ first, ∀ other ∈ first, render row = render other) :
    first.map render = second.map render := by
  cases first with
  | nil => rw [same.nil_eq]
  | cons row rest =>
    have repeated : (row :: rest).map render = List.replicate (rest.length + 1) (render row) := by
      apply List.eq_replicate_iff.mpr
      constructor
      · simp
      · intro shown member
        obtain ⟨other, present, rfl⟩ := List.mem_map.mp member
        exact alike other present row List.mem_cons_self
    have permuted := (same.map render).symm
    rw [repeated] at permuted ⊢
    exact (List.perm_replicate.mp permuted).symm

/-- If a boundary separates no rows that look different, every sort puts the same rows before it. -/
theorem Descending.take_perm (left : Descending key rows first) (right : Descending key rows second)
    {count : ℕ} (alike : TiesAlike key render rows count) :
    ((first.take count).map render).Perm ((second.take count).map render) := by
  by_cases beyond : rows.length < count
  · rw [List.take_of_length_le (by rw [left.perm.length_eq]; omega),
      List.take_of_length_le (by rw [right.perm.length_eq]; omega)]
    exact (left.perm.trans right.perm.symm).map render
  by_cases positive : 0 < count
  · obtain ⟨bound, started, ended⟩ := left.reaches positive (by omega)
    -- Both prefixes are the rows above the key and a part of the tied rows.
    have parts {sorted : List α} (sorts : Descending key rows sorted) :
        sorted.take count = above key bound sorted ++
          (tied key bound sorted).take (count - (above key bound rows).length) := by
      have larger := (sorts.above_perm bound).length_eq
      have equal := (sorts.tied_perm bound).length_eq
      conv_lhs => rw [← sorts.split bound]
      rw [List.take_append, larger, List.take_of_length_le (by omega),
        List.take_append_of_le_length (by omega)]
    rw [parts left, parts right, List.map_append, List.map_append]
    apply List.Perm.append
    · exact ((left.above_perm bound).trans (right.above_perm bound).symm).map render
    · have same := (left.tied_perm bound).trans (right.tied_perm bound).symm
      have larger := (left.tied_perm bound).length_eq
      by_cases whole : count = (above key bound rows).length + (tied key bound rows).length
      · rw [List.take_of_length_le (by omega), List.take_of_length_le (by rw [← same.length_eq]; omega)]
        exact same.map render
      · have alike := alike bound ⟨started, by omega⟩
        rw [List.map_take, List.map_take, map_eq_of_alike same]
        intro row member other present
        exact alike row ((left.tied_perm bound).subset member) other ((left.tied_perm bound).subset present)
  · obtain rfl : count = 0 := by omega
    exact List.Perm.refl _

/-- A page, counted from zero. -/
def page (size index : ℕ) (sorted : List α) : List α := (sorted.drop (index * size)).take size

/-- The first pages one after another. -/
def concatenated (count : ℕ) (pages : ℕ → List α) : List α :=
  (List.range count).flatMap pages

/-- The number of pages that hold all rows. -/
def pageCount (size length : ℕ) : ℕ := (length + size - 1) / size

theorem le_pageCount_mul {size : ℕ} (positive : 0 < size) (length : ℕ) :
    length ≤ pageCount size length * size := by
  have exact := Nat.div_add_mod (length + size - 1) size
  have remainder := Nat.mod_lt (length + size - 1) positive
  rw [pageCount, Nat.mul_comm]
  omega

/-- The last page is needed. -/
theorem lt_pageCount {size index length : ℕ} (positive : 0 < size) :
    index < pageCount size length ↔ index * size < length := by
  rw [pageCount, Nat.lt_iff_add_one_le, Nat.le_div_iff_mul_le positive, Nat.add_mul]
  omega

theorem concatenated_succ (count : ℕ) (pages : ℕ → List α) :
    concatenated (count + 1) pages = concatenated count pages ++ pages count := by
  simp [concatenated, List.range_succ]

theorem take_append_page (size count : ℕ) (sorted : List α) :
    sorted.take (count * size) ++ page size count sorted = sorted.take ((count + 1) * size) := by
  rw [page, ← List.take_add, Nat.add_mul, Nat.one_mul]

/-- The pages of one list make up its beginning. -/
theorem concatenated_page (size count : ℕ) (sorted : List α) :
    concatenated count (fun index => page size index sorted) = sorted.take (count * size) := by
  induction count with
  | zero => simp [concatenated]
  | succ count ih => rw [concatenated_succ, ih, take_append_page]

theorem page_eq_nil {size index : ℕ} {sorted : List α} (positive : 0 < size)
    (later : pageCount size sorted.length ≤ index) : page size index sorted = [] := by
  have enough := le_pageCount_mul positive sorted.length
  have past : pageCount size sorted.length * size ≤ index * size := Nat.mul_le_mul_right size later
  rw [page, List.drop_of_length_le (by omega), List.take_nil]

section Sorts

variable {size : ℕ} {sorts : ℕ → List α}

/-- Whatever the ties, the pages show the keys in order. -/
theorem concatenated_keys (sorted : ∀ index, Descending key rows (sorts index)) (count : ℕ) :
    (concatenated count fun index => page size index (sorts index)).map key =
      ((sorts 0).take (count * size)).map key := by
  induction count with
  | zero => simp [concatenated]
  | succ count ih =>
    have keys : (page size count (sorts count)).map key =
        (page size count (sorts 0)).map key := by
      rw [page, page, List.map_take, List.map_drop, (sorted count).keys_eq (sorted 0),
        ← List.map_drop, ← List.map_take]
    rw [concatenated_succ, List.map_append, ih, keys, ← List.map_append, take_append_page]

/-- If no boundary separates rows that look different, the pages show the rows of one sort. -/
theorem concatenated_perm (sorted : ∀ index, Descending key rows (sorts index))
    (alike : ∀ index, TiesAlike key render rows (index * size)) (count : ℕ) :
    ((concatenated count fun index => page size index (sorts index)).map render).Perm
      (((sorts 0).take (count * size)).map render) := by
  induction count with
  | zero => simp [concatenated]
  | succ count ih =>
    rw [concatenated_succ, List.map_append]
    calc
      List.Perm _ (((sorts count).take (count * size)).map render ++
            (page size count (sorts count)).map render) :=
        (ih.trans ((sorted 0).take_perm (sorted count) (alike count))).append_right _
      _ = ((sorts count).take ((count + 1) * size)).map render := by
        rw [← List.map_append, take_append_page]
      List.Perm _ (((sorts 0).take ((count + 1) * size)).map render) :=
        (sorted count).take_perm (sorted 0) (alike (count + 1))

/-- The first pages of one list, and the later ones of another. -/
theorem concatenated_mixed (size : ℕ) {index count : ℕ} (reached : index ≤ count) :
    (concatenated count fun other => page size other (if other < index then first else second)) =
      first.take (index * size) ++ (second.drop (index * size)).take ((count - index) * size) := by
  induction count, reached using Nat.le_induction with
  | base =>
    rw [Nat.sub_self, Nat.zero_mul, List.take_zero, List.append_nil, ← concatenated_page]
    apply List.flatMap_congr
    intro earlier member
    exact congrArg (page size earlier) (if_pos (List.mem_range.mp member))
  | succ count reached ih =>
    have offset : index * size + (count - index) * size = count * size := by
      rw [← Nat.add_mul, Nat.add_sub_cancel' reached]
    rw [concatenated_succ, ih, if_neg (by omega), List.append_assoc, Nat.succ_sub reached,
      ← take_append_page, page, page, List.drop_drop, offset]

end Sorts

theorem descending_mergeSort (key : α → κ) (rows : List α) :
    Descending key rows (rows.mergeSort fun larger smaller => key smaller ≤ key larger) where
  perm := List.mergeSort_perm _ _
  ordered := by
    apply List.Pairwise.imp of_decide_eq_true
    apply List.pairwise_mergeSort
    · intro first second third down further
      exact decide_eq_true ((of_decide_eq_true further).trans (of_decide_eq_true down))
    · intro first second
      simpa using le_total (key second) (key first)

/-- The tied rows of a sort may come in any order. -/
theorem Descending.rearrange {bound : κ} {arranged : List α} (sorted : Descending key rows first)
    (ties : arranged.Perm (tied key bound rows)) :
    Descending key rows (above key bound first ++ (arranged ++ below key bound first)) := by
  have same {row : α} (member : row ∈ arranged) : key row = bound := (mem_tied.mp (ties.subset member)).2
  constructor
  · have swapped := (ties.trans (sorted.tied_perm bound).symm).append_right (below key bound first)
    have whole := swapped.append_left (above key bound first)
    rw [sorted.split] at whole
    exact whole.trans sorted.perm
  · apply List.pairwise_append.mpr
    refine ⟨sorted.ordered.filter _, List.pairwise_append.mpr ⟨?_, sorted.ordered.filter _, ?_⟩, ?_⟩
    · apply List.pairwise_of_forall_mem_list
      intro row member other present
      rw [same member, same present]
    · intro row member other present
      rw [same member]
      exact (mem_below.mp present).2.le
    · intro row member other present
      apply le_trans _ (mem_above.mp member).2.le
      rcases List.mem_append.mp present with present | present
      · exact (same present).le
      · exact (mem_below.mp present).2.le

/-- Beyond the larger keys a prefix holds the first of the arranged ties. -/
theorem Descending.take_rearranged {bound : κ} {arranged : List α} {count : ℕ}
    (sorted : Descending key rows first) (ties : arranged.Perm (tied key bound rows))
    (straddles : Straddles key rows count bound) :
    (above key bound first ++ (arranged ++ below key bound first)).take count =
      above key bound first ++ arranged.take (count - (above key bound rows).length) := by
  have larger := (sorted.above_perm bound).length_eq
  have equal := ties.length_eq
  obtain ⟨started, unfinished⟩ := straddles
  rw [List.take_append, larger, List.take_of_length_le (by omega), List.take_append_of_le_length (by omega)]

/-- If a boundary runs through tied rows, either of two of them may be alone before it. -/
theorem exists_rearranged {bound : κ} {count : ℕ} {row other : α} (straddles : Straddles key rows count bound)
    (member : row ∈ tied key bound rows) (present : other ∈ tied key bound rows) (distinct : other ≠ row) :
    ∃ first second shared before, Descending key rows first ∧ Descending key rows second ∧
      first.take count = shared ++ row :: before ∧ second.take count = shared ++ other :: before := by
  classical
  obtain ⟨rest, split⟩ : ∃ rest, (tied key bound rows).Perm (row :: other :: rest) :=
    ⟨_, (List.perm_cons_erase member).trans
      ((List.perm_cons_erase ((List.mem_erase_of_ne distinct).mpr present)).cons row)⟩
  obtain ⟨before, place⟩ : ∃ before, count - (above key bound rows).length = before + 1 :=
    Nat.exists_eq_add_one.mpr (Nat.sub_pos_of_lt straddles.1)
  have room : before ≤ rest.length := by
    have unfinished := straddles.2
    have length := split.length_eq
    simp only [List.length_cons] at length
    omega
  have sorted := descending_mergeSort key rows
  have arranged {head tail : α} (both : (row :: other :: rest).Perm (head :: tail :: rest)) :
      (head :: (rest.take before ++ tail :: rest.drop before)).Perm (tied key bound rows) := by
    apply List.Perm.trans _ (split.trans both).symm
    apply List.Perm.cons
    exact List.perm_middle.trans (by rw [List.take_append_drop])
  have shown {head tail : α} (both : (row :: other :: rest).Perm (head :: tail :: rest)) :=
    sorted.take_rearranged (arranged both) straddles
  have cut (head tail : α) : (head :: (rest.take before ++ tail :: rest.drop before)).take (before + 1) =
      head :: rest.take before := by
    rw [List.take_succ_cons, List.take_append_of_le_length (by simp [room]), List.take_take, Nat.min_self]
  have first := shown (List.Perm.refl _)
  have second := shown (List.Perm.swap other row rest)
  rw [place, cut] at first second
  exact ⟨_, _, _, _, sorted.rearrange (arranged (List.Perm.refl _)),
    sorted.rearrange (arranged (List.Perm.swap other row rest)), first, second⟩

/-- A boundary through tied rows has rows on both sides. -/
theorem Straddles.lt_length {bound : κ} {count : ℕ} (straddles : Straddles key rows count bound) :
    count < rows.length := by
  have sorted := descending_mergeSort key rows
  have split := congrArg List.length (sorted.split bound)
  have larger := (sorted.above_perm bound).length_eq
  have equal := (sorted.tied_perm bound).length_eq
  have unfinished := straddles.2
  rw [List.length_append, List.length_append, sorted.perm.length_eq] at split
  omega

section Complete

variable {size : ℕ} (positive : 0 < size)
  (complete : ∀ sorts : ℕ → List α, (∀ index, Descending key rows (sorts index)) →
    ((concatenated (pageCount size rows.length) fun index => page size index (sorts index)).map
      render).Perm (rows.map render))

include positive complete

/-- If every choice of sorts for the pages gives all rows, a boundary never tells two sorts apart. -/
theorem take_perm_of_complete {index : ℕ} (within : index * size < rows.length)
    (left : Descending key rows first) (right : Descending key rows second) :
    ((first.take (index * size)).map render).Perm ((second.take (index * size)).map render) := by
  have all := complete (fun other => if other < index then first else second)
    (fun other => by by_cases early : other < index <;> simp [early, left, right])
  have needed := (lt_pageCount positive).mpr within
  have enough := le_pageCount_mul positive rows.length
  have covered : (second.drop (index * size)).length ≤ (pageCount size rows.length - index) * size := by
    rw [List.length_drop, right.perm.length_eq, Nat.sub_mul]
    omega
  have whole := (right.perm.map render).symm
  rw [← List.take_append_drop (index * size) second, List.map_append] at whole
  rw [concatenated_mixed size needed.le, List.take_of_length_le covered, List.map_append] at all
  exact (List.perm_append_right_iff _).mp (all.trans whole)

/-- Then tied rows across a boundary look alike. -/
theorem tiesAlike_of_complete (index : ℕ) : TiesAlike key render rows (index * size) := by
  intro bound straddles row member other present
  by_cases distinct : other = row
  · rw [distinct]
  obtain ⟨first, second, shared, before, left, right, early, late⟩ :=
    exists_rearranged straddles member present distinct
  have same := take_perm_of_complete positive complete straddles.lt_length left right
  rw [early, late, List.map_append, List.map_append, List.map_cons, List.map_cons] at same
  have heads : ([render row] ++ before.map render).Perm ([render other] ++ before.map render) :=
    (List.perm_append_left_iff _).mp same
  exact List.singleton_perm_singleton.mp ((List.perm_append_right_iff _).mp heads)

end Complete

/-- The pages of independently sorted queries make up the rows exactly when no boundary separates
tied rows that look different. -/
theorem complete_iff {size : ℕ} (positive : 0 < size) :
    (∀ sorts : ℕ → List α, (∀ index, Descending key rows (sorts index)) →
      ((concatenated (pageCount size rows.length) fun index => page size index (sorts index)).map
        render).Perm (rows.map render)) ↔
    ∀ index, TiesAlike key render rows (index * size) := by
  constructor
  · exact tiesAlike_of_complete positive
  · intro alike sorts sorted
    have same := concatenated_perm sorted alike (pageCount size rows.length)
    rw [List.take_of_length_le] at same
    · exact same.trans ((sorted 0).perm.map render)
    · rw [(sorted 0).perm.length_eq]
      exact le_pageCount_mul positive rows.length

end Relational
