import Backoffice.Proofs.Repository.Growth
import Backoffice.Proofs.Repository.Sorting
import Mathlib.Algebra.Order.Floor.Div

namespace Backoffice

namespace ListOptions

def Matches (o : ListOptions) (record : Record) : Prop :=
  (Repository.needle o = "" ∨ Repository.matchesSearch (Repository.needle o) record = true) ∧
    ∀ f ∈ o.filters, f.1 ≠ Repository.searchKey → Repository.matchesFilter record f.1 f.2 = true

def order (o : ListOptions) : Record → Record → Ordering :=
  match o.sortBy with
  | none => fun _ _ => .eq
  | some field => if field = "" then fun _ _ => .eq else Repository.ordering field o.descending

def pageSize (o : ListOptions) (own : Nat) : Nat := if o.perPage = 0 then own else o.perPage

theorem window_eq (o : ListOptions) (own : Nat) :
    o.window own = ((max o.page 1 - 1) * o.pageSize own, o.pageSize own) := by
  simp [window, pageSize]

theorem offset_lt {o : ListOptions} {own : Nat} (hpage : o.page < 2 ^ 32)
    (hper : o.perPage < 2 ^ 32) (hown : own < 2 ^ 32) : (o.window own).1 < 2 ^ 64 := by
  have hsize : o.pageSize own < 2 ^ 32 := by
    unfold pageSize
    split <;> assumption
  rw [window_eq]
  calc (max o.page 1 - 1) * o.pageSize own
      < 2 ^ 32 * 2 ^ 32 := Nat.mul_lt_mul'' (by omega) hsize
    _ = 2 ^ 64 := by decide

end ListOptions

namespace Repository

/-- The records that match, each once, by id. -/
structure Selects (r : Repository) (o : ListOptions) (selected : List Record) : Prop where
  mem_iff : ∀ record,
    record ∈ selected ↔ (∃ id, r.records.get? id = some record) ∧ o.Matches record
  ascending : selected.Pairwise fun a b => ∃ i j, a.id? = some i ∧ b.id? = some j ∧ i < j

/-- What the pages of a listing show. -/
structure Paginates (r : Repository) (ctx : Context) (o : ListOptions) (listed : List Record)
    (page : Nat → List Record) : Prop where
  answers : ∀ n, r.list ctx { o with page := n } = .ok ⟨page n, listed.length⟩
  partition :
    (List.range' 1 (listed.length ⌈/⌉ o.pageSize r.defaultPerPage)).flatMap page = listed
  beyond : ∀ n, listed.length ⌈/⌉ o.pageSize r.defaultPerPage < n → page n = []
  first : page 0 = page 1

/-- All matching records hold values of one kind, if any, in the field that is sorted by. -/
def SortsOneKind (r : Repository) (o : ListOptions) : Prop :=
  ∀ field, o.sortBy = some field → ∃ kind, ∀ id record, r.records.get? id = some record →
    o.Matches record → ∀ v, record.field? field = some v → v.kind = kind

variable {r : Repository} {ctx : Context} {o : ListOptions} {field : String}

theorem mem_selected_iff {record : Record} :
    record ∈ r.selected o ↔ (∃ id, r.records.get? id = some record) ∧ o.Matches record := by
  rw [selected, List.mem_filter, Dict.mem_values_iff, ListOptions.Matches]
  simp [or_iff_not_imp_left]

theorem selects_selected (hr : Keyed r.records) : Selects r o (r.selected o) := by
  refine ⟨fun record => mem_selected_iff, List.Pairwise.filter _ ?_⟩
  refine List.pairwise_map.2 (r.records.sorted.imp_of_mem fun {a b} ha hb hlt => ?_)
  have hid : ∀ e ∈ r.records.entries, e.2.id? = some e.1 := fun e he =>
    hr e.1 e.2 ((Entries.get?_eq_some_iff r.records.sorted).2 he)
  exact ⟨a.1, b.1, hid a ha, hid b hb, hlt⟩

theorem Selects.nodup {selected : List Record} (h : Selects r o selected) :
    (selected.map Record.id?).Nodup := by
  refine List.pairwise_map.2 (h.ascending.imp ?_)
  rintro a b ⟨i, j, ha, hb, hlt⟩ heq
  rw [ha, hb] at heq
  cases heq
  exact String.lt_irrefl i hlt

theorem transitiveOn_of_oneKind {P : Record → Prop} (descending : Bool)
    (h : ∃ kind, ∀ record, P record → ∀ v, record.field? field = some v → v.kind = kind) :
    TransitiveOn (ordering field descending) P := by
  obtain ⟨kind, h⟩ := h
  refine transitiveOn_ordering_iff.2 (transitiveOn_of_apart fun a b c ha _ hc hcross hs => ?_)
  obtain ⟨m, -, hm, -, -⟩ := hcross
  obtain ⟨s, hs⟩ := hs
  have hnumber : "number" = kind := h a ha _ (field?_of_number? hm)
  have hstring : "string" = kind := h c hc _ hs
  exact absurd (hnumber.trans hstring.symm) (by decide)

theorem sorted_eq_selected (h : o.sortBy = none) : r.sorted o = r.selected o := by
  rw [sorted, h]

theorem sortedBy_sorted (h : SortsOneKind r o) : SortedBy o.order (r.selected o) (r.sorted o) := by
  unfold ListOptions.order sorted
  cases hsort : o.sortBy with
  | none => exact sortedBy_refl _
  | some field =>
    dsimp only
    by_cases hempty : field = ""
    · rw [if_pos hempty, if_pos (by simpa using hempty)]
      exact sortedBy_refl _
    · rw [if_neg hempty, if_neg (by simpa using hempty)]
      obtain ⟨kind, hkind⟩ := h field hsort
      have htrans : TransitiveOn (ordering field o.descending) (· ∈ r.selected o) := by
        refine transitiveOn_of_oneKind o.descending ⟨kind, fun record hrecord => ?_⟩
        obtain ⟨⟨id, hid⟩, hmatches⟩ := mem_selected_iff.1 hrecord
        exact hkind id record hid hmatches
      have hlt : (fun a b => if o.descending then compareField field a b == .gt
          else compareField field a b == .lt) =
          fun a b => ordering field o.descending a b == .lt := by
        funext a b
        unfold ordering
        cases o.descending <;> cases compareField field a b <;> rfl
      rw [hlt]
      exact sortedBy_sortRecords htrans

theorem list_of_active (hactive : ctx.cancelled = false) (o : ListOptions) :
    r.list ctx o = .ok ⟨((r.sorted o).drop ((max o.page 1 - 1) * o.pageSize r.defaultPerPage)).take
      (o.pageSize r.defaultPerPage), (r.sorted o).length⟩ := by
  rw [list, Context.ensureActive_eq_ok.2 hactive, ListOptions.window_eq]
  rfl

theorem flatMap_windows {α : Type} (records : List α) (size count : Nat) :
    (List.range' 1 count).flatMap (fun n => (records.drop ((max n 1 - 1) * size)).take size) =
      records.take (count * size) := by
  induction count with
  | zero => simp
  | succ count ih =>
    have hlast : max (1 + 1 * count) 1 - 1 = count := by omega
    rw [List.range'_concat, List.flatMap_append, ih, List.flatMap_singleton, hlast,
      Nat.succ_mul count size, List.take_add]

theorem paginates_sorted (hactive : ctx.cancelled = false) (hpositive : 0 < r.defaultPerPage) :
    ∃ page, Paginates r ctx o (r.sorted o) page := by
  have hsize : 0 < o.pageSize r.defaultPerPage := by
    unfold ListOptions.pageSize
    split <;> omega
  have hlist := fun n => list_of_active (r := r) hactive { o with page := n }
  have hcount := fun n => ceilDiv_le_iff_le_smul (b := (r.sorted o).length) (c := n) hsize
  refine ⟨fun n => ((r.sorted o).drop ((max n 1 - 1) * o.pageSize r.defaultPerPage)).take
    (o.pageSize r.defaultPerPage), hlist, ?_, fun n hn => ?_, rfl⟩
  · rw [flatMap_windows]
    refine List.take_of_length_le ?_
    rw [Nat.mul_comm]
    exact (hcount _).1 le_rfl
  · have hbeyond : (r.sorted o).length ≤ (max n 1 - 1) * o.pageSize r.defaultPerPage := by
      rw [Nat.mul_comm]
      exact (hcount _).1 (by omega)
    rw [List.drop_of_length_le hbeyond, List.take_nil]

/-- The pages of a listing, one after the other, are the matching records in the order asked for,
every one once. -/
theorem pages_partition (hr : r.Grown) (hactive : ctx.cancelled = false) (hkind : SortsOneKind r o) :
    (∃ selected listed page, Selects r o selected ∧ SortedBy o.order selected listed ∧
      (listed.map Record.id?).Nodup ∧ Paginates r ctx o listed page) ∧
    ∀ n < 2 ^ 32, o.perPage < 2 ^ 32 →
      (ListOptions.window { o with page := n } r.defaultPerPage).1 < 2 ^ 64 := by
  obtain ⟨hkeyed, hpositive, hbounded⟩ := hr.kept
  have hselects : Selects r o (r.selected o) := selects_selected hkeyed
  have hsorted : SortedBy o.order (r.selected o) (r.sorted o) := sortedBy_sorted hkind
  obtain ⟨page, hpages⟩ := paginates_sorted (o := o) hactive hpositive
  have honce : ((r.sorted o).map Record.id?).Nodup :=
    (hsorted.perm.map Record.id?).nodup_iff.2 hselects.nodup
  refine ⟨⟨_, _, page, hselects, hsorted, honce, hpages⟩, fun n hn hper => ?_⟩
  exact ListOptions.offset_lt hn hper hbounded

def scored (id : String) (score : Nat) : Record :=
  [("id", .str id), ("score", .num (.whole score))]

def scores : Repository :=
  ⟨"scores", .ofList [("a", scored "a" 10), ("b", scored "b" 9), ("c", scored "c" 10)], 2⟩

theorem grown_scores : scores.Grown := by
  have hnew : ((new "scores").withPageSize 2).Grown := .withPageSize (.new "scores") (by decide)
  have ha : Grown ⟨"scores", .ofList [("a", scored "a" 10)], 2⟩ :=
    @Grown.create _ _ .empty "" (scored "a" 10) _ hnew rfl
  have hc : Grown ⟨"scores", .ofList [("a", scored "a" 10), ("c", scored "c" 10)], 2⟩ :=
    @Grown.create _ _ .empty "" (scored "c" 10) _ ha rfl
  exact @Grown.create _ _ .empty "" (scored "b" 9) _ hc rfl

def highestFirst : ListOptions := { ListOptions.all with sortBy := some "score", descending := true }

theorem sortsOneKind_scores : scores.SortsOneKind highestFirst := by
  rintro field ⟨⟩
  refine ⟨"number", fun id record hrecord _ v hv => ?_⟩
  have hmem : record ∈ [scored "a" 10, scored "b" 9, scored "c" 10] :=
    (Dict.mem_values_iff scores.records record).2 ⟨id, hrecord⟩
  have hnumber : ∃ n, record.field? "score" = some (.num n) := by
    simp only [List.mem_cons, List.not_mem_nil, or_false] at hmem
    rcases hmem with rfl | rfl | rfl <;> exact ⟨_, rfl⟩
  obtain ⟨n, hn⟩ := hnumber
  rw [hn] at hv
  cases hv
  rfl

/-- Of the three scores the lowest comes last, on the second page. -/
theorem pages_partition_scores :
    scores.Grown ∧ Context.empty.cancelled = false ∧ scores.SortsOneKind highestFirst ∧
      (∃ selected listed page, Selects scores highestFirst selected ∧
        SortedBy highestFirst.order selected listed ∧ (listed.map Record.id?).Nodup ∧
        Paginates scores .empty highestFirst listed page) ∧
      (ListOptions.window { highestFirst with page := 2 ^ 32 - 1 } scores.defaultPerPage).1 <
        2 ^ 64 ∧
      scores.list .empty { highestFirst with page := 2 } = .ok ⟨[scored "b" 9], 3⟩ := by
  obtain ⟨hpages, hoffset⟩ := @pages_partition _ .empty _ grown_scores rfl sortsOneKind_scores
  exact ⟨grown_scores, rfl, sortsOneKind_scores, hpages,
    hoffset (2 ^ 32 - 1) (by decide) (by decide), rfl⟩

end Repository

end Backoffice
