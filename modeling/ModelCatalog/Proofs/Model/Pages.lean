import ModelCatalog.Model.Filter

namespace ModelCatalog

-- Pages that show the models of a listing: side by side from the first one to the last they are the listing, all but
-- the last are full, and there is nothing behind them. Page zero is the first one. An offset that stays at the largest
-- number wherever the product would pass it finds the same models.
structure Paged (records : List ModelRecord) (items : Nat → List ModelRecord) : Prop where
  together : (List.range' 1 (pageCount records.length)).flatMap items = records
  full : ∀ page, 1 ≤ page → page < pageCount records.length → (items page).length = 30
  last : 1 ≤ pageCount records.length →
    1 ≤ (items (pageCount records.length)).length ∧ (items (pageCount records.length)).length ≤ 30
  first : items 0 = items 1
  beyond : ∀ page, pageCount records.length < page → items page = []
  saturated : ∀ largest, records.length ≤ largest → ∀ page,
    items page = (records.drop (min ((page - 1) * 30) largest)).take 30

theorem pageCount_covers (total : Nat) : total ≤ pageCount total * pageSize := by
  unfold pageCount pageSize
  omega

theorem page_needed {total page : Nat} (counted : page < pageCount total) : page * pageSize < total := by
  unfold pageCount pageSize at counted
  unfold pageSize
  omega

namespace ModelFilter
variable (f : ModelFilter) (records : List ModelRecord)

def pageItems (page : Nat) : List ModelRecord := { f with page := some page }.paginate records

theorem pageItems_succ (page : Nat) :
    f.pageItems records (page + 1) = (records.drop (page * pageSize)).take pageSize := rfl

theorem pageItems_length (page : Nat) :
    (f.pageItems records (page + 1)).length = min pageSize (records.length - page * pageSize) := by
  rw [pageItems_succ,List.length_take,List.length_drop]

theorem first_pages (count : Nat) :
    (List.range' 1 count).flatMap (f.pageItems records) = records.take (count * pageSize) := by
  induction count with
  | zero => rfl
  | succ count ih =>
    have next : 1 + 1 * count = count + 1 := by omega
    rw [List.range'_concat,List.flatMap_append,ih,next,List.flatMap_singleton,pageItems_succ,Nat.succ_mul,List.take_add]

theorem pageItems_saturated {largest : Nat} (fits : records.length ≤ largest) (page : Nat) :
    f.pageItems records page = (records.drop (min ((page - 1) * pageSize) largest)).take pageSize := by
  change (records.drop ((page - 1) * pageSize)).take pageSize = _
  rcases Nat.le_total ((page - 1) * pageSize) largest with below | above
  · rw [Nat.min_eq_left below]
  · rw [Nat.min_eq_right above,List.drop_eq_nil_of_le (Nat.le_trans fits above),List.drop_eq_nil_of_le fits]

theorem paginate_paged : Paged records (f.pageItems records) where
  together := by rw [first_pages,List.take_of_length_le (pageCount_covers _)]
  full page counted more := by
    obtain ⟨before,rfl⟩ := Nat.exists_eq_add_of_le' counted
    have room := page_needed more
    rw [pageItems_length]
    unfold pageSize at room ⊢
    omega
  last counted := by
    obtain ⟨before,final⟩ := Nat.exists_eq_add_of_le' counted
    have needed : before * pageSize < records.length := page_needed (by omega)
    rw [final,pageItems_length]
    unfold pageSize at needed ⊢
    omega
  first := rfl
  beyond page behind := by
    obtain ⟨before,rfl⟩ := Nat.exists_eq_add_of_le' (Nat.one_le_of_lt behind)
    have covered := pageCount_covers records.length
    have enough : records.length ≤ before * pageSize :=
      Nat.le_trans covered (Nat.mul_le_mul_right _ (Nat.le_of_lt_succ behind))
    rw [pageItems_succ,List.drop_eq_nil_of_le enough,List.take_nil]
  saturated _ fits := f.pageItems_saturated records fits

end ModelFilter
end ModelCatalog
