import ModelCatalog.Model.Record
import ModelCatalog.Proofs.Text.LowerCase

namespace ModelCatalog
open Text Text.LowerCase

namespace ModelRecord
variable {r : ModelRecord} {query : String}

theorem matchesQuery_iff : r.matchesQuery query = true ↔
    ∃ field, (field = r.name ∨ field = r.id) ∧ (lowerCase query).toList <:+: (lowerCase field).toList := by
  rw [matchesQuery,Bool.or_eq_true,contains_iff,contains_iff]
  constructor
  · rintro (named | identified)
    · exact ⟨_,.inl rfl,named⟩
    · exact ⟨_,.inr rfl,identified⟩
  · rintro ⟨field,rfl | rfl,found⟩
    · exact .inl found
    · exact .inr found

-- A text that occurs in a name or an id as it is written is lowered in its place, which may be another way than alone:
-- a sigma at its end is then a final one, though the word goes on. It is found if each sigma ends a word in both places
-- or in neither, so always without a sigma, and where its final sigma has no like in name and id, it is not.
theorem literal_text_found (r : ModelRecord) {field query : String} (shown : field = r.name ∨ field = r.id)
    {front behind : List Char} (written : field.toList = front ++ query.toList ++ behind) :
    within front.reverse behind query.toList <:+: (lowerCase field).toList ∧
    (within front.reverse behind query.toList = (lowerCase query).toList ↔
      SameEnds front.reverse behind [] [] query.toList) ∧
    (SameEnds front.reverse behind [] [] query.toList → r.matchesQuery query = true) ∧
    (Enclosed query.toList → r.matchesQuery query = true) ∧
    (HasFinal [] query.toList → ¬ HasFinal [] r.name.toList → ¬ HasFinal [] r.id.toList →
      r.matchesQuery query = false) := by
  have inside : within front.reverse behind query.toList <:+: (lowerCase field).toList := by
    rw [lowerCase_toList,written,List.append_assoc,ofList_append,ofList_append,List.append_nil]
    exact ⟨_,_,List.append_assoc ..⟩
  have alike : within front.reverse behind query.toList = (lowerCase query).toList ↔
      SameEnds front.reverse behind [] [] query.toList := by
    rw [lowerCase_toList,← within_nil,within_eq_iff]
  have found (same : SameEnds front.reverse behind [] [] query.toList) : r.matchesQuery query = true := by
    rw [alike.mpr same] at inside
    exact matchesQuery_iff.mpr ⟨field,shown,inside⟩
  refine ⟨inside,alike,found,fun enclosed => found enclosed.sameEnds,?_⟩
  intro final unnamed unidentified
  rw [← Bool.not_eq_true,matchesQuery_iff]
  rintro ⟨other,place,occurs⟩
  rw [lowerCase_toList,lowerCase_toList] at occurs
  have there := final_mem_ofList.mp (occurs.subset (final_mem_ofList.mpr final))
  rcases place with rfl | rfl
  · exact unnamed there
  · exact unidentified there

def odyssey : ModelRecord where
  id := "epic"
  owner := "bob"
  baseModelId := none
  name := "ΟΔΥΣΣΕΙΑ"
  params := {}
  info := {}
  access := none
  isActive := true
  createdAt := ⟨51,by decide⟩
  updatedAt := ⟨52,by decide⟩

-- The middle of the name is found; its beginning, whose sigma ends the query and not the name's word, is not.
theorem inner_sigma_found : odyssey.matchesQuery "ΥΣΣΕ" = true ∧ odyssey.matchesQuery "ΟΔΥΣ" = false := by
  have middle := @literal_text_found odyssey "ΟΔΥΣΣΕΙΑ" "ΥΣΣΕ" (.inl rfl) ['Ο','Δ'] ['Ι','Α'] (by decide)
  have start := @literal_text_found odyssey "ΟΔΥΣΣΕΙΑ" "ΟΔΥΣ" (.inl rfl) [] ['Σ','Ε','Ι','Α'] (by decide)
  refine ⟨middle.2.2.1 (by decide +kernel),start.2.2.2.2 (by decide +kernel) (by decide +kernel) (by decide +kernel)⟩

end ModelRecord
end ModelCatalog
