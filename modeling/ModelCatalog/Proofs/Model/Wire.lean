import ModelCatalog.Model.Filter
import ModelCatalog.Proofs.Model.Codec

namespace ModelCatalog.Json.Codec
open Ordered

def toValue (c : Codec α) (a : α) : Value := .ofTree (c.write a)

def ofValue (c : Codec α) (v : Value) : Except Fault α := c.readTree v.tree

-- The values that are read from some JSON are the valid ones, and each comes back from the JSON value that it is written
-- as.
structure Returns (c : Codec α) (valid : α → Prop) : Prop where
  reads_iff : ∀ a, c.Reads a ↔ valid a
  back : ∀ a, c.Reads a → c.ofValue (c.toValue a) = .ok a

theorem Faithful.returns {c : Codec α} (faithful : c.Faithful valid floor) : c.Returns valid where
  reads_iff _ := ⟨faithful.valid_reads,faithful.reads_valid⟩
  back a reads := faithful.read_value a (faithful.valid_reads reads)

theorem option_providerKind : providerKind.option.Faithful (fun _ => True) 0 :=
  plain_option providerKind_faithful fun _ _ => Tree.noConfusion

theorem option_authType : authType.option.Faithful (fun _ => True) 0 :=
  plain_option authType_faithful fun _ _ => Tree.noConfusion

theorem option_texts : (list text).option.Faithful (fun _ => True) 1 :=
  plain_option (plain_list text_faithful) fun _ _ => Tree.noConfusion

theorem option_headers : (map text).option.Faithful (fun _ => True) 1 :=
  plain_option (plain_map text_faithful) fun _ _ => Tree.noConfusion

theorem option_extensions : extensions.option.Faithful (fun _ => True) 1 :=
  plain_option extensions_faithful fun _ _ => Tree.noConfusion

theorem connectionForm_faithful : connectionForm.Faithful (fun _ => True) 2 :=
  Layout.Composed.faithful
    (.defaulted text_faithful trivial <| .defaulted option_providerKind trivial <| .defaulted text_faithful trivial <|
      .defaulted text_faithful trivial <| .defaulted bool_faithful trivial <| .defaulted option_text trivial <|
      .defaulted option_text trivial <| .defaulted (plain_list text_faithful) trivial <|
      .defaulted (plain_list text_faithful) trivial <| .defaulted (plain_map text_faithful) trivial <|
      .defaulted authType_faithful trivial <| .defaulted option_text trivial <| .defaulted bool_faithful trivial <|
      .defaulted extensions_faithful trivial .done)
    (by decide) (fun _ => rfl) (fun _ => rfl) (by simp) (by decide)

theorem connectionPatch_faithful : connectionPatch.Faithful (fun _ => True) 2 :=
  Layout.Composed.faithful
    (.optional option_text trivial <| .optional option_providerKind trivial <| .optional option_text trivial <|
      .optional option_text trivial <| .optional option_bool trivial <| .optional option_text trivial <|
      .optional option_text trivial <| .optional option_texts trivial <| .optional option_texts trivial <|
      .optional option_headers trivial <| .optional option_authType trivial <| .optional option_text trivial <|
      .optional option_bool trivial <| .optional option_extensions trivial .done)
    (by decide) (fun _ => rfl) (fun _ => rfl) (by simp) (by decide)

theorem view_faithful : view.Faithful (fun _ => True) 0 :=
  enumeration_faithful _ _ fun view => by cases view <;> decide

theorem orderBy_faithful : orderBy.Faithful (fun _ => True) 0 :=
  enumeration_faithful _ _ fun order => by cases order <;> decide

theorem direction_faithful : direction.Faithful (fun _ => True) 0 :=
  enumeration_faithful _ _ fun direction => by cases direction <;> decide

def maxSize : Nat := 18446744073709551615

theorem size_faithful : size.Faithful (· ≤ maxSize) 0 := natural_faithful _ _ (by decide)

theorem modelFilter_faithful : modelFilter.Faithful (fun f => ∀ page, f.page = some page → page ≤ maxSize) 2 :=
  Layout.Composed.faithful
    (.defaulted option_text trivial <| .defaulted view_faithful trivial <| .defaulted option_text trivial <|
      .defaulted orderBy_faithful trivial <| .defaulted direction_faithful trivial <|
      .defaulted (option_faithful size_faithful fun _ _ => Tree.noConfusion)
        (fun _ none => (Option.some_ne_none _ none.symm).elim) .done)
    (by decide) (fun _ => rfl) (fun _ => rfl) (by simp) (by decide)

theorem modelPage_faithful : modelPage.Faithful (fun p => (∀ r ∈ p.items, r.NullFree) ∧ p.total ≤ maxSize) 6 :=
  Layout.Composed.faithful (.required (list_faithful modelRecord_faithful) <| .required size_faithful .done)
    (by decide) (fun _ => rfl) (fun _ => rfl) (by simp) (by decide)

end ModelCatalog.Json.Codec
