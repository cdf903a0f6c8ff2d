import ModelCatalog.Model.Import
import ModelCatalog.Proofs.Json.Composed
import ModelCatalog.Provider.Connection

namespace ModelCatalog
open Ordered Json

-- No optional free value is null: null is read as no value, so a document cannot hold it there.
def OllamaOptions.NullFree (o : OllamaOptions) : Prop := o.keepAlive ≠ some .null
def ModelParams.NullFree (p : ModelParams) : Prop := p.responseFormat ≠ some .null ∧ p.ollama.NullFree
def ModelRecord.NullFree (r : ModelRecord) : Prop := r.params.NullFree
def ModelForm.NullFree (f : ModelForm) : Prop := f.params.NullFree

namespace Json.Codec

theorem toTree_null {node : Node} (read : node.toTree m = .ok .null) : node = .null := by
  cases node with
  | null => rfl
  | bool b => cases read
  | number n => cases n <;> cases read
  | text s => cases s <;> cases read
  | array items closed =>
    simp only [Node.toTree,bind_ok,pure_ok] at read
    obtain ⟨_,_,_,_,_,_,same⟩ := read
    cases same
  | object members stop =>
    simp only [Node.toTree,bind_ok,pure_ok] at read
    obtain ⟨_,_,_,_,_,_,same⟩ := read
    cases same
  | broken => cases read

theorem option_value_faithful : value.option.Faithful (· ≠ some .null) 0 := by
  have solid : value.Solid (· ≠ .null) := fun v other null => other (Value.ext null)
  have present (m : Medium) (node : Node) (v : Value) (there : node ≠ .null) (read : value.read m node = .ok v) :
      v ≠ .null := by
    rintro rfl
    obtain ⟨tree,source,null⟩ := map_ok.mp read
    have bare : tree.normalize = .null := congrArg Value.tree null
    cases tree <;> cases bare
    exact there (toTree_null source)
  refine (option_nonnull value_faithful (fun _ _ => trivial) solid present).restate fun v => ⟨?_,?_⟩
  · rintro other rfl
    exact other .null rfl rfl
  · rintro other w rfl rfl
    exact other rfl

theorem plain_option {c : Codec α} (faithful : c.Faithful (fun _ => True) k) (solid : c.Solid fun _ => True) :
    c.option.Faithful (fun _ => True) k :=
  (option_faithful faithful solid).congr (fun _ => ⟨fun _ => trivial,fun _ _ _ => trivial⟩) (Nat.le_refl _)

theorem plain_list {c : Codec α} (faithful : c.Faithful (fun _ => True) k) :
    (list c).Faithful (fun _ => True) (k + 1) :=
  (list_faithful faithful).congr (fun _ => ⟨fun _ => trivial,fun _ _ _ => trivial⟩) (Nat.le_refl _)

theorem plain_map {c : Codec α} (faithful : c.Faithful (fun _ => True) k) :
    (map c).Faithful (fun _ => True) (k + 1) :=
  (map_faithful faithful).congr (fun _ => ⟨fun _ => trivial,fun _ _ _ => trivial⟩) (Nat.le_refl _)

theorem option_text : text.option.Faithful (fun _ => True) 0 := plain_option text_faithful fun _ _ => Tree.noConfusion
theorem option_bool : bool.option.Faithful (fun _ => True) 0 := plain_option bool_faithful fun _ _ => Tree.noConfusion
theorem option_real : real.option.Faithful (fun _ => True) 0 := plain_option real_faithful fun _ _ => Tree.noConfusion
theorem option_integer (type : String) (low high : Int) (lowRange : Integral low) (highRange : Integral high) :
    (integer type low high lowRange highRange).option.Faithful (fun _ => True) 0 :=
  plain_option (integer_faithful _ _ _ _ _) fun _ _ => Tree.noConfusion

theorem keyed_empty {kept : Keyed String α} (empty : kept.isEmpty = true) : kept = ∅ :=
  Keyed.ext (List.isEmpty_iff.mp empty)

theorem ollamaOptions_faithful : ollamaOptions.Faithful OllamaOptions.NullFree 1 :=
  Layout.Composed.faithful
    (.optional (option_integer ..) trivial <| .optional (option_integer ..) trivial <|
      .optional (option_integer ..) trivial <| .optional (option_integer ..) trivial <|
      .optional (option_integer ..) trivial <| .optional (option_integer ..) trivial <|
      .optional (option_integer ..) trivial <| .optional (option_integer ..) trivial <|
      .optional option_real trivial <| .optional (option_integer ..) trivial <| .optional option_real trivial <|
      .optional option_real trivial <| .optional option_bool trivial <| .optional option_bool trivial <|
      .optional option_value_faithful (Option.some_ne_none _).symm <| .optional option_bool trivial .done)
    (by decide) (fun _ => rfl) (fun _ => rfl) (by simp [OllamaOptions.NullFree]) (by decide)

theorem ollamaOptions_default : OllamaOptions.NullFree {} := Option.some_ne_none _ ∘ Eq.symm

theorem modelParams_faithful : modelParams.Faithful ModelParams.NullFree 2 :=
  Layout.Composed.faithful
    (.optional option_real trivial <| .optional option_real trivial <| .optional option_real trivial <|
      .optional (option_integer ..) trivial <| .optional option_real trivial <| .optional option_real trivial <|
      .optional (option_integer ..) trivial <|
      .nonempty (plain_list text_faithful) (fun _ => List.isEmpty_iff.mp) trivial <|
      .optional option_text trivial <|
      .nonempty (plain_map real_faithful) (fun _ => keyed_empty) trivial <|
      .optional option_value_faithful (Option.some_ne_none _).symm <|
      .nonempty ollamaOptions_faithful (fun _ => of_decide_eq_true) ollamaOptions_default <|
      .nonempty extensions_faithful (fun _ => keyed_empty) trivial .done)
    (by decide) (fun _ => rfl) (fun _ => rfl) (by simp [ModelParams.NullFree]) (by decide)

theorem modelParams_default : ModelParams.NullFree {} :=
  ⟨Option.some_ne_none _ ∘ Eq.symm,ollamaOptions_default⟩

theorem tag_faithful : tag.Faithful (fun _ => True) 1 :=
  Layout.Composed.faithful (.required text_faithful .done)
    (by decide) (fun _ => rfl) (fun _ => rfl) (by simp) (by decide)

theorem modelMeta_faithful : modelMeta.Faithful (fun _ => True) 3 :=
  Layout.Composed.faithful
    (.optional option_text trivial <| .optional option_text trivial <|
      .nonempty (plain_map bool_faithful) (fun _ => keyed_empty) trivial <|
      .nonempty (plain_list tag_faithful) (fun _ => List.isEmpty_iff.mp) trivial <|
      .nonempty extensions_faithful (fun _ => keyed_empty) trivial .done)
    (by decide) (fun _ => rfl) (fun _ => rfl) (by simp) (by decide)

theorem accessRule_faithful : accessRule.Faithful (fun _ => True) 2 :=
  Layout.Composed.faithful (.defaulted set_faithful trivial <| .defaulted set_faithful trivial .done)
    (by decide) (fun _ => rfl) (fun _ => rfl) (by simp) (by decide)

theorem option_accessRule : accessRule.option.Faithful (fun _ => True) 2 :=
  plain_option accessRule_faithful (Layout.codec_solid _ _)

theorem accessControl_faithful : accessControl.Faithful (fun _ => True) 3 :=
  Layout.Composed.faithful (.optional option_accessRule trivial <| .optional option_accessRule trivial .done)
    (by decide) (fun _ => rfl) (fun _ => rfl) (by simp) (by decide)

theorem option_accessControl : accessControl.option.Faithful (fun _ => True) 3 :=
  plain_option accessControl_faithful (Layout.codec_solid _ _)

theorem modelRecord_faithful : modelRecord.Faithful ModelRecord.NullFree 4 :=
  Layout.Composed.faithful
    (.required text_faithful <| .required text_faithful <| .implied option_text trivial <|
      .required text_faithful <| .defaulted modelParams_faithful modelParams_default <|
      .defaulted modelMeta_faithful trivial <| .defaulted option_accessControl trivial <|
      .defaulted bool_faithful trivial <| .required (integer_faithful ..) <|
      .required (integer_faithful ..) .done)
    (by decide) (fun _ => rfl) (fun _ => rfl) (by simp [ModelRecord.NullFree]) (by decide)

theorem formLayout_lawful : formLayout.Lawful
    (fun values => True ∧ True ∧ True ∧ True ∧ values.2.2.2.2.1.NullFree ∧ True ∧ True ∧ True ∧ True) 3 := by
  have composed : formLayout.Composed _ 3 :=
    .required text_faithful <| .defaulted option_text trivial <| .required text_faithful <|
      .defaulted modelMeta_faithful trivial <| .defaulted modelParams_faithful modelParams_default <|
      .defaulted option_accessControl trivial <| .defaulted bool_faithful trivial <|
      .defaulted option_text trivial .done
  exact composed 3 (Nat.le_refl 3) (by decide)

theorem modelForm_faithful : modelForm.Faithful ModelForm.NullFree 4 :=
  (Layout.codec_faithful _ formLayout_lawful (fun _ => rfl) (fun _ => rfl)).restate (by simp [ModelForm.NullFree])

theorem providerKind_faithful : providerKind.Faithful (fun _ => True) 0 :=
  enumeration_faithful _ _ fun kind => by cases kind <;> decide

theorem authType_faithful : authType.Faithful (fun _ => True) 0 :=
  enumeration_faithful _ _ fun type => by cases type <;> decide

theorem connection_faithful : connection.Faithful (fun _ => True) 2 :=
  Layout.Composed.faithful
    (.required (integer_faithful ..) <| .required text_faithful <| .required providerKind_faithful <|
      .required text_faithful <| .defaulted text_faithful trivial <| .defaulted bool_faithful trivial <|
      .defaulted option_text trivial <| .defaulted option_text trivial <|
      .defaulted (plain_list text_faithful) trivial <| .defaulted (plain_list text_faithful) trivial <|
      .defaulted (plain_map text_faithful) trivial <| .defaulted authType_faithful trivial <|
      .defaulted option_text trivial <| .defaulted bool_faithful trivial <|
      .defaulted extensions_faithful trivial <| .required (integer_faithful ..) <|
      .required (integer_faithful ..) .done)
    (by decide) (fun _ => rfl) (fun _ => rfl) (by simp) (by decide)

end Json.Codec
end ModelCatalog
