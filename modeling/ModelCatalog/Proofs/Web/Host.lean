import ModelCatalog.Web.Host
import ModelCatalog.Proofs.Text.Canonical

namespace ModelCatalog.Web
open Text
variable {chars : List Char}

theorem toList_loop (bytes : ByteArray) (i : Nat) (done : List UInt8) :
    ByteArray.toList.loop bytes i done = done.reverse ++ bytes.data.toList.drop i := by
  induction i,done using ByteArray.toList.loop.induct bytes with
  | case1 i done inside ih =>
    have here : i < bytes.data.toList.length := by simpa using inside
    rw [ByteArray.toList.loop,if_pos inside,ih,List.drop_eq_getElem_cons here,List.reverse_cons,List.append_assoc]
    simp [ByteArray.get!,inside]
  | case2 i done outside =>
    have past : bytes.data.toList.length ≤ i := by simpa using outside
    rw [ByteArray.toList.loop,if_neg outside,List.drop_of_length_le past,List.append_nil]

theorem utf8_eq (s : String) : utf8 s = s.toByteArray.data.toList := toList_loop s.toByteArray 0 []

theorem utf8_cons (c : Char) (rest : List Char) :
    utf8 (String.ofList (c :: rest)) = utf8 (String.singleton c) ++ utf8 (String.ofList rest) := by
  rw [utf8_eq,utf8_eq,utf8_eq,String.toByteArray_singleton,String.toByteArray_ofList,String.toByteArray_ofList,
    List.utf8Encode_cons,ByteArray.toList_data_append]

theorem ofUtf8?_utf8 (s : String) : ofUtf8? (utf8 s) = some s := by
  rw [utf8_eq,ofUtf8?]
  exact dif_pos s.isValidUTF8

theorem utf8_injective {s t : String} (same : utf8 s = utf8 t) : s = t := by
  refine Option.some.inj ?_
  rw [← ofUtf8?_utf8 s,same,ofUtf8?_utf8]

theorem utf8_singleton (c : Char) : utf8 (String.singleton c) ≠ [] := by
  intro none
  have empty : String.singleton c = "" := utf8_injective (none.trans (utf8_eq "").symm)
  exact absurd (congrArg String.toList empty) (by simp)

namespace Percent

theorem decode_unescaped (unescaped : '%' ∉ chars) : decode chars = utf8 (String.ofList chars) := by
  induction chars with
  | nil => exact (utf8_eq "").symm
  | cons c rest ih =>
    obtain ⟨other,further⟩ := not_or.mp (List.mem_cons.not.mp unescaped)
    rw [decode,ih further,utf8_cons]
    intro a b after percent
    exact (other percent.symm).elim

theorem encode_unescaped {special : Char → Bool} (unescaped : '%' ∉ encode special chars) :
    encode special chars = chars := by
  induction chars with
  | nil => rfl
  | cons c rest ih =>
    rw [encode,List.flatMap_cons] at unescaped ⊢
    obtain ⟨first,further⟩ := not_or.mp (List.mem_append.not.mp unescaped)
    rw [← encode,ih further]
    split
    · rfl
    · next special =>
      rw [if_neg special] at first
      obtain ⟨b,more,split⟩ := List.exists_cons_of_ne_nil (utf8_singleton c)
      rw [split,List.flatMap_cons] at first
      exact (first (List.mem_append_left _ List.mem_cons_self)).elim

end Percent

theorem splitAt_ne_nil (sep : Char) (chars : List Char) : splitAt sep chars ≠ [] := by
  cases chars with
  | nil => exact List.cons_ne_nil _ _
  | cons c rest =>
    rw [splitAt]
    split
    · exact List.cons_ne_nil _ _
    · split
      · exact List.cons_ne_nil _ _
      · exact List.cons_ne_nil _ _

theorem splitAt_cons (sep c : Char) (rest : List Char) : ∃ label labels, splitAt sep rest = label :: labels ∧
    splitAt sep (c :: rest) = if c = sep then [] :: label :: labels else (c :: label) :: labels := by
  obtain ⟨label,labels,parts⟩ := List.exists_cons_of_ne_nil (splitAt_ne_nil sep rest)
  refine ⟨label,labels,parts,?_⟩
  rw [splitAt,parts]

theorem intercalate_splitAt (sep : Char) (chars : List Char) : [sep].intercalate (splitAt sep chars) = chars := by
  induction chars with
  | nil => rfl
  | cons c rest ih =>
    obtain ⟨label,labels,parts,whole⟩ := splitAt_cons sep c rest
    rw [parts] at ih
    rw [whole]
    split
    · next same =>
      rw [List.intercalate_cons_cons,ih,same]
      rfl
    · rw [List.intercalate_cons_cons_left,ih]

theorem mem_intercalate {sep label : List Char} {labels : List (List Char)} {c : Char} (there : label ∈ labels)
    (member : c ∈ label) : c ∈ sep.intercalate labels := by
  induction labels with
  | nil => cases there
  | cons first rest ih =>
    cases rest with
    | nil =>
      rw [List.intercalate_singleton,← List.mem_singleton.mp there]
      exact member
    | cons second rest =>
      rw [List.intercalate_cons_cons,List.mem_append,List.mem_append]
      rcases List.mem_cons.mp there with rfl | later
      · exact .inl (.inl member)
      · exact .inr (ih later)

namespace Domain

theorem toLower_ascii {c : Char} (ascii : c.toNat < 0x80) : c.toLower.toNat < 0x80 := by
  have all : ∀ n < 0x80, (Char.ofNat n).toLower.toNat < 0x80 := by decide +kernel
  have own := all c.toNat ascii
  rwa [Char.ofNat_toNat] at own

theorem toLower_toLower {c : Char} (ascii : c.toNat < 0x80) : c.toLower.toLower = c.toLower := by
  have all : ∀ n < 0x80, (Char.ofNat n).toLower.toLower = (Char.ofNat n).toLower := by decide +kernel
  have own := all c.toNat ascii
  rwa [Char.ofNat_toNat] at own

theorem lower_ascii (ascii : Ascii chars) : Ascii (chars.map Char.toLower) := by
  intro c member
  obtain ⟨d,given,rfl⟩ := List.mem_map.mp member
  exact toLower_ascii (ascii d given)

theorem mapped_ascii (ascii : Ascii chars) : mapped chars = chars.map Char.toLower := by
  have letters : chars.flatMap mapChar = chars.map Char.toLower := by
    rw [List.map_eq_flatMap]
    refine List.flatMap_congr fun c member => ?_
    rw [mapChar]
    exact if_pos (ascii c member)
  rw [mapped,letters,Canonical.ofList_ascii (lower_ascii ascii)]

theorem encoded_ascii {label : List Char} (ascii : Ascii label) : encoded label = label := by
  rw [encoded,if_neg]
  rw [List.any_eq_true]
  rintro ⟨c,member,foreign⟩
  have own := ascii c member
  have beyond := of_decide_eq_true foreign
  omega

theorem plain?_ascii {label own : List Char} (ascii : Ascii label) (plain : plain? label = some own) :
    encoded own = label ∨ '-' ∈ encoded own := by
  unfold plain? at plain
  split at plain
  · obtain ⟨decoded,-,checked⟩ := Option.bind_eq_some_iff.mp plain
    split at checked
    · next foreign =>
      cases checked
      right
      rw [encoded,if_pos (Bool.and_eq_true_iff.mp foreign).1]
      simp
    · cases checked
  · cases plain
    exact .inl (encoded_ascii ascii)

theorem labels_ascii {labels own : List (List Char)} (ascii : ∀ label ∈ labels, Ascii label)
    (plain : labels.mapM plain? = some own) : own.map encoded = labels ∨ ∃ label ∈ own.map encoded, '-' ∈ label := by
  induction labels generalizing own with
  | nil =>
    cases plain
    exact .inl rfl
  | cons label rest ih =>
    rw [List.mapM_cons] at plain
    obtain ⟨first,here,later⟩ := Option.bind_eq_some_iff.mp plain
    obtain ⟨others,there,made⟩ := Option.bind_eq_some_iff.mp later
    cases made
    rw [List.map_cons]
    rcases plain?_ascii (ascii label List.mem_cons_self) here with same | coded
    · rcases ih (fun other member => ascii other (List.mem_cons_of_mem _ member)) there with alike | ⟨other,member,coded⟩
      · exact .inl (by rw [same,alike])
      · exact .inr ⟨other,List.mem_cons_of_mem _ member,coded⟩
    · exact .inr ⟨_,List.mem_cons_self,coded⟩

theorem labels_plain {labels : List (List Char)} (plain : labels.any isEncoded = false) :
    labels.mapM plain? = some labels := by
  induction labels with
  | nil => rfl
  | cons label rest ih =>
    obtain ⟨here,there⟩ := Bool.or_eq_false_iff.mp plain
    have own : plain? label = some label := by rw [plain?,here]; rfl
    rw [List.mapM_cons,own,ih there]
    rfl

theorem labels_lower (ascii : Ascii chars) :
    ∀ label ∈ splitAt '.' (chars.map Char.toLower), Ascii label := by
  intro label there c member
  refine lower_ascii ascii c ?_
  rw [← intercalate_splitAt '.' (chars.map Char.toLower)]
  exact mem_intercalate there member

theorem toAscii?_ascii {domain : List Char} (ascii : Ascii chars) (named : toAscii? chars = some domain) :
    domain = chars.map Char.toLower ∨ '-' ∈ domain := by
  rw [toAscii?,mapped_ascii ascii] at named
  obtain ⟨own,plain,checked⟩ := Option.bind_eq_some_iff.mp named
  split at checked
  · cases checked
    rcases labels_ascii (labels_lower ascii) plain with same | ⟨label,there,coded⟩
    · exact .inl (by rw [same,intercalate_splitAt])
    · exact .inr (mem_intercalate there coded)
  · cases checked

theorem ranges_beyond : ∀ ranges ∈ [refusedRanges,nonspacingRanges,spacingRanges,rightToLeftRanges,arabicNumberRanges],
    ∀ range ∈ ranges, 0x80 ≤ range.1 := by decide +kernel

theorem inRanges_ascii {ranges : List (Nat × Nat)} {c : Char}
    (asked : ranges ∈ [refusedRanges,nonspacingRanges,spacingRanges,rightToLeftRanges,arabicNumberRanges])
    (ascii : c.toNat < 0x80) : inRanges ranges c.toNat = false := by
  rw [inRanges,List.any_eq_false]
  rintro ⟨first,last⟩ member inside
  have beyond := ranges_beyond ranges asked _ member
  simp only [Bool.and_eq_true,decide_eq_true_eq] at inside beyond
  omega

theorem joinersFit_ascii {label : List Char} (before : List Char) (ascii : Ascii label) :
    joinersFit before label = true := by
  induction label generalizing before with
  | nil => rfl
  | cons c rest ih =>
    have own := ascii.head
    rw [joinersFit,if_neg (by omega),if_neg (by omega),Bool.true_and]
    exact ih (c :: before) ascii.tail

theorem labelFits_ascii {label : List Char} (ascii : Ascii label) :
    labelFits label = !label.any forbidden := by
  have refused : label.any isRefused = label.any forbidden := by
    rw [Bool.eq_iff_iff,List.any_eq_true,List.any_eq_true]
    refine exists_congr fun c => and_congr_right fun member => ?_
    rw [isRefused,inRanges_ascii (by simp) (ascii c member),Bool.or_false]
  have marked : label.head?.any isMark = false := by
    cases label with
    | nil => rfl
    | cons c rest =>
      rw [List.head?_cons,Option.any_some,isMark,isNonspacing,inRanges_ascii (by simp) ascii.head,
        inRanges_ascii (by simp) ascii.head]
      rfl
  rw [labelFits,refused,marked,joinersFit_ascii [] ascii]
  simp

theorem direction_ascii {c : Char} (ascii : c.toNat < 0x80) :
    direction c ≠ .rightToLeft ∧ direction c ≠ .arabicNumber := by
  unfold direction
  dsimp only
  rw [inRanges_ascii (by simp) ascii,inRanges_ascii (by simp) ascii]
  simp only [Bool.false_eq_true,if_false]
  split_ifs <;> decide

theorem isBidirectional_ascii {labels : List (List Char)} (ascii : ∀ label ∈ labels, Ascii label) :
    isBidirectional labels = false := by
  rw [isBidirectional,List.any_eq_false]
  intro label there
  rw [List.any_eq_true]
  rintro ⟨c,member,turned⟩
  obtain ⟨right,arabic⟩ := direction_ascii (ascii label there c member)
  simp [right,arabic] at turned

theorem toAscii?_plain (ascii : Ascii chars)
    (plain : (splitAt '.' (chars.map Char.toLower)).any isEncoded = false) :
    toAscii? chars = if (splitAt '.' (chars.map Char.toLower)).all (fun label => !label.any forbidden) then
      some (chars.map Char.toLower) else none := by
  have labels := labels_lower ascii
  have kept : (splitAt '.' (chars.map Char.toLower)).map encoded = splitAt '.' (chars.map Char.toLower) := by
    refine (List.map_congr_left fun label there => encoded_ascii (labels label there)).trans (List.map_id _)
  have fits : (splitAt '.' (chars.map Char.toLower)).all labelFits =
      (splitAt '.' (chars.map Char.toLower)).all (fun label => !label.any forbidden) := by
    rw [Bool.eq_iff_iff,List.all_eq_true,List.all_eq_true]
    exact forall₂_congr fun label there => by rw [labelFits_ascii (labels label there)]
  rw [toAscii?,mapped_ascii ascii,labels_plain plain]
  simp only [bind,Option.bind]
  rw [isBidirectional_ascii labels,kept,intercalate_splitAt,fits]
  simp only [Bool.not_false,Bool.true_or,Bool.and_true]

theorem toAscii?_lower (ascii : Ascii chars) : toAscii? chars = toAscii? (chars.map Char.toLower) := by
  have twice : (chars.map Char.toLower).map Char.toLower = chars.map Char.toLower := by
    rw [List.map_map]
    exact List.map_congr_left fun c member => toLower_toLower (ascii c member)
  rw [toAscii?,toAscii?,mapped_ascii ascii,mapped_ascii (lower_ascii ascii),twice]

end Domain

namespace Host
variable {piece : List Char} {name : String}

theorem bracketed_unnamed : bracketed piece ≠ .ok (.name name) := by
  unfold bracketed
  split
  · split
    · exact nofun
    · exact nofun
  · exact nofun

theorem parse_unbracketed (named : parse piece = .ok (.name name)) : piece.head? ≠ some '[' := by
  intro bracket
  rw [parse,if_pos bracket] at named
  exact bracketed_unnamed named

def ofDomain : Option (List Char) → Except AddressError Host
  | none => .error .invalidDomain
  | some [] => .error .emptyHost
  | some domain =>
    if IPv4.endsInNumber domain then
      match IPv4.parse? domain with
      | some address => .ok (.ipv4 address)
      | none => .error .invalidIPv4
    else .ok (.name (String.ofList domain))

theorem parse_unescaped (unbracketed : piece.head? ≠ some '[') (unescaped : '%' ∉ piece) :
    parse piece = ofDomain (Domain.toAscii? piece) := by
  rw [parse,if_neg unbracketed,Percent.decode_unescaped unescaped,ofUtf8?_utf8]
  simp only [String.toList_ofList]
  rfl

theorem ofDomain_name {domain : Option (List Char)} (named : ofDomain domain = .ok (.name name)) :
    domain = some name.toList := by
  unfold ofDomain at named
  split at named
  · cases named
  · cases named
  · split at named
    · split at named
      · cases named
      · cases named
    · cases named
      rw [String.toList_ofList]

theorem parse_own (ascii : Ascii piece) (lower : piece.map Char.toLower = piece)
    (plain : (splitAt '.' piece).any Domain.isEncoded = false)
    (allowed : piece.any Domain.forbidden = false) (some : piece ≠ []) (worded : IPv4.endsInNumber piece = false) :
    parse piece = .ok (.name (String.ofList piece)) := by
  have free {c : Char} (member : c ∈ piece) : Domain.forbidden c = false :=
    Bool.eq_false_iff.mpr (List.any_eq_false.mp allowed c member)
  have unbracketed : piece.head? ≠ .some '[' := fun bracket => absurd (free (List.mem_of_head? bracket)) (by decide)
  have unescaped : '%' ∉ piece := fun escape => absurd (free escape) (by decide)
  have clean : (splitAt '.' piece).all (fun label => !label.any Domain.forbidden) = true := by
    rw [List.all_eq_true]
    intro label there
    rw [Bool.not_eq_true',List.any_eq_false]
    intro c member
    have inside : c ∈ ['.'].intercalate (splitAt '.' piece) := mem_intercalate there member
    rw [intercalate_splitAt] at inside
    rw [free inside]
    exact Bool.false_ne_true
  rw [parse_unescaped unbracketed unescaped,Domain.toAscii?_plain ascii (by rwa [lower]),lower,if_pos clean]
  obtain ⟨c,rest,rfl⟩ := List.exists_cons_of_ne_nil some
  simp only [ofDomain,worded,Bool.false_eq_true,if_false]

-- A host that is written in ASCII and without escapes is a name, which has no dash, just in case it is the name in some
-- letter case.
theorem parse_plain (own : parse name.toList = .ok (.name name)) (dashless : '-' ∉ name.toList)
    (escapeless : '%' ∉ name.toList) (ascii : Ascii piece) (unescaped : '%' ∉ piece) :
    parse piece = .ok (.name name) ↔ piece.map Char.toLower = name.toList := by
  constructor
  · intro named
    rw [parse_unescaped (parse_unbracketed named) unescaped] at named
    rcases Domain.toAscii?_ascii ascii (ofDomain_name named) with lower | dash
    · exact lower.symm
    · exact (dashless dash).elim
  · intro lower
    have unbracketed : piece.head? ≠ some '[' := by
      intro bracket
      refine parse_unbracketed own ?_
      rw [← lower,List.head?_map,bracket]
      rfl
    rw [parse_unescaped unbracketed unescaped,Domain.toAscii?_lower ascii,lower,
      ← parse_unescaped (parse_unbracketed own) escapeless,own]

theorem parseOpaque_plain (own : parseOpaque name.toList = .ok (.name name)) (escapeless : '%' ∉ name.toList) :
    parseOpaque piece = .ok (.name name) ↔ piece = name.toList := by
  constructor
  · intro named
    unfold parseOpaque at named
    split at named
    · exact (bracketed_unnamed named).elim
    · split at named
      · cases named
      · cases named
        rw [String.toList_ofList] at escapeless ⊢
        exact (Percent.encode_unescaped escapeless).symm
  · rintro rfl
    exact own

end Host
end ModelCatalog.Web
