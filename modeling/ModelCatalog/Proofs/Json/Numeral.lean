import ModelCatalog.Proofs.Json.Printed

namespace ModelCatalog.Json
open Decimal
namespace Scan

theorem scan_append (place : Place) (first second : List Char) :
    scan place (first ++ second) = ((scan place first).1 ++ (scan (scan place first).2 second).1,
      (scan (scan place first).2 second).2) := by
  induction second using List.reverseRecOn with
  | nil => simp [scan]
  | append_singleton second c ih => simp [← List.append_assoc,scan_concat,ih]

variable {begin : Place} {place next : NumeralPlace} {chars more : List Char} {c : Char}

-- Characters that complete no token and leave a numeral open at a place.
def Reaches (begin : Place) (chars : List Char) (place : NumeralPlace) : Prop :=
  ∃ n, scan begin chars = ([],.numeral n place)

theorem Reaches.append (first : Reaches begin chars place) (second : ∀ n, Reaches (.numeral n place) more next) :
    Reaches begin (chars ++ more) next := by
  obtain ⟨n,scanned⟩ := first
  obtain ⟨m,behind⟩ := second n
  exact ⟨m,by rw [scan_append,scanned,behind]; rfl⟩

theorem Reaches.cons (first : step begin c = ([],middle)) (rest : Reaches middle chars place) :
    Reaches begin (c :: chars) place := by
  obtain ⟨n,behind⟩ := rest
  have one : scan begin [c] = ([],middle) := by simp [scan,first]
  exact ⟨n,by rw [← List.singleton_append,scan_append,one,behind]; rfl⟩

theorem digit_isDigit (digit : c.isDigit = true) : ∃ d, digit? c = some d := by
  simp only [Char.isDigit,Bool.and_eq_true,decide_eq_true_eq] at digit
  exact ⟨_,if_pos digit⟩

theorem reaches_digits (steady : place = .whole ∨ place = .fraction ∨ place = .exponent) (n : Numeral)
    (digits : ∀ c ∈ chars, c.isDigit = true) : Reaches (.numeral n place) chars place := by
  induction chars generalizing n with
  | nil => exact ⟨n,rfl⟩
  | cons c rest ih =>
    obtain ⟨d,value⟩ := digit_isDigit (digits c List.mem_cons_self)
    have others (m : Numeral) := ih m fun c member => digits c (List.mem_cons_of_mem _ member)
    rcases steady with rfl | rfl | rfl
    all_goals exact .cons (by simp only [step,continue?,value]; rfl) (others _)

theorem reaches_part (opened : place = .point ∧ next = .fraction ∨ place = .markSign ∧ next = .exponent) (n : Numeral)
    (digits : ∀ c ∈ chars, c.isDigit = true) (some : chars ≠ []) : Reaches (.numeral n place) chars next := by
  cases chars with
  | nil => exact absurd rfl some
  | cons c rest =>
    obtain ⟨d,value⟩ := digit_isDigit (digits c List.mem_cons_self)
    have tail : ∀ c ∈ rest, c.isDigit = true := fun c member => digits c (List.mem_cons_of_mem _ member)
    rcases opened with ⟨rfl,rfl⟩ | ⟨rfl,rfl⟩
    · exact .cons (by simp only [step,continue?,value]; rfl) (reaches_digits (.inr (.inl rfl)) _ tail)
    · exact .cons (by simp only [step,continue?,value]; rfl) (reaches_digits (.inr (.inr rfl)) _ tail)

theorem reaches_point (whole : place = .zero ∨ place = .whole) (n : Numeral) (digits : ∀ c ∈ chars, c.isDigit = true)
    (some : chars ≠ []) : Reaches (.numeral n place) ('.' :: chars) .fraction := by
  rcases whole with rfl | rfl
  all_goals exact .cons rfl (reaches_part (.inl ⟨rfl,rfl⟩) _ digits some)

theorem reaches_exponent (mantissa : place = .whole ∨ place = .fraction) (n : Numeral) (sign : c = '-' ∨ c = '+')
    (digits : ∀ c ∈ chars, c.isDigit = true) (some : chars ≠ []) :
    Reaches (.numeral n place) ('e' :: c :: chars) .exponent := by
  rcases mantissa with rfl | rfl
  all_goals
    refine .cons rfl ?_
    rcases sign with rfl | rfl
    all_goals exact .cons rfl (reaches_part (.inr ⟨rfl,rfl⟩) _ digits some)

theorem reaches_whole (negative : Bool) (positive : 0 < d) (small : d < 10) (digits : ∀ c ∈ chars, c.isDigit = true) :
    Reaches (lead negative) (Nat.digitChar d :: chars) .whole := by
  have first : ∃ n, step (lead negative) (Nat.digitChar d) = ([],.numeral n .whole) := by
    cases negative <;> interval_cases d <;> exact ⟨_,rfl⟩
  obtain ⟨n,first⟩ := first
  exact .cons first (reaches_digits (.inl rfl) n digits)

end Scan

theorem toDigits_lead (positive : 0 < n) : ∃ d rest, 0 < d ∧ d < 10 ∧ Nat.toDigits 10 n = Nat.digitChar d :: rest := by
  induction n using Nat.strongRecOn with
  | ind n ih =>
    rw [Nat.toDigits_eq_if (by omega)]
    split
    · next small => exact ⟨n,[],positive,small,rfl⟩
    · next large =>
      obtain ⟨d,rest,above,below,same⟩ := ih (n / 10) (by omega) (by omega)
      exact ⟨d,rest ++ [Nat.digitChar (n % 10)],above,below,by rw [same]; rfl⟩

theorem toDigits_digits (n : Nat) : ∀ c ∈ Nat.toDigits 10 n, c.isDigit = true :=
  fun _ member => Nat.isDigit_of_mem_toDigits (by decide) (by decide) member

theorem readsAs_digits {s : Scaled} (reads : s.readsAs magnitude = true) (positive : magnitude ≠ 0) : 0 < s.digits := by
  refine Nat.pos_of_ne_zero fun zero => positive ?_
  have same : Double.nearest s.ratio.1 s.ratio.2 = magnitude := of_decide_eq_true reads
  have none : s.ratio.1 = 0 := by
    unfold Scaled.ratio
    split <;> simp [zero]
  rw [← same,none]
  rfl

theorem hit_reads {s : Scaled} (hit : Double.hit? magnitude n = some s) : s.readsAs magnitude = true := by
  unfold Double.hit? at hit
  repeat' split at hit
  all_goals exact List.find?_some (p := (Scaled.readsAs · magnitude)) hit

theorem shortest_digits (positive : magnitude ≠ 0) :
    0 < (Double.shortest magnitude).digits ∨ Double.shortest magnitude = ⟨0,0⟩ := by
  unfold Double.shortest
  cases found : (List.range 17).findSome? fun n => Double.hit? magnitude (n + 1) with
  | none => exact .inr rfl
  | some s =>
    obtain ⟨n,-,hit⟩ := List.exists_of_findSome?_eq_some found
    exact .inl (readsAs_digits (hit_reads hit) positive)

namespace Scan

theorem replicate_digits (k : Nat) : ∀ c ∈ List.replicate k '0', c.isDigit = true := by
  intro c member
  rw [(List.mem_replicate.mp member).2]
  rfl

theorem append_digits {first second : List Char} (left : ∀ c ∈ first, c.isDigit = true)
    (right : ∀ c ∈ second, c.isDigit = true) : ∀ c ∈ first ++ second, c.isDigit = true := by
  intro c member
  exact (List.mem_append.mp member).elim (left c) (right c)

def Unsigned (chars : List Char) : Prop :=
  ∀ negative, ∃ place, place.complete = true ∧ Reaches (lead negative) chars place

theorem Unsigned.signed (unsigned : Unsigned chars) (negative : Bool) : ∃ place, place.complete = true ∧
    Reaches .between ((if negative = true then "-" else "") ++ String.ofList chars).toList place := by
  obtain ⟨place,complete,reaches⟩ := unsigned negative
  refine ⟨place,complete,?_⟩
  rw [String.toList_append,String.toList_ofList]
  cases negative with
  | false => exact reaches
  | true => exact .cons rfl reaches

theorem unsigned_below_one (digits : ∀ c ∈ chars, c.isDigit = true) (some : chars ≠ []) :
    Unsigned ('0' :: '.' :: chars) := by
  intro negative
  have zero : Reaches (lead negative) ['0'] .zero := by cases negative <;> exact ⟨_,rfl⟩
  exact ⟨.fraction,rfl,zero.append fun n => reaches_point (.inl rfl) n digits some⟩

theorem unsigned_point {first second : List Char} (positive : 0 < d) (small : d < 10)
    (left : ∀ c ∈ first, c.isDigit = true) (right : ∀ c ∈ second, c.isDigit = true) (some : second ≠ []) :
    Unsigned (Nat.digitChar d :: first ++ '.' :: second) := fun negative =>
  ⟨.fraction,rfl,(reaches_whole negative positive small left).append fun n => reaches_point (.inr rfl) n right some⟩

theorem unsigned_exponent {first : List Char} (positive : 0 < d) (small : d < 10)
    (left : ∀ c ∈ first, c.isDigit = true) (sign : c = '-' ∨ c = '+') (right : ∀ c ∈ chars, c.isDigit = true)
    (some : chars ≠ []) :
    Unsigned (match Nat.digitChar d :: first with
      | [d] => d :: 'e' :: c :: chars
      | d :: rest => d :: '.' :: rest ++ 'e' :: c :: chars
      | [] => 'e' :: c :: chars) := by
  intro negative
  refine ⟨.exponent,rfl,?_⟩
  cases first with
  | nil => exact (reaches_whole negative positive small left).append fun n => reaches_exponent (.inl rfl) n sign right some
  | cons e first =>
    have none : ∀ c ∈ ([] : List Char), c.isDigit = true := fun _ member => (List.not_mem_nil member).elim
    have mantissa : Reaches (lead negative) ([Nat.digitChar d] ++ '.' :: e :: first) .fraction :=
      (reaches_whole negative positive small none).append fun n => reaches_point (.inr rfl) n left (List.cons_ne_nil _ _)
    exact mantissa.append fun n => reaches_exponent (.inr rfl) n sign right some

theorem reaches_realText (x : Double) : ∃ place, place.complete = true ∧ Reaches .between (realText x).toList place := by
  have plain : Unsigned ['0','.','0'] := unsigned_below_one (replicate_digits 1) (List.cons_ne_nil _ _)
  unfold realText
  dsimp only
  by_cases zero : x.magnitude = 0
  · rw [if_pos zero]
    exact plain.signed x.negative
  rw [if_neg zero]
  refine Unsigned.signed ?_ x.negative
  -- The search has found digits, or the text is that of zero.
  rcases shortest_digits zero with positive | none
  · generalize Double.shortest x.magnitude = s at positive
    have all := toDigits_digits s.digits
    obtain ⟨d,rest,above,below,same⟩ := toDigits_lead positive
    rw [same] at all ⊢
    have others : ∀ c ∈ rest, c.isDigit = true := fun c member => all c (List.mem_cons_of_mem _ member)
    split
    · next whole =>
      rw [List.cons_append,List.cons_append]
      exact unsigned_point above below (append_digits others (replicate_digits _)) (replicate_digits 1) (List.cons_ne_nil _ _)
    · next broken =>
      split
      · next within =>
        rw [List.length_cons] at broken within ⊢
        obtain ⟨k,place⟩ : ∃ k, (((rest.length + 1 : Nat) : Int) + s.exponent).toNat = k + 1 :=
          Nat.exists_eq_add_one_of_ne_zero (by omega)
        rw [place,List.take_succ_cons,List.drop_succ_cons]
        refine unsigned_point above below (fun c member => others c (List.mem_of_mem_take member))
          (fun c member => others c (List.mem_of_mem_drop member)) ?_
        rw [ne_eq,List.drop_eq_nil_iff]
        omega
      · split
        · exact unsigned_below_one (append_digits (replicate_digits _) all) (by simp)
        · refine unsigned_exponent above below others ?_ (toDigits_digits _) Nat.toDigits_ne_nil
          split
          · exact .inl rfl
          · exact .inr rfl
  · rw [none]
    exact plain

end Scan

-- What the text of a number reads as. A real is rounded in a few steps, so that it may come back as another
-- one, or as none where it passes the largest.
def Number.reread (n : Number) : Option Number :=
  match tokens n.text.toList with
  | [.number back] => back
  | _ => none

theorem Number.reread_of_tokens {n : Number} {back : Option Number} (alone : tokens n.text.toList = [.number back]) :
    n.reread = back := by
  rw [reread,alone]

theorem Number.tokens_text (n : Number) : tokens n.text.toList = [.number n.reread] := by
  suffices one : ∃ back, tokens n.text.toList = [.number back] by
    obtain ⟨back,alone⟩ := one
    rw [reread_of_tokens alone,alone]
  cases n with
  | int i range => exact ⟨_,int_readsBack i range⟩
  | real x =>
    obtain ⟨place,complete,m,scanned⟩ := Scan.reaches_realText x
    refine ⟨m.value?,?_⟩
    rw [Scan.tokens_run,← List.append_nil (text (.real x)).toList,Scan.run_append,text,scanned]
    simp [Scan.run,Scan.finish,complete]

theorem Number.int_reread (i : Int) (range : Integral i) : (Number.int i range).reread = some (.int i range) :=
  reread_of_tokens (int_readsBack i range)

end ModelCatalog.Json
