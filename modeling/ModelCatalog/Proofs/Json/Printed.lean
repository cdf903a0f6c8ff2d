import ModelCatalog.Proofs.Json.Scan
import Mathlib.Tactic.IntervalCases

namespace ModelCatalog.Json
open Ordered

namespace Scan

-- An open string whose characters so far are given last first, without faults.
abbrev opened (chars : List Char) : Place := .text { chars }

theorem hexByte_digits : ∀ n < 32, Tree.hexByte n = [Nat.digitChar (n / 16),Nat.digitChar (n % 16)] := by
  decide

theorem hexDigit_digitChar : ∀ d < 16, hexDigit? (Nat.digitChar d) = some d := by
  decide

theorem run_escape (chars : List Char) (c : Char) (rest : List Char) :
    run (opened chars) (Tree.escapeChar c ++ rest) = run (opened (c :: chars)) rest := by
  unfold Tree.escapeChar
  split
  case h_8 =>
    split
    · next control =>
      have high := hexDigit_digitChar (c.toNat / 16) (by omega)
      have low := hexDigit_digitChar (c.toNat % 16) (by omega)
      have value : c.toNat / 16 * 16 + c.toNat % 16 = c.toNat := by omega
      have zero : hexDigit? '0' = some 0 := rfl
      have unit : ∀ escape, PartialText.pushUnit { chars,escape } c.toNat = { chars := c :: chars } := by
        intro escape
        have first : ¬ (0xD800 ≤ c.toNat ∧ c.toNat ≤ 0xDBFF) := by omega
        have second : ¬ (0xDC00 ≤ c.toNat ∧ c.toNat ≤ 0xDFFF) := by omega
        simp [PartialText.pushUnit,PartialText.push,first,second]
      simpa [hexByte_digits c.toNat control,run,step,textStep,zero,high,low,value] using
        congrArg (fun t => run (.text t) rest) (unit _)
    · next printable =>
      simp_all [run,step,textStep,PartialText.push]
      simp [Nat.not_lt.mpr printable]
  all_goals simp [run,step,textStep,escaped?,PartialText.push]

theorem run_quote (s : String) (rest : List Char) :
    run .between (Tree.quote s ++ rest) = .text (some s) :: run .between rest := by
  have inside : ∀ (chars done : List Char), run (opened done) (chars.flatMap Tree.escapeChar ++ '"' :: rest) =
      .text (some (String.ofList (done.reverse ++ chars))) :: run .between rest := by
    intro chars
    induction chars with
    | nil => intro done; simp [run,step,textStep,PartialText.value?]
    | cons c chars ih =>
      intro done
      rw [List.flatMap_cons,List.append_assoc,run_escape,ih]
      simp
  simpa [Tree.quote,run,step,start] using inside s.toList []

def lead (negative : Bool) : Place :=
  if negative then .numeral { negative := true } .sign else .between

theorem digit_digitChar : ∀ d < 10, digit? (Nat.digitChar d) = some d := by decide

theorem scan_concat (place : Place) (chars : List Char) (c : Char) :
    scan place (chars ++ [c]) = ((scan place chars).1 ++ (step (scan place chars).2 c).1,
      (step (scan place chars).2 c).2) := by
  simp [scan]

-- Induction on the last digit, as the scanner stores whole digits last first.
theorem scan_digits (negative : Bool) (n : Nat) (positive : 0 < n) (fits : n ≤ Numeral.maxSignificand) :
    ∃ whole, Numeral.readWhole whole = { significand := n } ∧
      scan (lead negative) (Nat.toDigits 10 n) = ([],.numeral { negative,whole } .whole) := by
  induction n using Nat.strongRecOn with
  | ind n ih =>
    rw [Nat.toDigits_eq_if (by omega)]
    split
    · next small =>
      refine ⟨[n],?_,?_⟩
      · have enough : ¬ Numeral.maxSignificand < n := by omega
        simp [Numeral.readWhole,Numeral.Reading.digit,enough]
      · cases negative <;> interval_cases n <;> rfl
    · next large =>
      obtain ⟨whole,read,scanned⟩ := ih (n / 10) (by omega) (by omega) (by omega)
      refine ⟨n % 10 :: whole,?_,?_⟩
      · have next : n / 10 * 10 + n % 10 = n := by omega
        have enough : ¬ Numeral.maxSignificand < n := by omega
        have fold : Numeral.readWhole (n % 10 :: whole) =
            (Numeral.readWhole whole).digit 0 1 (n % 10) := by simp [Numeral.readWhole]
        simp [fold,read,Numeral.Reading.digit,next,enough]
      · have digit := digit_digitChar (n % 10) (by omega)
        simp [scan_concat,scanned,step,continue?,digit]

theorem run_digits (negative : Bool) (n : Nat) (positive : 0 < n) (fits : n ≤ Numeral.maxSignificand) :
    ∃ whole, Numeral.readWhole whole = { significand := n } ∧
      run (lead negative) (Nat.toDigits 10 n) = [.number (Numeral.value? { negative,whole })] := by
  obtain ⟨whole,read,scanned⟩ := scan_digits negative n positive fits
  refine ⟨whole,read,?_⟩
  rw [← List.append_nil (Nat.toDigits 10 n),run_append,scanned]
  rfl

end Scan

theorem Number.ofInt_integral (range : Integral i) : Number.ofInt? i = some (.int i range) := dif_pos range

theorem Numeral.value_natural (digits : List Nat) (read : readWhole digits = { significand := n })
    (range : Integral n) : Numeral.value? { whole := digits } = some (.int n range) := by
  simp only [value?,read,Bool.false_eq_true,or_self,if_false,Number.ofInt_integral range]

theorem Numeral.value_negative (digits : List Nat) (read : readWhole digits = { significand := n + 1 })
    (range : Integral (Int.negSucc n)) :
    Numeral.value? { negative := true,whole := digits } = some (.int (Int.negSucc n) range) := by
  have same : -((n + 1 : Nat) : Int) = Int.negSucc n := rfl
  simp only [value?,read,same,Number.ofInt_integral range]
  rfl

theorem Number.int_readsBack (i : Int) (range : Integral i) : (Number.int i range).ReadsBack := by
  simp only [ReadsBack,Number.text,Int.toString_eq_repr,Int.repr_eq_if,Scan.tokens_run]
  cases i with
  | ofNat n =>
    cases n with
    | zero => exact congrArg (fun n => [Token.number n]) (Numeral.value_natural [0] rfl range)
    | succ n =>
      have fits : n + 1 ≤ Numeral.maxSignificand := by
        have := range.2
        simp only [Numeral.maxSignificand,Int.ofNat_eq_natCast] at this ⊢
        omega
      obtain ⟨whole,read,tokens⟩ := Scan.run_digits false (n + 1) n.succ_pos fits
      rw [Numeral.value_natural whole read range] at tokens
      have sign : 0 ≤ Int.ofNat (n + 1) := Int.natCast_nonneg _
      rw [if_pos sign,Nat.toList_repr]
      exact tokens
  | negSucc n =>
    have fits : n + 1 ≤ Numeral.maxSignificand := by
      have := range.1
      simp only [Numeral.maxSignificand]
      omega
    obtain ⟨whole,read,tokens⟩ := Scan.run_digits true (n + 1) n.succ_pos fits
    rw [Numeral.value_negative whole read range] at tokens
    have sign : ¬ 0 ≤ Int.negSucc n := by omega
    rw [if_neg sign,String.toList_append,Nat.toList_repr]
    exact tokens

end ModelCatalog.Json
