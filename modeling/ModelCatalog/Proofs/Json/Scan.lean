import ModelCatalog.Json.Printer
import ModelCatalog.Json.Token
import Mathlib.Data.List.Induction

namespace ModelCatalog.Json

-- A number whose text is one token that denotes it. Every integer is one. Reading rounds a double
-- in a few steps and is not exact on all numerals, so for doubles this stays a property.
def Number.ReadsBack (n : Number) : Prop := tokens n.text.toList = [.number (some n)]

instance (n : Number) : Decidable n.ReadsBack := inferInstanceAs (Decidable (_ = _))

namespace Scan

-- The tokens from a place on, in order: what the scanner folds, without its accumulator.
def run : Place → List Char → List Token
  | place,[] => finish place
  | place,c :: rest => (step place c).1 ++ run (step place c).2 rest

theorem fold_run (chars : List Char) (found : List Token) (place : Place) :
    let last := chars.foldl (fun st c => ((step st.2 c).1.reverse ++ st.1,(step st.2 c).2)) (found,place)
    ((finish last.2).reverse ++ last.1).reverse = found.reverse ++ run place chars := by
  induction chars generalizing found place with
  | nil => simp [run]
  | cons c rest ih => simpa [run] using ih ((step place c).1.reverse ++ found) (step place c).2

theorem tokens_run (chars : List Char) : tokens chars = run .between chars := fold_run chars [] .between

def Ends : List Char → Prop
  | [] => True
  | c :: _ => c = '\n' ∨ c = ',' ∨ c = ']' ∨ c = '}'

theorem continue_end (n : Numeral) (place : NumeralPlace) (ends : Ends (c :: rest)) :
    continue? n place c = none := by
  rcases ends with rfl | rfl | rfl | rfl <;> cases place <;> rfl

theorem run_numeral (n : Numeral) (place : NumeralPlace) (complete : place.complete = true)
    (ends : Ends rest) : run (.numeral n place) rest = .number n.value? :: run .between rest := by
  cases rest with
  | nil => simp [run,finish,complete]
  | cons c rest =>
    have digit : (digit? c).isNone = true := by rcases ends with rfl | rfl | rfl | rfl <;> rfl
    simp [run,step,continue_end n place ends,complete,digit]

-- A scanner that has stopped has left a fault, and a word still has characters to come.
def Sound (tokens : List Token) : Place → Prop
  | .stopped => .fault ∈ tokens
  | .word rest _ => rest ≠ []
  | _ => True

theorem Sound.append (out : List Token) (sound : Sound new place) : Sound (out ++ new) place := by
  cases place with
  | stopped => exact List.mem_append_right _ sound
  | word rest token => exact sound
  | between | text t | numeral n place => trivial

theorem start_sound (c : Char) : Sound (start c).1 (start c).2 := by
  unfold start
  split
  case h_16 => split <;> simp [Sound]
  all_goals simp [Sound]

theorem textStep_sound (t : PartialText) (c : Char) : Sound (textStep t c).1 (textStep t c).2 := by
  unfold textStep
  repeat' split
  all_goals simp [Sound]

theorem step_sound (c : Char) (sound : Sound out place) :
    Sound (out ++ (step place c).1) (step place c).2 := by
  cases place with
  | between => exact .append _ (start_sound c)
  | word rest token =>
    match rest with
    | [] => exact absurd rfl sound
    | [last] => by_cases h : c = last <;> simp [step,h,Sound]
    | next :: second :: rest => by_cases h : c = next <;> simp [step,h,Sound]
  | text t => exact .append _ (textStep_sound t c)
  | numeral n place =>
    refine .append _ ?_
    simp only [step]
    split
    · trivial
    · split
      · exact .append [_] (start_sound c)
      · simp [Sound]
  | stopped => simpa [step] using sound

def scan (place : Place) (chars : List Char) : List Token × Place :=
  chars.foldl (fun (out,place) c => (out ++ (step place c).1,(step place c).2)) ([],place)

theorem scan_sound (chars : List Char) : Sound (scan .between chars).1 (scan .between chars).2 := by
  unfold scan
  induction chars using List.reverseRecOn with
  | nil => trivial
  | append_singleton chars c ih => simpa using step_sound c ih

theorem run_append (place : Place) (chars rest : List Char) :
    run place (chars ++ rest) = (scan place chars).1 ++ run (scan place chars).2 rest := by
  induction chars using List.reverseRecOn generalizing rest with
  | nil => rfl
  | append_singleton chars c ih => simp [ih,scan,run]

theorem run_number {n : Number} {back : Option Number} (exact : tokens n.text.toList = [.number back])
    (ends : Ends rest) : run .between (n.text.toList ++ rest) = .number back :: run .between rest := by
  have sound := scan_sound n.text.toList
  have alone : (scan .between n.text.toList).1 ++ finish (scan .between n.text.toList).2 =
      [.number back] := by
    rw [← exact,tokens_run,← List.append_nil n.text.toList,run_append,List.append_nil]
    rfl
  rw [run_append]
  generalize scan .between n.text.toList = result at sound alone ⊢
  obtain ⟨out,place⟩ := result
  -- A number by itself ends between tokens or in a numeral that is complete.
  cases place with
  | between =>
    simp only [finish,List.append_nil] at alone
    simp [alone]
  | numeral m place =>
    by_cases complete : place.complete = true
    · rw [run_numeral m place complete ends]
      simp only [finish,complete,if_true] at alone
      rw [← List.singleton_append,← List.append_assoc,alone]
      rfl
    · have last := congrArg List.getLast? alone
      simp [finish,complete] at last
  | stopped =>
    simp only [finish,List.append_nil] at alone
    simp [Sound,alone] at sound
  | word _ _ | text _ =>
    have last := congrArg List.getLast? alone
    simp [finish] at last

end Scan
end ModelCatalog.Json
