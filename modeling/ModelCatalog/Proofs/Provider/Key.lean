import ModelCatalog.Provider.Connection
import ModelCatalog.Web.Request

namespace ModelCatalog
open Web

-- A key that is there and can be sent. Where such keys are not told apart, one text stands for them all.
def Sendable (k : String) : Prop := k ≠ "" ∧ Header.isValue k = true

instance (k : String) : Decidable (Sendable k) := inferInstanceAs (Decidable (_ ∧ _))

def blotted (k : String) : String := if Sendable k then "key" else k

theorem blotted_eq {k k' : String} (same : blotted k = blotted k') : k = k' ∨ Sendable k ∧ Sendable k' := by
  have standard : Sendable "key" := by decide
  unfold blotted at same
  by_cases first : Sendable k
  · by_cases second : Sendable k'
    · exact .inr ⟨first,second⟩
    · rw [if_pos first,if_neg second] at same
      exact absurd (same ▸ standard) second
  · by_cases second : Sendable k'
    · rw [if_neg first,if_pos second] at same
      exact absurd (same ▸ standard) first
    · rw [if_neg first,if_neg second] at same
      exact .inl same

namespace Connection

def rekey (c : Connection) (k : String) : Connection := { c with apiKey := k }

def blot (c : Connection) : Connection := c.rekey (blotted c.apiKey)

theorem blot_eq {c c' : Connection} (same : c.blot = c'.blot) :
    ∃ k, c' = c.rekey k ∧ (k = c.apiKey ∨ Sendable c.apiKey ∧ Sendable k) := by
  refine ⟨c'.apiKey,?_,?_⟩
  · cases c
    cases c'
    simp only [blot,rekey,mk.injEq] at same ⊢
    simp [same]
  · have keys : blotted c.apiKey = blotted c'.apiKey := congrArg apiKey same
    exact (blotted_eq keys).imp_left Eq.symm

theorem blot_congr {f : Connection → α} (rekeyed : ∀ c k, Sendable c.apiKey → Sendable k → f (c.rekey k) = f c)
    {c c' : Connection} (same : c.blot = c'.blot) : f c = f c' := by
  obtain ⟨k,rfl,own | ⟨first,second⟩⟩ := blot_eq same
  · rw [own]
    rfl
  · exact (rekeyed c k first second).symm

theorem describe_rekey {c : Connection} {k : String} (first : c.apiKey ≠ "") (second : k ≠ "") :
    (c.rekey k).describe = c.describe := by
  have hidden : (if (c.rekey k).apiKey = "" then "" else "[REDACTED]") =
      if c.apiKey = "" then "" else "[REDACTED]" := by
    rw [if_neg first,if_neg (show (c.rekey k).apiKey ≠ "" from second)]
  unfold describe
  rw [hidden]
  rfl

end Connection

namespace Web

def bearer (k : String) : Header := ("authorization","Bearer " ++ k)

-- What does not depend on the key that a request carries.
def Keyless (f : Request → β) : Prop := ∀ address before after k k',
  f ⟨address,before ++ bearer k :: after⟩ = f ⟨address,before ++ bearer k' :: after⟩

theorem bearer_legal {k : String} (sendable : Sendable k) : (bearer k).isLegal = true := by
  have name : Header.isName "authorization" = true := by decide +kernel
  have scheme : ("Bearer ".toList.all fun c => c = '\t' || (0x20 ≤ c.toNat && c.toNat ≠ 0x7F)) = true := by decide
  have value : Header.isValue ("Bearer " ++ k) = true := by
    rw [Header.isValue,String.toList_append,List.all_append,scheme]
    exact sendable.2
  rw [Header.isLegal,bearer,name,value]
  rfl

namespace Request

def addressed (url : String) : Except Outage Address := do
  let a ← match Address.parse url with
    | .ok a => .ok a
    | .error _ => .error (.badRequest none)
  if a.host.isNone ∨ a.host = some (.name "") then throw (.badRequest (some a.text))
  return a

def carried (headers : List Header) : Option String → List Header
  | some token => if headers.any (·.key = "authorization") then [] else [bearer token]
  | none => []

def signed (chosen : List Header) : Option String → List Header
  | some agent => if chosen.any (·.1 = "user-agent") then [] else [("user-agent",agent)]
  | none => []

def userless (a : Address) : Address := if a.user?.isSome then { a with username := "",password := none } else a

def assembled (a : Address) (headers carried : List Header) (agent : Option String) : Except Outage Request := do
  if !(headers ++ carried).all Header.isLegal then throw (.badRequest none)
  let sent := userless a
  if (sent.scheme ≠ "http" ∧ sent.scheme ≠ "https") ∨ !(sent.host.all Host.sendable) then
    throw (.badRequest (some sent.text))
  let chosen := (a.user?.map basic).toList ++ headers.map (fun h => (h.key,h.2)) ++ carried
  return ⟨sent,chosen ++ signed chosen agent⟩

theorem make_eq (url : String) (headers : List Header) (token agent : Option String) :
    make url headers token agent = (addressed url >>= fun a => assembled a headers (carried headers token) agent) := by
  unfold make addressed
  cases Address.parse url with
  | error e => rfl
  | ok a =>
    by_cases none : a.host.isNone ∨ a.host = some (.name "")
    · simp only [bind,Except.bind,none,if_true]
      rfl
    · simp only [bind,Except.bind,none,if_false]
      rfl

section
variable {f : Request → β} {headers : List Header} {agent : Option String} {k k' : String}

theorem legal_beside (sendable : Sendable k) (headers : List Header) :
    (headers ++ [bearer k]).all Header.isLegal = headers.all Header.isLegal := by
  rw [List.all_append,List.all_cons,bearer_legal sendable,List.all_nil,Bool.true_and,Bool.and_true]

theorem signed_beside (chosen : List Header) (agent : Option String) (k : String) :
    signed (chosen ++ [bearer k]) agent = signed chosen agent := by
  cases agent with
  | none => rfl
  | some agent =>
    have other : ([bearer k].any fun h => h.1 = "user-agent") = false := rfl
    rw [signed,signed,List.any_append,other,Bool.or_false]

theorem assembled_keyless (keyless : Keyless f) (a : Address) (first : Sendable k) (second : Sendable k') :
    (assembled a headers [bearer k] agent).map f = (assembled a headers [bearer k'] agent).map f := by
  have kept (chosen : List Header) (a : Address) : f ⟨a,chosen ++ [bearer k] ++ signed (chosen ++ [bearer k]) agent⟩ =
      f ⟨a,chosen ++ [bearer k'] ++ signed (chosen ++ [bearer k']) agent⟩ := by
    rw [signed_beside,signed_beside,List.append_assoc,List.append_assoc]
    exact keyless a chosen _ k k'
  unfold assembled
  dsimp only
  rw [legal_beside first,legal_beside second]
  split
  · rfl
  · split
    · rfl
    · exact congrArg Except.ok (kept _ _)

theorem make_keyless (keyless : Keyless f) (url : String) (headers : List Header) (agent : Option String)
    (first : Sendable k) (second : Sendable k') :
    (make url headers (some k) agent).map f = (make url headers (some k') agent).map f := by
  rw [make_eq,make_eq]
  cases addressed url with
  | error e => rfl
  | ok a =>
    change (assembled a headers (carried headers (some k)) agent).map f =
      (assembled a headers (carried headers (some k')) agent).map f
    unfold carried
    dsimp only
    split
    · rfl
    · exact assembled_keyless keyless a first second

end
end Request
end Web
end ModelCatalog
