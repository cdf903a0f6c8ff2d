import ModelCatalog.Store.Contents

-- A script does not say which store answers, so one script runs on contents in memory, on a document, and step by
-- step among others.

namespace ModelCatalog.Store

inductive Script (α : Type) : Type where
  | done (a : α)
  | perform (call : Call) (next : Except StoreError call.Answer → Script α)

namespace Script

def bind (script : Script α) (f : α → Script β) : Script β :=
  match script with
  | done a => f a
  | perform call next => perform call fun answer => (next answer).bind f

instance : Monad Script where
  pure := done
  bind := bind

end Script

abbrev Backend (σ : Type) := (call : Call) → σ → Except StoreError call.Answer × σ

def Script.run (backend : Backend σ) : Script α → σ → α × σ
  | .done a,s => (a,s)
  | .perform call next,s =>
    let (answer,s) := backend call s
    (next answer).run backend s

def memory : Backend Contents := fun call s =>
  match s.answer call with
  | .ok (answer,next) => (.ok answer,next)
  | .error e => (.error e,s)

abbrev Action := ExceptT Error Script

def attempt (call : Call) : Action (Except StoreError call.Answer) :=
  ExceptT.mk (Script.perform call fun answer => .done (.ok answer))

def ask (call : Call) : Action call.Answer :=
  ExceptT.mk (Script.perform call fun answer => .done (answer.mapError .storage))

def Action.run (backend : Backend σ) (action : Action α) (s : σ) : Except Error α × σ :=
  Script.run backend (ExceptT.run action) s

end ModelCatalog.Store
