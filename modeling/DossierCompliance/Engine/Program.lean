import DossierCompliance.Store.Call

/-!
Programs: work that reads the clock, draws new identifiers and calls a store.
A program is a tree that says which call comes next for every reply to the one
before, so it can be run on any store, in one go or call by call.
-/

namespace DossierCompliance

inductive Call where
  | now
  | newId
  | store (c : StoreCall)

def Call.Reply : Call → Type
  | now => Instant
  | newId => Uuid
  | store c => c.Reply

inductive Program (α : Type) where
  | done (a : α)
  | call (c : Call) (next : c.Reply → Program α)

namespace Program

variable {α β σ : Type}

def bind : Program α → (α → Program β) → Program β
  | done a, f => f a
  | call c next, f => call c fun r => (next r).bind f

instance : Monad Program where
  pure := done
  bind := bind

def now : Program Instant :=
  call .now done

def newId : Program Uuid :=
  call .newId done

def store (c : StoreCall) : Program c.Reply :=
  call (.store c) done

theorem bind_done (p : Program α) : p.bind done = p := by
  induction p with
  | done a => rfl
  | call c next ih => exact congrArg (call c) (funext ih)

theorem bind_assoc {γ : Type} (p : Program α) (f : α → Program β) (g : β → Program γ) :
    (p.bind f).bind g = p.bind fun a => (f a).bind g := by
  induction p with
  | done a => rfl
  | call c next ih => exact congrArg (call c) (funext ih)

instance : LawfulMonad Program :=
  LawfulMonad.mk' _ bind_done (fun _ _ => rfl) bind_assoc

end Program

/-- The clock and the source of identifiers that a run draws on: what each
reading gives, counted from zero. -/
structure Supply where
  instant : Nat → Instant
  id : Nat → Uuid

namespace Program

variable {α β σ : Type}

/-- Runs a program on a store after a number of readings. -/
def runFrom (h : StoreHandler σ) (supply : Supply) : Program α → Nat → σ → α × σ
  | done a, _, s => (a, s)
  | call .now next, n, s => runFrom h supply (next (supply.instant n)) (n + 1) s
  | call .newId next, n, s => runFrom h supply (next (supply.id n)) (n + 1) s
  | call (.store c) next, n, s =>
    let (reply, s) := h c s
    runFrom h supply (next reply) n s

def run (h : StoreHandler σ) (supply : Supply) (p : Program α) (s : σ) : α × σ :=
  p.runFrom h supply 0 s

end Program

end DossierCompliance
