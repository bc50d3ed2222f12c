import DossierCompliance.Engine.Program

/-!
What a run of a program asks of a store and is told by it. A store can keep a
record of its own calls; what it records of a run is the trace of the run, and
keeping the record changes nothing else. The trace of one program behind
another is the one trace behind the other.
-/

namespace DossierCompliance

/-- A call to a store and the reply to it. -/
structure Exchange where
  call : StoreCall
  reply : call.Reply

/-- A store with a record of what it was asked and what it replied. -/
def recording {σ : Type} (h : StoreHandler σ) : StoreHandler (σ × List Exchange) :=
  fun c s =>
    let (reply, t) := h c s.1
    (reply, t, s.2 ++ [⟨c, reply⟩])

/-- The end of a run and what was asked of the store on the way. -/
structure Trace (σ α : Type) where
  value : α
  store : σ
  readings : Nat
  exchanges : List Exchange

/-- The same end, with some exchanges before. -/
def Trace.behind {σ α : Type} (earlier : List Exchange) (t : Trace σ α) : Trace σ α :=
  { t with exchanges := earlier ++ t.exchanges }

namespace Program

variable {α β σ : Type} (h : StoreHandler σ) (supply : Supply)

def trace : Program α → Nat → σ → Trace σ α
  | done a, n, s => ⟨a, s, n, []⟩
  | call .now next, n, s => trace (next (supply.instant n)) (n + 1) s
  | call .newId next, n, s => trace (next (supply.id n)) (n + 1) s
  | call (.store c) next, n, s =>
    (trace (next (h c s).1) n (h c s).2).behind [⟨c, (h c s).1⟩]

/-- A run ends as its trace does. -/
theorem runFrom_eq_trace (p : Program α) (n : Nat) (s : σ) :
    p.runFrom h supply n s = ((p.trace h supply n s).value, (p.trace h supply n s).store) := by
  induction p generalizing n s with
  | done a => rfl
  | call c next ih =>
    cases c with
    | now => exact ih (supply.instant n) (n + 1) s
    | newId => exact ih (supply.id n) (n + 1) s
    | store c => exact ih (h c s).1 n (h c s).2

/-- A store that records its calls ends with the trace behind its record, and
otherwise as without one. -/
theorem runFrom_recording (p : Program α) (n : Nat) (s : σ) (log : List Exchange) :
    p.runFrom (recording h) supply n (s, log) =
      ((p.trace h supply n s).value, (p.trace h supply n s).store,
        log ++ (p.trace h supply n s).exchanges) := by
  induction p generalizing n s log with
  | done a => simp [runFrom, trace]
  | call c next ih =>
    cases c with
    | now => exact ih (supply.instant n) (n + 1) s log
    | newId => exact ih (supply.id n) (n + 1) s log
    | store c =>
      have hrest := ih (h c s).1 n (h c s).2 (log ++ [⟨c, (h c s).1⟩])
      rw [List.append_assoc] at hrest
      exact hrest

theorem trace_bind (p : Program α) (f : α → Program β) (n : Nat) (s : σ) :
    (p >>= f).trace h supply n s =
      ((f (p.trace h supply n s).value).trace h supply (p.trace h supply n s).readings
        (p.trace h supply n s).store).behind (p.trace h supply n s).exchanges := by
  induction p generalizing n s with
  | done a => rfl
  | call c next ih =>
    cases c with
    | now => exact ih (supply.instant n) (n + 1) s
    | newId => exact ih (supply.id n) (n + 1) s
    | store c => exact congrArg (Trace.behind [⟨c, (h c s).1⟩]) (ih (h c s).1 n (h c s).2)

/-- A run of one program behind another goes on where the first one ended. -/
theorem runFrom_bind (p : Program α) (f : α → Program β) (n : Nat) (s : σ) :
    (p >>= f).runFrom h supply n s =
      (f (p.trace h supply n s).value).runFrom h supply (p.trace h supply n s).readings
        (p.trace h supply n s).store := by
  rw [runFrom_eq_trace, runFrom_eq_trace, trace_bind]
  rfl

/-- What is made of the end of a run does not touch the store. -/
theorem runFrom_map (p : Program α) (f : α → β) (n : Nat) (s : σ) :
    (p >>= fun a => pure (f a)).runFrom h supply n s =
      (f (p.runFrom h supply n s).1, (p.runFrom h supply n s).2) := by
  rw [runFrom_bind, runFrom_eq_trace h supply p]
  rfl

theorem trace_pure (a : α) (n : Nat) (s : σ) :
    (pure a : Program α).trace h supply n s = ⟨a, s, n, []⟩ := rfl

theorem trace_now (n : Nat) (s : σ) :
    now.trace h supply n s = ⟨supply.instant n, s, n + 1, []⟩ := rfl

theorem trace_newId (n : Nat) (s : σ) :
    newId.trace h supply n s = ⟨supply.id n, s, n + 1, []⟩ := rfl

theorem trace_store (c : StoreCall) (n : Nat) (s : σ) :
    (store c).trace h supply n s = ⟨(h c s).1, (h c s).2, n, [⟨c, (h c s).1⟩]⟩ := rfl

end Program

end DossierCompliance
