import Mathlib

/-!
# Coroutines over a port

An asynchronous function is embedded as the tree of what it awaits. A `Prog` is either
finished, with a value or a raised exception, or suspended at a request to its environment
together with what it does for every answer, an exception included. The code between two
awaits is ordinary Lean. Nothing here fixes what the requests are: a `Port` lists them and
the type each is answered with.

`attempt` is the body of a `try` statement (the handlers are a match on its value), and
`shield` marks the awaits that a cancellation of the caller cannot interrupt.
-/

namespace Coro

/-- The requests a coroutine can await, and the type each one is answered with. -/
structure Port where
  Op : Type
  Ans : Op → Type

/-- A coroutine that answers with an `α` or raises an `ε`. The flag of an await says whether
it stands under a shield. -/
inductive Prog (P : Port) (ε α : Type) : Type where
  | done (r : Except ε α)
  | await (shielded : Bool) (op : P.Op) (k : Except ε (P.Ans op) → Prog P ε α)

/-- One answered request. -/
structure Event (P : Port) (ε : Type) where
  op : P.Op
  ans : Except ε (P.Ans op)

namespace Prog

variable {P : Port} {ε α β : Type}

/-- Run `c`, then `f` on its value; an exception of `c` skips `f`. -/
def bind : Prog P ε α → (α → Prog P ε β) → Prog P ε β
  | done (.ok a), f => f a
  | done (.error e), _ => done (.error e)
  | await sh op k, f => await sh op fun a => (k a).bind f

instance : Monad (Prog P ε) where
  pure a := done (.ok a)
  bind := Prog.bind

/-- Await one request. -/
def perform (op : P.Op) : Prog P ε (P.Ans op) :=
  await false op done

/-- Raise an exception. -/
def raise (e : ε) : Prog P ε α :=
  done (.error e)

/-- The outcome of a computation that awaits nothing. -/
def ofExcept (r : Except ε α) : Prog P ε α :=
  done r

/-- The body of a `try` statement: its outcome as a value. -/
def attempt : Prog P ε α → Prog P ε (Except ε α)
  | done r => done (.ok r)
  | await sh op k => await sh op fun a => (k a).attempt

/-- Every await of `c` put under a shield. -/
def shield : Prog P ε α → Prog P ε α
  | done r => done r
  | await _ op k => await true op fun a => (k a).shield

/-- The outcome of a coroutine that is finished. -/
def outcome? : Prog P ε α → Option (Except ε α)
  | done r => some r
  | await _ _ _ => none

theorem outcome?_eq_some {c : Prog P ε α} {r : Except ε α} : c.outcome? = some r ↔ c = done r := by
  cases c <;> simp [outcome?]

/-- A coroutine that makes none of the requests, whatever it is answered. -/
def Avoids (p : P.Op → Prop) : Prog P ε α → Prop
  | done _ => True
  | await _ op k => ¬ p op ∧ ∀ a, (k a).Avoids p

@[simp] theorem pure_eq (a : α) : (pure a : Prog P ε α) = done (.ok a) := rfl

@[simp] theorem ok_bind (a : α) (f : α → Prog P ε β) : (done (.ok a) : Prog P ε α) >>= f = f a := rfl

@[simp] theorem error_bind (e : ε) (f : α → Prog P ε β) :
    (done (.error e) : Prog P ε α) >>= f = done (.error e) := rfl

@[simp] theorem await_bind (sh : Bool) (op : P.Op) (k : Except ε (P.Ans op) → Prog P ε α)
    (f : α → Prog P ε β) : await sh op k >>= f = await sh op fun a => k a >>= f := rfl

section Avoids

variable {p : P.Op → Prop} {c : Prog P ε α} {op : P.Op}

theorem Avoids.perform (h : ¬ p op) : (perform op : Prog P ε (P.Ans op)).Avoids p :=
  ⟨h, fun _ => trivial⟩

theorem Avoids.done (r : Except ε α) : (done r : Prog P ε α).Avoids p := trivial

theorem avoids_await {sh : Bool} {k : Except ε (P.Ans op) → Prog P ε α} :
    (await sh op k).Avoids p ↔ ¬ p op ∧ ∀ a, (k a).Avoids p := Iff.rfl

variable (hc : c.Avoids p)

include hc

theorem Avoids.bind {f : α → Prog P ε β} (hf : ∀ a, (f a).Avoids p) : (c >>= f).Avoids p := by
  induction c with
  | done r =>
    cases r with
    | ok a => exact hf a
    | error e => trivial
  | await sh op k ih => exact ⟨hc.1, fun a => ih a (hc.2 a)⟩

theorem Avoids.attempt : c.attempt.Avoids p := by
  induction c with
  | done r => trivial
  | await sh op k ih => exact ⟨hc.1, fun a => ih a (hc.2 a)⟩

theorem Avoids.shield : c.shield.Avoids p := by
  induction c with
  | done r => trivial
  | await sh op k ih => exact ⟨hc.1, fun a => ih a (hc.2 a)⟩

theorem Avoids.ite {q : Prop} [Decidable q] {d : Prog P ε α} (hd : d.Avoids p) :
    (if q then c else d).Avoids p := by
  by_cases hq : q
  · simpa [hq] using hc
  · simpa [hq] using hd

-- As with `wp`, only the rules are used.
attribute [irreducible] Avoids

end Avoids

end Prog

end Coro
