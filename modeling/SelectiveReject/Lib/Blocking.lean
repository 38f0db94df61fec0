/-
# `Blocking` — programs with loops that wait for their inputs, and the machines they are

A program `Prog P E S A` has a state and reads inputs one after the other, each at a place.  Run
on the inputs that have come so far it has

    ret       returned, and left the rest of the inputs
    exit      called exit
    blocked   to wait at a place, because there is no further input
    spin      used up its fuel

A loop is a recursion with fuel; fuel that runs out is `spin`, so a run that ends in
anything else did not need more.

An input-driven machine (`Machine.feed`) is such a program cut at its reads.  `run_eq_seen` is
the rule for proving that it is: relate each state of the machine to what the program still
has to do there, and show that one input takes related ones to related ones.  The relation is
indexed by a bound on the number of inputs to come, which is what the fuel has to cover.
-/
import SelectiveReject.Lib.Machine

namespace Blocking

open Machine

universe u

variable {P E S A B C M : Type u}

/-! ## Programs -/

inductive Outcome (P E S A : Type u) where
  | ret (a : A) (s : S) (rest : List E)
  | exit (s : S)
  | blocked (place : P) (s : S)
  | spin
deriving DecidableEq, Repr

/-- A program that has returned is followed by `f`. -/
def Outcome.bind (f : A → S → List E → Outcome P E S B) : Outcome P E S A → Outcome P E S B
  | .ret a s rest => f a s rest
  | .exit s => .exit s
  | .blocked place s => .blocked place s
  | .spin => .spin

/-- A call that comes back in the state given, or calls `exit` in it. -/
def Outcome.settle (es : List E) : Except S S → Outcome P E S PUnit
  | .ok s => .ret ⟨⟩ s es
  | .error s => .exit s

def Prog (P E S A : Type u) : Type u := S → List E → Outcome P E S A

namespace Prog

instance : Monad (Prog P E S) where
  pure a := fun s es => .ret a s es
  bind p f := fun s es => (p s es).bind f

/-- The next input. -/
def input (place : P) : Prog P E S E
  | s, [] => .blocked place s
  | s, e :: es => .ret e s es

def get : Prog P E S S := fun s es => .ret s s es

def modify (f : S → S) : Prog P E S PUnit := fun s es => .ret ⟨⟩ (f s) es

def exit : Prog P E S A := fun s _ => .exit s

def spin : Prog P E S A := fun _ _ => .spin

theorem get_bind (f : S → Prog P E S A) (s : S) (es : List E) :
    (get >>= f) s es = f s s es := rfl

theorem modify_apply (f : S → S) (s : S) (es : List E) :
    (modify f : Prog P E S PUnit) s es = .ret ⟨⟩ (f s) es := rfl

theorem modify_bind (f : S → S) (g : PUnit → Prog P E S A) (s : S) (es : List E) :
    (modify f >>= g) s es = g ⟨⟩ (f s) es := rfl

theorem ite_apply (c : Prop) [Decidable c] (p q : Prog P E S A) (s : S) (es : List E) :
    (if c then p else q) s es = if c then p s es else q s es :=
  apply_ite (fun p : Prog P E S A => p s es) c p q

theorem bind_assoc (p : Prog P E S A) (f : A → Prog P E S B) (g : B → Prog P E S C) :
    (p >>= f) >>= g = p >>= fun a => f a >>= g := by
  funext s es
  show ((p s es).bind f).bind g = (p s es).bind fun a s es => (f a s es).bind g
  cases p s es with
  | ret a s rest => rfl
  | exit s => rfl
  | blocked place s => rfl
  | spin => rfl

end Prog

/-! ## Runs -/

/-- What can be told of a run without the inputs it has left. -/
inductive Seen (P S A : Type u) where
  | returned (a : A) (s : S)
  | exited (s : S)
  | waiting (place : P) (s : S)
  | spinning
deriving DecidableEq, Repr

def Outcome.seen : Outcome P E S A → Seen P S A
  | .ret a s _ => .returned a s
  | .exit s => .exited s
  | .blocked place s => .waiting place s
  | .spin => .spinning

def Prog.run (p : Prog P E S A) (s : S) (es : List E) : Seen P S A := (p s es).seen

/-- What is behind a program sees only what the program has come to. -/
theorem run_bind_congr {p q : Prog P E S A} {s s' : S} {es es' : List E}
    (h : p s es = q s' es') (f : A → Prog P E S B) : (p >>= f).run s es = (q >>= f).run s' es' := by
  show ((p s es).bind f).seen = ((q s' es').bind f).seen
  rw [h]

theorem run_bind_ret {p : Prog P E S A} {s s' : S} {es es' : List E} {a : A}
    (h : p s es = .ret a s' es') (f : A → Prog P E S B) : (p >>= f).run s es = (f a).run s' es' := by
  show ((p s es).bind f).seen = (f a s' es').seen
  rw [h]
  rfl

theorem run_bind_exit {p : Prog P E S A} {s s' : S} {es : List E} (h : p s es = .exit s')
    (f : A → Prog P E S B) : (p >>= f).run s es = .exited s' := by
  show ((p s es).bind f).seen = .exited s'
  rw [h]
  rfl

/-- `p` in `s` gets to something related to `m` without reading. -/
def Leads (rel : M → S → Prog P E S A → Prop) (m : M) (s : S) (p : Prog P E S A) : Prop :=
  ∃ s' p', rel m s' p' ∧ ∀ es, p.run s es = p'.run s' es

theorem Leads.refl {rel : M → S → Prog P E S A → Prop} {m : M} {s : S} {p : Prog P E S A}
    (h : rel m s p) : Leads rel m s p :=
  ⟨s, p, h, fun _ => rfl⟩

theorem Leads.of_run {rel : M → S → Prog P E S A → Prop} {m : M} {s s' : S} {p p' : Prog P E S A}
    (h : Leads rel m s' p') (hrun : ∀ es, p.run s es = p'.run s' es) : Leads rel m s p := by
  obtain ⟨s₁, p₁, hrel, hrun'⟩ := h
  exact ⟨s₁, p₁, hrel, fun es => (hrun es).trans (hrun' es)⟩

/-- A program is the machine when each input takes related ones to related ones, and
related ones look the same while nothing comes. -/
theorem run_eq_seen {step : M → E → M} {see : M → Seen P S A}
    {rel : Nat → M → S → Prog P E S A → Prop}
    (hidle : ∀ {n m s p}, rel n m s p → p.run s [] = see m)
    (hstep : ∀ {n m s p} (e : E), rel (n + 1) m s p →
      ∃ s' p', rel n (step m e) s' p' ∧ ∀ es, p.run s (e :: es) = p'.run s' es) :
    ∀ {es : List E} {n : Nat} {m : M} {s : S} {p : Prog P E S A}, es.length ≤ n → rel n m s p →
      p.run s es = see (feed step m es) := by
  intro es
  induction es with
  | nil =>
      intro n m s p _ hrel
      exact hidle hrel
  | cons e es ih =>
      intro n m s p hlen hrel
      cases n with
      | zero => cases hlen
      | succ n =>
          obtain ⟨s', p', hrel', hrun⟩ := hstep e hrel
          rw [hrun es, feed_cons]
          exact ih (Nat.le_of_succ_le_succ hlen) hrel'

end Blocking
