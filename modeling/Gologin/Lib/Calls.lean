import Mathlib.Init

/-!
# Programs of atomic calls

A program computes on its own and makes calls to a state it shares with others, one
after the other. Each call is atomic; between two calls of a program anything may happen
to the shared state. `Always` is the rule for that case: it holds of a program whose
calls and result are right whatever the answers are, as long as each answer is one that
the state may give, and `Follows` when they depend on the answers before. `run` is the
program with nothing in between.
-/

namespace Calls
set_option autoImplicit false

/-- A program that makes calls `κ`, where a call `c` is answered with an `ans c`. -/
inductive Program (κ : Type) (ans : κ → Type) (α : Type) where
  | done (a : α)
  | call (c : κ) (next : ans c → Program κ ans α)

namespace Program

section
variable {κ : Type} {ans : κ → Type} {α β γ σ : Type}

def bind : Program κ ans α → (α → Program κ ans β) → Program κ ans β
  | done a, f => f a
  | call c next, f => call c fun x => (next x).bind f

/-- The program that makes one call and returns its answer. -/
def ask (c : κ) : Program κ ans (ans c) := call c done

instance : Monad (Program κ ans) where
  pure := done
  bind := bind

@[simp] theorem done_bind (a : α) (f : α → Program κ ans β) : (done a : Program κ ans α).bind f = f a := rfl

@[simp] theorem call_bind (c : κ) (next : ans c → Program κ ans α) (f : α → Program κ ans β) :
    (call c next).bind f = call c fun x => (next x).bind f := rfl

@[simp] theorem pure_eq (a : α) : (pure a : Program κ ans α) = done a := rfl

@[simp] theorem bind_eq (p : Program κ ans α) (f : α → Program κ ans β) : (p >>= f) = p.bind f := rfl

theorem bind_assoc (p : Program κ ans α) (f : α → Program κ ans β) (g : β → Program κ ans γ) :
    (p.bind f).bind g = p.bind fun a => (f a).bind g := by
  induction p with
  | done a => rfl
  | call c next ih =>
    simp only [call_bind, Program.call.injEq, heq_eq_eq, true_and]
    funext x
    exact ih x

/-! ## What holds whatever happens in between -/

/-- Every call the program makes satisfies `Pre` and its result satisfies `Q`, when the
answers satisfy `Ok`. -/
def Always (Pre : κ → Prop) (Ok : (c : κ) → ans c → Prop) (Q : α → Prop) : Program κ ans α → Prop
  | done a => Q a
  | call c next => Pre c ∧ ∀ x, Ok c x → Always Pre Ok Q (next x)

variable {Pre : κ → Prop} {Ok : (c : κ) → ans c → Prop}

/-- Sequencing. -/
theorem Always.bind {Q : α → Prop} {R : β → Prop} {f : α → Program κ ans β}
    (then_ : ∀ a, Q a → Always Pre Ok R (f a)) {p : Program κ ans α} (h : Always Pre Ok Q p) :
    Always Pre Ok R (p.bind f) := by
  induction p with
  | done a => exact then_ a h
  | call c next ih => exact ⟨h.1, fun x ok => ih x (h.2 x ok)⟩

/-! ## With a record of the answers -/

/-- `Always` for calls that are right by what was answered before: `move` keeps the record. -/
def Follows (Pre : γ → κ → Prop) (Ok : (c : κ) → ans c → Prop) (move : γ → (c : κ) → ans c → γ)
    (Q : γ → α → Prop) : γ → Program κ ans α → Prop
  | g, done a => Q g a
  | g, call c next => Pre g c ∧ ∀ x, Ok c x → Follows Pre Ok move Q (move g c x) (next x)

section
variable {Pre : γ → κ → Prop} {move : γ → (c : κ) → ans c → γ}

theorem Follows.bind {Q : γ → α → Prop} {R : γ → β → Prop} {f : α → Program κ ans β}
    (then_ : ∀ g a, Q g a → Follows Pre Ok move R g (f a)) {g : γ} {p : Program κ ans α}
    (h : Follows Pre Ok move Q g p) : Follows Pre Ok move R g (p.bind f) := by
  induction p generalizing g with
  | done a => exact then_ g a h
  | call c next ih => exact ⟨h.1, fun x ok => ih x (h.2 x ok)⟩

end

/-! ## What happens with nothing in between -/

/-- The program run on a state that `answer` reads and changes. -/
def run (answer : (c : κ) → σ → ans c × σ) : Program κ ans α → σ → α × σ
  | done a, s => (a, s)
  | call c next, s => run answer (next (answer c s).1) (answer c s).2

variable {answer : (c : κ) → σ → ans c × σ}

@[simp] theorem run_done (a : α) (s : σ) : run answer (done a) s = (a, s) := rfl

@[simp] theorem run_call (c : κ) (next : ans c → Program κ ans α) (s : σ) :
    run answer (call c next) s = run answer (next (answer c s).1) (answer c s).2 := rfl

theorem run_bind (p : Program κ ans α) (f : α → Program κ ans β) (s : σ) :
    run answer (p.bind f) s = run answer (f (run answer p s).1) (run answer p s).2 := by
  induction p generalizing s with
  | done a => rfl
  | call c next ih => exact ih (answer c s).1 (answer c s).2

/-- What every answer keeps, a run keeps. -/
theorem run_keeps {I : σ → Prop} (keep : ∀ c s, I s → I (answer c s).2) (p : Program κ ans α) {s : σ}
    (start : I s) : I (run answer p s).2 := by
  induction p generalizing s with
  | done a => exact start
  | call c next ih => exact ih _ (keep c s start)

/-- What the answers to a program's own calls keep, a run of it keeps. -/
theorem Always.run_keeps {I : σ → Prop} {Q : α → Prop} {p : Program κ ans α}
    (always : Always Pre (fun _ _ => True) Q p) (keep : ∀ c s, Pre c → I s → I (answer c s).2) {s : σ}
    (start : I s) : I (run answer p s).2 := by
  induction p generalizing s with
  | done a => exact start
  | call c next ih => exact ih _ (always.2 _ trivial) (keep c s always.1 start)

end

end Program

end Calls
