/-! Programs that read their input by calls, where what a call returns decides which call comes
next. -/

inductive ReadProgram (κ ρ α : Type) where
  | done (a : α)
  | read (call : κ) (next : ρ → ReadProgram κ ρ α)

namespace ReadProgram

variable {κ ρ α β σ τ ε : Type}

def bind : ReadProgram κ ρ α → (α → ReadProgram κ ρ β) → ReadProgram κ ρ β
  | done a, f => f a
  | read call next, f => read call fun r => (next r).bind f

instance : Monad (ReadProgram κ ρ) where
  pure := done
  bind := bind

/-- Runs a program; `reader` says what a call returns in a state, and the state behind it. -/
def run {m : Type → Type} [Monad m] (reader : κ → σ → m (ρ × σ)) :
    ReadProgram κ ρ α → σ → m (α × σ)
  | done a, s => pure (a, s)
  | read call next, s => do
    let (r, s') ← reader call s
    (next r).run reader s'

/-- The calls that a program makes, each with the state before it. -/
def calls (reader : κ → σ → Except ε (ρ × σ)) : ReadProgram κ ρ α → σ → List (κ × σ)
  | done _, _ => []
  | read call next, s =>
    (call, s) :: match reader call s with
      | .ok (r, s') => (next r).calls reader s'
      | .error _ => []

/-- A program whose calls return what those of another reader do has the result that it has
with the other reader. -/
theorem run_of_calls {R : σ → τ → Prop} {reader : κ → σ → Except ε (ρ × σ)}
    {reader' : κ → τ → Option (ρ × τ)} (program : ReadProgram κ ρ α) {s : σ} {t : τ}
    (hcalls : ∀ c ∈ program.calls reader s, ∀ t, R c.2 t →
      ∃ r s' t', reader c.1 c.2 = .ok (r, s') ∧ reader' c.1 t = some (r, t') ∧ R s' t')
    (hR : R s t) :
    ∃ a s' t', program.run reader s = .ok (a, s') ∧ program.run reader' t = some (a, t') ∧
      R s' t' := by
  induction program generalizing s t with
  | done a => exact ⟨a, s, t, rfl, rfl, hR⟩
  | read call next ih =>
    have hfirst : (call, s) ∈ (read call next).calls reader s := by
      rw [calls]
      exact List.mem_cons_self
    obtain ⟨r, s', t', hread, hread', hR'⟩ := hcalls _ hfirst t hR
    have hlater : ∀ c ∈ (next r).calls reader s', c ∈ (read call next).calls reader s := by
      intro c hc
      rw [calls, hread]
      exact List.mem_cons_of_mem _ hc
    obtain ⟨a, s'', t'', hrun, hrun', hR''⟩ := ih r (fun c hc => hcalls c (hlater c hc)) hR'
    refine ⟨a, s'', t'', ?_, ?_, hR''⟩
    · rw [run, hread]
      exact hrun
    · rw [run, hread']
      exact hrun'

/-- Taking `input` from the front of a stream, the program gets to the other program. -/
inductive Leads (reader : κ → List τ → Option (ρ × List τ)) :
    ReadProgram κ ρ α → List τ → ReadProgram κ ρ α → Prop
  | refl (program : ReadProgram κ ρ α) : Leads reader program [] program
  | read {call : κ} {next : ρ → ReadProgram κ ρ α} {r : ρ} {front input : List τ}
      {program : ReadProgram κ ρ α} (hread : ∀ rest, reader call (front ++ rest) = some (r, rest))
      (hnext : Leads reader (next r) input program) :
      Leads reader (.read call next) (front ++ input) program

section Leads

variable {reader : κ → List τ → Option (ρ × List τ)} {p q r : ReadProgram κ ρ α}
  {input input' : List τ}

theorem Leads.call {call : κ} {answer : ρ}
    (hread : ∀ rest, reader call (input ++ rest) = some (answer, rest)) :
    Leads reader (.read call .done) input (.done answer) := by
  have hleads := Leads.read hread (.refl (done answer))
  rwa [List.append_nil] at hleads

theorem Leads.trans (hp : Leads reader p input q) (hq : Leads reader q input' r) :
    Leads reader p (input ++ input') r := by
  induction hp with
  | refl => exact hq
  | read hread _ ih =>
    rw [List.append_assoc]
    exact .read hread (ih hq)

theorem Leads.bind (hp : Leads reader p input q) (f : α → ReadProgram κ ρ β) :
    Leads reader (p >>= f) input (q >>= f) := by
  induction hp with
  | refl => exact .refl _
  | read hread _ ih => exact .read hread ih

/-- A first part that returns `a`, and then what is done with it. -/
theorem Leads.andThen {a : α} {f : α → ReadProgram κ ρ β} {q : ReadProgram κ ρ β}
    (hp : Leads reader p input (pure a)) (hq : Leads reader (f a) input' q) :
    Leads reader (p >>= f) (input ++ input') q :=
  (hp.bind f).trans hq

theorem Leads.discard {a : α} (hp : Leads reader p input (pure a)) :
    Leads reader (Functor.discard p) input (pure ()) :=
  hp.bind fun _ => .done ()

/-- Another reader gets to the same program if it does what this one does on the input. `rest` is
what comes behind the input. -/
theorem Leads.run {R : σ → List τ → Prop} {reader' : κ → σ → Except ε (ρ × σ)} {rest : List τ}
    (hp : Leads reader p input q)
    (hcalls : ∀ call r front behind s, (∀ rest, reader call (front ++ rest) = some (r, rest)) →
      R s (front ++ (behind ++ rest)) → ∃ s', reader' call s = .ok (r, s') ∧ R s' (behind ++ rest))
    {s : σ} (hR : R s (input ++ rest)) :
    ∃ s', p.run reader' s = q.run reader' s' ∧ R s' rest := by
  induction hp generalizing s with
  | refl => exact ⟨s, rfl, hR⟩
  | read hread _ ih =>
    rw [List.append_assoc] at hR
    obtain ⟨s₁, hcall, hR₁⟩ := hcalls _ _ _ _ s hread hR
    obtain ⟨s', hrun, hR'⟩ := ih hR₁
    refine ⟨s', ?_, hR'⟩
    rw [ReadProgram.run, hcall]
    exact hrun

end Leads

end ReadProgram
