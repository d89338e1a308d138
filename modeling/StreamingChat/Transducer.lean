/-!
# Transducers

A transducer reads its input one symbol at a time and answers each symbol with a list of outputs.
Decoding bytes to characters and framing characters to lines are transducers. Main statement:
`run_append`, by which cutting an input into pieces changes neither the outputs nor the state.
-/

namespace StreamingChat

/-- A machine with states `σ`, input symbols `α` and output symbols `β`. -/
structure Transducer (σ α β : Type) where
  /-- The next state and the outputs for one input symbol. -/
  step : σ → α → σ × List β

namespace Transducer

variable {σ α β : Type}

/-- Runs through an input, adding the outputs to those already `done`. -/
def collect (machine : Transducer σ α β) (state : σ) (done : Array β) : List α → σ × Array β
  | [] => (state, done)
  | symbol :: rest =>
      machine.collect (machine.step state symbol).1 (done ++ (machine.step state symbol).2) rest

/-- The state after an input, and all outputs in order. -/
def run (machine : Transducer σ α β) (state : σ) (input : List α) : σ × List β :=
  let final := machine.collect state #[] input
  (final.1, final.2.toList)

theorem collect_eq_run (machine : Transducer σ α β) (state : σ) (done : Array β)
    (input : List α) :
    machine.collect state done input =
      ((machine.run state input).1, done ++ (machine.run state input).2) := by
  induction input generalizing state done with
  | nil => simp [run, collect]
  | cons symbol rest ih =>
      simp only [run, collect]
      rw [ih, ih _ (#[] ++ _)]
      refine Prod.ext (by rfl) ?_
      apply Array.ext'
      simp

@[simp]
theorem run_nil (machine : Transducer σ α β) (state : σ) : machine.run state [] = (state, []) := by
  simp [run, collect]

theorem run_cons (machine : Transducer σ α β) (state : σ) (symbol : α) (rest : List α) :
    machine.run state (symbol :: rest) =
      ((machine.run (machine.step state symbol).1 rest).1,
        (machine.step state symbol).2 ++ (machine.run (machine.step state symbol).1 rest).2) := by
  rw [run, collect, collect_eq_run]
  simp

/-- Reading two pieces one after the other is reading them as one. -/
theorem run_append (machine : Transducer σ α β) (state : σ) (first second : List α) :
    machine.run state (first ++ second) =
      ((machine.run (machine.run state first).1 second).1,
        (machine.run state first).2 ++ (machine.run (machine.run state first).1 second).2) := by
  induction first generalizing state with
  | nil => simp
  | cons symbol rest ih => simp [run_cons, ih]

end Transducer

end StreamingChat
