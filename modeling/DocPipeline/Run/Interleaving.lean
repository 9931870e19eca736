import DocPipeline.Run.Surroundings

/-!
# Interleaved runs

Several programs that are carried out side by side: a schedule says, step by step, whose turn it is.
A program that is done lets its turns pass.

## Main definitions

* `Interleaving.follow`: programs carried out along a schedule.
* `Interleaving.advanceUntil`: one of them carried on up to a request of some kind.
-/

namespace DocPipeline

/-- Programs side by side: what is left of each, the tokens, and the requests so far in order, each
with the number of the program that made it. -/
structure Interleaving (α : Type) where
  programs : List (Program α)
  tokens : TokenPool
  trace : List (Nat × Request)

namespace Program

variable {α : Type}

/-- How many steps a program takes, alone, before it makes a request of some kind, or in all if it
makes none. -/
def stepsBefore (answer : Answerer) (stop : Request → Bool) : Program α → TokenPool → Nat
  | .done _, _ => 0
  | .step request next, tokens =>
    if stop request then 0
    else
      let (reply, tokens) := answer request tokens
      (next reply).stepsBefore answer stop tokens + 1

end Program

namespace Interleaving

variable {α : Type}

/-- Lets the program of a number take one step. -/
def advance (answer : Program.Answerer) (state : Interleaving α) (number : Nat) :
    Interleaving α :=
  match state.programs[number]? with
  | some (.step request next) =>
    let (reply, tokens) := answer request state.tokens
    { programs := state.programs.set number (next reply)
      tokens
      trace := state.trace ++ [(number, request)] }
  | _ => state

/-- Carries programs out along a schedule. -/
def follow (answer : Program.Answerer) (state : Interleaving α) (schedule : List Nat) :
    Interleaving α :=
  schedule.foldl (advance answer) state

/-- Lets the program of a number go on alone until it is about to make a request of some kind, or is
done. -/
def advanceUntil (answer : Program.Answerer) (stop : Request → Bool) (state : Interleaving α)
    (number : Nat) : Interleaving α :=
  match state.programs[number]? with
  | some program =>
    state.follow answer
      (List.replicate (program.stepsBefore answer stop state.tokens) number)
  | none => state

/-- Lets the program of a number go on alone to its end. -/
def finish (answer : Program.Answerer) (state : Interleaving α) (number : Nat) :
    Interleaving α :=
  state.advanceUntil answer (fun _ => false) number

/-- The values of the programs that are done. -/
def values (state : Interleaving α) : List (Option α) := state.programs.map Program.value?

/-- The requests so far. -/
def requests (state : Interleaving α) : List Request := state.trace.map (·.2)

end Interleaving

end DocPipeline
