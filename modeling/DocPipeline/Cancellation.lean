import DocPipeline.Failure
import DocPipeline.Text.Quoted

/-!
# Cancellation

A token tells runs that they should stop. Anybody may cancel it, as often as they like; the reason
that is given first is the one that stays. Runs look at their token between stages.

Tokens live in a pool, where they are known by their numbers. Whoever has the number of a token
shares the token with all others who have it.

## Main definitions

* `CancellationToken.cancel`, `CancellationToken.check`.
* `TokenPool`: tokens by number.
-/

namespace DocPipeline

/-- A token that tells runs to stop. -/
structure CancellationToken where
  /-- Why runs should stop, in the words of whoever asked first; none as long as nobody asks. -/
  reason : Option String := none
deriving DecidableEq, Repr

namespace CancellationToken

/-- The token that nobody has cancelled. -/
def untouched : CancellationToken := {}

/-- Whether somebody asked runs to stop. -/
def isCancelled (token : CancellationToken) : Bool := token.reason.isSome

/-- Asks runs to stop. A reason that is there already stays. -/
def cancel (token : CancellationToken) (reason : String) : CancellationToken :=
  ⟨token.reason.or (some reason)⟩

/-- Stops a run in front of a checkpoint if somebody asked for it. -/
def check (token : CancellationToken) (checkpoint : String) : Except PipelineError Unit :=
  match token.reason with
  | none => .ok ()
  | some reason => .error (.cancelled s!"{reason} (before {checkpoint})")

/-- A token in a diagnostic line. -/
def diagnostic (token : CancellationToken) : String :=
  let reason := match token.reason with
    | none => "None"
    | some reason => "Some(" ++ Text.quoted reason ++ ")"
  s!"CancellationToken \x7b cancelled: {token.isCancelled}, reason: {reason} \x7d"

end CancellationToken

/-! ### Pools -/

/-- Tokens by number. -/
structure TokenPool where
  tokens : List CancellationToken := []
deriving DecidableEq, Repr

namespace TokenPool

/-- The token of a number; a number that is not given out has a token nobody can cancel. -/
def get (pool : TokenPool) (number : Nat) : CancellationToken := pool.tokens.getD number .untouched

/-- A new token: its number, and the pool with it. -/
def fresh (pool : TokenPool) : Nat × TokenPool :=
  (pool.tokens.length, ⟨pool.tokens ++ [.untouched]⟩)

/-- Cancels the token of a number. -/
def cancel (pool : TokenPool) (number : Nat) (reason : String) : TokenPool :=
  ⟨pool.tokens.modify number (·.cancel reason)⟩

end TokenPool

end DocPipeline
