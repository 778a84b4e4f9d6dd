import Mathlib.Init

/-! # Futures of an event loop

A future is completed once. Whoever completes it a second time gets an error, a second
cancellation is ignored. -/

namespace Aegis

inductive Future (ρ ε : Type) where
  | pending
  | result (value : ρ)
  | exception (error : ε)
  | cancelled
  deriving DecidableEq

namespace Future

variable {ρ ε : Type}

def Done : Future ρ ε → Prop
  | pending => False
  | _ => True

/-- `none` when the state does not allow it. -/
def setResult (value : ρ) : Future ρ ε → Option (Future ρ ε)
  | pending => some (result value)
  | _ => none

def setException (error : ε) : Future ρ ε → Option (Future ρ ε)
  | pending => some (exception error)
  | _ => none

def cancel : Future ρ ε → Future ρ ε
  | pending => cancelled
  | future => future

@[simp] theorem not_done_pending : ¬(pending : Future ρ ε).Done := id

@[simp] theorem done_result (value : ρ) : (result value : Future ρ ε).Done := trivial

@[simp] theorem done_exception (error : ε) : (exception error : Future ρ ε).Done := trivial

@[simp] theorem done_cancelled : (cancelled : Future ρ ε).Done := trivial

end Future

end Aegis
