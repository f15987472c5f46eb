import Statechart.Login.Account

/-!
# Authenticators: who answers login attempts

A simulated authenticator gives the same answer to every attempt, after the same time. A scripted
one gives its answers one after another and refuses once they are used up.
-/
namespace Statechart.Login

/-- The answer to an attempt. -/
abbrev Verdict : Type := Except Rejection Identity

/-- Who answers login attempts. Times are in milliseconds. -/
inductive Authenticator where
  | simulated (latency : Nat) (verdict : Verdict) (calls : Nat)
  | scripted (answers : List (Nat × Verdict)) (seen : List Credentials)

/-- A login attempt, at one of its stages. -/
inductive Attempt where
  /-- Not yet begun. -/
  | fresh (credentials : Credentials)
  /-- Waiting for an answer that is certain already. -/
  | awaiting (verdict : Verdict)

namespace Authenticator

/-- How long a simulated authenticator usually takes. -/
def usualLatency : Nat := 5000

def usual : Authenticator := .simulated usualLatency (.ok ⟨"me"⟩) 0

/-- The answer of a scripted authenticator that has no answers left. -/
def exhausted : Verdict := .error (.rejected "script exhausted")

/-- Begins an attempt: the time that passes until its answer, if any does, and the answer. -/
def call (credentials : Credentials) : Authenticator → (Option Nat × Verdict) × Authenticator
  | .simulated latency verdict calls =>
    ((some latency, verdict), .simulated latency verdict (calls + 1))
  | .scripted [] seen => ((none, exhausted), .scripted [] (seen ++ [credentials]))
  | .scripted ((latency, verdict) :: rest) seen =>
    ((if 0 < latency then some latency else none, verdict),
      .scripted rest (seen ++ [credentials]))

end Authenticator

end Statechart.Login
