/-!
# Durations

The text of a time span: whole milliseconds below a second, and seconds with
as many decimals as needed from there on.
-/

namespace SqlGate.Duration

set_option autoImplicit false

def decimals (thousandths : Nat) : String :=
  if thousandths % 1000 = 0 then ""
  else
    let digits := [thousandths / 100 % 10, thousandths / 10 % 10, thousandths % 10]
    let kept := (digits.reverse.dropWhile (· = 0)).reverse
    "." ++ String.join (kept.map toString)

def text (millis : Nat) : String :=
  if millis < 1000 then s!"{millis}ms" else s!"{millis / 1000}{decimals (millis % 1000)}s"

example : text 50 = "50ms" ∧ text 30000 = "30s" ∧ text 2001 = "2.001s" ∧ text 1500 = "1.5s" := by
  decide +kernel

end SqlGate.Duration
