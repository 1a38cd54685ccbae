/-!
# Runs of case mappings

Most letters of a script lie at one distance from their other form, either all of them in a row
or every second one. A run keeps such letters together.
-/

namespace Vigil.Text

/-- The code points `first`, `first + step`, …, `last`, each mapped to the one `offset` away. -/
structure CaseRun where
  first : Nat
  last : Nat
  step : Nat
  offset : Int

/-- Whether a code point belongs to the run. -/
def CaseRun.covers (run : CaseRun) (code : Nat) : Bool :=
  run.first ≤ code && code ≤ run.last && (code - run.first) % run.step == 0

/-- What a table of runs and expansions makes of one character; others stay as they are. -/
def mapCase
    (runs : List CaseRun)
    (expansions : List (Nat × List Nat))
    (character : Char) : List Char :=
  let code := character.toNat
  match expansions.find? (·.1 == code) with
  | some (_, codes) => codes.map Char.ofNat
  | none =>
    match runs.find? (·.covers code) with
    | some run => [Char.ofNat (code + run.offset).toNat]
    | none => [character]

end Vigil.Text
