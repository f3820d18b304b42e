import BattlePilot.Battle.Play

/-!
Asking other players for help. The button lies further down the page.
-/

namespace BattlePilot.Play

variable (cfg : Settings)

/-- Scrolls down until the button is found, up to so many times. -/
def seekBackup (anchor : Point) : (tries : Nat) → Play Bool
  | 0 => pure false
  | tries + 1 => do
    if ← findAndClick cfg "request_backup" usualTries then return true
    else
      scroll anchor (-200)
      seekBackup anchor tries

/-- What comes of the request, told by the element that a success shows. -/
def concludeBackup (success : String) (anchor : Point) : Play Unit := do
  if ← confirm cfg success usualTries then press cfg "ok"
  else
    setback .backupOnCooldown
    press cfg "cancel"
  scroll anchor 400

def requestBackup : Play Unit := do
  let anchor := (← get).anchor
  if ← seekBackup cfg anchor 5 then
    wait (.ofSeconds 1)
    match ← find cfg "cancel" usualTries with
    | some cancel => send (.click "request_backup_confirm" (← beside cancel ⟨200, 0⟩))
    | none => pure ()
    wait (.ofSeconds 1)
    concludeBackup cfg "request_backup_success" anchor
  else
    setback .backupFailed
    scroll anchor 400

/-- Asks by way of a social network. -/
def tweetBackup : Play Unit := do
  let anchor := (← get).anchor
  scroll anchor (-400)
  press cfg "request_backup"
  wait (.ofSeconds 1)
  press cfg "request_backup_tweet"
  press cfg "ok"
  wait (.ofSeconds 1)
  concludeBackup cfg "request_backup_tweet_success" anchor

end BattlePilot.Play
