import BattlePilot.Battle.Play

/-!
Healing items.
-/

namespace BattlePilot.Play

variable (cfg : Settings)

/-- Picks an item from the healing panel. Blue and support potions look alike, and the support
potion comes second. -/
def pickItem (item : Item) : Play Unit := do
  match item with
  | .bluePotion | .supportPotion =>
    let found ← lookAll Item.bluePotion.keyword
    match found[if item = .supportPotion then 1 else 0]? with
    | some position => send (.click item.keyword position)
    | none => return
  | _ => press cfg item.keyword

/-- Gives the item that was picked to those it is for. -/
def applyItem (item : Item) (target : Option UInt8) : Play Unit :=
  match item with
  | .greenPotion | .clarityHerb =>
    match target with
    | none => pure ()
    | some slot =>
      match cfg.layout.character? slot with
      | some offset => doubleClickSlot "character" slot offset
      | none => pure ()
  | .bluePotion => press cfg "use"
  | _ => press cfg "ok"

def useItem (item : Item) (target : Option UInt8) : Play Unit := do
  press cfg "heal"
  pickItem cfg item
  if ← waitVanish "tap_the_item_to_use" (.ofSeconds 5) then
    applyItem cfg item target
    wait (.ofSeconds 1)
    if ← confirm cfg "use_item" usualTries then
      setback (.itemRejected item)
      press cfg "cancel"
  else
    setback (.itemUnavailable item)
    press cfg "cancel"

end BattlePilot.Play
