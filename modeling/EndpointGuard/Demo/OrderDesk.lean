/-!
# The order desk

Orders are placed at the end of a list and cancelled by number. `place` numbers an order one higher
than the last one on the list.
-/

namespace EndpointGuard.Demo

/-- An order with its number, the item ordered and the user who placed it. -/
structure Order where
  id : Nat
  item : String
  owner : String
deriving DecidableEq

/-- The orders that have been placed and not cancelled, the latest last. -/
structure OrderDesk where
  orders : List Order := []
deriving DecidableEq

namespace OrderDesk

/-- The number of the next order. -/
def nextId (desk : OrderDesk) : Nat :=
  match desk.orders.getLast? with
  | some order => order.id + 1
  | none => 1

/-- The order that a placement adds. -/
def newOrder (desk : OrderDesk) (owner item : String) : Order where
  id := desk.nextId
  item := item
  owner := owner

/-- Place an order. -/
def place (desk : OrderDesk) (owner item : String) : Order × OrderDesk :=
  let order := desk.newOrder owner item
  (order, ⟨desk.orders ++ [order]⟩)

/-- Cancel the order with a number, and tell whether there was one. -/
def cancel (desk : OrderDesk) (id : Nat) : Bool × OrderDesk :=
  let kept := desk.orders.filter fun order ↦ order.id ≠ id
  (kept.length ≠ desk.orders.length, ⟨kept⟩)

/-- The number of orders. -/
def count (desk : OrderDesk) : Nat :=
  desk.orders.length

end OrderDesk

end EndpointGuard.Demo
